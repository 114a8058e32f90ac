import RecordSchema.Proofs.Hierarchy.Order
import RecordSchema.Proofs.SortedMap
import RecordSchema.Registry.Linking

namespace RecordSchema

/-!
# Composed properties

The composition of a class is what it declares itself, then what the last of its
parents to have a property gives it, then the ends of an edge.  As every parent is
composed before its children, no class changes after another has read it.  So the
classes satisfy these equations all at once, and only one composition does.
-/

open Hierarchy (IsParentsFirst)

namespace Registry

/-- The effective properties of a class whose parents have given ones. -/
def effectiveFrom
    (hierarchy : Hierarchy)
    (model : ClassModel)
    (parents : Composition) : SortedMap Property :=
  withEndpoints model (override model (inherit hierarchy model parents).properties)

/-- Conflicts do not change what is inherited. -/
theorem properties_foldl_add
    (hierarchy : Hierarchy)
    (model : ClassModel)
    (inherited : Inherited)
    (entries : List (String × Property)) :
    (entries.foldl (Inherited.add hierarchy model) inherited).properties =
      entries.foldl (fun map entry => map.insert entry.1 entry.2) inherited.properties := by
  induction entries generalizing inherited with
  | nil =>
      rfl
  | cons first rest inductionHypothesis =>
      rw [List.foldl_cons, List.foldl_cons, inductionHypothesis]
      rfl

/-- Of the maps inserted one after the other the last with a key counts. -/
theorem get?_foldl_insertAll
    (map : SortedMap Property)
    (parents : Composition)
    (name : String) :
    (parents.foldl
      (fun map parent =>
        parent.entries.foldl (fun map entry => map.insert entry.1 entry.2) map) map).get? name =
      (parents.reverse.findSome? fun parent => parent.get? name).or (map.get? name) := by
  induction parents generalizing map with
  | nil =>
      simp
  | cons first rest inductionHypothesis =>
      rw [List.foldl_cons, inductionHypothesis, SortedMap.get?_insertAll, List.reverse_cons,
        List.findSome?_append, Option.or_assoc]
      simp

theorem get?_inherit
    (hierarchy : Hierarchy)
    (model : ClassModel)
    (parents : Composition)
    (name : String) :
    (inherit hierarchy model parents).properties.get? name =
      parents.reverse.findSome? fun parent => parent.get? name := by
  rw [inherit, properties_foldl_add, List.foldl_flatMap, get?_foldl_insertAll]
  simp

theorem get?_override
    (model : ClassModel)
    (inherited : SortedMap Property)
    (name : String) :
    (override model inherited).get? name = (model.own.get? name).or (inherited.get? name) :=
  SortedMap.get?_insertAll inherited model.own name

/-- The ends of an edge stand where it has no other property of their names. -/
theorem get?_withEndpoints
    (model : ClassModel)
    (properties : SortedMap Property)
    (name : String) :
    (withEndpoints model properties).get? name =
      (properties.get? name).or
        (if model.isEdge = true ∧ name ∈ endpointNames then
          some (.endpoint model.name name)
        else
          none) := by
  have oneEnd :
      ∀ (completed : SortedMap Property) (endName : String),
        (if completed.contains endName then
            completed
          else
            completed.insert endName (.endpoint model.name endName)).get? name =
          (completed.get? name).or
            (if name = endName then some (.endpoint model.name name) else none) := by
    intro completed endName
    by_cases present : completed.contains endName = true
    · rw [if_pos present]
      by_cases atEnd : name = endName
      · obtain ⟨value, found⟩ := SortedMap.contains_iff.mp present
        simp [atEnd, found]
      · simp [atEnd]
    · rw [if_neg present, SortedMap.get?_insert]
      by_cases atEnd : name = endName
      · have absent : completed.get? endName = none :=
          SortedMap.contains_eq_false_iff.mp (by simpa using present)
        simp [atEnd, absent]
      · simp [atEnd]
  rw [withEndpoints]
  by_cases isEdge : model.isEdge = true
  · rw [if_pos isEdge]
    simp only [endpointNames, List.foldl_cons, List.foldl_nil, oneEnd, Option.or_assoc, isEdge,
      true_and, List.mem_cons, List.not_mem_nil, or_false]
    by_cases atOut : name = "out" <;> by_cases atIn : name = "in" <;> simp_all
  · rw [if_neg isEdge]
    simp [isEdge]

/-- A class has its own property of a name, else the last inherited one, else the end of an edge. -/
theorem get?_effectiveFrom
    (hierarchy : Hierarchy)
    (model : ClassModel)
    (parents : Composition)
    (name : String) :
    (effectiveFrom hierarchy model parents).get? name =
      ((model.own.get? name).or
        (parents.reverse.findSome? fun parent => parent.get? name)).or
          (if model.isEdge = true ∧ name ∈ endpointNames then
            some (.endpoint model.name name)
          else
            none) := by
  rw [effectiveFrom, get?_withEndpoints, get?_override, get?_inherit]

/--
A composition in which the visited classes have what they declare and inherit.  They
are closed under parents, and the other classes have nothing yet.
-/
structure IsComposed
    (hierarchy : Hierarchy)
    (models : List ClassModel)
    (visited : List Nat)
    (composition : Composition) : Prop where
  length_eq : composition.length = models.length
  closed : ∀ id ∈ visited, hierarchy.parentsOf id ⊆ visited
  effective :
    ∀ id ∈ visited,
      ∀ model,
        models[id]? = some model →
        composedOf composition id =
          effectiveFrom hierarchy model ((hierarchy.parentsOf id).map (composedOf composition))
  unvisited : ∀ id, id ∉ visited → composedOf composition id = .empty

theorem isComposed_initial
    (hierarchy : Hierarchy)
    (models : List ClassModel) :
    IsComposed hierarchy models [] (models.map fun _ => .empty) where
  length_eq := List.length_map _
  closed := by simp
  effective := by simp
  unvisited id _ := by
    rw [composedOf, List.getElem?_map]
    cases models[id]? <;> rfl

theorem composedOf_set
    (composition : Composition)
    {id : Nat}
    (inRange : id < composition.length)
    (effective : SortedMap Property)
    (other : Nat) :
    composedOf (composition.set id effective) other =
      if other = id then effective else composedOf composition other := by
  rw [composedOf, List.getElem?_set]
  by_cases atId : other = id
  · simp [atId, inRange]
  · simp [atId, Ne.symm atId, composedOf]

theorem composedOf_eq_empty
    {composition : Composition}
    {id : Nat}
    (outOfRange : composition.length ≤ id) :
    composedOf composition id = .empty := by
  rw [composedOf, List.getElem?_eq_none outOfRange]
  rfl

namespace IsComposed

variable
  {hierarchy : Hierarchy}
  {models : List ClassModel}
  {visited : List Nat}
  {composition : Composition}
  {id : Nat}

theorem closed_append
    (composed : IsComposed hierarchy models visited composition)
    (parentsVisited : hierarchy.parentsOf id ⊆ visited) :
    ∀ other ∈ visited ++ [id], hierarchy.parentsOf other ⊆ visited ++ [id] := by
  intro other member
  refine List.Subset.trans ?_ (List.subset_append_left _ _)
  rcases List.mem_append.mp member with earlier | atId
  · exact composed.closed other earlier
  · exact List.mem_singleton.mp atId ▸ parentsVisited

/-- A number without a class leaves the composition as it is. -/
theorem skip
    (composed : IsComposed hierarchy models visited composition)
    (parentsVisited : hierarchy.parentsOf id ⊆ visited)
    (missing : models[id]? = none) :
    IsComposed hierarchy models (visited ++ [id]) composition where
  length_eq := composed.length_eq
  closed := composed.closed_append parentsVisited
  effective other member model found := by
    rcases List.mem_append.mp member with earlier | atId
    · exact composed.effective other earlier model found
    · rw [List.mem_singleton.mp atId, missing] at found
      cases found
  unvisited other absent :=
    composed.unvisited other fun earlier => absent (List.mem_append_left _ earlier)

/-- Nothing changes for visited classes when a class gets what it declares and inherits. -/
theorem composedOf_set_of_visited
    (composed : IsComposed hierarchy models visited composition)
    {model : ClassModel}
    (found : models[id]? = some model)
    {other : Nat}
    (member : other ∈ visited) :
    composedOf
        (composition.set id
          (effectiveFrom hierarchy model
            ((hierarchy.parentsOf id).map (composedOf composition))))
        other =
      composedOf composition other := by
  have inRange : id < composition.length := by
    rw [composed.length_eq]
    exact (List.getElem?_eq_some_iff.mp found).1
  rw [composedOf_set _ inRange]
  split
  · -- A class that is visited again gets what it has already.
    rename_i atId
    subst atId
    exact (composed.effective other member model found).symm
  · rfl

/-- A class gets what it declares and inherits, and no visited class loses what it has. -/
theorem set
    (composed : IsComposed hierarchy models visited composition)
    (parentsVisited : hierarchy.parentsOf id ⊆ visited)
    {model : ClassModel}
    (found : models[id]? = some model) :
    IsComposed hierarchy models (visited ++ [id])
      (composition.set id
        (effectiveFrom hierarchy model
          ((hierarchy.parentsOf id).map (composedOf composition)))) := by
  let effective :=
    effectiveFrom hierarchy model ((hierarchy.parentsOf id).map (composedOf composition))
  have inRange : id < composition.length := by
    rw [composed.length_eq]
    exact (List.getElem?_eq_some_iff.mp found).1
  have stays :
      ∀ other ∈ visited,
        composedOf (composition.set id effective) other = composedOf composition other :=
    fun _ member => composed.composedOf_set_of_visited found member
  have sameParents :
      ∀ other, hierarchy.parentsOf other ⊆ visited →
        (hierarchy.parentsOf other).map (composedOf (composition.set id effective)) =
          (hierarchy.parentsOf other).map (composedOf composition) :=
    fun other included => List.map_congr_left fun parent isParent => stays parent (included isParent)
  refine ⟨by rw [List.length_set, composed.length_eq], composed.closed_append parentsVisited,
    ?_, ?_⟩
  · intro other member otherModel otherFound
    rcases List.mem_append.mp member with earlier | atId
    · rw [stays other earlier, sameParents other (composed.closed other earlier)]
      exact composed.effective other earlier otherModel otherFound
    · obtain rfl := List.mem_singleton.mp atId
      rw [found] at otherFound
      cases otherFound
      rw [sameParents other parentsVisited, composedOf_set _ inRange, if_pos rfl]
  · intro other absent
    have notId : other ≠ id := by
      rintro rfl
      exact absent (by simp)
    rw [composedOf_set _ inRange, if_neg notId]
    exact composed.unvisited other fun earlier => absent (List.mem_append_left _ earlier)

/-- One more class is composed when its parents have been visited. -/
theorem visit
    {state : Composition × List Event}
    (composed : IsComposed hierarchy models visited state.1)
    (parentsVisited : hierarchy.parentsOf id ⊆ visited) :
    IsComposed hierarchy models (visited ++ [id]) (composeClass hierarchy models state id).1 := by
  cases found : models[id]? with
  | none =>
      rw [composeClass, found]
      exact composed.skip parentsVisited found
  | some model =>
      rw [composeClass, found]
      exact composed.set parentsVisited found

end IsComposed

/-- Classes are composed one after the other as long as parents stand first. -/
theorem IsComposed.foldl
    {hierarchy : Hierarchy}
    {models : List ClassModel}
    {before after : List Nat}
    {state : Composition × List Event}
    (composed : IsComposed hierarchy models before state.1)
    (parentsBefore :
      ∀ {earlier id later},
        before ++ after = earlier ++ id :: later →
        hierarchy.parentsOf id ⊆ earlier) :
    IsComposed hierarchy models (before ++ after)
      (after.foldl (composeClass hierarchy models) state).1 := by
  induction after generalizing before state with
  | nil =>
      rw [List.append_nil]
      exact composed
  | cons id rest inductionHypothesis =>
      rw [List.foldl_cons, List.append_cons]
      refine inductionHypothesis (composed.visit (parentsBefore rfl)) ?_
      intro earlier other later shape
      exact parentsBefore (by simpa using shape)

/-- Classes in an order with parents first are composed. -/
theorem isComposed_compose
    {hierarchy : Hierarchy}
    {models : List ClassModel}
    {ids order : List Nat}
    (parentsFirst : IsParentsFirst hierarchy.parentsOf ids order) :
    IsComposed hierarchy models order (compose hierarchy models order).1 := by
  let initial : Composition × List Event := (models.map fun _ => .empty, [])
  have start : IsComposed hierarchy models [] initial.1 :=
    isComposed_initial hierarchy models
  exact start.foldl parentsFirst.parentsBefore

/-- There is only one composition of classes that can be ordered with parents first. -/
theorem IsComposed.unique
    {hierarchy : Hierarchy}
    {models : List ClassModel}
    {ids order other : List Nat}
    {first second : Composition}
    (parentsFirst : IsParentsFirst hierarchy.parentsOf ids order)
    (sameClasses : ∀ id, id ∈ order ↔ id ∈ other)
    (firstComposed : IsComposed hierarchy models order first)
    (secondComposed : IsComposed hierarchy models other second) :
    first = second := by
  have sameLength : first.length = second.length :=
    firstComposed.length_eq.trans secondComposed.length_eq.symm
  have visited : ∀ id ∈ order, composedOf first id = composedOf second id := by
    refine parentsFirst.induction fun id member sameParents => ?_
    cases found : models[id]? with
    | none =>
        have outOfRange := List.getElem?_eq_none_iff.mp found
        rw [composedOf_eq_empty (firstComposed.length_eq ▸ outOfRange),
          composedOf_eq_empty (secondComposed.length_eq ▸ outOfRange)]
    | some model =>
        rw [firstComposed.effective id member model found,
          secondComposed.effective id ((sameClasses id).mp member) model found,
          List.map_congr_left sameParents]
  have everywhere : ∀ id, composedOf first id = composedOf second id := by
    intro id
    by_cases member : id ∈ order
    · exact visited id member
    · rw [firstComposed.unvisited id member,
        secondComposed.unvisited id (fun inOther => member ((sameClasses id).mpr inOther))]
  refine List.ext_getElem sameLength fun id inFirst inSecond => ?_
  have atId := everywhere id
  rwa [composedOf, composedOf, List.getElem?_eq_getElem inFirst,
    List.getElem?_eq_getElem inSecond] at atId

end Registry

end RecordSchema
