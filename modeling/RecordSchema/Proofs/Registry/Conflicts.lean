import RecordSchema.Proofs.Registry.Inheritance
import RecordSchema.Proofs.Registry.Recursion

namespace RecordSchema

/-!
# Conflicts of inherited properties

Of several inherited properties of one name the last one prevails.  Each of them is compared
with the one that it takes the place of, which is its neighbour among the properties of the
name.  A conflict of neighbours is logged, and nothing else is: two properties in conflict
that a third one stands between are not compared.
-/

open Hierarchy (IsParentsFirst)
open Relation (TransGen)
open Declarations (ofSets Inherits)

namespace Registry

/-- Among properties of one name two neighbours are in conflict, and the later one is kept. -/
def HasConflict
    (hierarchy : Hierarchy)
    (properties : List Property)
    (kept dropped : String) : Prop :=
  ∃ first second,
    [first, second] <:+: properties ∧ isAmbiguous hierarchy first second = true ∧
      kept = second.declaredOn ∧ dropped = first.declaredOn

theorem not_hasConflict_nil
    (hierarchy : Hierarchy)
    (kept dropped : String) :
    ¬HasConflict hierarchy [] kept dropped := by
  rintro ⟨first, second, neighbours, _⟩
  simpa using neighbours.length_le

theorem not_hasConflict_singleton
    (hierarchy : Hierarchy)
    (property : Property)
    (kept dropped : String) :
    ¬HasConflict hierarchy [property] kept dropped := by
  rintro ⟨first, second, neighbours, _⟩
  simpa using neighbours.length_le

/-- The first two properties are in conflict, or neighbours behind the first are. -/
theorem hasConflict_cons_cons_iff
    {hierarchy : Hierarchy}
    {first second : Property}
    {rest : List Property}
    {kept dropped : String} :
    HasConflict hierarchy (first :: second :: rest) kept dropped ↔
      (isAmbiguous hierarchy first second = true ∧
        kept = second.declaredOn ∧ dropped = first.declaredOn) ∨
      HasConflict hierarchy (second :: rest) kept dropped := by
  constructor
  · rintro ⟨earlier, later, neighbours, conflict⟩
    rcases List.infix_cons_iff.mp neighbours with atFirst | behind
    · simp only [List.cons_prefix_cons] at atFirst
      obtain ⟨rfl, rfl, _⟩ := atFirst
      exact .inl conflict
    · exact .inr ⟨earlier, later, behind, conflict⟩
  · rintro (conflict | ⟨earlier, later, behind, conflict⟩)
    · exact ⟨first, second, List.infix_cons_iff.mpr (.inl (by simp)), conflict⟩
    · exact ⟨earlier, later, List.infix_cons_iff.mpr (.inr behind), conflict⟩

section OneClass

variable
  {hierarchy : Hierarchy}
  {model : ClassModel}
  {className name kept dropped : String}

/-- One more property logs a conflict with the one that it takes the place of. -/
theorem mem_conflicts_add_iff
    {inherited : Inherited}
    {entry : String × Property} :
    .ambiguousInheritance className name kept dropped ∈
        (inherited.add hierarchy model entry).conflicts ↔
      .ambiguousInheritance className name kept dropped ∈ inherited.conflicts ∨
        className = model.name ∧ name = entry.1 ∧ model.own.contains name = false ∧
          ∃ existing,
            inherited.properties.get? name = some existing ∧
              isAmbiguous hierarchy existing entry.2 = true ∧
                kept = entry.2.declaredOn ∧ dropped = existing.declaredOn := by
  obtain ⟨key, property⟩ := entry
  simp only [Inherited.add]
  cases found : inherited.properties.get? key with
  | none =>
      refine ⟨.inl, ?_⟩
      rintro (earlier | ⟨_, rfl, _, existing, isExisting, _⟩)
      · exact earlier
      · cases found.symm.trans isExisting
  | some existing =>
      dsimp only
      split
      · rename_i conflict
        rw [Bool.and_eq_true, Bool.not_eq_true'] at conflict
        rw [List.mem_append, List.mem_singleton, Event.ambiguousInheritance.injEq]
        refine or_congr Iff.rfl ⟨?_, ?_⟩
        · rintro ⟨rfl, rfl, rfl, rfl⟩
          exact ⟨rfl, rfl, conflict.1, existing, found, conflict.2, rfl, rfl⟩
        · rintro ⟨rfl, rfl, _, other, isOther, _, rfl, rfl⟩
          cases found.symm.trans isOther
          exact ⟨rfl, rfl, rfl, rfl⟩
      · rename_i noConflict
        refine ⟨.inl, ?_⟩
        rintro (earlier | ⟨_, rfl, notOwn, other, isOther, ambiguous, _⟩)
        · exact earlier
        · cases found.symm.trans isOther
          exact absurd (by simp [notOwn, ambiguous]) noConflict

/-- Properties that are added one after the other log the conflicts of neighbours. -/
theorem mem_conflicts_foldl_add_iff
    {inherited : Inherited}
    {entries : List (String × Property)} :
    .ambiguousInheritance className name kept dropped ∈
        (entries.foldl (Inherited.add hierarchy model) inherited).conflicts ↔
      .ambiguousInheritance className name kept dropped ∈ inherited.conflicts ∨
        className = model.name ∧ model.own.contains name = false ∧
          HasConflict hierarchy
            ((inherited.properties.get? name).toList ++
              (entries.filter fun entry => entry.1 = name).map Prod.snd)
            kept dropped := by
  induction entries generalizing inherited with
  | nil =>
      have noConflict :
          ¬HasConflict hierarchy (inherited.properties.get? name).toList kept dropped := by
        cases inherited.properties.get? name with
        | none => exact not_hasConflict_nil hierarchy kept dropped
        | some property => exact not_hasConflict_singleton hierarchy property kept dropped
      simp [noConflict]
  | cons entry rest inductionHypothesis =>
      obtain ⟨key, property⟩ := entry
      have nowThere :
          (inherited.add hierarchy model (key, property)).properties =
            inherited.properties.insert key property :=
        rfl
      rw [List.foldl_cons, inductionHypothesis, mem_conflicts_add_iff, or_assoc, nowThere,
        SortedMap.get?_insert, List.filter_cons]
      refine or_congr Iff.rfl ?_
      by_cases atKey : name = key
      · subst atKey
        cases inherited.properties.get? name with
        | none =>
            simp
        | some existing =>
            simp only [if_true, decide_true, Option.toList_some, List.map_cons,
              List.cons_append, List.nil_append, hasConflict_cons_cons_iff, true_and,
              Option.some.injEq, exists_eq_left', ← and_or_left]
      · simp [atKey, Ne.symm atKey]

/-- A class logs the conflicts of neighbours among what its parents have under a name. -/
theorem mem_conflicts_inherit_iff
    {parents : Composition} :
    .ambiguousInheritance className name kept dropped ∈
        (inherit hierarchy model parents).conflicts ↔
      className = model.name ∧ model.own.contains name = false ∧
        HasConflict hierarchy (parents.filterMap fun parent => parent.get? name) kept dropped := by
  have valuesOf :
      ((parents.flatMap SortedMap.entries).filter fun entry => entry.1 = name).map Prod.snd =
        parents.filterMap fun parent => parent.get? name := by
    rw [List.filter_flatMap, List.map_flatMap, List.filterMap_eq_flatMap_toList]
    exact List.flatMap_congr fun parent _ => parent.map_filter_entries name
  rw [inherit, mem_conflicts_foldl_add_iff, valuesOf]
  simp

end OneClass

/-- The conflicts of a class whose parents have what a composition gives them. -/
def conflictsAt
    (hierarchy : Hierarchy)
    (models : List ClassModel)
    (composition : Composition)
    (id : Nat) : List Event :=
  match models[id]? with
  | none => []
  | some model =>
      (inherit hierarchy model ((hierarchy.parentsOf id).map (composedOf composition))).conflicts

theorem conflictsAt_congr
    {hierarchy : Hierarchy}
    {models : List ClassModel}
    {first second : Composition}
    {id : Nat}
    (sameParents :
      ∀ parent ∈ hierarchy.parentsOf id, composedOf first parent = composedOf second parent) :
    conflictsAt hierarchy models first id = conflictsAt hierarchy models second id := by
  rw [conflictsAt, conflictsAt, List.map_congr_left sameParents]

/-- One more class logs its conflicts behind those of the classes before it. -/
theorem conflicts_composeClass
    (hierarchy : Hierarchy)
    (models : List ClassModel)
    (state : Composition × List Event)
    (id : Nat) :
    (composeClass hierarchy models state id).2 =
      state.2 ++ conflictsAt hierarchy models state.1 id := by
  rw [composeClass, conflictsAt]
  cases models[id]? with
  | none => simp
  | some model => rfl

/-- One more class leaves what visited classes have. -/
theorem IsComposed.composedOf_composeClass
    {hierarchy : Hierarchy}
    {models : List ClassModel}
    {visited : List Nat}
    {state : Composition × List Event}
    (composed : IsComposed hierarchy models visited state.1)
    (id : Nat)
    {other : Nat}
    (member : other ∈ visited) :
    composedOf (composeClass hierarchy models state id).1 other = composedOf state.1 other := by
  rw [composeClass]
  cases found : models[id]? with
  | none => rfl
  | some model => exact composed.composedOf_set_of_visited found member

/-- Classes with parents first log what their parents have in the end. -/
theorem IsComposed.conflicts_foldl
    {hierarchy : Hierarchy}
    {models : List ClassModel}
    {before after : List Nat}
    {state : Composition × List Event}
    (composed : IsComposed hierarchy models before state.1)
    (logged : state.2 = before.flatMap (conflictsAt hierarchy models state.1))
    (parentsBefore :
      ∀ {earlier id later},
        before ++ after = earlier ++ id :: later →
        hierarchy.parentsOf id ⊆ earlier) :
    (after.foldl (composeClass hierarchy models) state).2 =
      (before ++ after).flatMap
        (conflictsAt hierarchy models (after.foldl (composeClass hierarchy models) state).1) := by
  induction after generalizing before state with
  | nil =>
      rw [List.append_nil]
      exact logged
  | cons id rest inductionHypothesis =>
      have parentsVisited : hierarchy.parentsOf id ⊆ before := parentsBefore rfl
      -- This class is none of those before it, so what their parents have is final.
      have stays :
          ∀ other, hierarchy.parentsOf other ⊆ before →
            conflictsAt hierarchy models state.1 other =
              conflictsAt hierarchy models (composeClass hierarchy models state id).1 other :=
        fun other included => conflictsAt_congr fun parent isParent =>
          (composed.composedOf_composeClass id (included isParent)).symm
      have nextLogged :
          (composeClass hierarchy models state id).2 =
            (before ++ [id]).flatMap
              (conflictsAt hierarchy models (composeClass hierarchy models state id).1) := by
        rw [conflicts_composeClass, logged, List.flatMap_append, List.flatMap_singleton,
          stays id parentsVisited,
          List.flatMap_congr fun other member => stays other (composed.closed other member)]
      rw [List.foldl_cons, List.append_cons]
      refine inductionHypothesis (composed.visit parentsVisited) nextLogged ?_
      intro earlier other later shape
      exact parentsBefore (by simpa using shape)

/-- What is logged on the way is what the classes log in the finished composition. -/
theorem conflicts_compose
    {hierarchy : Hierarchy}
    {models : List ClassModel}
    {ids order : List Nat}
    (parentsFirst : IsParentsFirst hierarchy.parentsOf ids order) :
    (compose hierarchy models order).2 =
      order.flatMap (conflictsAt hierarchy models (compose hierarchy models order).1) := by
  let initial : Composition × List Event := (models.map fun _ => .empty, [])
  have start : IsComposed hierarchy models [] initial.1 :=
    isComposed_initial hierarchy models
  exact start.conflicts_foldl rfl parentsFirst.parentsBefore

/--
Two properties of one name are in conflict when different classes declare them and neither
class inherits from the other.  Two ends of edges that nobody declares are not.
-/
structure InConflict
    (inherits : String → String → Prop)
    (first second : Property) : Prop where
  different : first.declaredOn ≠ second.declaredOn
  notBelow : ¬TransGen inherits first.declaredOn second.declaredOn
  notAbove : ¬TransGen inherits second.declaredOn first.declaredOn
  declared : ¬(first.synthesized = true ∧ second.synthesized = true)

/-- The properties of a name that classes have, in the order of the classes. -/
def propertiesOf (registry : Registry) (classNames : List String) (name : String) :
    List Property :=
  classNames.filterMap fun className =>
    (registry.get? className).bind fun model => model.effective.get? name

/-- Flags of indices make no conflict. -/
theorem hasConflict_map_unflagged_iff
    {hierarchy : Hierarchy}
    {properties : List Property}
    {kept dropped : String} :
    HasConflict hierarchy (properties.map Property.unflagged) kept dropped ↔
      HasConflict hierarchy properties kept dropped := by
  constructor
  · rintro ⟨first, second, neighbours, conflict⟩
    obtain ⟨bare, bareNeighbours, shape⟩ := List.infix_map_iff.mp neighbours
    obtain ⟨bareFirst, rest, rfl, rfl, rest'⟩ := List.map_eq_cons_iff.mp shape.symm
    obtain ⟨bareSecond, _, rfl, rfl, nothing⟩ := List.map_eq_cons_iff.mp rest'
    rw [List.map_eq_nil_iff.mp nothing] at bareNeighbours
    exact ⟨bareFirst, bareSecond, bareNeighbours, conflict⟩
  · rintro ⟨first, second, neighbours, conflict⟩
    exact ⟨_, _, neighbours.map Property.unflagged, conflict⟩

namespace IsLinked

variable
  {definitions : DefinitionSet}
  {base : Foundation}
  {registry : Registry}

theorem exists_id_of_declaredOn
    (linked : IsLinked definitions base registry)
    {className name : String}
    {model : ClassModel}
    (found : registry.get? className = some model)
    {property : Property}
    (has : model.effective.get? name = some property) :
    ∃ id, base.hierarchy.idOf? property.declaredOn = some id := by
  obtain ⟨id, _, foundAt, _⟩ := linked.exists_id_of_get? found
  obtain ⟨originId, origin, _, originFound, originName, _⟩ := linked.exists_origin foundAt has
  exact ⟨originId, originName ▸ (linked.get?_name originFound).1⟩

/-- The classes below a class are those that inherit from it by name. -/
theorem isDescendantOf_iff_transGen
    (linked : IsLinked definitions base registry)
    {first second : String} :
    registry.isDescendantOf first second = true ↔
      TransGen (Inherits definitions.declarations) first second := by
  have declares := linked.founded.declares
  constructor
  · intro descends
    have bothFound := descends
    rw [Registry.isDescendantOf, linked.hierarchy, Hierarchy.idOf?_freeze] at bothFound
    split at bothFound
    · rename_i firstId secondId firstFound secondFound
      exact (declares.descends_iff firstFound secondFound).mp
        ((linked.isDescendantOf_iff firstFound secondFound).mp descends)
    · cases bothFound
  · intro path
    obtain ⟨_, firstInherits, _⟩ := Relation.TransGen.head'_iff.mp path
    obtain ⟨_, _, secondInherits⟩ := Relation.TransGen.tail'_iff.mp path
    obtain ⟨_, _, firstFound, _⟩ := declares.inherits_found firstInherits
    obtain ⟨_, _, _, secondFound⟩ := declares.inherits_found secondInherits
    exact (linked.isDescendantOf_iff firstFound secondFound).mpr
      ((declares.descends_iff firstFound secondFound).mpr path)

/-- What is tested is whether the classes that declare the properties are unrelated. -/
theorem isAmbiguous_iff
    (linked : IsLinked definitions base registry)
    {first second : Property}
    {firstId secondId : Nat}
    (firstFound : base.hierarchy.idOf? first.declaredOn = some firstId)
    (secondFound : base.hierarchy.idOf? second.declaredOn = some secondId) :
    isAmbiguous base.hierarchy first second = true ↔
      InConflict (Inherits definitions.declarations) first second := by
  have declares := linked.founded.declares
  rw [isAmbiguous, firstFound, secondFound]
  dsimp only
  split
  · rename_i excluded
    simp only [Bool.or_eq_true, beq_iff_eq, Bool.and_eq_true] at excluded
    refine ⟨fun impossible => absurd impossible Bool.false_ne_true, fun conflict => ?_⟩
    exact absurd excluded (not_or.mpr ⟨conflict.different, conflict.declared⟩)
  · rename_i notExcluded
    simp only [Bool.or_eq_true, beq_iff_eq, Bool.and_eq_true, not_or] at notExcluded
    rw [Bool.and_eq_true, Bool.not_eq_true', Bool.not_eq_true', ← Bool.not_eq_true,
      ← Bool.not_eq_true, declares.isDescendantOf_iff firstFound secondFound,
      declares.isDescendantOf_iff secondFound firstFound]
    exact ⟨fun unrelated => ⟨notExcluded.1, unrelated.1, unrelated.2, notExcluded.2⟩,
      fun conflict => ⟨conflict.notBelow, conflict.notAbove⟩⟩

/-- The parents of a class have composed properties, with the flags of indices. -/
theorem map_unflagged_propertiesOf
    (linked : IsLinked definitions base registry)
    {id : Nat}
    {className : String}
    {definition : ClassDefinition}
    (entryFound : definitions.entries[id]? = some (className, definition))
    (name : String) :
    (registry.propertiesOf definition.inherits name).map Property.unflagged =
      ((base.hierarchy.parentsOf id).map (composedOf base.composition)).filterMap fun parent =>
        parent.get? name := by
  have mapped := congrArg (List.filterMap fun given => given) (linked.map_inherits entryFound name)
  rw [List.filterMap_map, List.filterMap_map] at mapped
  rw [propertiesOf, List.map_filterMap, List.filterMap_map]
  refine Eq.trans ?_ mapped
  exact List.filterMap_congr fun parent _ => Option.map_bind

/-- A class logs the conflicts of neighbours among what the parents that it names have. -/
theorem mem_conflictsAt_iff
    (linked : IsLinked definitions base registry)
    {id : Nat}
    {model : ClassModel}
    {definition : ClassDefinition}
    (found : registry.byId? id = some model)
    (declared : definitions.get? model.name = some definition)
    {className name kept dropped : String} :
    .ambiguousInheritance className name kept dropped ∈
        conflictsAt base.hierarchy base.models base.composition id ↔
      className = model.name ∧ model.own.contains name = false ∧
        ∃ first second,
          [first, second] <:+: registry.propertiesOf definition.inherits name ∧
            InConflict (Inherits definitions.declarations) first second ∧
              kept = second.declaredOn ∧ dropped = first.declaredOn := by
  obtain ⟨founded, foundedFound, flagged⟩ := linked.origin found
  have sameName : model.name = founded.name := flagged.name_eq
  obtain ⟨other, entryFound, _⟩ := linked.founded.exists_definition foundedFound
  have sameDefinition : definition = other :=
    Option.some.inj
      (declared.symm.trans (sameName ▸ Hierarchy.Declares.declared entryFound))
  subst sameDefinition
  have originOf :
      ∀ property ∈ registry.propertiesOf definition.inherits name,
        ∃ originId, base.hierarchy.idOf? property.declaredOn = some originId := by
    intro property member
    obtain ⟨parent, _, given⟩ := List.mem_filterMap.mp member
    obtain ⟨ancestor, ancestorFound, has⟩ := Option.bind_eq_some_iff.mp given
    exact linked.exists_id_of_declaredOn ancestorFound has
  have conflict :
      HasConflict base.hierarchy (registry.propertiesOf definition.inherits name) kept dropped ↔
        ∃ first second,
          [first, second] <:+: registry.propertiesOf definition.inherits name ∧
            InConflict (Inherits definitions.declarations) first second ∧
              kept = second.declaredOn ∧ dropped = first.declaredOn := by
    refine exists_congr fun first => exists_congr fun second =>
      and_congr_right fun neighbours => ?_
    obtain ⟨firstId, firstFound⟩ := originOf first (neighbours.subset (by simp))
    obtain ⟨secondId, secondFound⟩ := originOf second (neighbours.subset (by simp))
    rw [linked.isAmbiguous_iff firstFound secondFound]
  rw [conflictsAt, foundedFound]
  dsimp only
  rw [mem_conflicts_inherit_iff, ← linked.map_unflagged_propertiesOf entryFound,
    hasConflict_map_unflagged_iff, conflict, sameName, ← flagged.own.contains_eq]

end IsLinked

/-- The conflicts that are logged are those found when properties are composed. -/
theorem mem_events_compile_iff
    {sets : List DefinitionSet}
    {united : DefinitionSet}
    {base : Foundation}
    (unitedAccepted : DefinitionSet.unite .empty sets = .ok united)
    (baseAccepted : foundation united.withCarrier = .ok base)
    {className name kept dropped : String} :
    .ambiguousInheritance className name kept dropped ∈ (compile sets).events ↔
      .ambiguousInheritance className name kept dropped ∈
        (compose base.hierarchy base.models base.order).2 := by
  have otherLink :
      ∀ classes : List ClassModel,
        .ambiguousInheritance className name kept dropped ∉
          classes.map (linkedEvent base.hierarchy) := by
    intro classes
    simp [linkedEvent]
  simp only [compile, linkSets, unitedAccepted, link, baseAccepted]
  split <;> simp [otherLink]

/--
A conflict is logged of a class that does not declare the name itself, for each two
neighbours among what its parents have under the name that are in conflict, and no other.
-/
theorem conflict_logged_iff
    {sets : List DefinitionSet}
    {registry : Registry}
    (accepted : (compile sets).result = .ok registry)
    (className name kept dropped : String) :
    .ambiguousInheritance className name kept dropped ∈ (compile sets).events ↔
      ∃ model definition first second,
        registry.get? className = some model ∧ model.own.contains name = false ∧
          ofSets sets className definition ∧
            [first, second] <:+: registry.propertiesOf definition.inherits name ∧
              InConflict (Inherits (ofSets sets)) first second ∧
                kept = second.declaredOn ∧ dropped = first.declaredOn := by
  obtain ⟨united, base, unitedAccepted, linked⟩ := compile_ok accepted
  have sameDeclarations := DefinitionSet.declarations_of_unite unitedAccepted
  rw [mem_events_compile_iff unitedAccepted linked.foundation,
    conflicts_compose linked.founded.parentsFirst, List.mem_flatMap,
    ← DefinitionSet.inherits_withCarrier_eq unitedAccepted]
  constructor
  · rintro ⟨id, isVisited, logged⟩
    obtain ⟨model, found⟩ :=
      linked.exists_attached (List.getElem?_eq_getElem (linked.founded.mem_order_iff.mp isVisited))
    obtain ⟨completed, completedFound, _⟩ := linked.isRecursive found
    obtain ⟨rfl, notOwn, first, second, neighbours, conflict⟩ :=
      (linked.mem_conflictsAt_iff found completedFound).mp logged
    obtain ⟨definition, rfl, declared | ⟨_, _, rfl⟩⟩ :=
      DefinitionSet.get?_of_withCarrier completedFound
    · exact ⟨model, definition, first, second, (linked.get?_name found).2, notOwn,
        sameDeclarations ▸ declared, neighbours, conflict⟩
    · -- The carrier that nobody declares inherits nothing.
      simpa [propertiesOf] using neighbours.length_le
  · rintro ⟨model, definition, first, second, found, notOwn, declared, neighbours, conflict⟩
    obtain ⟨id, _, foundAt, rfl⟩ := linked.exists_id_of_get? found
    rw [← sameDeclarations] at declared
    have isVisited : id ∈ base.order := by
      obtain ⟨founded, foundedFound, _⟩ := linked.origin foundAt
      exact linked.founded.mem_order_iff.mpr (List.getElem?_eq_some_iff.mp foundedFound).1
    exact ⟨id, isVisited,
      (linked.mem_conflictsAt_iff foundAt (DefinitionSet.withCarrier_of_get? declared)).mpr
        ⟨rfl, notOwn, first, second, neighbours, conflict⟩⟩

/-- Two classes that declare the name of a common parent anew, with a child of the two and a
child that names the common parent between them. -/
def siblings : List DefinitionSet :=
  [.ofList
    [("Root", { properties := [.ofType .string "code" none] }),
      ("Left", { inherits := ["Root"], properties := [.ofType .integer "code" none] }),
      ("Right", { inherits := ["Root"], properties := [.ofType .boolean "code" none] }),
      ("Pair", { inherits := ["Left", "Right"] }),
      ("Child", { inherits := ["Left", "Root", "Right"] })]]

/-- The child of the two has a conflict logged, and no other class has one. -/
private theorem siblings_logged :
    ((compile siblings).events.filterMap fun
      | .ambiguousInheritance className name kept dropped => some (className, name, kept, dropped)
      | _ => none) =
      [("Pair", "code", "Right", "Left")] := by
  decide +kernel

private theorem siblings_observed :
    ((compile siblings).result.toOption.bind fun registry =>
      (registry.get? "Child").map fun child =>
        (child.own.contains "code",
          (registry.propertiesOf ["Left", "Root", "Right"] "code").map fun property =>
            (property.declaredOn, property.synthesized),
          registry.isDescendantOf "Left" "Right", registry.isDescendantOf "Right" "Left")) =
      some (false, [("Left", false), ("Root", false), ("Right", false)], false, false) := by
  decide +kernel

/-- The conflict that is logged is one of the two properties that the child has from its parents. -/
theorem conflict_logged_iff_siblings :
    ∃ registry model definition first second,
      (compile siblings).result = .ok registry ∧
        .ambiguousInheritance "Pair" "code" "Right" "Left" ∈ (compile siblings).events ∧
          registry.get? "Pair" = some model ∧ ofSets siblings "Pair" definition ∧
            [first, second] <:+: registry.propertiesOf definition.inherits "code" ∧
              InConflict (Inherits (ofSets siblings)) first second := by
  have logged :
      .ambiguousInheritance "Pair" "code" "Right" "Left" ∈ (compile siblings).events := by
    have member : ("Pair", "code", "Right", "Left") ∈ [("Pair", "code", "Right", "Left")] :=
      List.mem_singleton_self _
    rw [← siblings_logged, List.mem_filterMap] at member
    obtain ⟨event, isLogged, shape⟩ := member
    split at shape
    · cases shape
      exact isLogged
    · cases shape
  have observed := siblings_observed
  simp only [Option.bind_eq_some_iff, Option.map_eq_some_iff] at observed
  obtain ⟨registry, accepted, _⟩ := observed
  have accepted := ok_of_toOption accepted
  obtain ⟨model, definition, first, second, found, _, declared, neighbours, inConflict, _⟩ :=
    (conflict_logged_iff accepted _ _ _ _).mp logged
  exact ⟨registry, model, definition, first, second, accepted, logged, found, declared, neighbours,
    inConflict⟩

/-- Two parents are in conflict, and nothing is logged of the child that names a third between. -/
theorem not_forall_conflict_logged :
    ¬∀ sets registry,
      (compile sets).result = .ok registry →
      ∀ className model definition name first second,
        registry.get? className = some model →
        ofSets sets className definition →
        model.own.contains name = false →
        first ∈ registry.propertiesOf definition.inherits name →
        second ∈ registry.propertiesOf definition.inherits name →
        InConflict (Inherits (ofSets sets)) first second →
        ∃ kept dropped,
          .ambiguousInheritance className name kept dropped ∈ (compile sets).events := by
  intro alwaysLogged
  have observed := siblings_observed
  simp only [Option.bind_eq_some_iff, Option.map_eq_some_iff, Prod.mk.injEq] at observed
  obtain ⟨registry, accepted, child, found, notOwn, given, notBelow, notAbove⟩ := observed
  have accepted := ok_of_toOption accepted
  have fromLeft : ("Left", false) ∈ [("Left", false), ("Root", false), ("Right", false)] := by
    simp
  have fromRight : ("Right", false) ∈ [("Left", false), ("Root", false), ("Right", false)] := by
    simp
  rw [← given, List.mem_map] at fromLeft fromRight
  obtain ⟨left, leftMember, leftShape⟩ := fromLeft
  obtain ⟨right, rightMember, rightShape⟩ := fromRight
  obtain ⟨leftName, notSynthesized⟩ := Prod.mk.inj leftShape
  obtain ⟨rightName, _⟩ := Prod.mk.inj rightShape
  have inConflict : InConflict (Inherits (ofSets siblings)) left right := by
    obtain ⟨united, base, unitedAccepted, linked⟩ := compile_ok accepted
    rw [← DefinitionSet.inherits_withCarrier_eq unitedAccepted]
    constructor
    · rw [leftName, rightName]
      decide
    · rw [leftName, rightName, ← linked.isDescendantOf_iff_transGen, notBelow]
      exact Bool.false_ne_true
    · rw [leftName, rightName, ← linked.isDescendantOf_iff_transGen, notAbove]
      exact Bool.false_ne_true
    · simp [notSynthesized]
  obtain ⟨kept, dropped, logged⟩ :=
    alwaysLogged siblings registry accepted "Child" child
      { inherits := ["Left", "Root", "Right"] } "code" left right found
      ⟨_, List.mem_cons_self, by with_unfolding_all rfl⟩ notOwn leftMember rightMember inConflict
  have member : ("Child", "code", kept, dropped) ∈ [("Pair", "code", "Right", "Left")] := by
    rw [← siblings_logged, List.mem_filterMap]
    exact ⟨_, logged, rfl⟩
  simp at member

end Registry

end RecordSchema
