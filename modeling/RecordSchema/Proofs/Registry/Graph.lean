import RecordSchema.Proofs.Registry.ClosedLinks

namespace RecordSchema

/-!
# The graph of a registry

The classes of a compiled registry stand in the order of their names, each at its number.
The parents of a class are those that its definition names, and the children are the same
edges seen from the other end.  No class is its own ancestor, every number that is kept is
one of a class, and every class is linked for good.
-/

open Declarations (ofSets)

namespace Registry

/-- The numbers of classes that a registry keeps. -/
inductive Keeps (registry : Registry) : Nat → Prop where
  | named
      {name : String}
      {id : Nat} :
      registry.hierarchy.idOf? name = some id →
      Keeps registry id
  | own
      {model : ClassModel} :
      model ∈ registry.classes →
      Keeps registry model.id
  | parent
      {child id : Nat} :
      id ∈ registry.hierarchy.parentsOf child →
      Keeps registry id
  | child
      {parent id : Nat} :
      id ∈ registry.hierarchy.childrenOf parent →
      Keeps registry id
  | linked
      {model : ClassModel}
      {name : String}
      {property : Property}
      {id : Nat} :
      model ∈ registry.classes →
      model.own.get? name = some property ∨ model.effective.get? name = some property →
      property.linkedClass.bind LinkedClass.id? = some id →
      Keeps registry id

/-- A registry whose names, numbers, parents and children agree with each other. -/
structure IsConsistent (declares : Declarations) (registry : Registry) : Prop where
  names : registry.names.Pairwise (· < ·)
  nodes : registry.hierarchy.names = registry.names
  isPlaced :
    ∀ id model,
      registry.byId? id = some model →
      model.id = id ∧ registry.get? model.name = some model
  parents_nodup : ∀ model ∈ registry.classes, (registry.parents model).Nodup
  parentNames :
    ∀ model ∈ registry.classes,
      ∀ definition,
        declares model.name definition → registry.parentNames model = definition.inherits
  orphan :
    ∀ model ∈ registry.classes,
      (∀ definition, ¬declares model.name definition) → registry.parents model = []
  mem_children_iff :
    ∀ parent ∈ registry.classes,
      ∀ child ∈ registry.classes,
        child.id ∈ registry.children parent ↔ parent.id ∈ registry.parents child
  children_nodup : ∀ model ∈ registry.classes, (registry.children model).Nodup
  children_ordered :
    ∀ model ∈ registry.classes, (registry.namesOf (registry.children model)).Pairwise (· < ·)
  acyclic :
    ∀ model ∈ registry.classes,
      model.id ∉ registry.hierarchy.ancestors model.id ∧
        ¬registry.hierarchy.Descends model.id model.id
  inRange : ∀ id, Keeps registry id → id < registry.size
  isFrozen : ∀ model ∈ registry.classes, registry.hierarchy.isFrozen model.id = true

namespace IsLinked

variable
  {definitions : DefinitionSet}
  {base : Foundation}
  {registry : Registry}

theorem hierarchyNames_eq
    (linked : IsLinked definitions base registry) :
    registry.hierarchy.names = registry.names := by
  rw [linked.hierarchy, Hierarchy.names_freeze, linked.founded.declares.names, linked.names_eq]

theorem size_eq
    (linked : IsLinked definitions base registry) :
    registry.size = base.hierarchy.size := by
  rw [← Hierarchy.length_names, linked.founded.declares.names, ← linked.names_eq, names,
    List.length_map, size]

/-- A class stands at its number. -/
theorem id_eq
    (linked : IsLinked definitions base registry)
    {id : Nat}
    {model : ClassModel}
    (found : registry.byId? id = some model) :
    model.id = id := by
  obtain ⟨founded, foundedFound, flagged⟩ := linked.origin found
  obtain ⟨_, _, isFounded⟩ := linked.founded.exists_definition foundedFound
  exact flagged.id_eq.trans isFounded.id

theorem byId?_of_mem
    (linked : IsLinked definitions base registry)
    {model : ClassModel}
    (member : model ∈ registry.classes) :
    registry.byId? model.id = some model := by
  obtain ⟨id, found⟩ := List.mem_iff_getElem?.mp member
  rw [linked.id_eq found]
  exact found

/-- Classes are numbered in the order of their names. -/
theorem name_lt
    (linked : IsLinked definitions base registry)
    {firstId secondId : Nat}
    {first second : ClassModel}
    (less : firstId < secondId)
    (firstFound : registry.byId? firstId = some first)
    (secondFound : registry.byId? secondId = some second) :
    first.name < second.name := by
  have ordered : registry.names.Pairwise (· < ·) :=
    linked.names_eq ▸ definitions.keys_pairwise
  rw [names, List.pairwise_map, List.pairwise_iff_getElem] at ordered
  obtain ⟨firstInRange, rfl⟩ := List.getElem?_eq_some_iff.mp firstFound
  obtain ⟨secondInRange, rfl⟩ := List.getElem?_eq_some_iff.mp secondFound
  exact ordered firstId secondId firstInRange secondInRange less

/-- The numbers under which names are found are those of classes with these names. -/
theorem namesOf_eq
    (linked : IsLinked definitions base registry)
    {classNames : List String}
    {ids : List Nat}
    (lookups : classNames.map base.hierarchy.idOf? = ids.map some) :
    registry.namesOf ids = classNames := by
  induction ids generalizing classNames with
  | nil =>
      rw [List.map_nil, List.map_eq_nil_iff] at lookups
      rw [lookups]
      rfl
  | cons id rest inductionHypothesis =>
      rw [List.map_cons] at lookups
      obtain ⟨className, others, rfl, found, restLookups⟩ := List.map_eq_cons_iff.mp lookups
      obtain ⟨definition, entryFound⟩ := linked.founded.declares.idOf?_iff.mp found
      obtain ⟨founded, foundedFound, _⟩ := linked.founded.models _ _ _ entryFound
      obtain ⟨model, modelFound⟩ := linked.exists_attached foundedFound
      have named : registry.get? className = some model := by
        rw [linked.get?_eq, found, Option.bind_some, modelFound]
      obtain ⟨_, _, _, sameName⟩ := linked.exists_id_of_get? named
      rw [namesOf, List.filterMap_cons_some modelFound, List.map_cons, sameName]
      exact congrArg (className :: ·) (inductionHypothesis restLookups)

/-- The parents of a class are found under the names in its completed definition. -/
theorem map_inherits_idOf?
    (linked : IsLinked definitions base registry)
    {model : ClassModel}
    (member : model ∈ registry.classes)
    {definition : ClassDefinition}
    (declared : definitions.get? model.name = some definition) :
    definition.inherits.map base.hierarchy.idOf? = (registry.parents model).map some := by
  have found := linked.byId?_of_mem member
  obtain ⟨id, idFound, entryFound⟩ := linked.founded.declares.exists_id declared
  obtain rfl : model.id = id :=
    Option.some.inj ((linked.get?_name found).1.symm.trans idFound)
  rw [parents, linked.hierarchy, Hierarchy.parentsOf_freeze]
  exact linked.founded.declares.parents_eq entryFound

/-- The children of a class stand in the order of their names. -/
theorem children_ordered
    (linked : IsLinked definitions base registry)
    (model : ClassModel) :
    (registry.namesOf (registry.children model)).Pairwise (· < ·) := by
  have ordered : (registry.children model).Pairwise (· < ·) := by
    rw [children, linked.hierarchy, Hierarchy.childrenOf_freeze, linked.founded.declares.childrenOf]
    exact List.Pairwise.filter _ List.pairwise_lt_range
  rw [namesOf, List.pairwise_map, List.pairwise_filterMap]
  exact ordered.imp fun less _ firstFound _ secondFound =>
    linked.name_lt less firstFound secondFound

/-- Every number that a registry keeps is one of a class. -/
theorem lt_size_of_keeps
    (linked : IsLinked definitions base registry)
    {id : Nat}
    (keeps : Keeps registry id) :
    id < registry.size := by
  have declares := linked.founded.declares
  cases keeps with
  | named found =>
      rw [linked.hierarchy, Hierarchy.idOf?_freeze] at found
      rw [linked.size_eq]
      exact Hierarchy.lt_size_of_idOf? declares.names_nodup found
  | own member =>
      exact (List.getElem?_eq_some_iff.mp (linked.byId?_of_mem member)).1
  | parent isParent =>
      rw [linked.hierarchy, Hierarchy.parentsOf_freeze] at isParent
      rw [linked.size_eq]
      exact Hierarchy.mem_ids_iff.mp (declares.parents_closed _ isParent)
  | child isChild =>
      rw [linked.hierarchy, Hierarchy.childrenOf_freeze] at isChild
      rw [linked.size_eq]
      exact Hierarchy.mem_ids_iff.mp (declares.children_closed _ isChild)
  | linked member has isLink =>
      have found := linked.byId?_of_mem member
      rcases has with own | effective
      · exact (linked.isClosed_own found own).2.link.lt_size isLink
      · exact (linked.isClosed_effective found effective).link.lt_size isLink

end IsLinked

/-- In a compiled registry names, numbers, parents and children agree with each other. -/
theorem graph_consistent
    {sets : List DefinitionSet}
    {registry : Registry}
    (accepted : (compile sets).result = .ok registry) :
    IsConsistent (ofSets sets) registry := by
  obtain ⟨united, base, unitedAccepted, linked⟩ := compile_ok accepted
  have declares := linked.founded.declares
  have parentsOf : registry.hierarchy.parentsOf = base.hierarchy.parentsOf := by
    rw [linked.hierarchy, Hierarchy.parentsOf_freeze]
  have childrenOf : registry.hierarchy.childrenOf = base.hierarchy.childrenOf := by
    rw [linked.hierarchy, Hierarchy.childrenOf_freeze]
  have sameDeclarations := DefinitionSet.declarations_of_unite unitedAccepted
  have inRange {model : ClassModel} (member : model ∈ registry.classes) :
      model.id < base.hierarchy.size :=
    linked.size_eq ▸ linked.lt_size_of_keeps (.own member)
  refine
    { names := linked.names_eq ▸ united.withCarrier.keys_pairwise
      nodes := linked.hierarchyNames_eq
      isPlaced := fun id model found => ⟨linked.id_eq found, (linked.get?_name found).2⟩
      parents_nodup := fun model _ => ?_
      parentNames := fun model member definition declared => ?_
      orphan := fun model member undeclared => ?_
      mem_children_iff := fun parent _ child _ => ?_
      children_nodup := fun model _ => ?_
      children_ordered := fun model _ => linked.children_ordered model
      acyclic := fun model member => ?_
      inRange := fun id keeps => linked.lt_size_of_keeps keeps
      isFrozen := fun model member => ?_ }
  · rw [parents, parentsOf]
    exact declares.parents_nodup model.id
  · rw [← sameDeclarations] at declared
    have lookups := linked.map_inherits_idOf? member (DefinitionSet.withCarrier_of_get? declared)
    exact linked.namesOf_eq lookups
  · obtain ⟨completed, completedFound, _⟩ := linked.isRecursive (linked.byId?_of_mem member)
    obtain ⟨definition, rfl, declared | ⟨_, _, rfl⟩⟩ :=
      DefinitionSet.get?_of_withCarrier completedFound
    · exact absurd (sameDeclarations ▸ declared) (undeclared definition)
    · -- The carrier that nobody declares inherits nothing.
      exact List.map_eq_nil_iff.mp (linked.map_inherits_idOf? member completedFound).symm
  · rw [children, parents, childrenOf, parentsOf]
    exact declares.mem_childrenOf_iff
  · rw [children, childrenOf, declares.childrenOf]
    exact List.nodup_range.filter _
  · rw [Hierarchy.mem_ancestors_iff linked.parents_closed, and_self, linked.descends_eq]
    exact linked.founded.parentsFirst.not_descends_self
      (Hierarchy.mem_ids_iff.mpr (inRange member))
  · rw [linked.hierarchy]
    exact Hierarchy.isFrozen_freeze (inRange member)

/-- A class that names its two parents against the order of their names, in a set of its own,
and the class that both of them inherit from. -/
def crossing : List DefinitionSet :=
  [.ofList [("Apex", { inherits := ["Right", "Left"] })],
    .ofList
      [("Right", { inherits := ["Zero"] }), ("Left", { inherits := ["Zero"] }), ("Zero", {})]]

private theorem crossing_observed :
    ((compile crossing).result.toOption.bind fun registry =>
      (registry.get? "Apex").bind fun apex =>
        (registry.get? "Zero").map fun zero =>
          (registry.names, registry.parentNames apex, registry.namesOf (registry.children zero))) =
      some (["Apex", "Left", "Permissions", "Right", "Zero"], ["Right", "Left"],
        ["Left", "Right"]) := by
  decide +kernel

/-- The parents stand as they are named, and the children in the order of their names. -/
theorem graph_consistent_crossing :
    ∃ registry apex zero,
      (compile crossing).result = .ok registry ∧
        registry.get? "Apex" = some apex ∧ registry.parentNames apex = ["Right", "Left"] ∧
          registry.get? "Zero" = some zero ∧
            registry.namesOf (registry.children zero) = ["Left", "Right"] ∧
              IsConsistent (ofSets crossing) registry := by
  have observed := crossing_observed
  simp only [Option.bind_eq_some_iff, Option.map_eq_some_iff, Prod.mk.injEq] at observed
  obtain ⟨registry, accepted, apex, apexFound, zero, zeroFound, _, parents, children⟩ := observed
  have accepted := ok_of_toOption accepted
  exact ⟨registry, apex, zero, accepted, apexFound, parents, zeroFound, children,
    graph_consistent accepted⟩

end Registry

end RecordSchema
