import RecordSchema.Proofs.Hierarchy.Construction
import RecordSchema.Proofs.Hierarchy.Order

namespace RecordSchema

/-!
# Orders of hierarchies without cycles

A hierarchy has an order with parents first exactly when no class descends from itself.
Where there is none, the walk along the parents has run into a cycle, which the refusal
names from a class back to that class, each with a direct parent behind it.
-/

namespace Hierarchy

open Relation (TransGen)

/-- Two names of classes, the second of which is a direct parent of the first. -/
def IsParentName (hierarchy : Hierarchy) (child parent : String) : Prop :=
  ∃ childId parentId,
    hierarchy.idOf? child = some childId ∧ hierarchy.idOf? parent = some parentId ∧
      hierarchy.Parent childId parentId

/-- A class is found under its name. -/
theorem idOf?_nameOf
    {hierarchy : Hierarchy}
    (distinct : hierarchy.names.Nodup)
    {id : Nat}
    (inRange : id < hierarchy.size) :
    hierarchy.idOf? (hierarchy.nameOf id) = some id := by
  have named : id < hierarchy.names.length := by
    simpa using inRange
  have found : hierarchy.names[id]? = some hierarchy.names[id] :=
    List.getElem?_eq_getElem named
  rw [nameOf_eq found]
  exact (idOf?_eq_some_iff distinct).mpr found

/-- A cycle is a path from a class to itself. -/
theorem IsCycle.descends
    {hierarchy : Hierarchy}
    {cycle : List Nat}
    (isCycle : IsCycle hierarchy.parentsOf cycle) :
    ∃ id, hierarchy.Descends id id := by
  obtain ⟨⟨id, between, rfl⟩, chain⟩ := isCycle
  exact ⟨id, transGen_of_isChain chain⟩

namespace IsProper

variable
  {hierarchy : Hierarchy}

theorem lt_size_of_parent
    (proper : hierarchy.IsProper)
    {child parent : Nat}
    (isParent : hierarchy.Parent child parent) :
    child < hierarchy.size ∧ parent < hierarchy.size :=
  ⟨mem_ids_iff.mp (proper.children_closed parent (proper.mem_childrenOf_iff.mpr isParent)),
    mem_ids_iff.mp (proper.parents_closed child isParent)⟩

theorem isParentName
    (proper : hierarchy.IsProper)
    {child parent : Nat}
    (isParent : hierarchy.Parent child parent) :
    hierarchy.IsParentName (hierarchy.nameOf child) (hierarchy.nameOf parent) := by
  obtain ⟨childInRange, parentInRange⟩ := proper.lt_size_of_parent isParent
  exact ⟨child, parent, idOf?_nameOf proper.names_nodup childInRange,
    idOf?_nameOf proper.names_nodup parentInRange, isParent⟩

/-- In an ordered hierarchy no class descends from itself. -/
theorem not_descends_self
    (proper : hierarchy.IsProper)
    {order : List Nat}
    (accepted : hierarchy.topologicalOrder = .ok order)
    (id : Nat) :
    ¬hierarchy.Descends id id := by
  intro descends
  obtain ⟨parent, isParent, _⟩ := TransGen.head'_iff.mp descends
  have member := mem_ids_iff.mpr (proper.lt_size_of_parent isParent).1
  exact (topologicalOrder_ok proper.parents_closed accepted).not_descends_self member descends

end IsProper

/--
The classes of a hierarchy, however it has been built, are ordered if and only if none of
them descends from itself.  The order has every class once, behind all of its parents; the
refusal names a class and a way along direct parents from it back to it.
-/
theorem ordered_iff_acyclic
    {hierarchy : Hierarchy}
    (built : hierarchy.IsBuilt) :
    ((∃ order, hierarchy.topologicalOrder = .ok order) ↔
        ∀ id, ¬hierarchy.Descends id id) ∧
      (∀ order,
        hierarchy.topologicalOrder = .ok order →
          IsParentsFirst hierarchy.parentsOf hierarchy.ids order) ∧
        ∀ error,
          hierarchy.topologicalOrder = .error error →
            ∃ className between,
              error = .circularInheritance className (className :: (between ++ [className])) ∧
                (className :: (between ++ [className])).IsChain hierarchy.IsParentName := by
  have proper := built.isProper
  refine ⟨⟨?_, ?_⟩, fun order => topologicalOrder_ok proper.parents_closed, ?_⟩
  · rintro ⟨order, accepted⟩
    exact proper.not_descends_self accepted
  · intro acyclic
    cases ordering : hierarchy.topologicalOrder with
    | ok order =>
        exact ⟨order, rfl⟩
    | error error =>
        obtain ⟨cycle, isCycle, _⟩ := topologicalOrder_error proper.parents_closed ordering
        obtain ⟨id, descends⟩ := isCycle.descends
        exact absurd descends (acyclic id)
  · intro error refused
    obtain ⟨cycle, ⟨⟨id, between, rfl⟩, chain⟩, rfl⟩ :=
      topologicalOrder_error proper.parents_closed refused
    have names :
        (id :: (between ++ [id])).map hierarchy.nameOf =
          hierarchy.nameOf id :: (between.map hierarchy.nameOf ++ [hierarchy.nameOf id]) := by
      simp
    refine ⟨hierarchy.nameOf id, between.map hierarchy.nameOf, congrArg _ names, ?_⟩
    rw [← names, List.isChain_map]
    exact chain.imp fun _ _ => proper.isParentName

private theorem ring_refused :
    ring.topologicalOrder =
      .error (.circularInheritance "First" ["First", "Second", "Third", "First"]) := by
  decide +kernel

/-- The refusal names the circle, and not the class that leads to it. -/
theorem ordered_iff_acyclic_ring :
    ring.IsBuilt ∧ (∃ id, ring.Descends id id) ∧
      ring.topologicalOrder =
          .error (.circularInheritance "First" ["First", "Second", "Third", "First"]) ∧
        ["First", "Second", "Third", "First"].IsChain ring.IsParentName := by
  obtain ⟨ordered, _, reported⟩ := ordered_iff_acyclic isBuilt_ring
  obtain ⟨className, between, isReport, chain⟩ := reported _ ring_refused
  have notOrdered : ¬∃ order, ring.topologicalOrder = .ok order := by
    rintro ⟨order, accepted⟩
    cases ring_refused.symm.trans accepted
  rw [ordered] at notOrdered
  simp only [DefinitionError.circularInheritance.injEq] at isReport
  rw [← isReport.2] at chain
  exact ⟨isBuilt_ring, by simpa using notOrdered, ring_refused, chain⟩

end Hierarchy

end RecordSchema
