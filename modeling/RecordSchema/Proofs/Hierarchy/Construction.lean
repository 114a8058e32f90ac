import RecordSchema.Proofs.Hierarchy.Building

namespace RecordSchema

/-!
# Hierarchies built step by step

A hierarchy is built by adding classes and parents of classes, in any order.  Cycles are
not kept out: only a class that would be its own direct parent, or have a parent twice, is
refused.  Whatever the order, names stay distinct, neighbours stay in range, and a class is
a child of exactly its parents.
-/

namespace Hierarchy

/-- A hierarchy to which only classes and parents of classes have been added. -/
inductive IsBuilt : Hierarchy → Prop where
  | empty : IsBuilt .empty
  | addClass {hierarchy larger : Hierarchy} {name : String}
      (built : IsBuilt hierarchy)
      (accepted : hierarchy.addClass name = .ok larger) :
      IsBuilt larger
  | addParent {hierarchy larger : Hierarchy} {child parent : Nat}
      (built : IsBuilt hierarchy)
      (childInRange : child < hierarchy.size)
      (parentInRange : parent < hierarchy.size)
      (accepted : hierarchy.addParent child parent = .ok larger) :
      IsBuilt larger

/-- What building preserves: distinct names, and two relations that mirror each other. -/
structure IsProper (hierarchy : Hierarchy) : Prop where
  names_nodup : hierarchy.names.Nodup
  parents_closed : ∀ id, hierarchy.parentsOf id ⊆ hierarchy.ids
  mem_childrenOf_iff :
    ∀ {child parent}, child ∈ hierarchy.childrenOf parent ↔ parent ∈ hierarchy.parentsOf child

namespace IsProper

/-- A class with parents is in range, so all children are. -/
theorem children_closed
    {hierarchy : Hierarchy}
    (proper : hierarchy.IsProper)
    (id : Nat) :
    hierarchy.childrenOf id ⊆ hierarchy.ids := by
  intro child isChild
  have isParent := proper.mem_childrenOf_iff.mp isChild
  rw [mem_ids_iff]
  by_contra outOfRange
  rw [parentsOf_eq_nil (Nat.not_lt.mp outOfRange)] at isParent
  cases isParent

theorem of_empty : empty.IsProper where
  names_nodup := List.nodup_nil
  parents_closed _ := List.nil_subset _
  mem_childrenOf_iff := by simp [empty, childrenOf, parentsOf]

end IsProper

/-- An added class has a new name, stands behind the others and has no neighbours. -/
theorem addClass_ok
    {hierarchy larger : Hierarchy}
    {name : String}
    (accepted : hierarchy.addClass name = .ok larger) :
    name ∉ hierarchy.names ∧
      larger.names = hierarchy.names ++ [name] ∧
        larger.parentsOf = hierarchy.parentsOf ∧ larger.childrenOf = hierarchy.childrenOf := by
  rw [addClass] at accepted
  split at accepted
  · cases accepted
  · rename_i isNew
    cases accepted
    have absent : hierarchy.idOf? name = none := by
      simpa using isNew
    refine ⟨idOf?_eq_none_iff.mp absent, by simp [names], ?_, ?_⟩
    all_goals
      funext id
      simp only [parentsOf, childrenOf, List.getElem?_append]
      split
      · rfl
      · rename_i outOfRange
        rw [List.getElem?_eq_none (Nat.not_lt.mp outOfRange)]
        cases id - hierarchy.nodes.length <;> simp

namespace IsProper

theorem addClass
    {hierarchy larger : Hierarchy}
    {name : String}
    (proper : hierarchy.IsProper)
    (accepted : hierarchy.addClass name = .ok larger) :
    larger.IsProper := by
  obtain ⟨isNew, sameNames, sameParents, sameChildren⟩ := addClass_ok accepted
  have grows : hierarchy.size ≤ larger.size := by
    rw [← length_names, ← length_names, sameNames, List.length_append]
    exact Nat.le_add_right _ _
  refine ⟨?_, ?_, ?_⟩
  · rw [sameNames, ← List.concat_eq_append]
    exact proper.names_nodup.concat isNew
  · intro id parent isParent
    rw [sameParents] at isParent
    exact mem_ids_iff.mpr
      (Nat.lt_of_lt_of_le (mem_ids_iff.mp (proper.parents_closed id isParent)) grows)
  · rw [sameParents, sameChildren]
    exact proper.mem_childrenOf_iff

theorem addParent
    {hierarchy larger : Hierarchy}
    {child parent : Nat}
    (proper : hierarchy.IsProper)
    (childInRange : child < hierarchy.size)
    (parentInRange : parent < hierarchy.size)
    (accepted : hierarchy.addParent child parent = .ok larger) :
    larger.IsProper := by
  obtain ⟨_, _, step⟩ := addParent_ok childInRange parentInRange accepted
  have sameIds : larger.ids = hierarchy.ids := by
    rw [ids, ids, step.size_eq]
  refine ⟨step.names ▸ proper.names_nodup, ?_, ?_⟩
  · intro id other isParent
    rw [step.parentsOf, List.mem_append] at isParent
    rw [sameIds]
    rcases isParent with earlier | added
    · exact proper.parents_closed id earlier
    · split at added
      · rw [List.mem_singleton.mp added, mem_ids_iff]
        exact parentInRange
      · cases added
  · intro other id
    rw [step.childrenOf, step.parentsOf, List.mem_append, List.mem_append,
      proper.mem_childrenOf_iff]
    refine or_congr Iff.rfl ?_
    by_cases atParent : id = parent <;> by_cases atChild : other = child <;>
      simp [atParent, atChild]

end IsProper

/-- What is built step by step is proper. -/
theorem IsBuilt.isProper
    {hierarchy : Hierarchy}
    (built : hierarchy.IsBuilt) :
    hierarchy.IsProper := by
  induction built with
  | empty =>
      exact .of_empty
  | addClass _ accepted proper =>
      exact proper.addClass accepted
  | addParent _ childInRange parentInRange accepted proper =>
      exact proper.addParent childInRange parentInRange accepted

/-- Three classes that inherit from each other in a circle, and one below them. -/
def ring : Hierarchy :=
  ⟨[{ name := "Leaf", parents := [1] },
    { name := "First", parents := [2], children := [0, 3] },
    { name := "Second", parents := [3], children := [1] },
    { name := "Third", parents := [1], children := [2] }]⟩

theorem isBuilt_ring : ring.IsBuilt := by
  have leaf := IsBuilt.addClass .empty (show empty.addClass "Leaf" = .ok _ from rfl)
  have first := leaf.addClass (show addClass _ "First" = .ok _ from rfl)
  have second := first.addClass (show addClass _ "Second" = .ok _ from rfl)
  have third := second.addClass (show addClass _ "Third" = .ok _ from rfl)
  have below := third.addParent (by decide) (by decide) (show addParent _ 0 1 = .ok _ from rfl)
  have down := below.addParent (by decide) (by decide) (show addParent _ 1 2 = .ok _ from rfl)
  have around := down.addParent (by decide) (by decide) (show addParent _ 2 3 = .ok _ from rfl)
  exact around.addParent (by decide) (by decide) (show addParent _ 3 1 = .ok _ from rfl)

end Hierarchy

end RecordSchema
