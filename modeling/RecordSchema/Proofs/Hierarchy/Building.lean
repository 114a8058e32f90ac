import Mathlib.Data.List.Nodup
import RecordSchema.Proofs.Hierarchy.Walk

namespace RecordSchema

/-!
# Building hierarchies

Classes are found by name as long as no name is repeated.  A new parent is added to
the parents of one class and adds that class to the children of one other; every
refusal names what stands against the parent.
-/

namespace Hierarchy

/-- The position of a name in a list without repetitions is where the name stands. -/
theorem idxOf?_eq_some_iff
    {names : List String}
    (distinct : names.Nodup)
    {name : String}
    {id : Nat} :
    names.idxOf? name = some id ↔ names[id]? = some name := by
  induction names generalizing id with
  | nil =>
      simp
  | cons first rest inductionHypothesis =>
      obtain ⟨absent, restDistinct⟩ := List.nodup_cons.mp distinct
      rw [List.idxOf?_cons]
      by_cases atFirst : first = name
      · subst atFirst
        cases id with
        | zero =>
            simp
        | succ position =>
            have notLater : rest[position]? ≠ some first :=
              fun found => absent (List.mem_of_getElem? found)
            simp [notLater]
      · cases id with
        | zero =>
            simp [atFirst]
        | succ position =>
            simp [atFirst, inductionHypothesis restDistinct]

theorem idOf?_eq_some_iff
    {hierarchy : Hierarchy}
    (distinct : hierarchy.names.Nodup)
    {name : String}
    {id : Nat} :
    hierarchy.idOf? name = some id ↔ hierarchy.names[id]? = some name :=
  idxOf?_eq_some_iff distinct

theorem idOf?_eq_none_iff
    {hierarchy : Hierarchy}
    {name : String} :
    hierarchy.idOf? name = none ↔ name ∉ hierarchy.names :=
  List.idxOf?_eq_none_iff

theorem idOf?_congr
    {first second : Hierarchy}
    (sameNames : first.names = second.names) :
    first.idOf? = second.idOf? := by
  funext name
  rw [idOf?, idOf?, sameNames]

/-- The name of a class stands at its number. -/
theorem nameOf_eq
    {hierarchy : Hierarchy}
    {name : String}
    {id : Nat}
    (found : hierarchy.names[id]? = some name) :
    hierarchy.nameOf id = name := by
  rw [names, List.getElem?_map] at found
  rw [nameOf, found]
  rfl

theorem nameOf_of_idOf?
    {hierarchy : Hierarchy}
    (distinct : hierarchy.names.Nodup)
    {name : String}
    {id : Nat}
    (found : hierarchy.idOf? name = some id) :
    hierarchy.nameOf id = name :=
  nameOf_eq ((idOf?_eq_some_iff distinct).mp found)

/-- No class has two names. -/
theorem name_unique
    {hierarchy : Hierarchy}
    (distinct : hierarchy.names.Nodup)
    {first second : String}
    {id : Nat}
    (firstFound : hierarchy.idOf? first = some id)
    (secondFound : hierarchy.idOf? second = some id) :
    first = second :=
  (nameOf_of_idOf? distinct firstFound).symm.trans (nameOf_of_idOf? distinct secondFound)

theorem nameOf_congr
    {first second : Hierarchy}
    (sameNames : first.names = second.names) :
    first.nameOf = second.nameOf := by
  funext id
  rw [nameOf, nameOf, ← List.getElem?_map, ← List.getElem?_map]
  exact congrArg (fun names : List String => names[id]?.getD "") sameNames

@[simp] theorem length_names
    (hierarchy : Hierarchy) :
    hierarchy.names.length = hierarchy.size :=
  List.length_map _

@[simp] theorem mem_ids_iff
    {hierarchy : Hierarchy}
    {id : Nat} :
    id ∈ hierarchy.ids ↔ id < hierarchy.size :=
  List.mem_range

theorem lt_size_of_idOf?
    {hierarchy : Hierarchy}
    (distinct : hierarchy.names.Nodup)
    {name : String}
    {id : Nat}
    (found : hierarchy.idOf? name = some id) :
    id < hierarchy.size := by
  obtain ⟨inRange, _⟩ := List.getElem?_eq_some_iff.mp ((idOf?_eq_some_iff distinct).mp found)
  simpa using inRange

theorem parentsOf_eq_nil
    {hierarchy : Hierarchy}
    {id : Nat}
    (outOfRange : hierarchy.size ≤ id) :
    hierarchy.parentsOf id = [] := by
  have absent : hierarchy.nodes[id]? = none :=
    List.getElem?_eq_none outOfRange
  rw [parentsOf, absent]
  rfl

/--
A hierarchy after the parents of one class have been added to: the class has
them behind its earlier ones, and each of them has the class as its last child.
-/
structure Extends
    (child : Nat)
    (earlier later : Hierarchy)
    (added : List Nat) : Prop where
  names : later.names = earlier.names
  isFrozen : ∀ id, later.isFrozen id = earlier.isFrozen id
  parentsOf :
    ∀ id,
      later.parentsOf id =
        earlier.parentsOf id ++ if id = child then added else []
  childrenOf :
    ∀ id,
      later.childrenOf id =
        earlier.childrenOf id ++ if id ∈ added then [child] else []

namespace Extends

theorem refl
    (child : Nat)
    (hierarchy : Hierarchy) :
    Extends child hierarchy hierarchy [] where
  names := rfl
  isFrozen _ := rfl
  parentsOf _ := by simp
  childrenOf _ := by simp

theorem trans
    {child : Nat}
    {first second third : Hierarchy}
    {earlier later : List Nat}
    (firstStep : Extends child first second earlier)
    (secondStep : Extends child second third later)
    (different : ∀ id ∈ earlier, id ∉ later) :
    Extends child first third (earlier ++ later) where
  names := secondStep.names.trans firstStep.names
  isFrozen id := (secondStep.isFrozen id).trans (firstStep.isFrozen id)
  parentsOf id := by
    rw [secondStep.parentsOf, firstStep.parentsOf]
    split <;> simp
  childrenOf id := by
    rw [secondStep.childrenOf, firstStep.childrenOf]
    by_cases inEarlier : id ∈ earlier
    · simp [inEarlier, different id inEarlier]
    · simp [inEarlier]

theorem size_eq
    {child : Nat}
    {earlier later : Hierarchy}
    {added : List Nat}
    (step : Extends child earlier later added) :
    later.size = earlier.size := by
  rw [← length_names, ← length_names, step.names]

end Extends

/-- One more parent changes the neighbours of the two classes only. -/
theorem extends_withParent
    {hierarchy : Hierarchy}
    {child parent : Nat}
    (childInRange : child < hierarchy.size)
    (parentInRange : parent < hierarchy.size) :
    Extends child hierarchy (hierarchy.withParent child parent) [parent] where
  names := by
    apply List.ext_getElem?
    intro id
    simp only [names, withParent, List.getElem?_map, List.getElem?_modify]
    split <;> split <;> simp [Function.comp_def]
  isFrozen id := by
    simp only [isFrozen, withParent, List.getElem?_modify]
    split <;> split <;> simp [Function.comp_def]
  parentsOf id := by
    simp only [parentsOf, withParent, List.getElem?_modify]
    by_cases atChild : id = child
    · subst atChild
      rw [List.getElem?_eq_getElem childInRange]
      split <;> simp
    · split <;> simp [Ne.symm atChild, Function.comp_def]
  childrenOf id := by
    simp only [childrenOf, withParent, List.getElem?_modify]
    by_cases atParent : id = parent
    · subst atParent
      rw [List.getElem?_eq_getElem parentInRange]
      by_cases atChild : child = id <;> simp [atChild]
    · by_cases atChild : child = id <;> simp [atParent, Ne.symm atParent, atChild, Function.comp_def]

/-- A parent that is accepted is added, and it was neither the class itself nor there already. -/
theorem addParent_ok
    {hierarchy larger : Hierarchy}
    {child parent : Nat}
    (childInRange : child < hierarchy.size)
    (parentInRange : parent < hierarchy.size)
    (accepted : hierarchy.addParent child parent = .ok larger) :
    child ≠ parent ∧ parent ∉ hierarchy.parentsOf child ∧
      Extends child hierarchy larger [parent] := by
  simp only [addParent] at accepted
  split at accepted
  · cases accepted
  · rename_i different
    split at accepted
    · cases accepted
    · split at accepted
      · cases accepted
      · rename_i isNew
        cases accepted
        exact ⟨different, by simpa using isNew, extends_withParent childInRange parentInRange⟩

/-- A refused parent is the class itself or there already, unless the class is frozen. -/
theorem addParent_error
    {hierarchy : Hierarchy}
    {child parent : Nat}
    {error : DefinitionError}
    (thawed : hierarchy.isFrozen child = false)
    (refused : hierarchy.addParent child parent = .error error) :
    (child = parent ∧
        error =
          .circularInheritance (hierarchy.nameOf child)
            [hierarchy.nameOf child, hierarchy.nameOf child]) ∨
      (parent ∈ hierarchy.parentsOf child ∧
        error = .duplicateParent (hierarchy.nameOf child) (hierarchy.nameOf parent)) := by
  simp only [addParent, thawed] at refused
  split at refused
  · rename_i same
    cases refused
    exact .inl ⟨same, rfl⟩
  · split at refused
    · simp_all
    · split at refused
      · rename_i repeated
        cases refused
        exact .inr ⟨by simpa using repeated, rfl⟩
      · cases refused

@[simp] theorem names_freeze
    (hierarchy : Hierarchy) :
    hierarchy.freeze.names = hierarchy.names := by
  simp [freeze, names, Function.comp_def]

@[simp] theorem idOf?_freeze
    (hierarchy : Hierarchy) :
    hierarchy.freeze.idOf? = hierarchy.idOf? :=
  idOf?_congr hierarchy.names_freeze

@[simp] theorem ids_freeze
    (hierarchy : Hierarchy) :
    hierarchy.freeze.ids = hierarchy.ids := by
  simp [freeze, ids, size]

@[simp] theorem parentsOf_freeze
    (hierarchy : Hierarchy) :
    hierarchy.freeze.parentsOf = hierarchy.parentsOf := by
  funext id
  simp [freeze, parentsOf, Function.comp_def]

@[simp] theorem childrenOf_freeze
    (hierarchy : Hierarchy) :
    hierarchy.freeze.childrenOf = hierarchy.childrenOf := by
  funext id
  simp [freeze, childrenOf, Function.comp_def]

/-- Every class of a frozen hierarchy is frozen. -/
theorem isFrozen_freeze
    {hierarchy : Hierarchy}
    {id : Nat}
    (inRange : id < hierarchy.size) :
    hierarchy.freeze.isFrozen id = true := by
  have found : hierarchy.nodes[id]? = some hierarchy.nodes[id] :=
    List.getElem?_eq_getElem inRange
  simp [freeze, isFrozen, found]

@[simp] theorem parent_freeze
    (hierarchy : Hierarchy) :
    hierarchy.freeze.Parent = hierarchy.Parent := by
  funext child parent
  rw [Parent, Parent, parentsOf_freeze]

end Hierarchy

end RecordSchema
