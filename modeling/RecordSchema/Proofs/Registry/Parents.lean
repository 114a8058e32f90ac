import RecordSchema.Proofs.Definition.WellFormed
import RecordSchema.Proofs.Hierarchy.Building
import RecordSchema.Proofs.Hierarchy.Walk
import RecordSchema.Proofs.SortedMap

namespace RecordSchema

/-!
# Parents by name

The hierarchy of a set of definitions has the classes of the set in order, and the
parents of each class are those that its definition names.  Who is refused as a parent
is unknown, the class itself, or named twice.
-/

open Hierarchy (Extends)
open Declarations (Defect)

namespace Registry

/-- Accepted parents are the named classes, each once and none of them the class itself. -/
theorem addParents_ok
    {child : Nat}
    {hierarchy larger : Hierarchy}
    {parentNames : List String}
    (distinct : hierarchy.names.Nodup)
    (inRange : child < hierarchy.size)
    (accepted : addParents child hierarchy parentNames = .ok larger) :
    ∃ added,
      Extends child hierarchy larger added ∧
        parentNames.map hierarchy.idOf? = added.map some ∧
        child ∉ added ∧ added.Nodup ∧ ∀ parent ∈ added, parent ∉ hierarchy.parentsOf child := by
  induction parentNames generalizing hierarchy with
  | nil =>
      cases accepted
      exact ⟨[], .refl child _, rfl, by simp, .nil, by simp⟩
  | cons parentName rest inductionHypothesis =>
      rw [addParents] at accepted
      split at accepted
      · cases accepted
      · rename_i parent found
        split at accepted
        · cases accepted
        · rename_i next added
          have parentInRange := Hierarchy.lt_size_of_idOf? distinct found
          obtain ⟨different, isNew, step⟩ :=
            Hierarchy.addParent_ok inRange parentInRange added
          obtain ⟨later, restStep, restFound, notLater, laterDistinct, laterNew⟩ :=
            inductionHypothesis (step.names ▸ distinct) (step.size_eq ▸ inRange) accepted
          have laterOther : ∀ id ∈ later, id ≠ parent ∧ id ∉ hierarchy.parentsOf child := by
            intro id member
            have fresh := laterNew id member
            rw [step.parentsOf, if_pos rfl] at fresh
            simpa [and_comm] using fresh
          refine ⟨parent :: later, step.trans restStep ?_, ?_, ?_, ?_, ?_⟩
          · intro id member isLater
            rw [List.mem_singleton.mp member] at isLater
            exact (laterOther parent isLater).1 rfl
          · rw [List.map_cons, found, ← Hierarchy.idOf?_congr step.names, restFound, List.map_cons]
          · simp [different, notLater]
          · exact List.nodup_cons.mpr ⟨fun member => (laterOther parent member).1 rfl, laterDistinct⟩
          · intro id member
            rcases List.mem_cons.mp member with rfl | isLater
            · exact isNew
            · exact (laterOther id isLater).2

/-- What can be wrong with the parents that a class names. -/
inductive ParentDefect
    (hierarchy : Hierarchy)
    (child : Nat)
    (parentNames : List String) : DefinitionError → Prop where
  | unknown
      {parent : String} :
      parent ∈ parentNames →
      hierarchy.idOf? parent = none →
      ParentDefect hierarchy child parentNames (.unknownParent (hierarchy.nameOf child) parent)
  | self :
      hierarchy.nameOf child ∈ parentNames →
      ParentDefect hierarchy child parentNames
        (.circularInheritance (hierarchy.nameOf child)
          [hierarchy.nameOf child, hierarchy.nameOf child])
  | present
      {parent : String}
      {id : Nat} :
      parent ∈ parentNames →
      hierarchy.idOf? parent = some id →
      id ∈ hierarchy.parentsOf child →
      ParentDefect hierarchy child parentNames (.duplicateParent (hierarchy.nameOf child) parent)
  | repeated
      {parent : String} :
      2 ≤ parentNames.count parent →
      ParentDefect hierarchy child parentNames (.duplicateParent (hierarchy.nameOf child) parent)

namespace ParentDefect

variable
  {hierarchy next : Hierarchy}
  {child : Nat}
  {parentNames : List String}
  {error : DefinitionError}

/-- Where the names and the parents of the class are the same, the same is wrong. -/
theorem congr
    (names : next.names = hierarchy.names)
    (parents : next.parentsOf child = hierarchy.parentsOf child)
    (defect : ParentDefect next child parentNames error) :
    ParentDefect hierarchy child parentNames error := by
  have sameName := congrFun (Hierarchy.nameOf_congr names) child
  have sameId := Hierarchy.idOf?_congr names
  cases defect with
  | unknown member absent =>
      rw [sameName]
      exact .unknown member (sameId ▸ absent)
  | self member =>
      rw [sameName] at member ⊢
      exact .self member
  | present member found isParent =>
      rw [sameName]
      exact .present member (sameId ▸ found) (parents ▸ isParent)
  | repeated twice =>
      rw [sameName]
      exact .repeated twice

/-- What is wrong once the first parent is there is wrong with all parents. -/
theorem cons
    {parent : Nat}
    {parentName : String}
    (distinct : hierarchy.names.Nodup)
    (found : hierarchy.idOf? parentName = some parent)
    (step : Extends child hierarchy next [parent])
    (defect : ParentDefect next child parentNames error) :
    ParentDefect hierarchy child (parentName :: parentNames) error := by
  have sameName := congrFun (Hierarchy.nameOf_congr step.names) child
  have sameId := Hierarchy.idOf?_congr step.names
  cases defect with
  | unknown member absent =>
      rw [sameName]
      exact .unknown (List.mem_cons_of_mem _ member) (sameId ▸ absent)
  | self member =>
      rw [sameName] at member ⊢
      exact .self (List.mem_cons_of_mem _ member)
  | @present name id member nameFound isParent =>
      rw [sameId] at nameFound
      rw [step.parentsOf, if_pos rfl, List.mem_append, List.mem_singleton] at isParent
      rw [sameName]
      rcases isParent with earlier | rfl
      · exact .present (List.mem_cons_of_mem _ member) nameFound earlier
      · have sameParent : parentName = name := Hierarchy.name_unique distinct found nameFound
        have once := List.count_pos_iff.mpr member
        apply ParentDefect.repeated
        rw [List.count_cons, if_pos (beq_iff_eq.mpr sameParent)]
        omega
  | repeated twice =>
      rw [sameName]
      apply ParentDefect.repeated
      rw [List.count_cons]
      omega

end ParentDefect

/-- A refused parent is unknown, the class itself, there already or named twice. -/
theorem addParents_error
    {child : Nat}
    {hierarchy : Hierarchy}
    {parentNames : List String}
    {error : DefinitionError}
    (distinct : hierarchy.names.Nodup)
    (thawed : ∀ id, hierarchy.isFrozen id = false)
    (inRange : child < hierarchy.size)
    (refused : addParents child hierarchy parentNames = .error error) :
    ParentDefect hierarchy child parentNames error := by
  induction parentNames generalizing hierarchy with
  | nil =>
      cases refused
  | cons parentName rest inductionHypothesis =>
      rw [addParents] at refused
      split at refused
      · rename_i absent
        cases refused
        exact .unknown List.mem_cons_self absent
      · rename_i parent found
        have parentIsNamed : hierarchy.nameOf parent = parentName :=
          Hierarchy.nameOf_of_idOf? distinct found
        split at refused
        · rename_i parentRefused
          cases refused
          rcases Hierarchy.addParent_error (thawed child) parentRefused with
            ⟨rfl, rfl⟩ | ⟨isParent, rfl⟩
          · exact .self (parentIsNamed ▸ List.mem_cons_self)
          · rw [parentIsNamed]
            exact .present List.mem_cons_self found isParent
        · rename_i next added
          obtain ⟨_, _, step⟩ :=
            Hierarchy.addParent_ok inRange (Hierarchy.lt_size_of_idOf? distinct found) added
          have later := inductionHypothesis (step.names ▸ distinct)
            (fun id => (step.isFrozen id).trans (thawed id)) (step.size_eq ▸ inRange) refused
          exact later.cons distinct found step

/--
A hierarchy after classes numbered from a given one have received the parents that
their definitions name: nothing else has changed.
-/
structure AllParents
    (start : Nat)
    (definitions : List ClassDefinition)
    (earlier later : Hierarchy) : Prop where
  names : later.names = earlier.names
  isFrozen : ∀ id, later.isFrozen id = earlier.isFrozen id
  parentsOf_lt : ∀ id < start, later.parentsOf id = earlier.parentsOf id
  inherits :
    ∀ position definition,
      definitions[position]? = some definition →
      definition.inherits.map earlier.idOf? = (later.parentsOf (start + position)).map some
  parents_nodup :
    ∀ position < definitions.length, (later.parentsOf (start + position)).Nodup
  not_self :
    ∀ position < definitions.length, start + position ∉ later.parentsOf (start + position)
  childrenOf :
    ∀ id,
      later.childrenOf id =
        earlier.childrenOf id ++
          (List.range' start definitions.length).filter fun child =>
            (later.parentsOf child).contains id

/-- The parents of all classes are those that their definitions name. -/
theorem addAllParents_ok
    {start : Nat}
    {hierarchy larger : Hierarchy}
    {definitions : List ClassDefinition}
    (distinct : hierarchy.names.Nodup)
    (inRange : start + definitions.length ≤ hierarchy.size)
    (orphans : ∀ id, start ≤ id → hierarchy.parentsOf id = [])
    (accepted : addAllParents start hierarchy definitions = .ok larger) :
    AllParents start definitions hierarchy larger := by
  induction definitions generalizing start hierarchy with
  | nil =>
      cases accepted
      constructor <;> simp
  | cons definition rest inductionHypothesis =>
      rw [addAllParents] at accepted
      split at accepted
      · cases accepted
      · rename_i next added
        rw [List.length_cons] at inRange
        obtain ⟨parents, step, found, notSelf, parentsDistinct, _⟩ :=
          addParents_ok distinct (by omega) added
        have nextOrphans : ∀ id, start + 1 ≤ id → next.parentsOf id = [] := by
          intro id larger
          rw [step.parentsOf, orphans id (by omega), if_neg (by omega), List.append_nil]
        have later :=
          inductionHypothesis (step.names ▸ distinct) (by rw [step.size_eq]; omega)
            nextOrphans accepted
        have ownParents : larger.parentsOf start = parents := by
          rw [later.parentsOf_lt start (by omega), step.parentsOf, orphans start (by omega),
            if_pos rfl, List.nil_append]
        have shifted : ∀ position, start + 1 + position = start + (position + 1) := by
          omega
        refine
          { names := later.names.trans step.names
            isFrozen := fun id => (later.isFrozen id).trans (step.isFrozen id)
            parentsOf_lt := ?_
            inherits := ?_
            parents_nodup := ?_
            not_self := ?_
            childrenOf := ?_ }
        · intro id smaller
          rw [later.parentsOf_lt id (by omega), step.parentsOf, if_neg (by omega),
            List.append_nil]
        · intro position declared declaredFound
          cases position with
          | zero =>
              cases declaredFound
              rw [Nat.add_zero, ownParents]
              exact found
          | succ position =>
              rw [← shifted, ← Hierarchy.idOf?_congr step.names]
              exact later.inherits position declared declaredFound
        · intro position smaller
          cases position with
          | zero =>
              rw [Nat.add_zero, ownParents]
              exact parentsDistinct
          | succ position =>
              rw [← shifted]
              exact later.parents_nodup position (by simpa using smaller)
        · intro position smaller
          cases position with
          | zero =>
              rw [Nat.add_zero, ownParents]
              exact notSelf
          | succ position =>
              rw [← shifted]
              exact later.not_self position (by simpa using smaller)
        · intro id
          rw [later.childrenOf, step.childrenOf, List.length_cons, List.range'_succ,
            List.filter_cons, ownParents, List.append_assoc]
          by_cases isParent : id ∈ parents <;> simp [isParent]

/-- What is wrong with refused parents is wrong with those of one class. -/
theorem addAllParents_error
    {start : Nat}
    {hierarchy : Hierarchy}
    {definitions : List ClassDefinition}
    {error : DefinitionError}
    (distinct : hierarchy.names.Nodup)
    (thawed : ∀ id, hierarchy.isFrozen id = false)
    (inRange : start + definitions.length ≤ hierarchy.size)
    (refused : addAllParents start hierarchy definitions = .error error) :
    ∃ position definition,
      definitions[position]? = some definition ∧
        ParentDefect hierarchy (start + position) definition.inherits error := by
  induction definitions generalizing start hierarchy with
  | nil =>
      cases refused
  | cons definition rest inductionHypothesis =>
      rw [List.length_cons] at inRange
      rw [addAllParents] at refused
      split at refused
      · rename_i parentsRefused
        cases refused
        exact ⟨0, definition, rfl, addParents_error distinct thawed (by omega) parentsRefused⟩
      · rename_i next added
        obtain ⟨parents, step, _⟩ := addParents_ok distinct (by omega) added
        obtain ⟨position, declared, found, defect⟩ :=
          inductionHypothesis (step.names ▸ distinct)
            (fun id => (step.isFrozen id).trans (thawed id))
            (by rw [step.size_eq]; omega) refused
        have sameParents :
            next.parentsOf (start + 1 + position) =
              hierarchy.parentsOf (start + 1 + position) := by
          rw [step.parentsOf, if_neg (by omega), List.append_nil]
        have shifted : start + 1 + position = start + (position + 1) := by
          omega
        exact ⟨position + 1, declared, found, shifted ▸ defect.congr step.names sameParents⟩

end Registry

open Declarations (Inherits Known)
open Relation (TransGen)

/--
The hierarchy that definitions declare: the classes in order with the parents that
their definitions name, and the same edges seen from the parents.
-/
structure Hierarchy.Declares (definitions : DefinitionSet) (hierarchy : Hierarchy) : Prop where
  names : hierarchy.names = definitions.keys
  isFrozen : ∀ id, hierarchy.isFrozen id = false
  inherits :
    ∀ id definition,
      definitions.values[id]? = some definition →
      definition.inherits.map hierarchy.idOf? = (hierarchy.parentsOf id).map some
  parents_nodup : ∀ id, (hierarchy.parentsOf id).Nodup
  not_self : ∀ id, id ∉ hierarchy.parentsOf id
  childrenOf :
    ∀ id,
      hierarchy.childrenOf id =
        hierarchy.ids.filter fun child => (hierarchy.parentsOf child).contains id

namespace Registry

theorem names_flatHierarchy
    (definitions : DefinitionSet) :
    (flatHierarchy definitions).names = definitions.keys := by
  simp [flatHierarchy, Hierarchy.names, Function.comp_def]

theorem nodes_flatHierarchy
    {definitions : DefinitionSet}
    {id : Nat}
    {node : HierarchyNode}
    (found : (flatHierarchy definitions).nodes[id]? = some node) :
    node.parents = [] ∧ node.children = [] ∧ node.frozen = false := by
  simp only [flatHierarchy, List.getElem?_map, Option.map_eq_some_iff] at found
  obtain ⟨name, _, rfl⟩ := found
  exact ⟨rfl, rfl, rfl⟩

/-- In the hierarchy without parents no class has neighbours or is frozen. -/
theorem flatHierarchy_isolated
    (definitions : DefinitionSet)
    (id : Nat) :
    (flatHierarchy definitions).parentsOf id = [] ∧
      (flatHierarchy definitions).childrenOf id = [] ∧
        (flatHierarchy definitions).isFrozen id = false := by
  rw [Hierarchy.parentsOf, Hierarchy.childrenOf, Hierarchy.isFrozen]
  cases found : (flatHierarchy definitions).nodes[id]? with
  | none =>
      exact ⟨rfl, rfl, rfl⟩
  | some node =>
      exact nodes_flatHierarchy found

theorem size_flatHierarchy
    (definitions : DefinitionSet) :
    (flatHierarchy definitions).size = definitions.values.length := by
  rw [← Hierarchy.length_names, names_flatHierarchy]
  simp [SortedMap.keys, SortedMap.values]

/-- Accepted parents make up the hierarchy that the definitions declare. -/
theorem declares_of_addAllParents
    {definitions : DefinitionSet}
    {hierarchy : Hierarchy}
    (accepted : addAllParents 0 (flatHierarchy definitions) definitions.values = .ok hierarchy) :
    hierarchy.Declares definitions := by
  have distinct : (flatHierarchy definitions).names.Nodup :=
    names_flatHierarchy definitions ▸ definitions.keys_nodup
  have built :=
    addAllParents_ok distinct (by rw [size_flatHierarchy, Nat.zero_add])
      (fun id _ => (flatHierarchy_isolated definitions id).1) accepted
  have sameSize : hierarchy.size = definitions.values.length := by
    rw [← size_flatHierarchy, ← Hierarchy.length_names, ← Hierarchy.length_names, built.names]
  have inRangeOrOrphan :
      ∀ id, id < definitions.values.length ∨ hierarchy.parentsOf id = [] := by
    intro id
    rcases Nat.lt_or_ge id definitions.values.length with smaller | larger
    · exact .inl smaller
    · exact .inr (Hierarchy.parentsOf_eq_nil (sameSize ▸ larger))
  refine
    { names := built.names.trans (names_flatHierarchy definitions)
      isFrozen := fun id => (built.isFrozen id).trans (flatHierarchy_isolated definitions id).2.2
      inherits := ?_
      parents_nodup := ?_
      not_self := ?_
      childrenOf := ?_ }
  · intro id definition found
    have shape := built.inherits id definition found
    rwa [Nat.zero_add, ← Hierarchy.idOf?_congr built.names] at shape
  · intro id
    rcases inRangeOrOrphan id with smaller | orphan
    · exact Nat.zero_add id ▸ built.parents_nodup id smaller
    · rw [orphan]
      exact .nil
  · intro id
    rcases inRangeOrOrphan id with smaller | orphan
    · exact Nat.zero_add id ▸ built.not_self id smaller
    · rw [orphan]
      simp
  · intro id
    rw [built.childrenOf, (flatHierarchy_isolated definitions id).2.1, List.nil_append,
      Hierarchy.ids, sameSize, List.range_eq_range']

/-- What is wrong with refused parents is a defect of the definitions. -/
theorem defect_of_addAllParents_error
    {definitions : DefinitionSet}
    {error : DefinitionError}
    (carried : DefinitionSet.carrierName ∈ definitions.keys)
    (refused : addAllParents 0 (flatHierarchy definitions) definitions.values = .error error) :
    Defect definitions.declarations error := by
  have distinct : (flatHierarchy definitions).names.Nodup :=
    names_flatHierarchy definitions ▸ definitions.keys_nodup
  obtain ⟨position, definition, found, defect⟩ :=
    addAllParents_error distinct (fun id => (flatHierarchy_isolated definitions id).2.2)
      (by rw [size_flatHierarchy, Nat.zero_add]) refused
  rw [SortedMap.values, List.getElem?_map, Option.map_eq_some_iff] at found
  obtain ⟨⟨name, definition⟩, entryFound, rfl⟩ := found
  have declared : definitions.declarations name definition :=
    SortedMap.get?_eq_some_iff.mpr (List.mem_of_getElem? entryFound)
  have named : (flatHierarchy definitions).nameOf (0 + position) = name := by
    refine Hierarchy.nameOf_eq ?_
    rw [names_flatHierarchy, SortedMap.keys, List.getElem?_map, Nat.zero_add, entryFound]
    rfl
  cases defect with
  | unknown member absent =>
      rw [named]
      refine ⟨⟨definition, declared, member⟩, fun known => ?_⟩
      rw [Hierarchy.idOf?_eq_none_iff, names_flatHierarchy] at absent
      exact absent ((Declarations.known_iff_mem_keys carried).mp known)
  | self member =>
      rw [named] at member ⊢
      exact ⟨⟨[], rfl⟩, List.isChain_pair.mpr ⟨definition, declared, member⟩⟩
  | present _ _ isParent =>
      rw [(flatHierarchy_isolated definitions _).1] at isParent
      cases isParent
  | repeated twice =>
      rw [named]
      exact ⟨definition, declared, twice⟩

end Registry

namespace Hierarchy.Declares

variable
  {definitions : DefinitionSet}
  {hierarchy : Hierarchy}

theorem names_nodup
    (declares : hierarchy.Declares definitions) :
    hierarchy.names.Nodup :=
  declares.names ▸ definitions.keys_nodup

theorem size_eq
    (declares : hierarchy.Declares definitions) :
    hierarchy.size = definitions.entries.length := by
  rw [← length_names, declares.names, SortedMap.keys, List.length_map]

theorem idOf?_iff
    (declares : hierarchy.Declares definitions)
    {name : String}
    {id : Nat} :
    hierarchy.idOf? name = some id ↔
      ∃ definition, definitions.entries[id]? = some (name, definition) := by
  rw [idOf?_eq_some_iff declares.names_nodup, declares.names, SortedMap.keys, List.getElem?_map,
    Option.map_eq_some_iff]
  constructor
  · rintro ⟨⟨_, definition⟩, found, rfl⟩
    exact ⟨definition, found⟩
  · rintro ⟨definition, found⟩
    exact ⟨_, found, rfl⟩

theorem declared
    {id : Nat}
    {name : String}
    {definition : ClassDefinition}
    (found : definitions.entries[id]? = some (name, definition)) :
    definitions.get? name = some definition :=
  SortedMap.get?_eq_some_iff.mpr (List.mem_of_getElem? found)

theorem exists_id
    (declares : hierarchy.Declares definitions)
    {name : String}
    {definition : ClassDefinition}
    (declared : definitions.get? name = some definition) :
    ∃ id,
      hierarchy.idOf? name = some id ∧ definitions.entries[id]? = some (name, definition) := by
  obtain ⟨id, found⟩ := List.mem_iff_getElem?.mp (SortedMap.get?_eq_some_iff.mp declared)
  exact ⟨id, declares.idOf?_iff.mpr ⟨definition, found⟩, found⟩

/-- The parents of a class are the classes that its definition names, in that order. -/
theorem parents_eq
    (declares : hierarchy.Declares definitions)
    {id : Nat}
    {name : String}
    {definition : ClassDefinition}
    (found : definitions.entries[id]? = some (name, definition)) :
    definition.inherits.map hierarchy.idOf? = (hierarchy.parentsOf id).map some := by
  refine declares.inherits id definition ?_
  rw [SortedMap.values, List.getElem?_map, found]
  rfl

theorem parent_iff
    (declares : hierarchy.Declares definitions)
    {child parent : Nat}
    {childName parentName : String}
    (childFound : hierarchy.idOf? childName = some child)
    (parentFound : hierarchy.idOf? parentName = some parent) :
    hierarchy.Parent child parent ↔ Inherits definitions.declarations childName parentName := by
  obtain ⟨definition, found⟩ := declares.idOf?_iff.mp childFound
  have parents := declares.parents_eq found
  constructor
  · intro isParent
    have mapped : some parent ∈ definition.inherits.map hierarchy.idOf? := by
      rw [parents]
      exact List.mem_map_of_mem isParent
    obtain ⟨name, member, nameFound⟩ := List.mem_map.mp mapped
    have sameName : name = parentName := by
      have first := (idOf?_eq_some_iff declares.names_nodup).mp nameFound
      have second := (idOf?_eq_some_iff declares.names_nodup).mp parentFound
      exact Option.some.inj (first.symm.trans second)
    exact ⟨definition, Declares.declared found, sameName ▸ member⟩
  · rintro ⟨other, otherDeclared, member⟩
    have sameDefinition : definition = other :=
      Option.some.inj ((Declares.declared found).symm.trans otherDeclared)
    subst sameDefinition
    have mapped : some parent ∈ (hierarchy.parentsOf child).map some := by
      rw [← parents, ← parentFound]
      exact List.mem_map_of_mem member
    obtain ⟨id, isParent, same⟩ := List.mem_map.mp mapped
    exact Option.some.inj same ▸ isParent

/-- Both ends of an edge are classes. -/
theorem parent_inRange
    (declares : hierarchy.Declares definitions)
    {child parent : Nat}
    (isParent : hierarchy.Parent child parent) :
    ∃ childName parentName,
      hierarchy.idOf? childName = some child ∧ hierarchy.idOf? parentName = some parent := by
  have childSmaller : child < definitions.entries.length := by
    rw [← declares.size_eq]
    by_contra larger
    have orphan := parentsOf_eq_nil (Nat.not_lt.mp larger)
    rw [Parent, orphan] at isParent
    cases isParent
  have found := List.getElem?_eq_getElem childSmaller
  obtain ⟨⟨name, definition⟩, shape⟩ :
      ∃ entry, definitions.entries[child]? = some entry := ⟨_, found⟩
  have mapped : some parent ∈ definition.inherits.map hierarchy.idOf? := by
    rw [declares.parents_eq shape]
    exact List.mem_map_of_mem isParent
  obtain ⟨parentName, _, parentFound⟩ := List.mem_map.mp mapped
  exact ⟨name, parentName, declares.idOf?_iff.mpr ⟨definition, shape⟩, parentFound⟩

/-- A parent is inherited from by name. -/
theorem inherits_of_parent
    (declares : hierarchy.Declares definitions)
    {child parent : Nat}
    (isParent : hierarchy.Parent child parent) :
    Inherits definitions.declarations (hierarchy.nameOf child) (hierarchy.nameOf parent) := by
  obtain ⟨childName, parentName, childFound, parentFound⟩ := declares.parent_inRange isParent
  rw [nameOf_of_idOf? declares.names_nodup childFound,
    nameOf_of_idOf? declares.names_nodup parentFound]
  exact (declares.parent_iff childFound parentFound).mp isParent

/-- Whoever inherits and whoever is inherited from is a class. -/
theorem inherits_found
    (declares : hierarchy.Declares definitions)
    {childName parentName : String}
    (inherits : Inherits definitions.declarations childName parentName) :
    ∃ child parent,
      hierarchy.idOf? childName = some child ∧ hierarchy.idOf? parentName = some parent := by
  obtain ⟨definition, declared, member⟩ := inherits
  obtain ⟨child, childFound, found⟩ := declares.exists_id declared
  have mapped : hierarchy.idOf? parentName ∈ (hierarchy.parentsOf child).map some := by
    rw [← declares.parents_eq found]
    exact List.mem_map_of_mem member
  obtain ⟨parent, _, same⟩ := List.mem_map.mp mapped
  exact ⟨child, parent, childFound, same.symm⟩

theorem known_iff
    (declares : hierarchy.Declares definitions)
    (carried : DefinitionSet.carrierName ∈ definitions.keys)
    {name : String} :
    Known definitions.declarations name ↔ ∃ id, hierarchy.idOf? name = some id := by
  rw [Declarations.known_iff_mem_keys carried, ← declares.names,
    ← Option.ne_none_iff_exists', ne_eq, idOf?_eq_none_iff, Decidable.not_not]

theorem parents_closed
    (declares : hierarchy.Declares definitions)
    (id : Nat) :
    hierarchy.parentsOf id ⊆ hierarchy.ids := by
  intro parent isParent
  obtain ⟨_, _, _, parentFound⟩ := declares.parent_inRange isParent
  exact mem_ids_iff.mpr (lt_size_of_idOf? declares.names_nodup parentFound)

theorem children_closed
    (declares : hierarchy.Declares definitions)
    (id : Nat) :
    hierarchy.childrenOf id ⊆ hierarchy.ids := by
  rw [declares.childrenOf]
  exact List.filter_subset_self _

theorem mem_childrenOf_iff
    (declares : hierarchy.Declares definitions)
    {child parent : Nat} :
    child ∈ hierarchy.childrenOf parent ↔ parent ∈ hierarchy.parentsOf child := by
  rw [declares.childrenOf, List.mem_filter, List.contains_iff_mem, and_iff_right_iff_imp]
  intro isParent
  obtain ⟨_, _, childFound, _⟩ := declares.parent_inRange isParent
  exact mem_ids_iff.mpr (lt_size_of_idOf? declares.names_nodup childFound)

/-- One class descends from another when it inherits from it by name. -/
theorem descends_iff
    (declares : hierarchy.Declares definitions)
    {child ancestor : Nat}
    {childName ancestorName : String}
    (childFound : hierarchy.idOf? childName = some child)
    (ancestorFound : hierarchy.idOf? ancestorName = some ancestor) :
    hierarchy.Descends child ancestor ↔
      TransGen (Inherits definitions.declarations) childName ancestorName := by
  constructor
  · intro descends
    induction descends using TransGen.head_induction_on generalizing childName with
    | single isParent =>
        exact .single ((declares.parent_iff childFound ancestorFound).mp isParent)
    | head isParent _ inductionHypothesis =>
        obtain ⟨_, parentName, _, parentFound⟩ := declares.parent_inRange isParent
        exact .head ((declares.parent_iff childFound parentFound).mp isParent)
          (inductionHypothesis parentFound)
  · intro path
    induction path using TransGen.head_induction_on generalizing child with
    | single inherits =>
        exact .single ((declares.parent_iff childFound ancestorFound).mpr inherits)
    | head inherits _ inductionHypothesis =>
        obtain ⟨_, parent, _, parentFound⟩ := declares.inherits_found inherits
        exact .head ((declares.parent_iff childFound parentFound).mpr inherits)
          (inductionHypothesis parentFound)

/-- The test for descent finds the classes that inherit by name. -/
theorem isDescendantOf_iff
    (declares : hierarchy.Declares definitions)
    {child ancestor : Nat}
    {childName ancestorName : String}
    (childFound : hierarchy.idOf? childName = some child)
    (ancestorFound : hierarchy.idOf? ancestorName = some ancestor) :
    hierarchy.isDescendantOf child ancestor = true ↔
      TransGen (Inherits definitions.declarations) childName ancestorName := by
  rw [isDescendantOf, List.contains_iff_mem, mem_ancestors_iff declares.parents_closed,
    declares.descends_iff childFound ancestorFound]

end Hierarchy.Declares

end RecordSchema
