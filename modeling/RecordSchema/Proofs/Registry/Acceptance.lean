import RecordSchema.Proofs.Registry.Linked

namespace RecordSchema

/-!
# What is accepted

Sets of definitions give a registry exactly when they are well formed.  When they are
refused, the error describes a defect that they have; the errors that only a wrong
use of linked classes could cause are never seen.
-/

open Declarations (ofSets Known Inherits HasProperty DeclaresIndex Defect)
open Relation (TransGen)

namespace Registry

section Indices

variable
  {definitions : DefinitionSet}
  {base : Foundation}
  {declaring : String}
  {definition : IndexDefinition}

/-- The target of an index is a composed class of its name. -/
theorem Founded.target_of_bind
    (founded : Founded definitions base)
    {className : String}
    {target : ClassModel}
    (found :
      (base.hierarchy.idOf? className).bind (fun id => base.composed[id]?) = some target) :
    ∃ id model,
      base.hierarchy.idOf? className = some id ∧ base.models[id]? = some model ∧
        model.name = className ∧
          target = { model with effective := composedOf base.composition id } := by
  obtain ⟨id, idFound, targetFound⟩ := Option.bind_eq_some_iff.mp found
  rw [founded.getElem?_composed, Option.map_eq_some_iff] at targetFound
  obtain ⟨model, modelFound, rfl⟩ := targetFound
  refine ⟨id, model, idFound, modelFound, ?_, rfl⟩
  exact Hierarchy.name_unique founded.declares.names_nodup (founded.idOf?_name modelFound) idFound

theorem Founded.exists_target
    (founded : Founded definitions base)
    {className : String}
    {id : Nat}
    (idFound : base.hierarchy.idOf? className = some id) :
    ∃ target,
      (base.hierarchy.idOf? className).bind (fun id => base.composed[id]?) = some target := by
  obtain ⟨classDefinition, entryFound⟩ := founded.declares.idOf?_iff.mp idFound
  obtain ⟨model, modelFound, _⟩ := founded.models id className classDefinition entryFound
  rw [idFound, Option.bind_some, founded.getElem?_composed, modelFound]
  exact ⟨_, rfl⟩

/-- A refused index is a defect of the definitions. -/
theorem defect_of_refusal?
    (founded : Founded definitions base)
    (completed : definitions.IsCompleted)
    (declared : DeclaresIndex definitions.declarations declaring definition)
    {error : DefinitionError}
    (refused :
      refusal? base.hierarchy base.composed (.ofDefinition declaring definition) = some error) :
    Defect definitions.declarations error := by
  rw [refusal?] at refused
  split at refused
  · rename_i noTarget
    cases refused
    refine ⟨⟨declaring, definition, declared, rfl, rfl⟩, fun known => ?_⟩
    obtain ⟨id, idFound⟩ := (founded.declares.known_iff completed.carried).mp known
    obtain ⟨target, targetFound⟩ := founded.exists_target idFound
    cases targetFound.symm.trans noTarget
  · rename_i target targetFound
    obtain ⟨id, model, _, modelFound, named, rfl⟩ := founded.target_of_bind targetFound
    rw [indexDefect?] at refused
    split at refused
    · rename_i isEmpty
      cases refused
      exact ⟨declaring, definition, declared, rfl, named.symm, List.isEmpty_iff.mp isEmpty⟩
    · rw [Option.map_eq_some_iff] at refused
      obtain ⟨name, nameFound, rfl⟩ := refused
      refine ⟨⟨declaring, definition, declared, rfl, named.symm,
        List.mem_of_find?_eq_some nameFound⟩, fun given => ?_⟩
      have absent := List.find?_some nameFound
      rw [(founded.contains_iff_hasProperty completed modelFound).mpr given] at absent
      cases absent

/-- An admitted index is over properties that its target has. -/
theorem hasProperty_of_admitted
    (founded : Founded definitions base)
    (completed : definitions.IsCompleted)
    (admitted :
      refusal? base.hierarchy base.composed (.ofDefinition declaring definition) = none) :
    definition.properties ≠ [] ∧ Known definitions.declarations (definition.target declaring) ∧
      ∀ property ∈ definition.properties,
        HasProperty definitions.declarations (definition.target declaring) property := by
  rw [refusal?] at admitted
  split at admitted
  · cases admitted
  · rename_i target targetFound
    obtain ⟨id, model, idFound, modelFound, named, rfl⟩ := founded.target_of_bind targetFound
    obtain ⟨nonempty, covered⟩ := indexDefect?_eq_none_iff.mp admitted
    refine ⟨nonempty, (founded.declares.known_iff completed.carried).mpr ⟨id, idFound⟩, ?_⟩
    intro property member
    change HasProperty definitions.declarations (Index.ofDefinition declaring definition).className
      property
    rw [← named]
    exact (founded.contains_iff_hasProperty completed modelFound).mp (covered property member)

end Indices

section Linked

variable
  {sets : List DefinitionSet}
  {united : DefinitionSet}
  {base : Foundation}
  {registry : Registry}

/-- A name that a linked class goes by is known in the sets. -/
theorem known_of_idOf?
    (unitedAccepted : DefinitionSet.unite .empty sets = .ok united)
    (founded : Founded united.withCarrier base)
    {name : String}
    {id : Nat}
    (found : base.hierarchy.idOf? name = some id) :
    Known (ofSets sets) name := by
  rw [← DefinitionSet.declarations_of_unite unitedAccepted, ← DefinitionSet.known_withCarrier_iff,
    founded.declares.known_iff united.isCompleted_withCarrier.carried]
  exact ⟨id, found⟩

/-- Classes that are ordered with parents first inherit from each other without a cycle. -/
theorem acyclic_of_founded
    (unitedAccepted : DefinitionSet.unite .empty sets = .ok united)
    (founded : Founded united.withCarrier base)
    (className : String) :
    ¬TransGen (Inherits (ofSets sets)) className className := by
  intro cycle
  rw [← DefinitionSet.inherits_withCarrier_eq unitedAccepted] at cycle
  obtain ⟨parent, inherits, _⟩ := Relation.TransGen.head'_iff.mp cycle
  obtain ⟨id, _, found, _⟩ := founded.declares.inherits_found inherits
  have member : id ∈ base.hierarchy.ids :=
    Hierarchy.mem_ids_iff.mpr (Hierarchy.lt_size_of_idOf? founded.declares.names_nodup found)
  exact founded.parentsFirst.not_descends_self member
    ((founded.declares.descends_iff found found).mpr cycle)

/-- The definition of a linked class is well formed. -/
theorem wellFormedClass_of_linked
    (unitedAccepted : DefinitionSet.unite .empty sets = .ok united)
    (linked : IsLinked united.withCarrier base registry)
    {className : String}
    {definition : ClassDefinition}
    (declared : ofSets sets className definition) :
    WellFormedClass (ofSets sets) className definition := by
  have founded := linked.founded
  have completed := united.isCompleted_withCarrier
  have sameDeclarations := DefinitionSet.declarations_of_unite unitedAccepted
  rw [← sameDeclarations] at declared
  have completedDeclared := DefinitionSet.withCarrier_of_get? declared
  obtain ⟨draftId, draft, drafted⟩ := founded.drafted _ _ completedDeclared
  obtain ⟨own, permissions, ownRead, tableRead, _⟩ := ClassModel.ofDefinition_ok drafted
  obtain ⟨distinct, readable, _⟩ := ClassModel.declareProperties_ok ownRead
  obtain ⟨id, found, entryFound⟩ := founded.declares.exists_id completedDeclared
  have parents := founded.declares.parents_eq entryFound
  have admitted :
      ∀ index ∈ definition.indices,
        refusal? base.hierarchy base.composed (.ofDefinition className index) = none :=
    fun index member => linked.admitted className index ⟨_, completedDeclared, member⟩
  refine
    { propertiesDistinct := ?_
      patternsRead := ?_
      masksValid := PermissionTable.ofDefinition_ok tableRead
      parentsKnown := ?_
      parentsOther := ?_
      parentsDistinct := ?_
      linksKnown := ?_
      indicesNonempty := fun index member =>
        (hasProperty_of_admitted founded completed (admitted index member)).1
      indexTargetsKnown := ?_
      indexPropertiesPresent := ?_ }
  · rw [List.map_append] at distinct
    exact distinct.of_append_left
  · intro property member source demands
    obtain ⟨read, isRead⟩ := (readable property (List.mem_append_left _ member)).2
    obtain ⟨constraints, constraintsRead, _⟩ := Property.ofDefinition_eq_ok_iff.mp isRead
    rw [← Option.ne_none_iff_isSome]
    intro unreadable
    rw [Property.constraintsOf?_eq_none_iff.mpr ⟨source, demands, unreadable⟩] at constraintsRead
    cases constraintsRead
  · intro parent member
    obtain ⟨_, _, _, parentFound⟩ :=
      founded.declares.inherits_found ⟨_, completedDeclared, member⟩
    exact known_of_idOf? unitedAccepted founded parentFound
  · intro member
    exact founded.declares.not_self id
      ((founded.declares.parent_iff found found).mpr ⟨_, completedDeclared, member⟩)
  · have parentsNodup : ((base.hierarchy.parentsOf id).map some).Nodup :=
      (founded.declares.parents_nodup id).map (fun _ _ => Option.some.inj)
    rw [← parents] at parentsNodup
    exact parentsNodup.of_map
  · intro property member linkedName links
    obtain ⟨target, targetFound⟩ :=
      founded.linked _ _ completedDeclared property (List.mem_append_left _ member) linkedName
        links
    exact known_of_idOf? unitedAccepted founded targetFound
  · intro index member
    obtain ⟨_, known, _⟩ := hasProperty_of_admitted founded completed (admitted index member)
    rw [← sameDeclarations]
    exact DefinitionSet.known_withCarrier_iff.mp known
  · intro index member property covered
    obtain ⟨_, _, present⟩ :=
      hasProperty_of_admitted founded completed (admitted index member)
    rw [← sameDeclarations]
    exact DefinitionSet.hasProperty_of_withCarrier (present property covered)

/-- What is accepted is well formed. -/
theorem wellFormed_of_linked
    (unitedAccepted : DefinitionSet.unite .empty sets = .ok united)
    (linked : IsLinked united.withCarrier base registry) :
    WellFormed sets where
  disjoint className := by
    rw [← DefinitionSet.countP_cons_empty]
    exact (DefinitionSet.unite_ok unitedAccepted).2 className
  acyclic := acyclic_of_founded unitedAccepted linked.founded
  classes _ _ declared := wellFormedClass_of_linked unitedAccepted linked declared

end Linked

/-- What is refused has the defect that is reported. -/
theorem describesDefect_of_refused
    {sets : List DefinitionSet}
    {error : DefinitionError}
    (refused : (compile sets).result = .error error) :
    DescribesDefect sets error := by
  rcases compile_error refused with unionRefused | ⟨united, unitedAccepted, linkRefused⟩
  · obtain ⟨className, rfl, twice⟩ := DefinitionSet.unite_error unionRefused
    rw [DefinitionSet.countP_cons_empty] at twice
    exact twice
  · have completed := united.isCompleted_withCarrier
    have defect : Defect united.withCarrier.declarations error := by
      rcases link_error linkRefused with
        baseRefused | ⟨base, founded, declaring, definition, declared, indexRefused⟩
      · exact defect_of_foundation_error completed.carried baseRefused
      · exact defect_of_refusal? founded completed declared indexRefused
    have described := DefinitionSet.defect_of_withCarrier defect
    rw [DefinitionSet.declarations_of_unite unitedAccepted] at described
    cases error with
    | duplicateClass className => exact described.elim
    | _ => exact described

/--
Sets of definitions are accepted exactly when they are well formed.  Otherwise the error
describes a defect of them, and it is none of those that blame the linking itself.
-/
theorem compile_ok_iff_wellFormed
    (sets : List DefinitionSet) :
    ((∃ registry, (compile sets).result = .ok registry) ↔ WellFormed sets) ∧
      ∀ error,
        (compile sets).result = .error error →
        DescribesDefect sets error ∧
          (∀ className property, error ≠ .unknownProperty className property) ∧
            (∀ className property, error ≠ .alreadyResolved className property) ∧
              (∀ className, error ≠ .classFrozen className) ∧
                ∀ path reason, error ≠ .malformed path reason := by
  constructor
  · constructor
    · rintro ⟨registry, accepted⟩
      obtain ⟨united, base, unitedAccepted, linked⟩ := compile_ok accepted
      exact wellFormed_of_linked unitedAccepted linked
    · intro wellFormed
      cases outcome : (compile sets).result with
      | ok registry =>
          exact ⟨registry, rfl⟩
      | error error =>
          exact absurd wellFormed (describesDefect_of_refused outcome).not_wellFormed
  · intro error refused
    have described := describesDefect_of_refused refused
    refine ⟨described, ?_, ?_, ?_, ?_⟩
    · rintro className property rfl
      exact described
    · rintro className property rfl
      exact described
    · rintro className rfl
      exact described
    · rintro path reason rfl
      exact described

/-- Two classes with a property of one name, and a class that inherits from both. -/
def twoParents : List DefinitionSet :=
  [.ofList
    [("Left", { properties := [.ofType .string "label" none] }),
      ("Right", { properties := [.ofType .integer "label" none] }),
      ("Both", { inherits := ["Left", "Right"] })]]

theorem exists_compile_twoParents :
    ∃ registry, (compile twoParents).result = .ok registry := by
  have observed : (compile twoParents).result.toOption.isSome = true := by
    decide +kernel
  obtain ⟨registry, accepted⟩ := Option.isSome_iff_exists.mp observed
  exact ⟨registry, ok_of_toOption accepted⟩

/-- Two parents and their child are well formed; declared twice, they repeat a class. -/
theorem compile_ok_iff_wellFormed_twoParents :
    WellFormed twoParents ∧
      ∃ error,
        (compile (twoParents ++ twoParents)).result = .error error ∧
          DescribesDefect (twoParents ++ twoParents) error := by
  refine ⟨(compile_ok_iff_wellFormed twoParents).1.mp exists_compile_twoParents, ?_⟩
  have refused :
      (compile (twoParents ++ twoParents)).result = .error (.duplicateClass "Both") := by
    with_unfolding_all rfl
  exact ⟨_, refused, ((compile_ok_iff_wellFormed _).2 _ refused).1⟩

end Registry

end RecordSchema
