import RecordSchema.Proofs.Registry.Drafts
import RecordSchema.Proofs.Registry.Links
import RecordSchema.Proofs.Registry.Parents

namespace RecordSchema

/-!
# The foundation of a registry

Definitions whose names and patterns can be read give classes with their own
properties, the hierarchy that they declare, and an order with parents first.  Every
step that refuses the definitions has found a defect of them.
-/

open Declarations (Defect Inherits IsInheritanceCycle)
open Hierarchy (IsCycle IsParentsFirst)

namespace Registry

/-- A class of a definition with its links looked up, before it inherits anything. -/
structure IsFounded
    (hierarchy : Hierarchy)
    (classId : Nat)
    (className : String)
    (definition : ClassDefinition)
    (model : ClassModel) : Prop where
  id : model.id = classId
  name : model.name = className
  isAbstract : model.isAbstract = definition.isAbstract
  isEdge : model.isEdge = definition.isEdge
  embedded : model.embedded = definition.embedded
  indices : model.indices = []
  own :
    ∀ propertyName property,
      model.own.get? propertyName = some property ↔
        ∃ declared ∈ definition.properties,
          declared.name = propertyName ∧
            ∃ draft,
              Property.ofDefinition className declared = .ok draft ∧
                property = draft.linkIn hierarchy

theorem isNamed_of_ofDefinition
    {id : Nat}
    {name : String}
    {definition : ClassDefinition}
    {draft : ClassModel}
    (accepted : ClassModel.ofDefinition id name definition = .ok draft) :
    draft.IsNamed := by
  obtain ⟨own, permissions, ownRead, _, rfl⟩ := ClassModel.ofDefinition_ok accepted
  intro propertyName property found
  rcases ((ClassModel.declareProperties_ok ownRead).2.2 _ _).mp found with
    absent | ⟨declared, _, named, read⟩
  · cases absent
  · obtain ⟨_, _, rfl⟩ := Property.ofDefinition_eq_ok_iff.mp read
    exact named

/-- A draft whose links are accepted is founded, and its links name classes. -/
theorem isFounded_of_resolved
    {hierarchy : Hierarchy}
    {id : Nat}
    {name : String}
    {definition : ClassDefinition}
    {draft model : ClassModel}
    (thawed : ∀ id, hierarchy.isFrozen id = false)
    (drafted : ClassModel.ofDefinition id name definition = .ok draft)
    (accepted : resolvePending hierarchy draft (pendingLinks draft) = .ok model) :
    IsFounded hierarchy id name definition model ∧
      ∀ declared ∈ definition.properties,
        ∀ linked, declared.kind.linkedClass? = some linked →
          ∃ target, hierarchy.idOf? linked = some target := by
  obtain ⟨known, own, rfl, lookups⟩ :=
    resolveModel_ok (thawed _) (isNamed_of_ofDefinition drafted) accepted
  obtain ⟨draftOwn, permissions, ownRead, _, rfl⟩ := ClassModel.ofDefinition_ok drafted
  obtain ⟨_, readable, draftLookups⟩ := ClassModel.declareProperties_ok ownRead
  constructor
  · refine ⟨rfl, rfl, rfl, rfl, rfl, rfl, fun propertyName property => ?_⟩
    rw [lookups, Option.map_eq_some_iff]
    constructor
    · rintro ⟨draft, found, rfl⟩
      rcases (draftLookups _ _).mp found with absent | ⟨declared, member, named, read⟩
      · cases absent
      · exact ⟨declared, member, named, draft, read, rfl⟩
    · rintro ⟨declared, member, named, draft, read, rfl⟩
      exact ⟨draft, (draftLookups _ _).mpr (.inr ⟨declared, member, named, read⟩), rfl⟩
  · intro declared member linked links
    obtain ⟨property, read⟩ := (readable declared member).2
    refine known declared.name property linked
      ((draftLookups _ _).mpr (.inr ⟨declared, member, rfl, read⟩)) ?_
    obtain ⟨_, _, rfl⟩ := Property.ofDefinition_eq_ok_iff.mp read
    simp [links]

/-- A refused link is one that a property of the class declares. -/
theorem defect_of_resolvePending_error
    {definitions : DefinitionSet}
    {hierarchy : Hierarchy}
    {id : Nat}
    {name : String}
    {definition : ClassDefinition}
    {draft : ClassModel}
    {error : DefinitionError}
    (declares : hierarchy.Declares definitions)
    (carried : DefinitionSet.carrierName ∈ definitions.keys)
    (declared : definitions.get? name = some definition)
    (drafted : ClassModel.ofDefinition id name definition = .ok draft)
    (refused : resolvePending hierarchy draft (pendingLinks draft) = .error error) :
    Defect definitions.declarations error := by
  have named := isNamed_of_ofDefinition drafted
  obtain ⟨link, member, unknown, rfl⟩ :=
    resolvePending_error (declares.isFrozen _) (pendingIn_pendingLinks named) refused
  obtain ⟨property, found, pending⟩ := (mem_pendingLinks_iff named).mp member
  obtain ⟨own, permissions, ownRead, _, rfl⟩ := ClassModel.ofDefinition_ok drafted
  rcases ((ClassModel.declareProperties_ok ownRead).2.2 _ _).mp found with
    absent | ⟨declaredProperty, declaredMember, propertyNamed, read⟩
  · cases absent
  · obtain ⟨_, _, rfl⟩ := Property.ofDefinition_eq_ok_iff.mp read
    refine ⟨definition, declared, ⟨declaredProperty, declaredMember, propertyNamed, ?_⟩, ?_⟩
    · simpa using pending
    · rw [declares.known_iff carried, unknown]
      simp

/-- The foundation that definitions give: each class founded, and parents first. -/
structure Founded (definitions : DefinitionSet) (base : Foundation) : Prop where
  declares : base.hierarchy.Declares definitions
  parentsFirst :
    IsParentsFirst base.hierarchy.parentsOf base.hierarchy.ids base.order
  length_models : base.models.length = definitions.entries.length
  models :
    ∀ id name definition,
      definitions.entries[id]? = some (name, definition) →
      ∃ model,
        base.models[id]? = some model ∧ IsFounded base.hierarchy id name definition model
  drafted :
    ∀ name definition,
      definitions.get? name = some definition →
      ∃ id draft, ClassModel.ofDefinition id name definition = .ok draft
  linked :
    ∀ name definition,
      definitions.get? name = some definition →
      ∀ declared ∈ definition.properties,
        ∀ linked, declared.kind.linkedClass? = some linked →
          ∃ target, base.hierarchy.idOf? linked = some target

/-- Definitions that are accepted so far give a foundation. -/
theorem foundation_ok
    {definitions : DefinitionSet}
    {base : Foundation}
    (accepted : foundation definitions = .ok base) :
    Founded definitions base := by
  rw [foundation] at accepted
  obtain ⟨drafts, drafting, accepted⟩ := exists_of_bind_ok accepted
  obtain ⟨hierarchy, adding, accepted⟩ := exists_of_bind_ok accepted
  obtain ⟨models, resolving, accepted⟩ := exists_of_bind_ok accepted
  obtain ⟨order, ordering, accepted⟩ := exists_of_bind_ok accepted
  cases accepted
  have declares := declares_of_addAllParents adding
  obtain ⟨draftCount, draftAt⟩ := draftFrom_ok drafting
  obtain ⟨modelCount, modelAt⟩ := resolveLinks_ok resolving
  have founded :
      ∀ id name definition,
        definitions.entries[id]? = some (name, definition) →
        ∃ draft model,
          ClassModel.ofDefinition id name definition = .ok draft ∧
            models[id]? = some model ∧
              resolvePending hierarchy draft (pendingLinks draft) = .ok model := by
    intro id name definition found
    obtain ⟨draft, draftFound, read⟩ := draftAt id name definition found
    obtain ⟨model, modelFound, resolved⟩ := modelAt id draft draftFound
    exact ⟨draft, model, Nat.zero_add id ▸ read, modelFound, resolved⟩
  refine
    { declares
      parentsFirst := Hierarchy.topologicalOrder_ok declares.parents_closed ordering
      length_models := modelCount.trans draftCount
      models := ?_
      drafted := ?_
      linked := ?_ }
  · intro id name definition found
    obtain ⟨draft, model, read, modelFound, resolved⟩ := founded id name definition found
    exact ⟨model, modelFound, (isFounded_of_resolved declares.isFrozen read resolved).1⟩
  · intro name definition declared
    obtain ⟨id, _, found⟩ := declares.exists_id declared
    obtain ⟨draft, _, read, _⟩ := founded id name definition found
    exact ⟨id, draft, read⟩
  · intro name definition declared
    obtain ⟨id, _, found⟩ := declares.exists_id declared
    obtain ⟨draft, model, read, _, resolved⟩ := founded id name definition found
    exact (isFounded_of_resolved declares.isFrozen read resolved).2

/-- A cycle of the hierarchy is one of the definitions. -/
theorem isInheritanceCycle_of_isCycle
    {definitions : DefinitionSet}
    {hierarchy : Hierarchy}
    {cycle : List Nat}
    (declares : hierarchy.Declares definitions)
    (isCycle : IsCycle hierarchy.parentsOf cycle) :
    IsInheritanceCycle definitions.declarations (hierarchy.nameOf (cycle.headD 0))
      (cycle.map hierarchy.nameOf) := by
  obtain ⟨⟨id, between, rfl⟩, chain⟩ := isCycle
  refine ⟨⟨between.map hierarchy.nameOf, by simp⟩, ?_⟩
  rw [List.isChain_map]
  exact chain.imp fun _ _ => declares.inherits_of_parent

/-- Definitions that are refused so far have the defect that is reported. -/
theorem defect_of_foundation_error
    {definitions : DefinitionSet}
    {error : DefinitionError}
    (carried : DefinitionSet.carrierName ∈ definitions.keys)
    (refused : foundation definitions = .error error) :
    Defect definitions.declarations error := by
  rw [foundation] at refused
  rcases refused_of_bind_error refused with draftRefused | ⟨drafts, drafting, refused⟩
  · obtain ⟨id, name, definition, member, classRefused⟩ := draftFrom_error draftRefused
    exact ClassModel.defect_of_ofDefinition_error
      (SortedMap.get?_eq_some_iff.mpr member) classRefused
  rcases refused_of_bind_error refused with parentsRefused | ⟨hierarchy, adding, refused⟩
  · exact defect_of_addAllParents_error carried parentsRefused
  have declares := declares_of_addAllParents adding
  rcases refused_of_bind_error refused with linksRefused | ⟨models, resolving, refused⟩
  · obtain ⟨draft, member, draftRefused⟩ := resolveLinks_error linksRefused
    obtain ⟨draftCount, draftAt⟩ := draftFrom_ok drafting
    obtain ⟨id, draftFound⟩ := List.mem_iff_getElem?.mp member
    obtain ⟨inRange, _⟩ := List.getElem?_eq_some_iff.mp draftFound
    obtain ⟨⟨name, definition⟩, found⟩ :
        ∃ entry, definitions.entries[id]? = some entry :=
      ⟨_, List.getElem?_eq_getElem (draftCount ▸ inRange)⟩
    obtain ⟨other, otherFound, read⟩ := draftAt id name definition found
    cases draftFound.symm.trans otherFound
    exact defect_of_resolvePending_error declares carried
      (Hierarchy.Declares.declared found) read draftRefused
  rcases refused_of_bind_error refused with orderRefused | ⟨order, _, built⟩
  · obtain ⟨cycle, isCycle, rfl⟩ :=
      Hierarchy.topologicalOrder_error declares.parents_closed orderRefused
    exact isInheritanceCycle_of_isCycle declares isCycle
  · cases built

end Registry

end RecordSchema
