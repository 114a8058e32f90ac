import RecordSchema.Proofs.Registry.Effective
import RecordSchema.Proofs.Registry.Indices

namespace RecordSchema

/-!
# Linked registries

A registry that is compiled from sets of definitions is their completed union with
parents and links looked up, properties composed and indices attached.  Sets that are
refused have been refused by the union, by the foundation or for one index.
-/

open Declarations (DeclaresIndex)

namespace Registry

/-- The indices that definitions declare, each with its target. -/
def indicesOf (definitions : DefinitionSet) : List Index :=
  (declaredIndices definitions).map fun entry => .ofDefinition entry.1 entry.2

theorem mem_declaredIndices_iff
    {definitions : DefinitionSet}
    {entry : String × IndexDefinition} :
    entry ∈ declaredIndices definitions ↔
      DeclaresIndex definitions.declarations entry.1 entry.2 := by
  simp only [declaredIndices, List.mem_flatMap, List.mem_map, DeclaresIndex,
    DefinitionSet.declarations, SortedMap.get?_eq_some_iff, Prod.exists]
  constructor
  · rintro ⟨className, definition, member, index, indexMember, rfl⟩
    exact ⟨definition, member, indexMember⟩
  · rintro ⟨definition, member, indexMember⟩
    exact ⟨entry.1, definition, member, entry.2, indexMember, rfl⟩

/-- The classes of a foundation with their effective properties. -/
def Foundation.composed (base : Foundation) : List ClassModel :=
  withComposition base.models base.composition

namespace Founded

variable
  {definitions : DefinitionSet}
  {base : Foundation}

/-- Composed classes are those of the foundation with what is composed for them. -/
theorem getElem?_composed
    (founded : Founded definitions base)
    (id : Nat) :
    base.composed[id]? =
      (base.models[id]?).map fun model =>
        { model with effective := composedOf base.composition id } := by
  rw [Foundation.composed, withComposition, List.getElem?_map]
  cases found : base.models[id]? with
  | none =>
      rfl
  | some model =>
      obtain ⟨_, _, isFounded⟩ := founded.exists_definition found
      rw [Option.map_some, Option.map_some, isFounded.id]

theorem isPlaced
    (founded : Founded definitions base) :
    IsPlaced base.composed := by
  intro id composed found
  rw [founded.getElem?_composed, Option.map_eq_some_iff] at found
  obtain ⟨model, modelFound, rfl⟩ := found
  obtain ⟨_, _, isFounded⟩ := founded.exists_definition modelFound
  exact isFounded.id

theorem reaches
    (founded : Founded definitions base)
    {id descendant : Nat} :
    descendant ∈ base.hierarchy.descendants id ↔ base.hierarchy.Descends descendant id :=
  Hierarchy.mem_descendants_iff founded.declares.children_closed founded.declares.mem_childrenOf_iff

end Founded

/-- A registry that is linked from a foundation of definitions. -/
structure IsLinked
    (definitions : DefinitionSet)
    (base : Foundation)
    (registry : Registry) : Prop where
  foundation : foundation definitions = .ok base
  founded : Founded definitions base
  hierarchy : registry.hierarchy = base.hierarchy.freeze
  attached : Attached base.hierarchy (indicesOf definitions) base.composed registry.classes
  admitted :
    ∀ declaring definition,
      DeclaresIndex definitions.declarations declaring definition →
      refusal? base.hierarchy base.composed (.ofDefinition declaring definition) = none

/-- Resolution of a link keeps the flags of indices. -/
theorem unflagged_linkIn
    (hierarchy : Hierarchy)
    (property : Property) :
    (property.linkIn hierarchy).unflagged = property.unflagged.linkIn hierarchy := by
  obtain ⟨_, _, linkedClass⟩ := property
  cases linkedClass with
  | none =>
      rfl
  | some linked =>
      cases linked with
      | resolved id name =>
          rfl
      | pending name =>
          simp only [Property.linkIn, Property.unflagged]
          cases hierarchy.idOf? name <;> rfl

namespace Founded

variable
  {definitions : DefinitionSet}
  {base : Foundation}

theorem unflagged_own
    (founded : Founded definitions base)
    {id : Nat}
    {model : ClassModel}
    (found : base.models[id]? = some model)
    {name : String}
    {property : Property}
    (own : model.own.get? name = some property) :
    property.unflagged = property := by
  obtain ⟨_, _, isFounded⟩ := founded.exists_definition found
  obtain ⟨_, _, _, draft, read, rfl⟩ := (isFounded.own _ _).mp own
  obtain ⟨_, _, rfl⟩ := Property.ofDefinition_eq_ok_iff.mp read
  rw [unflagged_linkIn]
  rfl

theorem unflagged_composed
    (founded : Founded definitions base)
    {id : Nat}
    {name : String}
    {property : Property}
    (has : (composedOf base.composition id).get? name = some property) :
    property.unflagged = property := by
  obtain ⟨origin, isOrigin⟩ := founded.exists_origin has
  obtain ⟨model, found, _, own | rfl⟩ := isOrigin.source
  · exact founded.unflagged_own found own
  · rfl

end Founded

namespace IsLinked

variable
  {definitions : DefinitionSet}
  {base : Foundation}
  {registry : Registry}

theorem get?_eq
    (linked : IsLinked definitions base registry)
    (name : String) :
    registry.get? name = (base.hierarchy.idOf? name).bind registry.byId? := by
  rw [Registry.get?, linked.hierarchy, Hierarchy.idOf?_freeze]

/-- A class is a composed one with the flags of indices. -/
theorem origin
    (linked : IsLinked definitions base registry)
    {id : Nat}
    {attached : ClassModel}
    (found : registry.byId? id = some attached) :
    ∃ model,
      base.models[id]? = some model ∧
        FlaggedModel
          (fun name fulltext =>
            ∃ index ∈ indicesOf definitions, FlagsOwn base.hierarchy index id name fulltext)
          (fun name fulltext =>
            ∃ index ∈ indicesOf definitions,
              Flags base.hierarchy base.composed index id name fulltext)
          ((indicesOf definitions).filter fun index =>
            base.hierarchy.idOf? index.className = some id)
          { model with effective := composedOf base.composition id } attached := by
  obtain ⟨composed, composedFound, flagged⟩ := linked.attached.origin found
  rw [linked.founded.getElem?_composed, Option.map_eq_some_iff] at composedFound
  obtain ⟨model, modelFound, rfl⟩ := composedFound
  exact ⟨model, modelFound, flagged⟩

theorem exists_attached
    (linked : IsLinked definitions base registry)
    {id : Nat}
    {model : ClassModel}
    (found : base.models[id]? = some model) :
    ∃ attached, registry.byId? id = some attached := by
  have composedFound :
      base.composed[id]? =
        some { model with effective := composedOf base.composition id } := by
    rw [linked.founded.getElem?_composed, found, Option.map_some]
  obtain ⟨attached, attachedFound, _⟩ := linked.attached.models id _ composedFound
  exact ⟨attached, attachedFound⟩

theorem get?_name
    (linked : IsLinked definitions base registry)
    {id : Nat}
    {attached : ClassModel}
    (found : registry.byId? id = some attached) :
    base.hierarchy.idOf? attached.name = some id ∧ registry.get? attached.name = some attached := by
  obtain ⟨model, modelFound, flagged⟩ := linked.origin found
  have modelIdFound := linked.founded.idOf?_name modelFound
  have idFound : base.hierarchy.idOf? attached.name = some id := by
    rw [flagged.name_eq]
    exact modelIdFound
  exact ⟨idFound, by rw [linked.get?_eq, idFound, Option.bind_some, found]⟩

/-- The classes are those of the definitions, in order. -/
theorem names_eq
    (linked : IsLinked definitions base registry) :
    registry.names = definitions.keys := by
  have sameLength : registry.classes.length = definitions.keys.length := by
    rw [linked.attached.length_eq, Foundation.composed, withComposition, List.length_map,
      linked.founded.length_models, SortedMap.keys, List.length_map]
  refine List.ext_getElem (by rw [names, List.length_map, sameLength]) fun id inNames _ => ?_
  have inRange : id < registry.classes.length := by
    simpa [names] using inNames
  have found : registry.byId? id = some registry.classes[id] :=
    List.getElem?_eq_getElem inRange
  have named :=
    (Hierarchy.idOf?_eq_some_iff linked.founded.declares.names_nodup).mp (linked.get?_name found).1
  rw [linked.founded.declares.names] at named
  obtain ⟨_, isName⟩ := List.getElem?_eq_some_iff.mp named
  rw [isName]
  simp [names]

/-- What is found under a name is a class of that name. -/
theorem exists_id_of_get?
    (linked : IsLinked definitions base registry)
    {name : String}
    {attached : ClassModel}
    (found : registry.get? name = some attached) :
    ∃ id,
      base.hierarchy.idOf? name = some id ∧ registry.byId? id = some attached ∧
        attached.name = name := by
  rw [linked.get?_eq, Option.bind_eq_some_iff] at found
  obtain ⟨id, idFound, attachedFound⟩ := found
  refine ⟨id, idFound, attachedFound, ?_⟩
  exact Hierarchy.name_unique linked.founded.declares.names_nodup
    (linked.get?_name attachedFound).1 idFound

/-- A class is found under no name but its own. -/
theorem idOf?_iff
    (linked : IsLinked definitions base registry)
    {id : Nat}
    {attached : ClassModel}
    (found : registry.byId? id = some attached)
    {className : String} :
    base.hierarchy.idOf? className = some id ↔ className = attached.name := by
  have idFound := (linked.get?_name found).1
  constructor
  · intro otherFound
    exact Hierarchy.name_unique linked.founded.declares.names_nodup otherFound idFound
  · rintro rfl
    exact idFound

theorem parents_closed
    (linked : IsLinked definitions base registry)
    (id : Nat) :
    registry.hierarchy.parentsOf id ⊆ registry.hierarchy.ids := by
  rw [linked.hierarchy, Hierarchy.parentsOf_freeze, Hierarchy.ids_freeze]
  exact linked.founded.declares.parents_closed id

theorem descends_eq
    (linked : IsLinked definitions base registry) :
    registry.hierarchy.Descends = base.hierarchy.Descends := by
  rw [Hierarchy.Descends, linked.hierarchy, Hierarchy.parent_freeze]
  rfl

theorem isDescendantOf_iff
    (linked : IsLinked definitions base registry)
    {first second : String}
    {firstId secondId : Nat}
    (firstFound : base.hierarchy.idOf? first = some firstId)
    (secondFound : base.hierarchy.idOf? second = some secondId) :
    registry.isDescendantOf first second = true ↔ base.hierarchy.Descends firstId secondId := by
  have sameIds : registry.hierarchy.idOf? = base.hierarchy.idOf? := by
    rw [linked.hierarchy, Hierarchy.idOf?_freeze]
  rw [Registry.isDescendantOf, sameIds, firstFound, secondFound]
  change registry.hierarchy.isDescendantOf firstId secondId = true ↔ _
  rw [Hierarchy.isDescendantOf, List.contains_iff_mem,
    Hierarchy.mem_ancestors_iff linked.parents_closed, linked.descends_eq]

/-- The indices of a registry are those that the definitions declare. -/
theorem mem_indices_iff
    (linked : IsLinked definitions base registry)
    {index : Index} :
    index ∈ registry.indices ↔ index ∈ indicesOf definitions := by
  rw [Registry.indices, List.mem_flatMap]
  constructor
  · rintro ⟨attached, member, hasIndex⟩
    obtain ⟨id, found⟩ := List.mem_iff_getElem?.mp member
    obtain ⟨model, modelFound, flagged⟩ := linked.origin found
    obtain ⟨_, _, isFounded⟩ := linked.founded.exists_definition modelFound
    rw [flagged.indices, isFounded.indices, List.nil_append] at hasIndex
    exact (List.mem_filter.mp hasIndex).1
  · intro member
    obtain ⟨⟨declaring, definition⟩, entryMember, rfl⟩ := List.mem_map.mp member
    have admitted := linked.admitted _ _ (mem_declaredIndices_iff.mp entryMember)
    rw [refusal?] at admitted
    split at admitted
    · cases admitted
    · rename_i target targetFound
      obtain ⟨id, idFound, composedFound⟩ := Option.bind_eq_some_iff.mp targetFound
      obtain ⟨attached, attachedFound, flagged⟩ := linked.attached.models id target composedFound
      refine ⟨attached, List.mem_of_getElem? attachedFound, ?_⟩
      rw [flagged.indices]
      exact List.mem_append_right _ (List.mem_filter.mpr ⟨member, by simpa using idFound⟩)

/-- Without flags a class has what is composed for it. -/
theorem unflagged_effective
    (linked : IsLinked definitions base registry)
    (id : Nat)
    (name : String) :
    ((registry.byId? id).bind fun attached =>
        (attached.effective.get? name).map Property.unflagged) =
      (composedOf base.composition id).get? name := by
  cases found : registry.byId? id with
  | none =>
      have outOfRange : base.composition.length ≤ id := by
        rw [linked.founded.isComposed.length_eq]
        by_contra smaller
        obtain ⟨attached, attachedFound⟩ :=
          linked.exists_attached (List.getElem?_eq_getElem (Nat.not_le.mp smaller))
        cases found.symm.trans attachedFound
      rw [Option.bind_none, composedOf_eq_empty outOfRange, SortedMap.get?_empty]
  | some attached =>
      obtain ⟨model, _, flagged⟩ := linked.origin found
      rw [Option.bind_some, flagged.effective.unflagged_eq]
      cases has : (composedOf base.composition id).get? name with
      | none =>
          rfl
      | some property =>
          rw [Option.map_some, linked.founded.unflagged_composed has]

end IsLinked

/-- Definitions that are accepted give a linked registry. -/
theorem link_ok
    {definitions : DefinitionSet}
    {registry : Registry}
    (accepted : (link definitions).result = .ok registry) :
    ∃ base, IsLinked definitions base registry := by
  rw [link] at accepted
  split at accepted
  · cases accepted
  · rename_i base baseAccepted
    have founded := foundation_ok baseAccepted
    dsimp only at accepted
    split at accepted
    · cases accepted
    · rename_i classes classesAccepted
      cases accepted
      obtain ⟨admitted, attached⟩ :=
        attachIndices_ok founded.reaches founded.isPlaced classesAccepted
      exact ⟨base, baseAccepted, founded, rfl, attached, fun declaring definition declared =>
        admitted (declaring, definition) (mem_declaredIndices_iff.mpr declared)⟩

/-- Definitions that are refused have no foundation, or an index of them is refused. -/
theorem link_error
    {definitions : DefinitionSet}
    {error : DefinitionError}
    (refused : (link definitions).result = .error error) :
    foundation definitions = .error error ∨
      ∃ base,
        Founded definitions base ∧
          ∃ declaring definition,
            DeclaresIndex definitions.declarations declaring definition ∧
              refusal? base.hierarchy base.composed (.ofDefinition declaring definition) =
                some error := by
  rw [link] at refused
  split at refused
  · rename_i baseError baseRefused
    cases refused
    exact .inl baseRefused
  · rename_i base baseAccepted
    have founded := foundation_ok baseAccepted
    dsimp only at refused
    split at refused
    · rename_i indexError indexRefused
      cases refused
      obtain ⟨entry, member, isRefused⟩ :=
        attachIndices_error founded.reaches founded.isPlaced indexRefused
      exact .inr ⟨base, founded, entry.1, entry.2, mem_declaredIndices_iff.mp member, isRefused⟩
    · cases refused

/-- Sets that are accepted have a union whose completion is linked. -/
theorem compile_ok
    {sets : List DefinitionSet}
    {registry : Registry}
    (accepted : (compile sets).result = .ok registry) :
    ∃ united base,
      DefinitionSet.unite .empty sets = .ok united ∧
        IsLinked united.withCarrier base registry := by
  rw [compile, linkSets] at accepted
  split at accepted
  · cases accepted
  · rename_i united unitedAccepted
    obtain ⟨base, isLinked⟩ := link_ok accepted
    exact ⟨united, base, unitedAccepted, isLinked⟩

/-- Sets that are refused have no union, or its completion is refused. -/
theorem compile_error
    {sets : List DefinitionSet}
    {error : DefinitionError}
    (refused : (compile sets).result = .error error) :
    DefinitionSet.unite .empty sets = .error error ∨
      ∃ united,
        DefinitionSet.unite .empty sets = .ok united ∧
          (link united.withCarrier).result = .error error := by
  rw [compile, linkSets] at refused
  split at refused
  · rename_i unionError unionRefused
    cases refused
    exact .inl unionRefused
  · rename_i united unitedAccepted
    exact .inr ⟨united, unitedAccepted, refused⟩

theorem mem_classes_of_get?
    {registry : Registry}
    {name : String}
    {model : ClassModel}
    (found : registry.get? name = some model) :
    model ∈ registry.classes := by
  obtain ⟨_, _, foundAt⟩ := Option.bind_eq_some_iff.mp found
  exact List.mem_of_getElem? foundAt

theorem mem_classes_of_linkedClass?
    {registry : Registry}
    {property : Property}
    {linked : ClassModel}
    (found : registry.linkedClass? property = some linked) :
    linked ∈ registry.classes := by
  obtain ⟨_, _, foundAt⟩ := Option.bind_eq_some_iff.mp found
  exact List.mem_of_getElem? foundAt

/-- What holds of each effective property of each class. -/
def Every (registry : Registry) (holds : Property → Prop) : Prop :=
  ∀ model ∈ registry.classes, ∀ name property,
    model.effective.get? name = some property → holds property

theorem Every.imp
    {registry : Registry}
    {holds implied : Property → Prop}
    (every : registry.Every holds)
    (imply : ∀ {property}, holds property → implied property) :
    registry.Every implied :=
  fun model member name property has => imply (every model member name property has)

theorem every_iff
    {registry : Registry}
    {holds : Property → Prop} :
    registry.Every holds ↔
      ∀ model ∈ registry.classes, ∀ entry ∈ model.effective.entries, holds entry.2 := by
  constructor
  · intro every model member entry entryMember
    exact every model member entry.1 entry.2 (SortedMap.get?_eq_some_iff.mpr entryMember)
  · intro every model member name property has
    exact every model member (name, property) (SortedMap.get?_eq_some_iff.mp has)

instance
    {registry : Registry}
    {holds : Property → Prop}
    [DecidablePred holds] :
    Decidable (registry.Every holds) :=
  decidable_of_iff _ every_iff.symm

theorem ok_of_toOption
    {outcome : Except ε α}
    {value : α}
    (present : outcome.toOption = some value) :
    outcome = .ok value := by
  cases outcome with
  | error error =>
      cases present
  | ok other =>
      cases present
      rfl

end Registry

end RecordSchema
