import RecordSchema.Proofs.Definition.Loaded
import RecordSchema.Proofs.Registry.Linked
import RecordSchema.Proofs.Validation.Passes

namespace RecordSchema

/-!
# Where properties come from

Links, inheritance and indices leave the type, the constraints, the cast and the default of
a property alone.  They are those of the definition that declares it, unless it is the end
of an edge.  What loaded definitions declare is therefore plain, has no function for a
default, and has the cast of its type where the definition names none.
-/

open Declarations (DeclaresProperty ofSets)

namespace Property

/-- A property with the type, the constraints, the cast and the default of a definition. -/
structure IsFrom (property : Property) (definition : PropertyDefinition) : Prop where
  type : property.type = definition.kind.type
  constraints : constraintsOf? definition.kind = some property.constraints
  cast : property.cast = castOf? definition
  default : property.default = DefaultValue.ofDefinition? definition

theorem isFrom_of_ofDefinition
    {className : String}
    {definition : PropertyDefinition}
    {property : Property}
    (accepted : ofDefinition className definition = .ok property) :
    property.IsFrom definition := by
  obtain ⟨_, isConstraints, rfl⟩ := ofDefinition_eq_ok_iff.mp accepted
  exact ⟨rfl, isConstraints, rfl, rfl⟩

namespace IsFrom

variable
  {property : Property}
  {definition : PropertyDefinition}

theorem linkIn
    (isFrom : property.IsFrom definition)
    (hierarchy : Hierarchy) :
    (property.linkIn hierarchy).IsFrom definition := by
  rw [property.frame_linkIn]
  exact ⟨isFrom.type, isFrom.constraints, isFrom.cast, isFrom.default⟩

/-- The flags of indices keep where a property comes from. -/
theorem of_unflagged_eq
    {other : Property}
    (isFrom : property.IsFrom definition)
    (sameRest : other.unflagged = property.unflagged) :
    other.IsFrom definition where
  type := (congrArg Property.type sameRest).trans isFrom.type
  constraints :=
    isFrom.constraints.trans (congrArg (some ∘ Property.constraints) sameRest).symm
  cast := (congrArg Property.cast sameRest).trans isFrom.cast
  default := (congrArg Property.default sameRest).trans isFrom.default

/-- Where a written definition names no cast, a property has that of its type. -/
theorem hasDefaultCast
    (isFrom : property.IsFrom definition)
    (written : definition.IsWritten)
    (noCast : definition.cast = none) :
    property.HasDefaultCast := by
  rw [HasDefaultCast, isFrom.cast, castOf?, written.customCast, noCast, isFrom.type]
  rfl

/-- The property of a written definition is plain. -/
theorem isPlain
    (isFrom : property.IsFrom definition)
    (written : definition.IsWritten) :
    property.IsPlain where
  builtin := by
    cases named : definition.cast with
    | some kind =>
        refine .inl ⟨kind, ?_⟩
        rw [isFrom.cast, castOf?, written.customCast, named]
        rfl
    | none =>
        have default := isFrom.hasDefaultCast written named
        rw [HasDefaultCast] at default
        cases type : property.type with
        | embeddedlist =>
            exact .inr ⟨by rw [default, type]; rfl, by rw [type]; rfl⟩
        | embeddedset =>
            exact .inr ⟨by rw [default, type]; rfl, by rw [type]; rfl⟩
        | _ => exact .inl ⟨_, by rw [default, type]; rfl⟩
  constant := by
    intro value isConstant
    rw [isFrom.default, DefaultValue.ofDefinition?, written.defaultFunction] at isConstant
    cases constant : definition.default with
    | some other =>
        rw [constant] at isConstant
        cases isConstant
        exact written.default _ constant
    | none =>
        rw [constant] at isConstant
        cases generator : definition.defaultGenerator with
        | some source =>
            rw [generator] at isConstant
            cases isConstant
        | none =>
            rw [generator] at isConstant
            cases isConstant

/-- The default of a written definition is no function. -/
theorem default_ne_function
    (isFrom : property.IsFrom definition)
    (written : definition.IsWritten)
    (source : DefaultFunction) :
    property.default ≠ some (.function source) := by
  rw [isFrom.default, DefaultValue.ofDefinition?, written.defaultFunction]
  cases definition.default <;> cases definition.defaultGenerator <;> simp

/-- What embeds records has a least number of items for its only constraint, if any. -/
theorem constraints_of_isEmbedded
    (isFrom : property.IsFrom definition)
    (isEmbedded : property.type.isEmbedded = true) :
    ∃ minItems, property.constraints = { minItems } := by
  have isConstraints := isFrom.constraints
  rw [isFrom.type] at isEmbedded
  cases kind : definition.kind with
  | embedded _ =>
      rw [kind] at isConstraints
      exact ⟨none, (Option.some.inj isConstraints).symm⟩
  | embeddedlist _ minItems =>
      rw [kind] at isConstraints
      exact ⟨minItems, (Option.some.inj isConstraints).symm⟩
  | embeddedset _ minItems =>
      rw [kind] at isConstraints
      exact ⟨minItems, (Option.some.inj isConstraints).symm⟩
  | _ =>
      rw [kind] at isEmbedded
      cases isEmbedded

end IsFrom

theorem hasDefaultCast_of_endpoint
    {property : Property}
    {className name : String}
    (isEnd : property.unflagged = endpoint className name) :
    property.HasDefaultCast := by
  change property.unflagged.HasDefaultCast
  rw [isEnd]
  rfl

theorem isPlain_of_endpoint
    {property : Property}
    {className name : String}
    (isEnd : property.unflagged = endpoint className name) :
    property.IsPlain where
  builtin := .inl ⟨.recordId, congrArg Property.cast isEnd⟩
  constant value isConstant := by
    cases (congrArg Property.default isEnd).symm.trans isConstant

end Property

/-- The properties that completion adds are those that a document may write. -/
theorem DefinitionSet.isWritten_carrierProperty
    (className : String) :
    (carrierProperty className).IsWritten where
  customCast := rfl
  defaultFunction := rfl
  default value isDefault := by
    cases isDefault
    rfl

namespace Registry

/-- Definitions that declare a property under a name on the class that it is declared on. -/
def HasSource (definitions : DefinitionSet) (name : String) (property : Property) : Prop :=
  ∃ definition,
    DeclaresProperty definitions.declarations property.declaredOn definition ∧
      definition.name = name ∧ property.IsFrom definition

/-- A composed property comes from a definition that declares it, or it is the end of an edge. -/
theorem Founded.hasSource_or_endpoint
    {definitions : DefinitionSet}
    {base : Foundation}
    (founded : Founded definitions base)
    {id : Nat}
    {name : String}
    {property : Property}
    (has : (composedOf base.composition id).get? name = some property) :
    HasSource definitions name property ∨ property = .endpoint property.declaredOn name := by
  obtain ⟨origin, isOrigin⟩ := founded.exists_origin has
  obtain ⟨model, found, declaredOn, own | isEnd⟩ := isOrigin.source
  · obtain ⟨definition, entryFound, isFounded⟩ := founded.exists_definition found
    obtain ⟨declared, member, named, draft, read, rfl⟩ := (isFounded.own _ _).mp own
    refine .inl ⟨declared, ⟨definition, ?_, member⟩, named, ?_⟩
    · rw [declaredOn]
      exact Hierarchy.Declares.declared entryFound
    · exact (Property.isFrom_of_ofDefinition read).linkIn base.hierarchy
  · rw [declaredOn]
    exact .inr isEnd

/-- A property of a linked class comes from a definition, or it is the end of an edge. -/
theorem IsLinked.hasSource_or_endpoint
    {definitions : DefinitionSet}
    {base : Foundation}
    {registry : Registry}
    (linked : IsLinked definitions base registry)
    {model : ClassModel}
    (member : model ∈ registry.classes)
    {name : String}
    {property : Property}
    (has : model.effective.get? name = some property) :
    HasSource definitions name property ∨
      property.unflagged = .endpoint property.declaredOn name := by
  obtain ⟨id, found⟩ := List.mem_iff_getElem?.mp member
  obtain ⟨_, _, flagged⟩ := linked.origin found
  obtain ⟨composed, composedHas, isFlagged⟩ := flagged.effective.origin has
  have sameClass := Property.declaredOn_eq_of_unflagged isFlagged.unflagged
  rcases linked.founded.hasSource_or_endpoint composedHas with source | isEnd
  · obtain ⟨declared, declares, named, isFrom⟩ := source
    exact .inl ⟨declared, sameClass ▸ declares, named, isFrom.of_unflagged_eq isFlagged.unflagged⟩
  · rw [isFlagged.unflagged, linked.founded.unflagged_composed composedHas, sameClass]
    exact .inr isEnd

/-- Sets none of which names a cast for a property of a class. -/
def NamesNoCast (sets : List DefinitionSet) (className name : String) : Prop :=
  ∀ definition,
    DeclaresProperty (ofSets sets) className definition →
    definition.name = name →
    definition.cast = none

section Compiled

variable
  {sets : List DefinitionSet}
  {registry : Registry}
  {model : ClassModel}
  {name : String}
  {property : Property}

/--
A property of a compiled class comes from a definition of the sets, or from one that
completes the carrier, or it is the end of an edge.
-/
theorem declared_or_carried_or_endpoint
    (compiled : (compile sets).result = .ok registry)
    (member : model ∈ registry.classes)
    (has : model.effective.get? name = some property) :
    (∃ definition,
      DeclaresProperty (ofSets sets) property.declaredOn definition ∧
        definition.name = name ∧ property.IsFrom definition) ∨
      (∃ carried, property.IsFrom (DefinitionSet.carrierProperty carried)) ∨
        property.unflagged = .endpoint property.declaredOn name := by
  obtain ⟨united, base, unitedAccepted, linked⟩ := compile_ok compiled
  rcases linked.hasSource_or_endpoint member has with
    ⟨definition, declares, named, isFrom⟩ | isEnd
  · rcases DefinitionSet.declaresProperty_of_withCarrier declares with earlier | added
    · rw [DefinitionSet.declarations_of_unite unitedAccepted] at earlier
      exact .inl ⟨definition, earlier, named, isFrom⟩
    · obtain ⟨_, carried, _, _, _, _, _, rfl⟩ := DefinitionSet.mem_addedProperties_iff.mp added
      exact .inr (.inl ⟨carried, isFrom⟩)
  · exact .inr (.inr isEnd)

/-- Loaded definitions are written ones, and so are those that complete the carrier. -/
theorem source_of_compile
    (loaded : ∀ set ∈ sets, set.IsLoaded)
    (compiled : (compile sets).result = .ok registry)
    (member : model ∈ registry.classes)
    (has : model.effective.get? name = some property) :
    (∃ definition : PropertyDefinition,
      definition.IsWritten ∧ property.IsFrom definition ∧
        (NamesNoCast sets property.declaredOn name → definition.cast = none)) ∨
      property.unflagged = .endpoint property.declaredOn name := by
  rcases declared_or_carried_or_endpoint compiled member has with
    ⟨definition, declares, named, isFrom⟩ | ⟨_, isFrom⟩ | isEnd
  · have written : definition.IsWritten := by
      obtain ⟨classDefinition, ⟨set, setMember, declared⟩, propertyMember⟩ := declares
      exact (loaded set setMember).isWritten declared propertyMember
    exact .inl ⟨definition, written, isFrom, fun noCast => noCast definition declares named⟩
  · exact .inl ⟨_, DefinitionSet.isWritten_carrierProperty _, isFrom, fun _ => rfl⟩
  · exact .inr isEnd

/-- The properties of classes that are compiled from loaded definitions are plain. -/
theorem isPlain_of_compile
    (loaded : ∀ set ∈ sets, set.IsLoaded)
    (compiled : (compile sets).result = .ok registry)
    (member : model ∈ registry.classes)
    (has : model.effective.get? name = some property) :
    property.IsPlain := by
  rcases source_of_compile loaded compiled member has with ⟨_, written, isFrom, _⟩ | isEnd
  · exact isFrom.isPlain written
  · exact Property.isPlain_of_endpoint isEnd

/-- No default of classes that are compiled from loaded definitions is a function. -/
theorem default_ne_function_of_compile
    (loaded : ∀ set ∈ sets, set.IsLoaded)
    (compiled : (compile sets).result = .ok registry)
    (member : model ∈ registry.classes)
    (has : model.effective.get? name = some property)
    (source : DefaultFunction) :
    property.default ≠ some (.function source) := by
  rcases source_of_compile loaded compiled member has with ⟨_, written, isFrom, _⟩ | isEnd
  · exact isFrom.default_ne_function written source
  · intro isFunction
    cases (congrArg Property.default isEnd).symm.trans isFunction

/-- What embeds records has a least number of items for its only constraint, if any. -/
theorem constraints_of_compile
    (loaded : ∀ set ∈ sets, set.IsLoaded)
    (compiled : (compile sets).result = .ok registry)
    (member : model ∈ registry.classes)
    (has : model.effective.get? name = some property)
    (isEmbedded : property.type.isEmbedded = true) :
    ∃ minItems, property.constraints = { minItems } := by
  rcases source_of_compile loaded compiled member has with ⟨_, _, isFrom, _⟩ | isEnd
  · exact isFrom.constraints_of_isEmbedded isEmbedded
  · have isLink : property.type = .link := congrArg Property.type isEnd
    rw [isLink] at isEmbedded
    cases isEmbedded

/-- Where no set names a cast, a property has the one of its type. -/
theorem hasDefaultCast_of_compile
    (loaded : ∀ set ∈ sets, set.IsLoaded)
    (compiled : (compile sets).result = .ok registry)
    (member : model ∈ registry.classes)
    (has : model.effective.get? name = some property)
    (noCast : NamesNoCast sets property.declaredOn name) :
    property.HasDefaultCast := by
  rcases source_of_compile loaded compiled member has with
    ⟨_, written, isFrom, sameCast⟩ | isEnd
  · exact isFrom.hasDefaultCast written (sameCast noCast)
  · exact Property.hasDefaultCast_of_endpoint isEnd

end Compiled

end Registry

end RecordSchema
