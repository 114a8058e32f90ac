import RecordSchema.Definition.Reader
import RecordSchema.Proofs.Json.Field

namespace RecordSchema

/-!
# Loaded definitions

Definitions that a document writes have no functions attached to them, and a constant
default that is written is not null: where null is written there is none.  Each of them is
read of a part of the document.
-/

open Json (Document Fields)

namespace Json.Document

/-- Only a written null has the value null. -/
theorem eq_null_of_toJson?
    {document : Document}
    (isNull : document.toJson? = some .null) :
    document = .scalar (some .null) := by
  cases document with
  | scalar value =>
      exact congrArg Document.scalar isNull
  | array items =>
      obtain ⟨_, _, same⟩ := Option.map_eq_some_iff.mp isNull
      cases same
  | object members =>
      obtain ⟨_, _, same⟩ := Option.map_eq_some_iff.mp isNull
      cases same

end Json.Document

/-- A property that is read has no functions, and its default is read of a part but null. -/
theorem PropertyDefinition.ofDocument?_eq_some
    {document : Document}
    {definition : PropertyDefinition}
    (isRead : ofDocument? document = some definition) :
    definition.customCast = none ∧ definition.defaultFunction = none ∧
      ∀ value,
        definition.default = some value →
        ∃ part : Document,
          part.IsPartOf document ∧ part ≠ .scalar (some .null) ∧ part.toJson? = some value := by
  rw [ofDocument?.eq_def] at isRead
  split at isRead
  · split at isRead
    · rename_i fieldsRead
      rw [ofFields?] at isRead
      simp only [Option.bind_eq_bind, Option.bind_eq_some_iff] at isRead
      obtain ⟨_, _, _, _, _, _, _, _, _, _, default, defaultRead, _, _, _, _, _, _, _, _, _, _,
        shape⟩ := isRead
      cases shape
      refine ⟨rfl, rfl, fun value isDefault => ?_⟩
      cases isDefault
      rcases Fields.withDefault?_eq_some defaultRead with isAbsent | ⟨field, inFields, fieldRead⟩
      · cases isAbsent
      · exact ⟨field.2, Document.isPartOf_of_fields? fieldsRead inFields,
          Document.toOptional?_eq_some fieldRead⟩
    · cases isRead
  · cases isRead

/-- A property of a class that is read is read of a part of a part. -/
theorem ClassDefinition.exists_of_ofDocument?
    {document : Document}
    {definition : ClassDefinition}
    (isRead : ofDocument? document = some definition)
    {property : PropertyDefinition}
    (member : property ∈ definition.properties) :
    ∃ list part : Document,
      list.IsPartOf document ∧ part.IsPartOf list ∧
        PropertyDefinition.ofDocument? part = some property := by
  rw [ofDocument?] at isRead
  simp only [Option.bind_eq_bind, Option.bind_eq_some_iff] at isRead
  obtain ⟨fields, fieldsRead, _, _, _, _, _, _, _, _, properties, propertiesRead, _, _, _, _, _, _,
    _, _, shape⟩ := isRead
  cases shape
  rcases Fields.withDefault?_eq_some propertiesRead with rfl | ⟨field, inFields, listRead⟩
  · cases member
  · obtain ⟨part, isItem, partRead⟩ := Document.exists_of_toList? listRead member
    exact ⟨field.2, part, Document.isPartOf_of_fields? fieldsRead inFields, isItem, partRead⟩

/-- A property that a document may write: no function, and no null as its default. -/
structure PropertyDefinition.IsWritten (definition : PropertyDefinition) : Prop where
  customCast : definition.customCast = none
  defaultFunction : definition.defaultFunction = none
  default : ∀ value, definition.default = some value → value.isNull = false

/-- The property of a document is one that it may write. -/
theorem PropertyDefinition.isWritten_of_ofDocument?
    {document : Document}
    {definition : PropertyDefinition}
    (isRead : ofDocument? document = some definition) :
    definition.IsWritten := by
  obtain ⟨customCast, defaultFunction, ofDefault⟩ := ofDocument?_eq_some isRead
  refine ⟨customCast, defaultFunction, fun value isDefault => ?_⟩
  obtain ⟨part, _, notNull, partRead⟩ := ofDefault value isDefault
  cases value with
  | null => exact absurd (Document.eq_null_of_toJson? partRead) notNull
  | _ => rfl

/-- The properties of a class that a document writes are those that it may write. -/
theorem ClassDefinition.isWritten_of_ofDocument?
    {document : Document}
    {definition : ClassDefinition}
    (isRead : ofDocument? document = some definition) :
    ∀ property ∈ definition.properties, property.IsWritten := by
  intro property member
  obtain ⟨_, _, _, _, partRead⟩ := exists_of_ofDocument? isRead member
  exact PropertyDefinition.isWritten_of_ofDocument? partRead

namespace DefinitionSet

/-- A set of definitions that a document writes. -/
def IsLoaded (definitions : DefinitionSet) : Prop :=
  ∃ document, ofDocument? document = some definitions

/-- The properties of loaded definitions are those that a document may write. -/
theorem IsLoaded.isWritten
    {definitions : DefinitionSet}
    (loaded : definitions.IsLoaded)
    {className : String}
    {definition : ClassDefinition}
    (declared : definitions.get? className = some definition)
    {property : PropertyDefinition}
    (member : property ∈ definition.properties) :
    property.IsWritten := by
  obtain ⟨document, isRead⟩ := loaded
  obtain ⟨classDocument, _, classRead⟩ := Json.Document.exists_of_toMap? isRead declared
  exact ClassDefinition.isWritten_of_ofDocument? classRead property member

theorem isLoaded_of_ofDocument?
    {document : Document}
    {set : DefinitionSet}
    (isRead : ofDocument? document = some set) :
    ∀ other ∈ [set], other.IsLoaded := by
  intro other member
  rw [List.mem_singleton.mp member]
  exact ⟨document, isRead⟩

end DefinitionSet

end RecordSchema
