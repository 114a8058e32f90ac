import RecordSchema.Definition.Basic
import RecordSchema.Json.Field

namespace RecordSchema

/-!
# Reading definitions

Unknown fields are skipped, absent fields take their defaults, and a field
written twice is refused.  A class and an index may be written as arrays of their
fields; a property is always an object, and all of its parts must have values,
also the parts that its type does not use.
-/

open Json (Document Fields)

namespace Operation

/-- The operation that a document names. -/
def ofDocument? (document : Document) : Option Operation :=
  document.toName?.map ofName

end Operation

namespace CastKind

/-- The cast that a document names. -/
def ofDocument? (document : Document) : Option CastKind :=
  document.toName?.bind ofName?

end CastKind

namespace DefaultGenerator

/-- The generator that a document names. -/
def ofDocument? (document : Document) : Option DefaultGenerator :=
  document.toName?.bind ofName?

end DefaultGenerator

namespace IndexKind

/-- The kind of index that a document names. -/
def ofDocument? (document : Document) : Option IndexKind :=
  document.toName?.bind ofName?

end IndexKind

namespace PropertyType

/-- The type that a document names, or points out by its position among the types. -/
def ofDocument? (document : Document) : Option PropertyType :=
  match document.toText? with
  | some name => ofName? name
  | none => document.toUInt8?.bind fun position => all[position.toNat]?

end PropertyType

namespace PropertyKind

/-- The constraints of a type among the fields of a property. -/
def ofFields? (fields : Fields) : PropertyType → Option PropertyKind
  | .string => do
      let nonEmpty ← fields.withDefault? "nonEmpty" false Document.toBool?
      let choices ← fields.optional? "choices" (Document.toList? Document.toText?)
      let pattern ← fields.optional? "pattern" Document.toText?
      return .string nonEmpty choices pattern
  | .integer => do
      let min ← fields.optional? "min" Document.toInt64?
      let max ← fields.optional? "max" Document.toInt64?
      let choices ← fields.optional? "choices" (Document.toList? Document.toInt64?)
      return .integer min max choices
  | .boolean => some .boolean
  | .link => (fields.optional? "linkedClass" Document.toText?).map .link
  | .linkset => do
      let linkedClass ← fields.optional? "linkedClass" Document.toText?
      let minItems ← fields.optional? "minItems" Document.toUInt64?
      return .linkset linkedClass minItems
  | .embedded => (fields.optional? "linkedClass" Document.toText?).map .embedded
  | .embeddedlist => do
      let linkedClass ← fields.optional? "linkedClass" Document.toText?
      let minItems ← fields.optional? "minItems" Document.toUInt64?
      return .embeddedlist linkedClass minItems
  | .embeddedset => do
      let linkedClass ← fields.optional? "linkedClass" Document.toText?
      let minItems ← fields.optional? "minItems" Document.toUInt64?
      return .embeddedset linkedClass minItems

end PropertyKind

namespace PropertyDefinition

/-- The property with the given fields. -/
def ofFields? (fields : Fields) : Option PropertyDefinition := do
  let name ← fields.required? "name" Document.toText?
  let type ← fields.required? "type" PropertyType.ofDocument?
  let kind ← PropertyKind.ofFields? fields type
  let mandatory ← fields.withDefault? "mandatory" false Document.toBool?
  let nullable ← fields.withDefault? "nullable" true Document.toBool?
  let default ← fields.optional? "default" Document.toJson?
  let defaultGenerator ← fields.optional? "defaultGenerator" DefaultGenerator.ofDocument?
  let cast ← fields.optional? "cast" CastKind.ofDocument?
  let generated ← fields.withDefault? "generated" false Document.toBool?
  let readOnly ← fields.withDefault? "readOnly" false Document.toBool?
  let description ← fields.optional? "description" Document.toText?
  return {
    name
    kind
    mandatory
    nullable
    default
    defaultGenerator
    cast
    generated
    readOnly
    description
  }

/-- The property that a document writes. -/
def ofDocument? (document : Document) : Option PropertyDefinition :=
  match document with
  | .object members =>
      match document.toJson?, Document.fields? [] (.object members) with
      | some _, some fields => ofFields? fields
      | _, _ => none
  | _ => none

end PropertyDefinition

/-- The treatment of nulls in an index. -/
def ignoreNullValues? (document : Document) : Option Bool := do
  let fields ← document.fields? ["ignoreNullValues"]
  Fields.withDefault? fields "ignoreNullValues" false Document.toBool?

namespace IndexDefinition

/-- The fields of an index in their declared order. -/
def fieldNames : List String :=
  ["name", "class", "type", "properties", "metadata"]

/-- The index that a document writes. -/
def ofDocument? (document : Document) : Option IndexDefinition := do
  let fields : Fields ← document.fields? fieldNames
  let name ← fields.required? "name" Document.toText?
  let className ← fields.optional? "class" Document.toText?
  let kind ← fields.required? "type" IndexKind.ofDocument?
  let properties ← fields.required? "properties" (Document.toList? Document.toText?)
  let ignoreNullValues ← fields.withDefault? "metadata" false ignoreNullValues?
  return { name, className, kind, properties, ignoreNullValues }

end IndexDefinition

namespace ClassDefinition

/-- The fields of a class in their declared order. -/
def fieldNames : List String :=
  ["isAbstract", "isEdge", "embedded", "inherits", "properties", "indices", "permissions",
    "expose", "description"]

/-- The class that a document writes. -/
def ofDocument? (document : Document) : Option ClassDefinition := do
  let fields : Fields ← document.fields? fieldNames
  let isAbstract ← fields.withDefault? "isAbstract" false Document.toBool?
  let isEdge ← fields.withDefault? "isEdge" false Document.toBool?
  let embedded ← fields.withDefault? "embedded" false Document.toBool?
  let inherits ← fields.withDefault? "inherits" [] (Document.toList? Document.toText?)
  let properties ←
    fields.withDefault? "properties" [] (Document.toList? PropertyDefinition.ofDocument?)
  let indices ← fields.withDefault? "indices" [] (Document.toList? IndexDefinition.ofDocument?)
  let permissions ← fields.optional? "permissions" (Document.toMap? Document.toUInt8?)
  let expose ← fields.withDefault? "expose" [] (Document.toList? Operation.ofDocument?)
  let description ← fields.optional? "description" Document.toText?
  return {
    isAbstract
    isEdge
    embedded
    inherits
    properties
    indices
    permissions
    expose
    description
  }

/-- The class that a value writes. -/
def ofJson? (value : Json) : Option ClassDefinition :=
  ofDocument? (.ofJson value)

end ClassDefinition

namespace DefinitionSet

/-- The classes that a document writes; of a repeated name the last counts. -/
def ofDocument? (document : Document) : Option DefinitionSet :=
  document.toMap? ClassDefinition.ofDocument?

/-- The classes that a value writes. -/
def ofJson? (value : Json) : Option DefinitionSet :=
  ofDocument? (.ofJson value)

/-- The classes that a text writes. -/
def read? (text : String) : Option DefinitionSet :=
  (Document.read? text).bind ofDocument?

end DefinitionSet

end RecordSchema
