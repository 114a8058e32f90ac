import RecordSchema.Definition.Basic
import RecordSchema.Json.Object

namespace RecordSchema

/-!
# Definitions as values

All fields with defaults are written, optional ones only where they are set.  The
constraints of a property stand beside its name, and functions are left out.
-/

open Json (optionalMember ofMembers ofStrings)

namespace PropertyKind

/-- The constraints that are set. -/
def members : PropertyKind → List (String × Json)
  | .string nonEmpty choices pattern =>
      ("nonEmpty", .bool nonEmpty) ::
        (optionalMember "choices" (choices.map ofStrings) ++
          optionalMember "pattern" (pattern.map .string))
  | .integer min max choices =>
      optionalMember "min" (min.map .ofInt64) ++ optionalMember "max" (max.map .ofInt64) ++
        optionalMember "choices" (choices.map fun values => .array (values.map .ofInt64))
  | .boolean => []
  | .link linkedClass | .embedded linkedClass =>
      optionalMember "linkedClass" (linkedClass.map .string)
  | .linkset linkedClass minItems | .embeddedlist linkedClass minItems
  | .embeddedset linkedClass minItems =>
      optionalMember "linkedClass" (linkedClass.map .string) ++
        optionalMember "minItems" (minItems.map fun bound => .ofNat bound.toNat)

end PropertyKind

namespace PropertyDefinition

/-- The value that writes a property. -/
def toJson (definition : PropertyDefinition) : Json :=
  ofMembers
    ([("name", .string definition.name), ("type", .string definition.kind.type.name),
      ("mandatory", .bool definition.mandatory), ("nullable", .bool definition.nullable),
      ("generated", .bool definition.generated), ("readOnly", .bool definition.readOnly)] ++
    definition.kind.members ++
    optionalMember "default" definition.default ++
    optionalMember "defaultGenerator"
      (definition.defaultGenerator.map fun generator => .string generator.name) ++
    optionalMember "cast" (definition.cast.map fun kind => .string kind.name) ++
    optionalMember "description" (definition.description.map .string))

end PropertyDefinition

namespace IndexDefinition

/-- The value that writes an index. -/
def toJson (definition : IndexDefinition) : Json :=
  ofMembers
    ([("name", .string definition.name), ("type", .string definition.kind.name),
      ("properties", ofStrings definition.properties),
      ("metadata", .object [("ignoreNullValues", .bool definition.ignoreNullValues)])] ++
    optionalMember "class" (definition.className.map .string))

end IndexDefinition

namespace ClassDefinition

/-- The value that writes a class. -/
def toJson (definition : ClassDefinition) : Json :=
  ofMembers
    ([("isAbstract", .bool definition.isAbstract), ("isEdge", .bool definition.isEdge),
      ("embedded", .bool definition.embedded), ("inherits", ofStrings definition.inherits),
      ("properties", .array (definition.properties.map PropertyDefinition.toJson)),
      ("indices", .array (definition.indices.map IndexDefinition.toJson)),
      ("expose", ofStrings (definition.expose.map Operation.name))] ++
    optionalMember "permissions"
      (definition.permissions.map fun masks =>
        .object (masks.mapValues fun _ bits => .ofNat bits.toNat).entries) ++
    optionalMember "description" (definition.description.map .string))

end ClassDefinition

namespace DefinitionSet

/-- The value that writes a set of definitions. -/
def toJson (definitions : DefinitionSet) : Json :=
  .object (definitions.mapValues fun _ definition => definition.toJson).entries

end DefinitionSet

end RecordSchema
