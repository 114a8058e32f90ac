import RecordSchema.Json.Basic
import RecordSchema.SortedMap

namespace RecordSchema

/-!
# Building JSON values

Objects are built from members in any order and come out in normal form.
-/

namespace Json

/-- A list of members as an object in normal form. -/
def ofMembers (members : List (String × Json)) : Json :=
  .object (SortedMap.ofList members).entries

/-- The member of a field that is set. -/
def optionalMember (key : String) : Option Json → List (String × Json)
  | some value => [(key, value)]
  | none => []

/-- An array of strings. -/
def ofStrings (texts : List String) : Json :=
  .array (texts.map .string)

/-- A string, or null. -/
def ofOptionalString : Option String → Json
  | some text => .string text
  | none => .null

end Json

end RecordSchema
