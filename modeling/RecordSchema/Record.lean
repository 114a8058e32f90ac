import RecordSchema.Json.Basic
import RecordSchema.SortedMap

namespace RecordSchema

/-!
# Records

A record maps property names to values.  Its JSON form is the object with the
same members.
-/

/-- A map from property names to values. -/
abbrev Record :=
  SortedMap Json

namespace Record

/-- The record of the members of an object. -/
def ofMembers (members : List (String × Json)) : Record :=
  SortedMap.ofList members

/-- The record as an object. -/
def toJson (record : Record) : Json :=
  .object record.entries

end Record

end RecordSchema
