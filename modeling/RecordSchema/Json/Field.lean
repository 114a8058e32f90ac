import RecordSchema.Json.Document

namespace RecordSchema

/-!
# Reading typed values from documents

Each reader takes the document of one value and refuses what is not of its type.
A structure is written as an object with named fields, of which unknown ones are
skipped, or as an array with the fields in their declared order.
-/

namespace Json

namespace Document

/-- The truth value of a document. -/
def toBool? : Document → Option Bool
  | .scalar (some (.bool value)) => some value
  | _ => none

/-- The text of a document. -/
def toText? : Document → Option String
  | .scalar (some (.string value)) => some value
  | _ => none

/-- The integer of a document. -/
def toInteger? : Document → Option Int
  | .scalar (some (.number (.integer value))) => some value
  | _ => none

/-- The 64-bit integer of a document. -/
def toInt64? (document : Document) : Option Int64 :=
  document.toInteger?.bind int64OfInt?

/-- The natural number of a document that fits 64 bits. -/
def toUInt64? (document : Document) : Option UInt64 :=
  document.toInteger?.bind uint64OfInt?

/-- The natural number of a document that fits 8 bits. -/
def toUInt8? (document : Document) : Option UInt8 :=
  document.toInteger?.bind uint8OfInt?

/-- The results for all items, if each has one. -/
def collect? (read : α → Option β) : List α → Option (List β)
  | [] => some []
  | item :: items =>
      match read item, collect? read items with
      | some value, some values => some (value :: values)
      | _, _ => none

/-- The items of an array, each read alike. -/
def toList? (read : Document → Option α) : Document → Option (List α)
  | .array items => collect? read items
  | _ => none

/-- A value that may be left out by writing null. -/
def toOptional? (read : Document → Option α) : Document → Option (Option α)
  | .scalar (some .null) => some none
  | document => (read document).map some

/-- A member with its key, read alike. -/
def toMember? (read : Document → Option α) (member : Option String × Document) :
    Option (String × α) :=
  match member.1, read member.2 with
  | some key, some value => some (key, value)
  | _, _ => none

/-- The members of an object by key, each read alike; of a repeated key the last counts. -/
def toMap? (read : Document → Option α) : Document → Option (SortedMap α)
  | .object members => (collect? (toMember? read) members).map SortedMap.ofList
  | _ => none

/-- A name from a closed list, written as a string or as the key of a single null. -/
def toName? : Document → Option String
  | .scalar (some (.string name)) => some name
  | .object [(some name, .scalar (some .null))] => some name
  | _ => none

/-- The fields of a structure with the declared names. -/
def fields? (names : List String) : Document → Option (List (String × Document))
  | .object members => collect? (toMember? some) members
  | .array items => if items.length ≤ names.length then some (names.zip items) else none
  | _ => none

end Document

/-- The fields of a structure as written. -/
abbrev Fields :=
  List (String × Document)

namespace Fields

/-- What is written for a field, in order. -/
def written (fields : Fields) (name : String) : List Document :=
  fields.filterMap fun field => if field.1 = name then some field.2 else none

/-- A field that must be written exactly once. -/
def required? (fields : Fields) (name : String) (read : Document → Option α) : Option α :=
  match fields.written name with
  | [document] => read document
  | _ => none

/-- A field that is written at most once, and its value when it is not. -/
def withDefault? (fields : Fields) (name : String) (absent : α) (read : Document → Option α) :
    Option α :=
  match fields.written name with
  | [] => some absent
  | [document] => read document
  | _ => none

/-- A field that is written at most once and may be null. -/
def optional? (fields : Fields) (name : String) (read : Document → Option α) :
    Option (Option α) :=
  fields.withDefault? name none (Document.toOptional? read)

end Fields

end Json

end RecordSchema
