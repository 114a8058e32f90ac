import RecordSchema.RecordId
import RecordSchema.Text.CaseMapping

namespace RecordSchema

/-!
# Casts

A cast brings a value into the canonical form that is stored, or says why it
cannot.  The built-in casts are named in definitions; others are functions that
a program attaches to a property.
-/

/-- The built-in casts. -/
inductive CastKind where
  | string
  | lowercase
  | nonEmptyString
  | lowercaseNonEmpty
  | integer
  | boolean
  | recordId
  | recordIdStrict
  | object
  deriving Repr, DecidableEq

namespace Cast

/-- The scalar's text with its words one space apart. -/
def toStringValue : Json → Except CastError String
  | .string text => .ok (Text.normalizeBlanks text)
  | .number value => .ok (Text.normalizeBlanks value.toText)
  | .bool value => .ok (if value then "true" else "false")
  | .null => .error ⟨"string", "null"⟩
  | value => .error ⟨"string", value.typeName ++ " is not a scalar"⟩

/-- The scalar's text, which may not be empty. -/
def toNonEmptyString (value : Json) : Except CastError String :=
  match toStringValue value with
  | .error error => .error error
  | .ok text => if text.isEmpty then .error ⟨"non-empty string", "empty string"⟩ else .ok text

/-- A 64-bit integer: a number, or a text of digits with an optional minus sign. -/
def toInteger : Json → Except CastError Int64
  | .number value =>
      match value.toInt64? with
      | some integer => .ok integer
      | none => .error ⟨"integer", value.toText ++ " is not an integer"⟩
  | .string text =>
      let trimmed := Text.trimChars text.toList
      let quoted := "'" ++ String.ofList trimmed ++ "'"
      if !Text.isIntegerShape trimmed then
        .error ⟨"integer", quoted ++ " is not an integer"⟩
      else
        match Text.parseInt64? trimmed with
        | some integer => .ok integer
        | none => .error ⟨"integer", quoted ++ " is out of range"⟩
  | value => .error ⟨"integer", value.typeName ++ " is not an integer"⟩

/-- A truth value, or the text of one in any case. -/
def toBoolean : Json → Except CastError Bool
  | .bool value => .ok value
  | .string text =>
      let word := Text.lowercase (Text.trim text)
      if word = "true" then
        .ok true
      else if word = "false" then
        .ok false
      else
        .error ⟨"boolean", "'" ++ text ++ "' is not a boolean"⟩
  | value => .error ⟨"boolean", value.typeName ++ " is not a boolean"⟩

/-- The error for a value that should be an object. -/
def notAnObject (value : Json) : CastError :=
  ⟨"object", value.typeName ++ " is not an object"⟩

/-- An object, unchanged. -/
def toObject : Json → Except CastError Json
  | .object members => .ok (.object members)
  | value => .error (notAnObject value)

end Cast

namespace CastKind

/-- The built-in casts, each once. -/
def all : List CastKind :=
  [.string, .lowercase, .nonEmptyString, .lowercaseNonEmpty, .integer, .boolean, .recordId,
    .recordIdStrict, .object]

/-- The name of a cast in definitions. -/
def name : CastKind → String
  | .string => "string"
  | .lowercase => "lowercase"
  | .nonEmptyString => "nonEmptyString"
  | .lowercaseNonEmpty => "lowercaseNonEmpty"
  | .integer => "integer"
  | .boolean => "boolean"
  | .recordId => "recordId"
  | .recordIdStrict => "recordIdStrict"
  | .object => "object"

/-- The cast of a name. -/
def ofName? (name : String) : Option CastKind :=
  all.find? fun kind => kind.name == name

/-- The canonical form of a value. -/
def apply (kind : CastKind) (value : Json) : Except CastError Json :=
  match kind with
  | .string => (Cast.toStringValue value).map .string
  | .lowercase => (Cast.toStringValue value).map fun text => .string (Text.lowercase text)
  | .nonEmptyString => (Cast.toNonEmptyString value).map .string
  | .lowercaseNonEmpty => (Cast.toNonEmptyString value).map fun text => .string (Text.lowercase text)
  | .integer => (Cast.toInteger value).map .ofInt64
  | .boolean => (Cast.toBoolean value).map .bool
  | .recordId => (RecordId.ofJson false value).map fun id => .string id.toText
  | .recordIdStrict => (RecordId.ofJson true value).map fun id => .string id.toText
  | .object => Cast.toObject value

end CastKind

/-- A cast written as a function; `identity` tells two casts of one name apart. -/
structure CustomCast where
  identity : Nat
  name : String
  apply : Json → Except CastError Json

/-- The cast of a property. -/
inductive Cast where
  | builtin (kind : CastKind)
  | custom (cast : CustomCast)

namespace Cast

/-- The name of a cast. -/
def name : Cast → String
  | .builtin kind => kind.name
  | .custom cast => cast.name

/-- The canonical form of a value. -/
def apply : Cast → Json → Except CastError Json
  | .builtin kind, value => kind.apply value
  | .custom cast, value => cast.apply value

/-- Built-in casts are the same by kind, others by identity. -/
def same : Cast → Cast → Bool
  | .builtin left, .builtin right => left == right
  | .custom left, .custom right => left.identity == right.identity
  | _, _ => false

end Cast

end RecordSchema
