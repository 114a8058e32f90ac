import RecordSchema.Number.Shortest
import RecordSchema.Number.Word

namespace RecordSchema

/-!
# JSON values

The values that records hold.  A number is an integer or a double, and the two
are never equal.  The members of an object are kept as a list of keys and
values; a value in normal form has them sorted by key without repetition.
-/

/-- A JSON number: an integer, or a double where a fraction, an exponent or the size asks for one. -/
inductive Number where
  | integer (value : Int)
  | double (value : Binary64)
  deriving Repr, DecidableEq

namespace Number

/-- Numbers of one kind are compared by size. -/
def same : Number → Number → Bool
  | .integer left, .integer right => left == right
  | .double left, .double right => left.same right
  | _, _ => false

/-- The text of a number. -/
def toChars : Number → List Char
  | .integer value =>
      if value < 0 then '-' :: Nat.toDigits 10 value.natAbs else Nat.toDigits 10 value.natAbs
  | .double value => value.toChars

/-- The text of a number. -/
def toText (number : Number) : String :=
  String.ofList number.toChars

/-- The value of an integer that fits 64 bits with a sign. -/
def toInt64? : Number → Option Int64
  | .integer value => int64OfInt? value
  | .double _ => none

end Number

/-- A JSON value. -/
inductive Json where
  | null
  | bool (value : Bool)
  | number (value : Number)
  | string (value : String)
  | array (items : List Json)
  | object (members : List (String × Json))
  deriving Repr, Inhabited

namespace Json

/-- The integer as a JSON value. -/
def ofInt (value : Int) : Json :=
  .number (.integer value)

/-- The 64-bit integer as a JSON value. -/
def ofInt64 (value : Int64) : Json :=
  .ofInt value.toInt

/-- The count as a JSON value. -/
def ofNat (value : Nat) : Json :=
  .ofInt value

mutual

/-- Equality of values: numbers by size, arrays and objects part by part. -/
def same : Json → Json → Bool
  | .null, .null => true
  | .bool left, .bool right => left == right
  | .number left, .number right => left.same right
  | .string left, .string right => left == right
  | .array left, .array right => sameItems left right
  | .object left, .object right => sameMembers left right
  | _, _ => false

/-- Equality of arrays, item by item. -/
def sameItems : List Json → List Json → Bool
  | [], [] => true
  | left :: lefts, right :: rights => same left right && sameItems lefts rights
  | _, _ => false

/-- Equality of objects in normal form, member by member. -/
def sameMembers : List (String × Json) → List (String × Json) → Bool
  | [], [] => true
  | (leftKey, left) :: lefts, (rightKey, right) :: rights =>
      leftKey == rightKey && same left right && sameMembers lefts rights
  | _, _ => false

end

/-- Values are compared by `Json.same`. -/
instance : BEq Json :=
  ⟨same⟩

mutual

/-- How many objects enclose the innermost part of a value, itself counted. -/
def objectDepth : Json → Nat
  | .array items => objectDepthItems items
  | .object members => objectDepthMembers members + 1
  | _ => 0

/-- The greatest depth among items. -/
def objectDepthItems : List Json → Nat
  | [] => 0
  | item :: items => max (objectDepth item) (objectDepthItems items)

/-- The greatest depth among members. -/
def objectDepthMembers : List (String × Json) → Nat
  | [] => 0
  | (_, value) :: members => max (objectDepth value) (objectDepthMembers members)

end

/-- Whether the value is null. -/
def isNull : Json → Bool
  | .null => true
  | _ => false

/-- The name of a value's type in messages. -/
def typeName : Json → String
  | .null => "null"
  | .bool _ => "bool"
  | .number (.integer _) => "int"
  | .number (.double _) => "float"
  | .string _ => "string"
  | .array _ => "array"
  | .object _ => "object"

/-- The integer of a value that is one and fits 64 bits with a sign. -/
def toInt64? : Json → Option Int64
  | .number value => value.toInt64?
  | _ => none

/-- The value under a key of a list of members. -/
def memberOf? (key : String) (members : List (String × Json)) : Option Json :=
  members.lookup key

end Json

end RecordSchema
