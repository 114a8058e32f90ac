import RecordSchema.Number.Word
import RecordSchema.Text.DecimalDigit

namespace RecordSchema

/-!
# Integers in text

The shape of an integer admits the decimal digits of every script, its value
only those of ASCII.
-/

namespace Text

/-- The value of an ASCII digit. -/
def digitValue (digit : Char) : Nat :=
  digit.toNat - '0'.toNat

/-- The value of a run of ASCII digits. -/
def digitsValue (digits : List Char) : Nat :=
  digits.foldl (fun value digit => value * 10 + digitValue digit) 0

/-- The value of ASCII digits, at least one. -/
def digitsValue? (digits : List Char) : Option Nat :=
  if digits.isEmpty || !digits.all Char.isDigit then none else some (digitsValue digits)

/-- A text without the minus sign it may begin with. -/
def dropMinus : List Char → List Char
  | '-' :: rest => rest
  | text => text

/-- An optional minus sign and decimal digits of any script, at least one. -/
def isIntegerShape (text : List Char) : Bool :=
  !(dropMinus text).isEmpty && (dropMinus text).all isDecimalDigit

/-- The integer written by an optional minus sign and ASCII digits. -/
def integerValue? (text : List Char) : Option Int :=
  match text with
  | '-' :: digits => (digitsValue? digits).map fun value => -Int.ofNat value
  | digits => (digitsValue? digits).map Int.ofNat

/-- The 64-bit integer written by an optional minus sign and ASCII digits. -/
def parseInt64? (text : List Char) : Option Int64 :=
  (integerValue? text).bind int64OfInt?

end Text

end RecordSchema
