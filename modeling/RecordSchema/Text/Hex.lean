namespace RecordSchema

/-!
# Hexadecimal digits
-/

namespace Text

/-- The value of a hexadecimal digit in either case. -/
def hexValue? (character : Char) : Option Nat :=
  if character.isDigit then
    some (character.toNat - '0'.toNat)
  else if 'a' ≤ character && character ≤ 'f' then
    some (character.toNat - 'a'.toNat + 10)
  else if 'A' ≤ character && character ≤ 'F' then
    some (character.toNat - 'A'.toNat + 10)
  else
    none

/-- The number of a text of hexadecimal digits, read on from a leading part. -/
def hexNumberFrom? (leading : Nat) : List Char → Option Nat
  | [] => some leading
  | digit :: rest =>
      match hexValue? digit with
      | none => none
      | some value => hexNumberFrom? (leading * 16 + value) rest

/-- A hexadecimal digit in lower case. -/
def hexDigit (value : Nat) : Char :=
  if value < 10 then Char.ofNat ('0'.toNat + value) else Char.ofNat ('a'.toNat + (value - 10))

/-- The numeric escape of a character below `0x10000`. -/
def unicodeEscape (character : Char) : List Char :=
  let code := character.toNat
  ['\\', 'u', hexDigit (code / 4096 % 16), hexDigit (code / 256 % 16), hexDigit (code / 16 % 16),
    hexDigit (code % 16)]

end Text

end RecordSchema
