import RecordSchema.Json.Basic
import RecordSchema.Text.Hex
import RecordSchema.Text.Integer

namespace RecordSchema

/-!
# The tokens of JSON text

A text is read character by character.  Between two characters the reader is
between tokens, inside a word, inside a number or inside a string, and one step
moves it on and may complete tokens.

A number beyond the doubles and a string with half of a surrogate pair are well
formed but have no value.  They are tokens without one, because a reader that
skips a part of the text does not ask for the value.
-/

namespace Json

/-- A mark, a literal or a string of JSON text; what is well formed may lack a value. -/
inductive Token where
  | openArray
  | closeArray
  | openObject
  | closeObject
  | comma
  | colon
  | null
  | bool (value : Bool)
  | number (value : Option Number)
  | string (value : Option String)
  deriving Repr, DecidableEq

namespace Literal

/-- The largest value that the digits of a literal may form. -/
def greatestSignificand : Nat :=
  UInt64.size - 1

/-- Leading digits taken into a significand while it fits 64 bits, and the digits left over. -/
def takeDigits (significand : Nat) : List Char → Nat × List Char
  | [] => (significand, [])
  | digit :: rest =>
      let longer := significand * 10 + Text.digitValue digit
      if longer ≤ greatestSignificand then
        takeDigits longer rest
      else
        (significand, digit :: rest)

/-- The parts of a number literal. -/
structure Parts where
  negative : Bool
  whole : List Char
  fraction : Option (List Char)
  exponent : Option Int
  deriving Repr, DecidableEq

/-- An exponent with an optional sign, at least one digit long. -/
def exponent? (text : List Char) : Option Int :=
  let (negative, digits) := match text with
    | '-' :: rest => (true, rest)
    | '+' :: rest => (false, rest)
    | rest => (false, rest)
  (Text.digitsValue? digits).map fun value => if negative then -Int.ofNat value else value

/-- What follows the whole part: nothing, a fraction, an exponent, or both. -/
def afterWhole? (negative : Bool) (whole : List Char) : List Char → Option Parts
  | [] => some ⟨negative, whole, none, none⟩
  | '.' :: rest =>
      let digits := rest.takeWhile Char.isDigit
      if digits.isEmpty then
        none
      else
        match rest.dropWhile Char.isDigit with
        | [] => some ⟨negative, whole, some digits, none⟩
        | mark :: exponent =>
            if mark = 'e' || mark = 'E' then
              (exponent? exponent).map fun value => ⟨negative, whole, some digits, some value⟩
            else
              none
  | mark :: exponent =>
      if mark = 'e' || mark = 'E' then
        (exponent? exponent).map fun value => ⟨negative, whole, none, some value⟩
      else
        none

/-- The parts of a literal: an optional minus sign and no superfluous leading zero. -/
def parts? (text : List Char) : Option Parts :=
  let (negative, rest) := match text with
    | '-' :: rest => (true, rest)
    | rest => (false, rest)
  let whole := rest.takeWhile Char.isDigit
  if whole.isEmpty || (1 < whole.length && whole.head? == some '0') then
    none
  else
    afterWhole? negative whole (rest.dropWhile Char.isDigit)

/-- The double of a literal, nothing when it lies beyond the largest one. -/
def toDouble? (parts : Parts) : Option Binary64 :=
  let (wholeSignificand, wholeLeft) := takeDigits 0 parts.whole
  let digits := parts.fraction.getD []
  let (significand, fractionLeft) := takeDigits wholeSignificand digits
  let shift : Int := Int.ofNat wholeLeft.length - Int.ofNat (digits.length - fractionLeft.length)
  (Binary64.ofNat? significand).bind fun size =>
    (size.scaleByTen? (shift + parts.exponent.getD 0)).map (Binary64.withSign parts.negative)

/--
The number of a literal.  A literal of digits alone is an integer when it fits
64 bits with a sign, or without one when positive; minus zero is a double.
-/
def toNumber? (parts : Parts) : Option Number :=
  let value := Text.digitsValue parts.whole
  let integral := parts.fraction.isNone && parts.exponent.isNone
  if integral && !parts.negative && value ≤ greatestSignificand then
    some (.integer value)
  else if integral && parts.negative && 0 < value && value ≤ Int64.minValue.toInt.natAbs then
    some (.integer (-Int.ofNat value))
  else
    (toDouble? parts).map .double

end Literal

/-- The token of a number literal. -/
def literalToken? (text : List Char) : Option Token :=
  (Literal.parts? text).map fun parts => .number (Literal.toNumber? parts)

/--
Where the reader stands.  Collected characters are in reverse order, and those of
a string that has lost its value are not collected.
-/
inductive Scan where
  | between
  | word (letters : List Char)
  | literal (characters : List Char)
  | text (characters : Option (List Char))
  | escape (characters : Option (List Char))
  | unicode (characters : Option (List Char)) (high : Option Nat) (missing : Nat) (value : Nat)
  | lowMark (characters : Option (List Char)) (high : Nat)
  | lowEscape (characters : Option (List Char)) (high : Nat)
  deriving Repr, DecidableEq

/-- The blanks that may stand between tokens. -/
def isSpace (character : Char) : Bool :=
  character == ' ' || character == '\t' || character == '\n' || character == '\r'

/-- The characters that a number literal is made of. -/
def isLiteralCharacter (character : Char) : Bool :=
  character.isDigit || character == '-' || character == '+' || character == '.' ||
    character == 'e' || character == 'E'

/-- The token of a word. -/
def wordToken? (letters : List Char) : Option Token :=
  if letters = "null".toList then
    some .null
  else if letters = "true".toList then
    some (.bool true)
  else if letters = "false".toList then
    some (.bool false)
  else
    none

/-- A step from between two tokens. -/
def startToken (character : Char) : Option (List Token × Scan) :=
  if isSpace character then
    some ([], .between)
  else if character.isDigit || character == '-' then
    some ([], .literal [character])
  else if character.isLower then
    some ([], .word [character])
  else
    match character with
    | '[' => some ([.openArray], .between)
    | ']' => some ([.closeArray], .between)
    | '\x7b' => some ([.openObject], .between)
    | '\x7d' => some ([.closeObject], .between)
    | ',' => some ([.comma], .between)
    | ':' => some ([.colon], .between)
    | '"' => some ([], .text (some []))
    | _ => none

/-- The character that a letter stands for after a backslash. -/
def escapedCharacter? : Char → Option Char
  | '"' => some '"'
  | '\\' => some '\\'
  | '/' => some '/'
  | 'b' => some '\x08'
  | 'f' => some '\x0c'
  | 'n' => some '\n'
  | 'r' => some '\r'
  | 't' => some '\t'
  | _ => none

/--
The state after the last digit of a numeric escape.  A high surrogate waits for
a low one, and a low surrogate may only complete a high one; otherwise the
string has no value.
-/
def completeUnicode (characters : Option (List Char)) (high : Option Nat) (value : Nat) : Scan :=
  match high with
  | none =>
      if 0xDC00 ≤ value && value ≤ 0xDFFF then
        .text none
      else if 0xD800 ≤ value && value ≤ 0xDBFF then
        .lowMark characters value
      else
        .text (characters.map (Char.ofNat value :: ·))
  | some high =>
      if 0xDC00 ≤ value && value ≤ 0xDFFF then
        let meant := Char.ofNat (0x10000 + (high - 0xD800) * 0x400 + (value - 0xDC00))
        .text (characters.map (meant :: ·))
      else
        .text none

/-- A step from inside a string. -/
def textStep (characters : Option (List Char)) (character : Char) : Option (List Token × Scan) :=
  if character = '"' then
    some ([.string (characters.map fun collected => String.ofList collected.reverse)], .between)
  else if character = '\\' then
    some ([], .escape characters)
  else if character.toNat < 0x20 then
    none
  else
    some ([], .text (characters.map (character :: ·)))

/-- A step from behind a backslash. -/
def escapeStep (characters : Option (List Char)) (character : Char) : Option (List Token × Scan) :=
  if character = 'u' then
    some ([], .unicode characters none 3 0)
  else
    (escapedCharacter? character).map fun meant => ([], .text (characters.map (meant :: ·)))

/-- One step of the reader: the tokens it completes and where it stands then. -/
def Scan.step : Scan → Char → Option (List Token × Scan)
  | .between, character => startToken character
  | .word letters, character =>
      if character.isLower then
        some ([], .word (character :: letters))
      else
        (wordToken? letters.reverse).bind fun token =>
          (startToken character).map fun (tokens, scan) => (token :: tokens, scan)
  | .literal characters, character =>
      if isLiteralCharacter character then
        some ([], .literal (character :: characters))
      else
        (literalToken? characters.reverse).bind fun token =>
          (startToken character).map fun (tokens, scan) => (token :: tokens, scan)
  | .text characters, character => textStep characters character
  | .escape characters, character => escapeStep characters character
  | .unicode characters high missing value, character =>
      (Text.hexValue? character).map fun digit =>
        let longer := value * 16 + digit
        match missing with
        | 0 => ([], completeUnicode characters high longer)
        | missing + 1 => ([], .unicode characters high missing longer)
  | .lowMark characters high, character =>
      if character = '\\' then some ([], .lowEscape characters high) else textStep none character
  | .lowEscape characters high, character =>
      if character = 'u' then
        some ([], .unicode characters (some high) 3 0)
      else
        escapeStep none character

/-- What the end of the text completes. -/
def Scan.finish? : Scan → Option (List Token)
  | .between => some []
  | .word letters => (wordToken? letters.reverse).map fun token => [token]
  | .literal characters => (literalToken? characters.reverse).map fun token => [token]
  | _ => none

/-- The tokens of a text read from a given state. -/
def Scan.tokens? (scan : Scan) : List Char → Option (List Token)
  | [] => scan.finish?
  | character :: rest =>
      match scan.step character with
      | none => none
      | some (completed, next) => (next.tokens? rest).map (completed ++ ·)

end Json

end RecordSchema
