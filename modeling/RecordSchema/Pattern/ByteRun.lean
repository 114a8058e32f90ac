import RecordSchema.Pattern.CharSet

namespace RecordSchema

/-!
# Characters as bytes

A character is written as one to four bytes.  A run of characters is a list of
byte strings, in increasing order, in which every byte ranges over a run of its
own: the first byte of a character is told by a mark, the others begin at 80.
-/

namespace Pattern

/-- Bytes from the first to the last. -/
structure ByteRun where
  first : Nat
  last : Nat
  deriving Repr, DecidableEq

namespace ByteRun

/-- The least byte that continues a character. -/
def leastTail : Nat :=
  0x80

/-- The run of all bytes that continue a character. -/
def tail : ByteRun :=
  ⟨leastTail, 0xBF⟩

/-- The run of one byte. -/
def single (byte : Nat) : ByteRun :=
  ⟨byte, byte⟩

/-- How many code points the given count of continuing bytes tells apart. -/
def unit (tails : Nat) : Nat :=
  1 <<< (6 * tails)

/--
The byte strings of the code points from `first` to `last`, each of one byte above
`mark` and a count of continuing bytes.

Code points with a common first byte are taken apart by their other bytes.  Else
the first bytes whose code points all belong are one run, and what is left below
and above it is taken apart in the same way.
-/
def strings (mark : Nat) : (tails : Nat) → (first last : Nat) → List (List ByteRun)
  | 0, first, last => [[⟨mark + first, mark + last⟩]]
  | tails + 1, first, last =>
      let size := unit (tails + 1)
      let low := first / size
      let high := last / size
      let under (byte first last : Nat) : List (List ByteRun) :=
        (strings leastTail tails first last).map fun bytes => single (mark + byte) :: bytes
      if low = high then
        under low (first % size) (last % size)
      else
        let lowIsWhole := first % size == 0
        let highIsWhole := last % size == size - 1
        let wholeLow := if lowIsWhole then low else low + 1
        let wholeHigh := if highIsWhole then high else high - 1
        (if lowIsWhole then [] else under low (first % size) (size - 1)) ++
          (if wholeLow ≤ wholeHigh then
            [⟨mark + wholeLow, mark + wholeHigh⟩ :: List.replicate (tails + 1) tail]
          else
            []) ++
          (if highIsWhole then [] else under high 0 (last % size))

/-- A block of code points that are written alike. -/
structure Block where
  first : Nat
  last : Nat
  mark : Nat
  tails : Nat
  deriving Repr

/-- The blocks of code points with equally many bytes, around the surrogates. -/
def blocks : List Block :=
  [
    ⟨0x00, 0x7F, 0x00, 0⟩, ⟨0x80, 0x7FF, 0xC0, 1⟩, ⟨0x800, 0xD7FF, 0xE0, 2⟩,
    ⟨0xE000, 0xFFFF, 0xE0, 2⟩, ⟨0x10000, 0x10FFFF, 0xF0, 3⟩
  ]

/-- The byte strings of the code points from the first to the last. -/
def stringsOfRange (first last : Nat) : List (List ByteRun) :=
  blocks.flatMap fun block =>
    let low := max first block.first
    let high := min last block.last
    if low ≤ high then strings block.mark block.tails low high else []

/-- The byte strings of the characters of a set. -/
def stringsOfSet (set : CharSet) : List (List ByteRun) :=
  set.ranges.flatMap fun (first, last) => stringsOfRange first last

/-- The bytes of one character. -/
def bytesOfCharacter (character : Char) : List Nat :=
  (stringsOfRange character.toNat character.toNat).flatMap fun bytes =>
    bytes.map fun run => run.first

/-- The bytes of a text. -/
def bytesOfText (text : List Char) : List Nat :=
  text.flatMap bytesOfCharacter

end ByteRun

end Pattern

end RecordSchema
