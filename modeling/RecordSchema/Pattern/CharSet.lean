import RecordSchema.Pattern.Property.Folding
import RecordSchema.Text.Hex

namespace RecordSchema

/-!
# Sets of characters

A set is a list of runs of code points in increasing order that do not touch.
No run begins or ends at a surrogate, since surrogates are no characters: the
code point after U+D7FF is U+E000.  Tables write such runs in hexadecimal,
`41-5a` for a run and `b5` for one code point.
-/

namespace Pattern

/-- Runs of code points, each from its first to its last. -/
structure CharSet where
  ranges : List (Nat × Nat)
  deriving Repr, DecidableEq

namespace CharSet

/-- The greatest code point. -/
def greatestCode : Nat :=
  0x10FFFF

/-- The set without characters. -/
def empty : CharSet :=
  ⟨[]⟩

/-- The set of all characters. -/
def full : CharSet :=
  ⟨[(0, greatestCode)]⟩

/-- Whether a code point lies in the set. -/
def containsCode (set : CharSet) (code : Nat) : Bool :=
  set.ranges.any fun range => range.1 ≤ code && code ≤ range.2

/-- Whether a character lies in the set. -/
def contains (set : CharSet) (character : Char) : Bool :=
  set.containsCode character.toNat

/-- Join runs that touch or overlap; the runs are in order of their first code points. -/
def mergeFrom (first last : Nat) : List (Nat × Nat) → List (Nat × Nat)
  | [] => [(first, last)]
  | (nextFirst, nextLast) :: rest =>
      if nextFirst ≤ last + 1 then
        mergeFrom first (max last nextLast) rest
      else
        (first, last) :: mergeFrom nextFirst nextLast rest

/-- The set of some runs in any order. -/
def ofRanges (ranges : List (Nat × Nat)) : CharSet :=
  match ranges.mergeSort fun left right => left.1 ≤ right.1 with
  | [] => empty
  | (first, last) :: rest => ⟨mergeFrom first last rest⟩

/-- The set of one code point. -/
def single (code : Nat) : CharSet :=
  ⟨[(code, code)]⟩

/-- The characters in either set. -/
def union (left right : CharSet) : CharSet :=
  ofRanges (left.ranges ++ right.ranges)

/-- The code point of the next character. -/
def following (code : Nat) : Nat :=
  if code = 0xD7FF then 0xE000 else code + 1

/-- The code point of the character before. -/
def preceding (code : Nat) : Nat :=
  if code = 0xE000 then 0xD7FF else code - 1

/-- The run with two given ends, in whichever order they are given. -/
def runBetween (oneEnd otherEnd : Nat) : Nat × Nat :=
  (min oneEnd otherEnd, max oneEnd otherEnd)

/-- The runs between the given ones and after them; the run before them ends at `last`. -/
def gapsAfter (last : Nat) : List (Nat × Nat) → List (Nat × Nat)
  | [] => if last < greatestCode then [(following last, greatestCode)] else []
  | (nextFirst, nextLast) :: rest =>
      runBetween (following last) (preceding nextFirst) :: gapsAfter nextLast rest

/-- The characters outside the set. -/
def negate (set : CharSet) : CharSet :=
  match set.ranges with
  | [] => full
  | (first, last) :: rest =>
      ⟨(if 0 < first then [(0, preceding first)] else []) ++ gapsAfter last rest⟩

/-- The part of a run that lies in given runs. -/
def partWithin (first last : Nat) : List (Nat × Nat) → List (Nat × Nat)
  | [] => []
  | (low, high) :: rest =>
      if max first low ≤ min last high then
        (max first low, min last high) :: partWithin first last rest
      else
        partWithin first last rest

/-- The characters in both sets. -/
def intersection (left right : CharSet) : CharSet :=
  ⟨left.ranges.flatMap fun (first, last) => partWithin first last right.ranges⟩

/-- The part of a run that lies outside given runs. -/
def partOutside (first last : Nat) : List (Nat × Nat) → List (Nat × Nat)
  | [] => [(first, last)]
  | (low, high) :: rest =>
      if high < first then
        partOutside first last rest
      else if last < low then
        [(first, last)]
      else
        (if first < low then [(first, preceding low)] else []) ++
          (if high < last then partOutside (following high) last rest else [])

/-- The characters in the first set alone. -/
def difference (left right : CharSet) : CharSet :=
  ⟨left.ranges.flatMap fun (first, last) => partOutside first last right.ranges⟩

/-- The characters in exactly one of the sets. -/
def symmetricDifference (left right : CharSet) : CharSet :=
  (left.union right).difference (left.intersection right)

/-- Whether every character of the set is ASCII. -/
def isAscii (set : CharSet) : Bool :=
  set.ranges.all fun range => range.2 < 0x80

/-- The number of a hexadecimal text, zero when it is none. -/
def hexNumber (text : String) : Nat :=
  (Text.hexNumberFrom? 0 text.toList).getD 0

/-- One run of a table. -/
def rangeOfText (text : String) : Nat × Nat :=
  match text.splitOn "-" with
  | [first, last] => (hexNumber first, hexNumber last)
  | _ => (hexNumber text, hexNumber text)

/-- The set that a table lists. -/
def ofTable (lines : List String) : CharSet :=
  ofRanges (lines.flatMap fun line => (line.splitOn " ").map rangeOfText)

/-- The groups of letters that differ in case alone. -/
def caseGroups : List (List Nat) :=
  foldGroups.flatMap fun line => (line.splitOn " ").map fun group =>
    (group.splitOn ".").map hexNumber

/-- The set with every letter that differs from one of its letters in case alone. -/
def closeCase (set : CharSet) : CharSet :=
  let touched := caseGroups.filter fun group => group.any set.containsCode
  ofRanges (set.ranges ++ touched.flatMap fun group => group.map fun code => (code, code))

/-- The same closure among the ASCII letters alone. -/
def closeAsciiCase (set : CharSet) : CharSet :=
  let letters := (List.range 26).filter fun place =>
    set.containsCode (0x41 + place) || set.containsCode (0x61 + place)
  ofRanges (set.ranges ++ letters.flatMap fun place =>
    [(0x41 + place, 0x41 + place), (0x61 + place, 0x61 + place)])

end CharSet

end Pattern

end RecordSchema
