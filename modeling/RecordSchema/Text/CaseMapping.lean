import RecordSchema.Text.CaseTable

namespace RecordSchema

/-!
# Upper and lower case

A character maps to one or more characters of the other case, whatever its
neighbours are, with one exception: a capital sigma at the end of a word
becomes the final small sigma.
-/

namespace Text

/-- The image of a code point under a run that has it. -/
def CaseRun.image? (run : CaseRun) (code : Nat) : Option Nat :=
  if run.first ≤ code && code ≤ run.last && (code - run.first) % run.stride == 0 then
    some (Int.ofNat code + run.offset).toNat
  else
    none

/-- The image of a character under a table; other characters stay as they are. -/
def mapCase (runs : List CaseRun) (expansions : List (Nat × List Nat)) (character : Char) :
    List Char :=
  match expansions.lookup character.toNat with
  | some codes => codes.map Char.ofNat
  | none =>
      match runs.findSome? fun run => run.image? character.toNat with
      | some code => [Char.ofNat code]
      | none => [character]

/-- The image of one character in lower case. -/
def lowerCharacter (character : Char) : List Char :=
  mapCase lowerRuns lowerExpansions character

/-- The image of one character in upper case. -/
def upperCharacter (character : Char) : List Char :=
  mapCase upperRuns upperExpansions character

/-- Whether a character lies in one of the runs. -/
def inRanges (ranges : List (Nat × Nat)) (character : Char) : Bool :=
  ranges.any fun range => range.1 ≤ character.toNat && character.toNat ≤ range.2

/-- Whether the first character that counts is one with a case. -/
def startsCased (text : List Char) : Bool :=
  match text.dropWhile (inRanges caseIgnorableRanges) with
  | [] => false
  | character :: _ => inRanges casedRanges character

/-- The image in lower case; `before` is the text already read, in reverse order. -/
def lowerFrom (before : List Char) : List Char → List Char
  | [] => []
  | character :: after =>
      let image :=
        if character = 'Σ' then
          if startsCased before && !startsCased after then ['ς'] else ['σ']
        else
          lowerCharacter character
      image ++ lowerFrom (character :: before) after

/-- A text in lower case. -/
def lowercase (text : String) : String :=
  String.ofList (lowerFrom [] text.toList)

/-- A text in upper case. -/
def uppercase (text : String) : String :=
  String.ofList (text.toList.flatMap upperCharacter)

end Text

end RecordSchema
