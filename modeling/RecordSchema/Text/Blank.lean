namespace RecordSchema

/-!
# Blank characters and words

Values typed by people carry stray spaces, tabs and line ends.  A blank is any
character of Unicode's White_Space set, a word is a maximal run of other
characters, and the normal form of a text is its words with one space between
them.
-/

namespace Text

/-- The characters of Unicode's White_Space set. -/
def isBlank (character : Char) : Bool :=
  let code := character.toNat
  (0x09 ≤ code && code ≤ 0x0D) || code == 0x20 || code == 0x85 || code == 0xA0 ||
    code == 0x1680 || (0x2000 ≤ code && code ≤ 0x200A) || code == 0x2028 || code == 0x2029 ||
    code == 0x202F || code == 0x205F || code == 0x3000

/-- Put a finished run in front of later words; an empty run is no word. -/
def consWord (run : List Char) (later : List (List Char)) : List (List Char) :=
  match run with
  | [] => later
  | first :: rest => (first :: rest) :: later

/-- The run of other characters at the head of a text, and the words after it. -/
def splitRun : List Char → List Char × List (List Char)
  | [] => ([], [])
  | character :: rest =>
      let (run, later) := splitRun rest
      if isBlank character then
        ([], consWord run later)
      else
        (character :: run, later)

/-- The maximal runs of other characters, in order. -/
def words (text : List Char) : List (List Char) :=
  let (run, later) := splitRun text
  consWord run later

/-- Words written one after the other with a single space between them. -/
def joinWords : List (List Char) → List Char
  | [] => []
  | [word] => word
  | word :: next :: rest => word ++ ' ' :: joinWords (next :: rest)

/-- The words of a text with one space between them. -/
def normalizeBlanks (text : String) : String :=
  String.ofList (joinWords (words text.toList))

/-- A text without the blanks at its two ends. -/
def trimChars (text : List Char) : List Char :=
  ((text.dropWhile isBlank).reverse.dropWhile isBlank).reverse

/-- A text without the blanks at its two ends. -/
def trim (text : String) : String :=
  String.ofList (trimChars text.toList)

end Text

end RecordSchema
