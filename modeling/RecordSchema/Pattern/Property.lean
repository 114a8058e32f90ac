import RecordSchema.Pattern.Boundary
import RecordSchema.Pattern.Property.Age
import RecordSchema.Pattern.Property.LaterLetter
import RecordSchema.Pattern.Property.ScriptExtension

namespace RecordSchema

/-!
# Character properties by name

A pattern names a class of characters by a yes-or-no property, by a general
category, by a script, or by a property and its value: a category, a script, the
edition of Unicode, or a class for the boundaries of text.  Names are compared
loosely: without case, blanks, hyphens and underscores, and without a leading
`is`.
-/

namespace Pattern

/-- The loose form of a name. -/
def looseName (name : List Char) : String :=
  let prefixed := match name with
    | first :: second :: _ => (first == 'i' || first == 'I') && (second == 's' || second == 'S')
    | _ => false
  let kept := (if prefixed then name.drop 2 else name).filter fun character =>
    character.toNat < 0x80 && character != ' ' && character != '_' && character != '-'
  let loose := String.ofList (kept.map Char.toLower)
  if prefixed && loose == "c" then "isc" else loose

/-- The set listed under a loose name. -/
def tableOf? (tables : List (List String × List String)) (loose : String) : Option CharSet :=
  (tables.find? fun entry => entry.1.contains loose).map fun entry => CharSet.ofTable entry.2

/-- The characters of a general category. -/
def categorySet? (loose : String) : Option CharSet :=
  match loose with
  | "any" => some CharSet.full
  | "ascii" => some ⟨[(0, 0x7F)]⟩
  | "assigned" => some (CharSet.ofTable categoryUnassigned).negate
  | _ =>
      (categories.find? fun entry => entry.1.contains loose).map fun entry =>
        CharSet.ofTable entry.2.flatten

/-- The characters of a script. -/
def scriptSet? (loose : String) : Option CharSet :=
  tableOf? scripts loose

/-- The characters used with a script. -/
def scriptExtensionSet? (loose : String) : Option CharSet :=
  (tableOf? scriptExtensions loose).orElse fun _ => scriptSet? loose

/-- The code points that an edition and all older ones assigned. -/
def ageSet? (loose : String) : Option CharSet :=
  let older := ages.takeWhile fun entry => !entry.1.contains loose
  (ages.drop older.length).head?.map fun edition =>
    CharSet.ofTable ((older ++ [edition]).flatMap fun entry => entry.2)

/-- The characters of a class for the boundaries of text. -/
def boundarySet? (classes : List (List String × CharSet)) (loose : String) : Option CharSet :=
  (classes.find? fun entry => entry.1.contains loose).map fun entry => entry.2

/-- Names that mean a category although a property has the same name. -/
def isCategoryFirst (loose : String) : Bool :=
  loose == "cf" || loose == "sc" || loose == "lc"

/-- The characters that a name alone means: of a property, a category or a script. -/
def namedSet? (name : List Char) : Option CharSet :=
  let loose := looseName name
  let property := if isCategoryFirst loose then none else tableOf? binaryProperties loose
  (property.orElse fun _ => categorySet? loose).orElse fun _ => scriptSet? loose

/-- The characters with a value of a property. -/
def valueSet? (property value : List Char) : Option CharSet :=
  let loose := looseName value
  match looseName property with
  | "gc" => categorySet? loose
  | "generalcategory" => categorySet? loose
  | "sc" => scriptSet? loose
  | "script" => scriptSet? loose
  | "scx" => scriptExtensionSet? loose
  | "scriptextensions" => scriptExtensionSet? loose
  | "age" => ageSet? loose
  | "gcb" => boundarySet? graphemeClasses loose
  | "graphemeclusterbreak" => boundarySet? graphemeClasses loose
  | "wb" => boundarySet? wordClasses loose
  | "wordbreak" => boundarySet? wordClasses loose
  | "sb" => boundarySet? sentenceClasses loose
  | "sentencebreak" => boundarySet? sentenceClasses loose
  | _ => none

/-- The parts of a text around the first place where a mark stands. -/
def splitMark? (mark : List Char) : List Char → Option (List Char × List Char)
  | [] => none
  | character :: rest =>
      if mark.isPrefixOf (character :: rest) then
        some ([], (character :: rest).drop mark.length)
      else
        (splitMark? mark rest).map fun (before, after) => (character :: before, after)

/-- The class named between braces, and whether the name itself negates it. -/
def classOfName? (name : List Char) : Option (CharSet × Bool) :=
  match splitMark? ['!', '='] name with
  | some (property, value) => (valueSet? property value).map fun set => (set, true)
  | none =>
      match (splitMark? [':'] name).orElse fun _ => splitMark? ['='] name with
      | some (property, value) => (valueSet? property value).map fun set => (set, false)
      | none => (namedSet? name).map fun set => (set, false)

/-- Letters, marks, decimal digits and connectors: what a word is made of. -/
def wordSet : CharSet :=
  CharSet.ofTable (propertyAlphabetic ++ categoryNonspacingMark ++ categorySpacingMark ++
    categoryEnclosingMark ++ categoryDecimalNumber ++ categoryConnectorPunctuation ++
    propertyJoinControl)

/-- Blank characters. -/
def spaceSet : CharSet :=
  CharSet.ofTable propertyWhiteSpace

/-- Decimal digits. -/
def digitSet : CharSet :=
  CharSet.ofTable categoryDecimalNumber

/-- The letters that names of groups are made of. -/
def nameLetterSet : CharSet :=
  CharSet.ofTable (propertyAlphabetic ++ laterLetters)

/-- The numbers of any kind that names of groups may go on with. -/
def nameNumberSet : CharSet :=
  CharSet.ofTable
    (categoryDecimalNumber ++ categoryLetterNumber ++ categoryOtherNumber ++ laterNumbers)

/-- The ASCII letters, digits and underscore. -/
def asciiWordSet : CharSet :=
  ⟨[(0x30, 0x39), (0x41, 0x5A), (0x5F, 0x5F), (0x61, 0x7A)]⟩

/-- The ASCII blanks. -/
def asciiSpaceSet : CharSet :=
  ⟨[(0x09, 0x0D), (0x20, 0x20)]⟩

/-- The ASCII digits. -/
def asciiDigitSet : CharSet :=
  ⟨[(0x30, 0x39)]⟩

/-- The ASCII classes written between colons. -/
def asciiClass? (name : String) : Option CharSet :=
  match name with
  | "alnum" => some ⟨[(0x30, 0x39), (0x41, 0x5A), (0x61, 0x7A)]⟩
  | "alpha" => some ⟨[(0x41, 0x5A), (0x61, 0x7A)]⟩
  | "ascii" => some ⟨[(0x00, 0x7F)]⟩
  | "blank" => some ⟨[(0x09, 0x09), (0x20, 0x20)]⟩
  | "cntrl" => some ⟨[(0x00, 0x1F), (0x7F, 0x7F)]⟩
  | "digit" => some asciiDigitSet
  | "graph" => some ⟨[(0x21, 0x7E)]⟩
  | "lower" => some ⟨[(0x61, 0x7A)]⟩
  | "print" => some ⟨[(0x20, 0x7E)]⟩
  | "punct" => some ⟨[(0x21, 0x2F), (0x3A, 0x40), (0x5B, 0x60), (0x7B, 0x7E)]⟩
  | "space" => some asciiSpaceSet
  | "upper" => some ⟨[(0x41, 0x5A)]⟩
  | "word" => some asciiWordSet
  | "xdigit" => some ⟨[(0x30, 0x39), (0x41, 0x46), (0x61, 0x66)]⟩
  | _ => none

end Pattern

end RecordSchema
