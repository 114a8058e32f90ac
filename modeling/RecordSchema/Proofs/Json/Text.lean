import RecordSchema.Json.Document

namespace RecordSchema

/-!
# Strings in JSON text

Inside a string a character stands for itself, or is written by a letter or a number behind a
backslash.  However the characters of a text are written, what stands between the quotes is
read as that text, and an object whose members are strings as the list of these members.
-/

namespace Text

theorem hexValue?_hexDigit
    {value : Nat}
    (small : value < 16) :
    hexValue? (hexDigit value) = some value := by
  have all : ∀ value < 16, hexValue? (hexDigit value) = some value := by
    decide
  exact all value small

end Text

namespace Json

/-- The ways to write a character inside a string. -/
inductive Spells (character : Char) : List Char → Prop where
  | plain
      (visible : 0x20 ≤ character.toNat)
      (notQuote : character ≠ '"')
      (notBackslash : character ≠ '\\') :
      Spells character [character]
  | letter
      {letter : Char}
      (means : escapedCharacter? letter = some character) :
      Spells character ['\\', letter]
  | number
      (small : character.toNat < 0x10000) :
      Spells character (Text.unicodeEscape character)

/-- A step that completes no token leaves the reading to the next state. -/
theorem tokens?_cons
    {scan next : Scan}
    {character : Char}
    (step : scan.step character = some ([], next))
    (rest : List Char) :
    scan.tokens? (character :: rest) = next.tokens? rest := by
  rw [Scan.tokens?, step]
  simp

/-- A step that completes a token puts it in front of those of the rest. -/
theorem tokens?_cons_token
    {scan next : Scan}
    {character : Char}
    {token : Token}
    (step : scan.step character = some ([token], next))
    (rest : List Char) :
    scan.tokens? (character :: rest) = (next.tokens? rest).map (token :: ·) := by
  rw [Scan.tokens?, step]
  rfl

/-- A digit of a numeric escape that is not the last one. -/
theorem tokens?_hexDigit
    {collected : Option (List Char)}
    {high : Option Nat}
    {missing value digit : Nat}
    (small : digit < 16)
    (rest : List Char) :
    (Scan.unicode collected high (missing + 1) value).tokens? (Text.hexDigit digit :: rest) =
      (Scan.unicode collected high missing (value * 16 + digit)).tokens? rest := by
  refine tokens?_cons ?_ rest
  rw [Scan.step, Text.hexValue?_hexDigit small]
  rfl

/-- The last digit of a numeric escape. -/
theorem tokens?_last_hexDigit
    {collected : Option (List Char)}
    {high : Option Nat}
    {value digit : Nat}
    (small : digit < 16)
    (rest : List Char) :
    (Scan.unicode collected high 0 value).tokens? (Text.hexDigit digit :: rest) =
      (completeUnicode collected high (value * 16 + digit)).tokens? rest := by
  refine tokens?_cons ?_ rest
  rw [Scan.step, Text.hexValue?_hexDigit small]
  rfl

/-- A character is no half of a surrogate pair, so its number alone completes it. -/
theorem completeUnicode_toNat
    (collected : Option (List Char))
    (character : Char) :
    completeUnicode collected none character.toNat = .text (collected.map (character :: ·)) := by
  have noSurrogate : character.toNat < 0xD800 ∨ 0xDFFF < character.toNat := by
    rcases character.valid with low | high
    · exact .inl low
    · exact .inr high.1
  have notLow : ¬(0xDC00 ≤ character.toNat ∧ character.toNat ≤ 0xDFFF) := by
    omega
  have notHigh : ¬(0xD800 ≤ character.toNat ∧ character.toNat ≤ 0xDBFF) := by
    omega
  simp [completeUnicode, notLow, notHigh]

/-- The numeric escape of a character is read as that character. -/
theorem tokens?_unicodeEscape
    {collected : Option (List Char)}
    {character : Char}
    (small : character.toNat < 0x10000)
    (rest : List Char) :
    (Scan.text collected).tokens? (Text.unicodeEscape character ++ rest) =
      (Scan.text (collected.map (character :: ·))).tokens? rest := by
  have isDigit (number : Nat) : number % 16 < 16 :=
    Nat.mod_lt _ (by decide)
  have value :
      (((0 * 16 + character.toNat / 4096 % 16) * 16 + character.toNat / 256 % 16) * 16 +
        character.toNat / 16 % 16) * 16 + character.toNat % 16 = character.toNat := by
    omega
  have escape : (Scan.text collected).step '\\' = some ([], .escape collected) := rfl
  have numeric : (Scan.escape collected).step 'u' = some ([], .unicode collected none 3 0) := rfl
  simp only [Text.unicodeEscape, List.cons_append, List.nil_append]
  rw [tokens?_cons escape, tokens?_cons numeric, tokens?_hexDigit (isDigit _),
    tokens?_hexDigit (isDigit _), tokens?_hexDigit (isDigit _), tokens?_last_hexDigit (isDigit _),
    value, completeUnicode_toNat]

/-- A character is read from each way to write it. -/
theorem tokens?_of_spells
    {collected : Option (List Char)}
    {character : Char}
    {spelling : List Char}
    (spells : Spells character spelling)
    (rest : List Char) :
    (Scan.text collected).tokens? (spelling ++ rest) =
      (Scan.text (collected.map (character :: ·))).tokens? rest := by
  cases spells with
  | plain visible notQuote notBackslash =>
      refine tokens?_cons ?_ rest
      rw [Scan.step, textStep, if_neg notQuote, if_neg notBackslash, if_neg (by omega)]
  | letter means =>
      rename_i letter
      have escape : (Scan.text collected).step '\\' = some ([], .escape collected) := rfl
      have notNumeric : letter ≠ 'u' := by
        rintro rfl
        cases means
      rw [List.cons_append, tokens?_cons escape]
      refine tokens?_cons ?_ rest
      rw [Scan.step, escapeStep, if_neg notNumeric, means]
      rfl
  | number small =>
      exact tokens?_unicodeEscape small rest

/-- Characters that are written one after the other are collected in reverse order. -/
theorem tokens?_flatMap
    {spell : Char → List Char}
    (spells : ∀ character, Spells character (spell character))
    (characters collected rest : List Char) :
    (Scan.text (some collected)).tokens? (characters.flatMap spell ++ rest) =
      (Scan.text (some (characters.reverse ++ collected))).tokens? rest := by
  induction characters generalizing collected with
  | nil =>
      rfl
  | cons first later inductionHypothesis =>
      rw [List.flatMap_cons, List.append_assoc, tokens?_of_spells (spells first), Option.map_some,
        inductionHypothesis, List.reverse_cons, List.append_assoc]
      rfl

/-- What stands between quotes is read as the text that is written. -/
theorem tokens?_quoted
    {spell : Char → List Char}
    (spells : ∀ character, Spells character (spell character))
    (text : String)
    (rest : List Char) :
    Scan.between.tokens? ('"' :: (text.toList.flatMap spell ++ '"' :: rest)) =
      (Scan.between.tokens? rest).map (.string (some text) :: ·) := by
  have opening : Scan.between.step '"' = some ([], .text (some [])) := rfl
  rw [tokens?_cons opening, tokens?_flatMap spells]
  refine tokens?_cons_token ?_ rest
  simp [Scan.step, textStep]

/-- A member whose value is a string, as a part of a document. -/
def stringMember (member : String × String) : Option String × Document :=
  (some member.1, .scalar (some (.string member.2)))

/-- The tokens of a member whose value is a string. -/
def memberTokens (member : String × String) : List Token :=
  [.string (some member.1), .colon, .string (some member.2)]

/-- A member is taken in and waits for what follows it. -/
theorem document?_memberTokens
    (frames : List Frame)
    (earlier : List (Option String × Document))
    (member : String × String)
    (rest : List Token) :
    (Assembly.key frames earlier).document? (memberTokens member ++ rest) =
      (Assembly.complete (.object earlier (some member.1) :: frames)
        (.scalar (some (.string member.2)))).document? rest :=
  rfl

/-- Members with commas between them are taken in up to the end of their object. -/
theorem document?_members
    (frames : List Frame)
    (earlier : List (Option String × Document))
    (first : String × String)
    (later : List (String × String))
    (rest : List Token) :
    (Assembly.key frames earlier).document?
        (memberTokens first ++
          (later.flatMap (fun member => .comma :: memberTokens member) ++ .closeObject :: rest)) =
      (close frames
        (.object (earlier.reverse ++ (first :: later).map stringMember))).document? rest := by
  induction later generalizing earlier first with
  | nil =>
      have closed :
          (Assembly.key frames earlier).document? (memberTokens first ++ .closeObject :: rest) =
            (close frames (.object (stringMember first :: earlier).reverse)).document? rest :=
        rfl
      rw [List.flatMap_nil, List.nil_append, closed, List.reverse_cons]
      rfl
  | cons next later inductionHypothesis =>
      rw [document?_memberTokens, List.flatMap_cons, List.cons_append, List.cons_append,
        List.append_assoc]
      change (Assembly.key frames (stringMember first :: earlier)).document? _ = _
      rw [inductionHypothesis, List.reverse_cons, List.append_assoc]
      rfl

end Json

end RecordSchema
