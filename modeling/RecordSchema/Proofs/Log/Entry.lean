import Mathlib.Data.List.Nodup
import RecordSchema.Log.Entry
import RecordSchema.Proofs.Json.Text
import RecordSchema.Proofs.Text.Order

namespace RecordSchema

/-!
# Log lines that are read

The line of an entry is one JSON object and one line, whatever the texts of the entry hold: no
control character but the one at its end stands in it.  Read as JSON it gives back the event, the
severity and the fields, in the order of their keys.
-/

namespace Text

/-- The digits of a numeric escape are no control characters. -/
theorem isControl_hexDigit
    (number : Nat) :
    Log.isControl (hexDigit (number % 16)) = false := by
  have all : ∀ value < 16, Log.isControl (hexDigit value) = false := by
    decide
  exact all _ (Nat.mod_lt _ (by decide))

end Text

namespace Log

/-- A character is escaped by a letter or, another control character, by its number. -/
theorem escapeCharacter_cases
    (character : Char) :
    (∃ letter,
      Json.escapedCharacter? letter = some character ∧ isControl letter = false ∧
        escapeCharacter character = ['\\', letter]) ∨
      (isControl character = true ∧ escapeCharacter character = Text.unicodeEscape character) ∨
        (isControl character = false ∧ character ≠ '"' ∧ character ≠ '\\' ∧
          escapeCharacter character = [character]) := by
  by_cases hasLetter : character ∈ ['"', '\\', '\n', '\r', '\t']
  · refine .inl ?_
    simp only [List.mem_cons, List.not_mem_nil, or_false] at hasLetter
    rcases hasLetter with rfl | rfl | rfl | rfl | rfl
    · exact ⟨'"', rfl, rfl, rfl⟩
    · exact ⟨'\\', rfl, rfl, rfl⟩
    · exact ⟨'n', rfl, rfl, rfl⟩
    · exact ⟨'r', rfl, rfl, rfl⟩
    · exact ⟨'t', rfl, rfl, rfl⟩
  · refine .inr ?_
    simp only [List.mem_cons, List.not_mem_nil, or_false, not_or] at hasLetter
    obtain ⟨notQuote, notBackslash, notNewline, notReturn, notTab⟩ := hasLetter
    rw [escapeCharacter, if_neg notQuote, if_neg notBackslash, if_neg notNewline,
      if_neg notReturn, if_neg notTab]
    by_cases control : isControl character = true
    · exact .inl ⟨control, if_pos control⟩
    · exact .inr ⟨Bool.eq_false_iff.mpr control, notQuote, notBackslash, if_neg control⟩

/-- An escaped character is a way to write that character in JSON. -/
theorem spells_escapeCharacter
    (character : Char) :
    Json.Spells character (escapeCharacter character) := by
  rcases escapeCharacter_cases character with
    ⟨letter, means, _, shape⟩ | ⟨control, shape⟩ | ⟨visible, notQuote, notBackslash, shape⟩
  · rw [shape]
    exact .letter means
  · rw [shape]
    simp only [isControl, Bool.or_eq_true, Bool.and_eq_true, decide_eq_true_eq] at control
    exact .number (by omega)
  · rw [shape]
    simp only [isControl, Bool.or_eq_false_iff, decide_eq_false_iff_not] at visible
    exact .plain (by omega) notQuote notBackslash

/-- No control character is left in an escaped character. -/
theorem isControl_of_mem_escapeCharacter
    {character written : Char}
    (member : written ∈ escapeCharacter character) :
    isControl written = false := by
  rcases escapeCharacter_cases character with
    ⟨letter, _, visible, shape⟩ | ⟨_, shape⟩ | ⟨visible, _, _, shape⟩
  · rw [shape, List.mem_cons, List.mem_singleton] at member
    rcases member with rfl | rfl
    · rfl
    · exact visible
  · simp only [shape, Text.unicodeEscape, List.mem_cons, List.not_mem_nil, or_false] at member
    rcases member with rfl | rfl | isDigit
    · rfl
    · rfl
    · rcases isDigit with rfl | rfl | rfl | rfl <;> exact Text.isControl_hexDigit _
  · rw [shape, List.mem_singleton] at member
    exact member ▸ visible

/-- A string between quotes is read as that string. -/
theorem tokens?_quote
    (text : String)
    (rest : List Char) :
    Json.Scan.between.tokens? (quote text ++ rest) =
      (Json.Scan.between.tokens? rest).map (.string (some text) :: ·) := by
  rw [quote, List.cons_append, List.append_assoc]
  exact Json.tokens?_quoted spells_escapeCharacter text rest

theorem tokens?_member
    (field : String × String)
    (rest : List Char) :
    Json.Scan.between.tokens? (member field ++ rest) =
      (Json.Scan.between.tokens? rest).map (Json.memberTokens field ++ ·) := by
  have colon : Json.Scan.between.step ':' = some ([.colon], .between) := rfl
  rw [member, List.append_assoc, List.cons_append, tokens?_quote, Json.tokens?_cons_token colon,
    tokens?_quote, Option.map_map, Option.map_map]
  rfl

/-- Members with commas between them are read one after the other. -/
theorem tokens?_intercalate
    (first : String × String)
    (later : List (String × String))
    (rest : List Char) :
    Json.Scan.between.tokens? (List.intercalate [','] ((first :: later).map member) ++ rest) =
      (Json.Scan.between.tokens? rest).map fun tokens =>
        Json.memberTokens first ++
          (later.flatMap (fun field => .comma :: Json.memberTokens field) ++ tokens) := by
  induction later generalizing first with
  | nil =>
      rw [List.map_cons, List.map_nil, List.intercalate_singleton, tokens?_member]
      rfl
  | cons next later inductionHypothesis =>
      have comma : Json.Scan.between.step ',' = some ([.comma], .between) := rfl
      rw [List.map_cons, List.map_cons, List.intercalate_cons_cons, ← List.map_cons,
        List.append_assoc, List.append_assoc, tokens?_member, List.cons_append, List.nil_append,
        Json.tokens?_cons_token comma, inductionHypothesis, Option.map_map, Option.map_map]
      simp [Function.comp_def]

theorem isControl_of_mem_quote
    {text : String}
    {character : Char}
    (member : character ∈ quote text) :
    isControl character = false := by
  rw [quote, List.mem_cons, List.mem_append, List.mem_flatMap, List.mem_singleton] at member
  rcases member with rfl | ⟨source, _, written⟩ | rfl
  · rfl
  · exact isControl_of_mem_escapeCharacter written
  · rfl

theorem isControl_of_mem_member
    {field : String × String}
    {character : Char}
    (isMember : character ∈ member field) :
    isControl character = false := by
  rw [member, List.mem_append, List.mem_cons] at isMember
  rcases isMember with inKey | rfl | inValue
  · exact isControl_of_mem_quote inKey
  · rfl
  · exact isControl_of_mem_quote inValue

theorem isControl_of_mem_intercalate
    {fields : List (String × String)}
    {character : Char}
    (isMember : character ∈ List.intercalate [','] (fields.map member)) :
    isControl character = false := by
  induction fields with
  | nil =>
      cases isMember
  | cons first rest inductionHypothesis =>
      cases rest with
      | nil =>
          rw [List.map_cons, List.map_nil, List.intercalate_singleton] at isMember
          exact isControl_of_mem_member isMember
      | cons next later =>
          rw [List.map_cons, List.map_cons, List.intercalate_cons_cons, ← List.map_cons,
            List.append_assoc, List.mem_append, List.mem_append, List.mem_singleton] at isMember
          rcases isMember with inFirst | rfl | inRest
          · exact isControl_of_mem_member inFirst
          · rfl
          · exact inductionHypothesis inRest

/-- The same fields in the order of their keys, those of one key in the order that they had. -/
structure IsSortedStably (fields sorted : List (String × String)) : Prop where
  perm : sorted.Perm fields
  ordered : sorted.Pairwise fun first second => first.1 ≤ second.1
  stable :
    ∀ key, sorted.filter (fun field => field.1 = key) = fields.filter fun field => field.1 = key

namespace Entry

theorem isSortedStably_sortedFields
    (entry : Entry) :
    IsSortedStably entry.fields entry.sortedFields :=
  ⟨List.mergeSort_perm _ _, Text.pairwise_mergeSort Prod.fst entry.fields,
    Text.filter_mergeSort Prod.fst entry.fields⟩

/-- Fields with different keys have one order, whatever order they are given in. -/
theorem sortedFields_of_perm
    {entry : Entry}
    {fields : List (String × String)}
    (perm : entry.fields.Perm fields)
    (distinct : (entry.fields.map Prod.fst).Nodup) :
    { entry with fields }.sortedFields = entry.sortedFields := by
  have sorted := isSortedStably_sortedFields entry
  have othersSorted := isSortedStably_sortedFields { entry with fields }
  have antisymmetric :
      ∀ first second : String × String,
        first ∈ { entry with fields }.sortedFields → second ∈ entry.sortedFields →
          first.1 ≤ second.1 → second.1 ≤ first.1 → first = second := by
    intro first second inOthers inSorted notGreater notLess
    have inFields := perm.mem_iff.mpr (othersSorted.perm.mem_iff.mp inOthers)
    exact List.inj_on_of_nodup_map distinct inFields (sorted.perm.mem_iff.mp inSorted)
      (String.le_antisymm notGreater notLess)
  exact (othersSorted.perm.trans (perm.symm.trans sorted.perm.symm)).eq_of_pairwise
    antisymmetric othersSorted.ordered sorted.ordered

/-- The characters of an entry hold no control character. -/
theorem isControl_of_mem_chars
    {entry : Entry}
    {character : Char}
    (isMember : character ∈ entry.chars) :
    isControl character = false := by
  rw [chars, List.mem_cons, List.mem_append, List.mem_singleton] at isMember
  rcases isMember with rfl | inMembers | rfl
  · rfl
  · exact isControl_of_mem_intercalate inMembers
  · rfl

/-- A line is read as the object of its members, in their order. -/
theorem read?_line_eq
    (entry : Entry) :
    Json.Document.read? entry.line =
      some (.object (entry.members.map Json.stringMember)) := by
  have opening : Json.Scan.between.step '\x7b' = some ([.openObject], .between) := rfl
  have ending :
      Json.Scan.between.tokens? ['\x7d', '\n'] = some [.closeObject] := rfl
  rw [Json.Document.read?, Json.Document.ofChars?, line, String.toList_ofList, chars,
    List.cons_append, Json.tokens?_cons_token opening, List.append_assoc, members,
    tokens?_intercalate]
  change Option.bind (((Json.Scan.between.tokens? ['\x7d', '\n']).map _).map _) _ = _
  rw [ending, Option.map_some, Option.map_some, Option.bind_some]
  exact Json.document?_members [] [] ("event", entry.event) _ []

/--
The line of an entry holds one control character, the line end behind its object.  It is read as
an object whose members are the event, the severity and the fields in the order of their keys,
with the texts that were given.  For fields with different keys the line does not depend on the
order in which they are given.
-/
theorem lines_read_back
    (entry : Entry) :
    (∃ characters,
      entry.line.toList = characters ++ ['\n'] ∧
        ∀ character ∈ characters, isControl character = false) ∧
      (∃ sorted,
        IsSortedStably entry.fields sorted ∧
          Json.Document.read? entry.line =
            some (.object
              ((("event", entry.event) :: ("severity", entry.severity.name) :: sorted).map
                Json.stringMember))) ∧
        ∀ fields,
          entry.fields.Perm fields →
            (entry.fields.map Prod.fst).Nodup → { entry with fields }.line = entry.line := by
  refine ⟨⟨entry.chars, String.toList_ofList, fun _ => isControl_of_mem_chars⟩,
    ⟨entry.sortedFields, isSortedStably_sortedFields entry, read?_line_eq entry⟩,
    fun fields perm distinct => ?_⟩
  rw [line, line, chars, chars, members, members, sortedFields_of_perm perm distinct]

/-- Fields that would break a line, given in two orders. -/
theorem lines_read_back_reordered :
    (Entry.mk .warn "AMBIGUOUS" [("kept", "A\"\n"), ("class", "\u0085\\")]).line =
        (Entry.mk .warn "AMBIGUOUS" [("class", "\u0085\\"), ("kept", "A\"\n")]).line ∧
      (Entry.mk .warn "AMBIGUOUS" [("kept", "A\"\n"), ("class", "\u0085\\")]).line =
        "\x7b\"event\":\"AMBIGUOUS\",\"severity\":\"WARN\"," ++
          "\"class\":\"\\u0085\\\\\",\"kept\":\"A\\\"\\n\"\x7d\n" := by
  have reordered :=
    (lines_read_back (.mk .warn "AMBIGUOUS" [("class", "\u0085\\"), ("kept", "A\"\n")])).2.2
      [("kept", "A\"\n"), ("class", "\u0085\\")] (.swap _ _ _) (by decide)
  refine ⟨reordered, reordered.trans ?_⟩
  have sorted :
      (Entry.mk .warn "AMBIGUOUS" [("class", "\u0085\\"), ("kept", "A\"\n")]).sortedFields =
        [("class", "\u0085\\"), ("kept", "A\"\n")] :=
    List.mergeSort_of_pairwise (by decide)
  rw [line, chars, members, sorted]
  decide

end Entry

end Log

end RecordSchema
