import Mathlib.Data.List.TakeWhile
import RecordSchema.Text.Blank

namespace RecordSchema

/-!
# Texts in normal form

A text in normal form is a list of words with one space between each two.  Whatever a
text looks like, its words written in that way are in normal form.
-/

namespace Text

/-- A word has characters, and none of them is blank. -/
def IsWord (word : List Char) : Prop :=
  word ≠ [] ∧ ∀ character ∈ word, isBlank character = false

/-- A text whose words stand one space apart, with no blank before or behind them. -/
def IsNormal (text : String) : Prop :=
  ∃ words, (∀ word ∈ words, IsWord word) ∧ text = String.ofList (joinWords words)

/-- A run in front of words is one more word, unless it is empty. -/
theorem isWord_of_mem_consWord
    {run : List Char}
    {later : List (List Char)}
    (runVisible : ∀ character ∈ run, isBlank character = false)
    (laterWords : ∀ word ∈ later, IsWord word)
    {word : List Char}
    (member : word ∈ consWord run later) :
    IsWord word := by
  cases run with
  | nil =>
      exact laterWords word member
  | cons first rest =>
      rcases List.mem_cons.mp member with rfl | isLater
      · exact ⟨by simp, runVisible⟩
      · exact laterWords word isLater

/-- The run at the head of a text has no blanks, and behind it there are words. -/
theorem splitRun_spec
    (text : List Char) :
    (∀ character ∈ (splitRun text).1, isBlank character = false) ∧
      ∀ word ∈ (splitRun text).2, IsWord word := by
  induction text with
  | nil =>
      simp [splitRun]
  | cons character rest inductionHypothesis =>
      rw [splitRun]
      generalize splitRun rest = parts at inductionHypothesis ⊢
      obtain ⟨run, later⟩ := parts
      obtain ⟨runVisible, laterWords⟩ := inductionHypothesis
      dsimp only
      by_cases blank : isBlank character = true
      · rw [if_pos blank]
        exact ⟨by simp, fun word => isWord_of_mem_consWord runVisible laterWords⟩
      · rw [if_neg blank]
        refine ⟨fun other member => ?_, laterWords⟩
        rcases List.mem_cons.mp member with rfl | inRun
        · simpa using blank
        · exact runVisible other inRun

theorem isWord_of_mem_words
    {text word : List Char}
    (member : word ∈ words text) :
    IsWord word :=
  isWord_of_mem_consWord (splitRun_spec text).1 (splitRun_spec text).2 member

/-- The words of a text with one space between them are in normal form. -/
theorem isNormal_normalizeBlanks
    (text : String) :
    IsNormal (normalizeBlanks text) :=
  ⟨words text.toList, fun _ => isWord_of_mem_words, rfl⟩

theorem consWord_of_isWord
    {word : List Char}
    (isWord : IsWord word)
    (later : List (List Char)) :
    consWord word later = word :: later := by
  cases word with
  | nil =>
      exact absurd rfl isWord.1
  | cons first rest =>
      rfl

/-- Characters that are not blank lengthen the run at the head of a text. -/
theorem splitRun_append
    {run : List Char}
    (visible : ∀ character ∈ run, isBlank character = false)
    (rest : List Char) :
    splitRun (run ++ rest) = (run ++ (splitRun rest).1, (splitRun rest).2) := by
  induction run with
  | nil =>
      rfl
  | cons first later inductionHypothesis =>
      have firstVisible : isBlank first = false :=
        visible first List.mem_cons_self
      have laterSplit :=
        inductionHypothesis fun character member =>
          visible character (List.mem_cons_of_mem _ member)
      simp only [List.cons_append, splitRun, laterSplit, firstVisible]
      rfl

/-- Behind a blank the words of the rest begin. -/
theorem splitRun_blank
    {character : Char}
    (blank : isBlank character = true)
    (rest : List Char) :
    splitRun (character :: rest) = ([], words rest) := by
  simp only [splitRun, words, blank]
  rfl

/-- Words with one space between them are read back as they are. -/
theorem words_joinWords
    {list : List (List Char)}
    (areWords : ∀ word ∈ list, IsWord word) :
    words (joinWords list) = list := by
  induction list with
  | nil =>
      rfl
  | cons word rest inductionHypothesis =>
      have isWord := areWords word List.mem_cons_self
      have restWords :=
        inductionHypothesis fun other member => areWords other (List.mem_cons_of_mem _ member)
      cases rest with
      | nil =>
          have split := splitRun_append isWord.2 []
          rw [List.append_nil] at split
          rw [joinWords, words, split, splitRun, List.append_nil]
          exact consWord_of_isWord isWord []
      | cons next later =>
          rw [joinWords, words, splitRun_append isWord.2, splitRun_blank (by decide),
            List.append_nil, restWords]
          exact consWord_of_isWord isWord _

/-- A text in normal form is its own normal form. -/
theorem normalizeBlanks_of_isNormal
    {text : String}
    (normal : IsNormal text) :
    normalizeBlanks text = text := by
  obtain ⟨list, areWords, rfl⟩ := normal
  rw [normalizeBlanks, String.toList_ofList, words_joinWords areWords]

/-- A text is what is left of it between two runs of blanks. -/
theorem exists_of_trimChars
    (text : List Char) :
    ∃ before after,
      text = before ++ trimChars text ++ after ∧
        ∀ character ∈ before ++ after, isBlank character = true := by
  generalize isRest : text.dropWhile isBlank = rest
  have split : text.takeWhile isBlank ++ rest = text := by
    rw [← isRest]
    exact List.takeWhile_append_dropWhile
  have restSplit : trimChars text ++ (rest.reverse.takeWhile isBlank).reverse = rest := by
    rw [trimChars, isRest, ← List.reverse_append, List.takeWhile_append_dropWhile,
      List.reverse_reverse]
  refine ⟨text.takeWhile isBlank, (rest.reverse.takeWhile isBlank).reverse, ?_, ?_⟩
  · rw [List.append_assoc, restSplit, split]
  · intro character member
    rcases List.mem_append.mp member with isBefore | isAfter
    · exact List.mem_takeWhile_imp isBefore
    · exact List.mem_takeWhile_imp (List.mem_reverse.mp isAfter)

/-- Blanks are trimmed off on both sides of a text that has none. -/
theorem trimChars_append
    {before body after : List Char}
    (visible : ∀ character ∈ body, isBlank character = false)
    (blank : ∀ character ∈ before ++ after, isBlank character = true) :
    trimChars (before ++ body ++ after) = body := by
  have blankBefore : ∀ character ∈ before, isBlank character = true :=
    fun character member => blank character (List.mem_append_left after member)
  have blankAfter : ∀ character ∈ after, isBlank character = true :=
    fun character member => blank character (List.mem_append_right before member)
  cases body with
  | nil =>
      have nothing : (before ++ [] ++ after).dropWhile isBlank = [] := by
        rw [List.append_nil, List.dropWhile_eq_nil_iff]
        exact blank
      rw [trimChars, nothing]
      rfl
  | cons first rest =>
      have stays :
          ∀ list : List Char,
            (∀ character ∈ list, isBlank character = false) → list.dropWhile isBlank = list := by
        intro list listVisible
        cases list with
        | nil =>
            rfl
        | cons head tail =>
            exact List.dropWhile_cons_of_neg (by simp [listVisible head List.mem_cons_self])
      have firstVisible : ¬isBlank first = true := by
        simp [visible first List.mem_cons_self]
      rw [trimChars, List.append_assoc, List.dropWhile_append_of_pos blankBefore,
        List.cons_append, List.dropWhile_cons_of_neg firstVisible, ← List.cons_append,
        List.reverse_append, List.dropWhile_append_of_pos (by simpa using blankAfter), stays,
        List.reverse_reverse]
      intro character member
      exact visible character (List.mem_reverse.mp member)

end Text

end RecordSchema
