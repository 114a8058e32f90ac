import Mathlib.Data.List.Chain
import RecordSchema.Cast
import RecordSchema.Proofs.Text.Blank

namespace RecordSchema

/-!
# Texts that are cast to strings

A text holds words: runs of characters that no blank interrupts and that go on at neither end.
Its cast to a string keeps the words in their order, writes them one space apart, and keeps
nothing else.  Two texts with the same words are therefore the same string.
-/

namespace Text

/-- The words of a text in their order, each as long as the blanks around it let it be. -/
inductive HasWords : List Char → List (List Char) → Prop where
  | none
      {gap : List Char}
      (blank : ∀ character ∈ gap, isBlank character = true) :
      HasWords gap []
  | next
      {gap word rest : List Char}
      {later : List (List Char)}
      (blank : ∀ character ∈ gap, isBlank character = true)
      (isWord : IsWord word)
      (ends : ∀ character ∈ rest.head?, isBlank character = true)
      (hasLater : HasWords rest later) :
      HasWords (gap ++ word ++ rest) (word :: later)

variable
  {text gap word rest : List Char}
  {list : List (List Char)}

/-- A text without blanks at its ends, in which no two blanks meet and all are spaces. -/
structure IsTidy (text : List Char) : Prop where
  begins : ∀ character ∈ text.head?, isBlank character = false
  ends : ∀ character ∈ text.getLast?, isBlank character = false
  spaces : ∀ character ∈ text, isBlank character = true → character = ' '
  apart : text.IsChain fun first second => ¬(first = ' ' ∧ second = ' ')

theorem words_cons_of_blank
    {character : Char}
    (blank : isBlank character = true) :
    words (character :: rest) = words rest := by
  rw [words, splitRun_blank blank]
  rfl

theorem words_append_of_blank
    (blank : ∀ character ∈ gap, isBlank character = true) :
    words (gap ++ rest) = words rest := by
  induction gap with
  | nil =>
      rfl
  | cons first later inductionHypothesis =>
      obtain ⟨firstBlank, laterBlank⟩ := List.forall_mem_cons.mp blank
      rw [List.cons_append, words_cons_of_blank firstBlank, inductionHypothesis laterBlank]

/-- A text that does not go on with a word begins with an empty run. -/
theorem splitRun_of_ends
    (ends : ∀ character ∈ rest.head?, isBlank character = true) :
    splitRun rest = ([], words rest) := by
  cases rest with
  | nil =>
      rfl
  | cons first later =>
      have firstBlank : isBlank first = true :=
        ends first rfl
      rw [splitRun_blank firstBlank, words_cons_of_blank firstBlank]

theorem words_append_of_isWord
    (isWord : IsWord word)
    (ends : ∀ character ∈ rest.head?, isBlank character = true) :
    words (word ++ rest) = word :: words rest := by
  rw [words, splitRun_append isWord.2, splitRun_of_ends ends, List.append_nil]
  exact consWord_of_isWord isWord _

theorem words_of_hasWords
    (has : HasWords text list) :
    words text = list := by
  induction has with
  | @none gap blank =>
      have nothing : words (gap ++ []) = [] :=
        words_append_of_blank blank
      rwa [List.append_nil] at nothing
  | next blank isWord ends hasLater inductionHypothesis =>
      rw [List.append_assoc, words_append_of_blank blank, words_append_of_isWord isWord ends,
        inductionHypothesis]

/-- A further blank in front changes no words. -/
theorem HasWords.cons_of_blank
    {character : Char}
    (blank : isBlank character = true)
    (has : HasWords text list) :
    HasWords (character :: text) list := by
  cases has with
  | none others =>
      exact .none (List.forall_mem_cons.mpr ⟨blank, others⟩)
  | next others isWord ends hasLater =>
      exact .next (List.forall_mem_cons.mpr ⟨blank, others⟩) isWord ends hasLater

/-- Another character in front begins a word or lengthens the first one. -/
theorem HasWords.exists_cons
    {character : Char}
    (visible : isBlank character = false)
    (has : HasWords text list) :
    ∃ longer, HasWords (character :: text) longer := by
  have isWord : IsWord [character] :=
    ⟨by simp, by simpa using visible⟩
  have nothing : ∀ character ∈ ([] : List Char), isBlank character = true := by
    simp
  have begins
      (ends : ∀ other ∈ text.head?, isBlank other = true) :
      HasWords (character :: text) ([character] :: list) :=
    .next nothing isWord ends has
  cases has with
  | none others =>
      refine ⟨_, begins ?_⟩
      intro other isFirst
      exact others other (List.mem_of_mem_head? isFirst)
  | @next gap word rest later others wordIs ends hasLater =>
      cases gap with
      | nil =>
          have longer : IsWord (character :: word) :=
            ⟨by simp, List.forall_mem_cons.mpr ⟨visible, wordIs.2⟩⟩
          exact ⟨_, .next nothing longer ends hasLater⟩
      | cons first gap =>
          refine ⟨_, begins ?_⟩
          intro other isFirst
          cases isFirst
          exact others first List.mem_cons_self

theorem exists_hasWords
    (text : List Char) :
    ∃ list, HasWords text list := by
  induction text with
  | nil =>
      exact ⟨[], .none (by simp)⟩
  | cons character rest inductionHypothesis =>
      obtain ⟨list, has⟩ := inductionHypothesis
      cases blank : isBlank character with
      | true =>
          exact ⟨list, has.cons_of_blank blank⟩
      | false =>
          exact has.exists_cons blank

/-- Every text has its words, and no others. -/
theorem hasWords_iff :
    HasWords text list ↔ list = words text := by
  constructor
  · intro has
    exact (words_of_hasWords has).symm
  · rintro rfl
    obtain ⟨list, has⟩ := exists_hasWords text
    rwa [words_of_hasWords has]

theorem hasWords_nil_iff :
    HasWords text [] ↔ ∀ character ∈ text, isBlank character = true := by
  constructor
  · intro has
    cases has with
    | none blank => exact blank
  · exact .none

theorem joinWords_eq_intercalate
    (list : List (List Char)) :
    joinWords list = [' '].intercalate list := by
  induction list with
  | nil =>
      rfl
  | cons word rest inductionHypothesis =>
      cases rest with
      | nil =>
          simp [joinWords]
      | cons next later =>
          rw [joinWords, inductionHypothesis, List.intercalate_cons_cons, List.append_assoc,
            List.singleton_append]

theorem joinWords_eq_nil_iff
    (areWords : ∀ word ∈ list, IsWord word) :
    joinWords list = [] ↔ list = [] := by
  cases list with
  | nil =>
      simp [joinWords]
  | cons word rest =>
      have notEmpty : word ≠ [] :=
        (areWords word List.mem_cons_self).1
      cases rest <;> simp [joinWords, notEmpty]

theorem IsWord.isTidy
    (isWord : IsWord word) :
    IsTidy word where
  begins character isFirst := isWord.2 character (List.mem_of_mem_head? isFirst)
  ends character isLast := isWord.2 character (List.mem_of_mem_getLast? isLast)
  spaces character member blank := by
    rw [isWord.2 character member] at blank
    cases blank
  apart := by
    apply List.Pairwise.isChain
    apply List.pairwise_of_forall_mem_list
    rintro first firstMember second _ ⟨rfl, _⟩
    have notBlank := isWord.2 ' ' firstMember
    cases notBlank

/-- Two tidy texts may stand one space apart. -/
theorem IsTidy.append
    {first second : List Char}
    (firstTidy : IsTidy first)
    (secondTidy : IsTidy second)
    (firstPresent : first ≠ [])
    (secondPresent : second ≠ []) :
    IsTidy (first ++ ' ' :: second) where
  begins character isFirst := by
    rw [List.head?_append_of_ne_nil _ firstPresent] at isFirst
    exact firstTidy.begins character isFirst
  ends character isLast := by
    rw [List.getLast?_append_of_ne_nil _ (by simp), List.getLast?_cons_of_ne_nil secondPresent]
      at isLast
    exact secondTidy.ends character isLast
  spaces character member blank := by
    rcases List.mem_append.mp member with inFirst | inRest
    · exact firstTidy.spaces character inFirst blank
    · rcases List.mem_cons.mp inRest with isSpace | inSecond
      · exact isSpace
      · exact secondTidy.spaces character inSecond blank
  apart := by
    have notSpace :
        ∀ {character : Char}, isBlank character = false → character ≠ ' ' := by
      rintro _ visible rfl
      cases visible
    refine firstTidy.apart.append (secondTidy.apart.cons ?_) ?_
    · rintro character isFirst ⟨_, isSpace⟩
      exact notSpace (secondTidy.begins character isFirst) isSpace
    · rintro character isLast _ _ ⟨isSpace, _⟩
      exact notSpace (firstTidy.ends character isLast) isSpace

/-- Words that stand one space apart make a tidy text. -/
theorem isTidy_joinWords
    (areWords : ∀ word ∈ list, IsWord word) :
    IsTidy (joinWords list) := by
  induction list with
  | nil =>
      exact ⟨by simp [joinWords], by simp [joinWords], by simp [joinWords], .nil⟩
  | cons word rest inductionHypothesis =>
      obtain ⟨isWord, restWords⟩ := List.forall_mem_cons.mp areWords
      cases rest with
      | nil =>
          exact isWord.isTidy
      | cons next later =>
          have restPresent : joinWords (next :: later) ≠ [] := by
            simp [joinWords_eq_nil_iff restWords]
          exact isWord.isTidy.append (inductionHypothesis restWords) isWord.1 restPresent

theorem toList_normalizeBlanks
    (text : String) :
    (normalizeBlanks text).toList = joinWords (words text.toList) :=
  String.toList_ofList

/-- The normal form of a text has the words of the text. -/
theorem words_normalizeBlanks
    (text : String) :
    words (normalizeBlanks text).toList = words text.toList := by
  rw [toList_normalizeBlanks]
  exact words_joinWords fun _ => isWord_of_mem_words

theorem isTidy_normalizeBlanks
    (text : String) :
    IsTidy (normalizeBlanks text).toList := by
  rw [toList_normalizeBlanks]
  exact isTidy_joinWords fun _ => isWord_of_mem_words

theorem normalizeBlanks_eq_empty_iff
    {text : String} :
    normalizeBlanks text = "" ↔ ∀ character ∈ text.toList, isBlank character = true := by
  have areWords : ∀ word ∈ words text.toList, IsWord word :=
    fun _ => isWord_of_mem_words
  rw [← String.toList_eq_nil_iff, toList_normalizeBlanks, joinWords_eq_nil_iff areWords, eq_comm,
    ← hasWords_iff, hasWords_nil_iff]

/-- Texts have one normal form exactly if they have the same words. -/
theorem normalizeBlanks_eq_iff
    {first second : String} :
    normalizeBlanks first = normalizeBlanks second ↔
      words first.toList = words second.toList := by
  constructor
  · intro same
    rw [← words_normalizeBlanks first, same, words_normalizeBlanks second]
  · intro sameWords
    rw [normalizeBlanks, normalizeBlanks, sameWords]

end Text

namespace Cast

/--
Every text is cast to its words one space apart, a tidy text with the same words that is empty
exactly if the text is blank.  Two texts are cast to the same string exactly if they have the
same words.
-/
theorem strings_keep_words :
    (∀ text : String, ∃ list result,
      (∀ other, Text.HasWords text.toList other ↔ other = list) ∧
        toStringValue (.string text) = .ok result ∧
          result.toList = [' '].intercalate list ∧ Text.IsTidy result.toList ∧
            (∀ other, Text.HasWords result.toList other ↔ other = list) ∧
              (result = "" ↔ ∀ character ∈ text.toList, Text.isBlank character = true)) ∧
      ∀ first second : String,
        toStringValue (.string first) = toStringValue (.string second) ↔
          ∀ list, Text.HasWords first.toList list ↔ Text.HasWords second.toList list := by
  constructor
  · intro text
    refine ⟨Text.words text.toList, Text.normalizeBlanks text, fun _ => Text.hasWords_iff, rfl,
      ?_, Text.isTidy_normalizeBlanks text, fun _ => ?_, Text.normalizeBlanks_eq_empty_iff⟩
    · rw [Text.toList_normalizeBlanks, Text.joinWords_eq_intercalate]
    · rw [Text.hasWords_iff, Text.words_normalizeBlanks]
  · intro first second
    simp only [toStringValue, Except.ok.injEq, Text.hasWords_iff, Text.normalizeBlanks_eq_iff]
    constructor
    · intro sameWords list
      rw [sameWords]
    · intro sameLists
      exact (sameLists _).mp rfl

/-- Blanks of three kinds are dropped or become one space. -/
example :
    toStringValue (.string "\u00a0a\t\u2003b \u3000") = .ok "a b" :=
  rfl

end Cast

end RecordSchema
