import Mathlib.Data.List.Basic
import RecordSchema.Proofs.Text.Blank
import RecordSchema.Text.CaseMapping

namespace RecordSchema

/-!
# Texts in lower case

The images of the case table lie apart from the characters that it moves, so a text in
lower case stays as it is.  They also lie apart from the blanks, which the table does not
move either: lower case keeps the blanks of a text where they are, and words stay words.
-/

namespace Text

/-- Two runs of code points, given by their ends, have none in common. -/
def areApart (left right : Nat × Nat) : Bool :=
  left.2.blt right.1 || right.2.blt left.1

namespace CaseRun

/-- The ends of the code points that a run moves. -/
def domain (run : CaseRun) : Nat × Nat :=
  (run.first, run.last)

/-- The ends of the images of a run. -/
def images (run : CaseRun) : Nat × Nat :=
  ((run.first + run.offset).toNat, (run.last + run.offset).toNat)

/-- Whether the images of a run can only fall between the code points of another. -/
def alternatesWith (run other : CaseRun) : Bool :=
  other.stride == 2 && (run.stride == 2 || run.first == run.last) &&
    0 ≤ run.first + run.offset && (run.first + run.offset - other.first) % 2 == 1

/-- What a run moves lies between the ends of its domain, and the image between those of its images. -/
theorem image?_eq_some
    {run : CaseRun}
    {code image : Nat}
    (isImage : run.image? code = some image) :
    run.first ≤ code ∧ code ≤ run.last ∧ (code - run.first) % run.stride = 0 ∧
      image = (code + run.offset).toNat := by
  rw [image?] at isImage
  split at isImage
  · rename_i inRun
    cases isImage
    simp only [Bool.and_eq_true, decide_eq_true_eq, beq_iff_eq] at inRun
    exact ⟨inRun.1.1, inRun.1.2, inRun.2, rfl⟩
  · cases isImage

/-- A run that the images of another keep off moves none of them. -/
theorem image?_eq_none
    {run other : CaseRun}
    {code image : Nat}
    (keepsOff : (areApart run.images other.domain || run.alternatesWith other) = true)
    (isImage : run.image? code = some image) :
    other.image? image = none := by
  obtain ⟨aboveFirst, belowLast, onStride, rfl⟩ := image?_eq_some isImage
  cases moved : other.image? (code + run.offset).toNat with
  | none =>
      rfl
  | some next =>
      obtain ⟨aboveOther, belowOther, onOther, _⟩ := image?_eq_some moved
      simp only [areApart, images, domain, alternatesWith, Bool.or_eq_true, Bool.and_eq_true,
        Nat.blt_eq, decide_eq_true_eq, beq_iff_eq] at keepsOff
      rcases keepsOff with (below | above) | ⟨⟨⟨otherStride, single⟩, natural⟩, odd⟩
      · omega
      · omega
      · rw [otherStride] at onOther
        rcases single with stride | single
        · rw [stride] at onStride
          omega
        · omega

end CaseRun

/-- No image of the table is moved by it. -/
private theorem lowerRuns_keepOff :
    (lowerRuns.all fun run =>
      lowerRuns.all fun other =>
        areApart run.images other.domain || run.alternatesWith other) = true := by
  decide +kernel

/-- No image of the table is the one character whose image is longer. -/
private theorem lowerRuns_apart_expansions :
    (lowerRuns.all fun run =>
      lowerExpansions.all fun expansion =>
        areApart run.images (expansion.1, expansion.1)) = true := by
  decide +kernel

/-- The ends of the runs of blanks. -/
def blankRanges : List (Nat × Nat) :=
  [(0x09, 0x0D), (0x20, 0x20), (0x85, 0x85), (0xA0, 0xA0), (0x1680, 0x1680), (0x2000, 0x200A),
    (0x2028, 0x2029), (0x202F, 0x202F), (0x205F, 0x205F), (0x3000, 0x3000)]

/-- The blanks are those of their runs. -/
theorem isBlank_iff
    {character : Char} :
    isBlank character = true ↔
      ∃ range ∈ blankRanges, range.1 ≤ character.toNat ∧ character.toNat ≤ range.2 := by
  simp only [isBlank, blankRanges, List.mem_cons, List.not_mem_nil, or_false, exists_eq_or_imp,
    exists_eq_left, Bool.or_eq_true, Bool.and_eq_true, decide_eq_true_eq, beq_iff_eq]
  omega

/-- The table neither moves a blank nor gives one. -/
private theorem lowerRuns_apart_blanks :
    (lowerRuns.all fun run =>
      blankRanges.all fun range =>
        areApart run.images range && areApart run.domain range) = true := by
  decide +kernel

/-- A character that lower case leaves as it is. -/
def IsLower (character : Char) : Prop :=
  lowerCharacter character = [character]

instance (character : Char) : Decidable (IsLower character) :=
  inferInstanceAs (Decidable (lowerCharacter character = [character]))

/-- A character stays, it is moved by a run, or it has the longer image. -/
theorem lowerCharacter_cases
    (character : Char) :
    IsLower character ∨
      (∃ run ∈ lowerRuns, ∃ image,
        run.image? character.toNat = some image ∧ lowerCharacter character = [Char.ofNat image]) ∨
        character = '\u0130' := by
  rw [IsLower, lowerCharacter, mapCase]
  split
  · rename_i codes found
    obtain ⟨before, after, shape, _⟩ := List.lookup_eq_some_iff.mp found
    have member : (character.toNat, codes) ∈ lowerExpansions := by
      rw [shape]
      simp
    rw [lowerExpansions, List.mem_singleton, Prod.mk.injEq] at member
    exact .inr (.inr (Char.toNat_inj.mp member.1))
  · split
    · rename_i image found
      obtain ⟨run, member, isImage⟩ := List.exists_of_findSome?_eq_some found
      exact .inr (.inl ⟨run, member, image, isImage, rfl⟩)
    · exact .inl rfl

/-- A number that is no character stands for the null character. -/
theorem toNat_ofNat
    (code : Nat) :
    (Char.ofNat code).toNat = code ∨ Char.ofNat code = '\u0000' := by
  by_cases valid : code.isValidChar
  · have isCharacter : Char.ofNat code = Char.ofNatAux code valid := dif_pos valid
    rw [isCharacter]
    exact .inl rfl
  · exact .inr (dif_neg valid)

/-- What a run gives is left as it is. -/
theorem isLower_image
    {run : CaseRun}
    (member : run ∈ lowerRuns)
    {code image : Nat}
    (isImage : run.image? code = some image) :
    IsLower (Char.ofNat image) := by
  rcases toNat_ofNat image with sameCode | isNullCharacter
  · have unmoved : lowerRuns.findSome? (fun other => other.image? image) = none := by
      rw [List.findSome?_eq_none_iff]
      intro other otherMember
      have keepsOff := List.all_eq_true.mp lowerRuns_keepOff run member
      exact CaseRun.image?_eq_none (List.all_eq_true.mp keepsOff other otherMember) isImage
    have unexpanded : lowerExpansions.lookup image = none := by
      rw [List.lookup_eq_none_iff]
      intro expansion expansionMember
      have allApart := List.all_eq_true.mp lowerRuns_apart_expansions run member
      have apart := List.all_eq_true.mp allApart expansion expansionMember
      obtain ⟨aboveFirst, belowLast, _, rfl⟩ := CaseRun.image?_eq_some isImage
      simp only [areApart, CaseRun.images, Bool.or_eq_true, Nat.blt_eq] at apart
      rw [bne_iff_ne]
      omega
    rw [IsLower, lowerCharacter, mapCase, sameCode, unexpanded, unmoved]
  · rw [isNullCharacter]
    decide +kernel

/-- The only character with more than one image. -/
theorem lowerCharacter_dottedCapital :
    lowerCharacter '\u0130' = ['i', '\u0307'] := by
  decide +kernel

/-- The images of a character are left as they are. -/
theorem isLower_of_mem_lowerCharacter
    {character image : Char}
    (member : image ∈ lowerCharacter character) :
    IsLower image := by
  rcases lowerCharacter_cases character with lower | ⟨run, isRun, code, isImage, shape⟩ | rfl
  · rw [lower, List.mem_singleton] at member
    rw [member]
    exact lower
  · rw [shape, List.mem_singleton] at member
    rw [member]
    exact isLower_image isRun isImage
  · rw [lowerCharacter_dottedCapital, List.mem_pair] at member
    rcases member with rfl | rfl <;> decide +kernel

theorem lowerCharacter_ne_nil
    (character : Char) :
    lowerCharacter character ≠ [] := by
  rcases lowerCharacter_cases character with shape | ⟨_, _, _, _, shape⟩ | rfl
  · rw [shape]
    simp
  · rw [shape]
    simp
  · rw [lowerCharacter_dottedCapital]
    simp

/-- Blanks are left as they are. -/
theorem isLower_of_isBlank
    {character : Char}
    (blank : isBlank character = true) :
    IsLower character := by
  obtain ⟨range, isRange, aboveFirst, belowLast⟩ := isBlank_iff.mp blank
  rcases lowerCharacter_cases character with lower | ⟨run, isRun, code, isImage, _⟩ | rfl
  · exact lower
  · have apart := List.all_eq_true.mp (List.all_eq_true.mp lowerRuns_apart_blanks run isRun) range
      isRange
    obtain ⟨aboveRun, belowRun, _, _⟩ := CaseRun.image?_eq_some isImage
    simp only [areApart, CaseRun.domain, Bool.or_eq_true, Bool.and_eq_true, Nat.blt_eq] at apart
    omega
  · exact absurd blank (by decide)

/-- A character that is no blank has no blank among its images. -/
theorem isBlank_of_mem_lowerCharacter
    {character image : Char}
    (visible : isBlank character = false)
    (member : image ∈ lowerCharacter character) :
    isBlank image = false := by
  rcases lowerCharacter_cases character with lower | ⟨run, isRun, code, isImage, shape⟩ | rfl
  · rw [lower, List.mem_singleton] at member
    rwa [member]
  · rw [shape, List.mem_singleton] at member
    rw [member]
    rcases toNat_ofNat code with sameCode | isNullCharacter
    · refine Bool.eq_false_iff.mpr fun blank => ?_
      obtain ⟨range, isRange, aboveFirst, belowLast⟩ := isBlank_iff.mp blank
      have allApart := List.all_eq_true.mp lowerRuns_apart_blanks run isRun
      have apart := List.all_eq_true.mp allApart range isRange
      obtain ⟨aboveRun, belowRun, _, rfl⟩ := CaseRun.image?_eq_some isImage
      simp only [areApart, CaseRun.images, Bool.or_eq_true, Bool.and_eq_true, Nat.blt_eq] at apart
      omega
    · rw [isNullCharacter]
      decide
  · rw [lowerCharacter_dottedCapital, List.mem_pair] at member
    rcases member with rfl | rfl <;> decide

/-- The images of a character between the text before it, in reverse order, and the text after it. -/
def lowerBetween (before : List Char) (character : Char) (after : List Char) : List Char :=
  if character = 'Σ' then
    if startsCased before && !startsCased after then ['ς'] else ['σ']
  else
    lowerCharacter character

theorem lowerFrom_cons
    (before : List Char)
    (character : Char)
    (after : List Char) :
    lowerFrom before (character :: after) =
      lowerBetween before character after ++ lowerFrom (character :: before) after :=
  rfl

/-- Only a sigma depends on what stands around it. -/
theorem lowerBetween_cases
    (before : List Char)
    (character : Char)
    (after : List Char) :
    lowerBetween before character after = lowerCharacter character ∨
      character = 'Σ' ∧
        (lowerBetween before character after = ['ς'] ∨
          lowerBetween before character after = ['σ']) := by
  rw [lowerBetween]
  split
  · rename_i isSigma
    refine .inr ⟨isSigma, ?_⟩
    split
    · exact .inl rfl
    · exact .inr rfl
  · exact .inl rfl

theorem lowerBetween_of_isLower
    {character : Char}
    (lower : IsLower character)
    (before after : List Char) :
    lowerBetween before character after = [character] := by
  have different : character ≠ 'Σ' := by
    rintro rfl
    revert lower
    decide +kernel
  rw [lowerBetween, if_neg different]
  exact lower

theorem isLower_of_mem_lowerBetween
    {before after : List Char}
    {character image : Char}
    (member : image ∈ lowerBetween before character after) :
    IsLower image := by
  rcases lowerBetween_cases before character after with shape | ⟨_, shape | shape⟩ <;>
    rw [shape] at member
  · exact isLower_of_mem_lowerCharacter member
  · rw [List.mem_singleton.mp member]
    decide +kernel
  · rw [List.mem_singleton.mp member]
    decide +kernel

theorem lowerBetween_ne_nil
    (before : List Char)
    (character : Char)
    (after : List Char) :
    lowerBetween before character after ≠ [] := by
  rcases lowerBetween_cases before character after with shape | ⟨_, shape | shape⟩ <;> rw [shape]
  · exact lowerCharacter_ne_nil character
  · simp
  · simp

/-- What is no blank has no blank among its images. -/
theorem isBlank_of_mem_lowerBetween
    {before after : List Char}
    {character image : Char}
    (visible : isBlank character = false)
    (member : image ∈ lowerBetween before character after) :
    isBlank image = false := by
  rcases lowerBetween_cases before character after with shape | ⟨_, shape | shape⟩ <;>
    rw [shape] at member
  · exact isBlank_of_mem_lowerCharacter visible member
  · rw [List.mem_singleton.mp member]
    decide
  · rw [List.mem_singleton.mp member]
    decide

/-- A text of characters in lower case stays as it is. -/
theorem lowerFrom_of_isLower
    {text : List Char}
    (lower : ∀ character ∈ text, IsLower character)
    (before : List Char) :
    lowerFrom before text = text := by
  induction text generalizing before with
  | nil =>
      rfl
  | cons first rest inductionHypothesis =>
      have restStays :=
        inductionHypothesis (fun character member => lower character (List.mem_cons_of_mem _ member))
          (first :: before)
      rw [lowerFrom_cons, lowerBetween_of_isLower (lower first List.mem_cons_self), restStays]
      rfl

theorem isLower_of_mem_lowerFrom
    {before text : List Char}
    {image : Char}
    (member : image ∈ lowerFrom before text) :
    IsLower image := by
  induction text generalizing before with
  | nil =>
      cases member
  | cons first rest inductionHypothesis =>
      rw [lowerFrom_cons, List.mem_append] at member
      rcases member with ofFirst | ofRest
      · exact isLower_of_mem_lowerBetween ofFirst
      · exact inductionHypothesis ofRest

/-- A text in lower case is its own image. -/
theorem lowercase_lowercase
    (text : String) :
    lowercase (lowercase text) = lowercase text := by
  rw [lowercase, lowercase, String.toList_ofList,
    lowerFrom_of_isLower fun image => isLower_of_mem_lowerFrom]

/-- A word at the head of a text becomes a word. -/
theorem lowerFrom_append
    {run : List Char}
    (visible : ∀ character ∈ run, isBlank character = false)
    (before rest : List Char) :
    ∃ image,
      lowerFrom before (run ++ rest) = image ++ lowerFrom (run.reverse ++ before) rest ∧
        (image = [] → run = []) ∧ ∀ character ∈ image, isBlank character = false := by
  induction run generalizing before with
  | nil =>
      exact ⟨[], rfl, id, by simp⟩
  | cons first later inductionHypothesis =>
      obtain ⟨image, shape, _, imageVisible⟩ :=
        inductionHypothesis (fun character member => visible character (List.mem_cons_of_mem _ member))
          (first :: before)
      refine ⟨lowerBetween before first (later ++ rest) ++ image, ?_, ?_, ?_⟩
      · rw [List.cons_append, lowerFrom_cons, shape]
        simp
      · intro isEmpty
        exact absurd (List.append_eq_nil_iff.mp isEmpty).1 (lowerBetween_ne_nil _ _ _)
      · intro character member
        rcases List.mem_append.mp member with ofFirst | ofLater
        · exact isBlank_of_mem_lowerBetween (visible first List.mem_cons_self) ofFirst
        · exact imageVisible character ofLater

/-- Words one space apart become words one space apart. -/
theorem lowerFrom_joinWords
    {list : List (List Char)}
    (areWords : ∀ word ∈ list, IsWord word)
    (before : List Char) :
    ∃ images, (∀ word ∈ images, IsWord word) ∧
      lowerFrom before (joinWords list) = joinWords images ∧ (images = [] ↔ list = []) := by
  induction list generalizing before with
  | nil =>
      exact ⟨[], by simp, rfl, Iff.rfl⟩
  | cons word rest inductionHypothesis =>
      have isWord := areWords word List.mem_cons_self
      have areRest := fun other member => areWords other (List.mem_cons_of_mem _ member)
      cases rest with
      | nil =>
          obtain ⟨image, shape, present, visible⟩ := lowerFrom_append isWord.2 before []
          rw [List.append_nil, lowerFrom, List.append_nil] at shape
          refine ⟨[image], ?_, shape, by simp⟩
          intro other member
          rw [List.mem_singleton.mp member]
          exact ⟨fun isEmpty => isWord.1 (present isEmpty), visible⟩
      | cons next later =>
          obtain ⟨image, shape, present, visible⟩ :=
            lowerFrom_append isWord.2 before (' ' :: joinWords (next :: later))
          obtain ⟨images, areImages, restShape, someImage⟩ :=
            inductionHypothesis areRest (' ' :: (word.reverse ++ before))
          refine ⟨image :: images, ?_, ?_, by simp⟩
          · intro other member
            rcases List.mem_cons.mp member with rfl | ofRest
            · exact ⟨fun isEmpty => isWord.1 (present isEmpty), visible⟩
            · exact areImages other ofRest
          · rw [joinWords, shape, lowerFrom_cons, restShape,
              lowerBetween_of_isLower (isLower_of_isBlank (by decide))]
            cases images with
            | nil => simp at someImage
            | cons _ _ => rfl

/-- A text in normal form is in normal form also in lower case. -/
theorem isNormal_lowercase
    {text : String}
    (normal : IsNormal text) :
    IsNormal (lowercase text) := by
  obtain ⟨list, areWords, rfl⟩ := normal
  obtain ⟨images, areImages, shape, _⟩ := lowerFrom_joinWords areWords []
  exact ⟨images, areImages, by rw [lowercase, String.toList_ofList, shape]⟩

/-- Only the empty text is empty in lower case. -/
theorem lowercase_eq_empty_iff
    {text : String} :
    lowercase text = "" ↔ text = "" := by
  constructor
  · intro isEmpty
    rw [lowercase, String.ofList_eq_empty_iff] at isEmpty
    cases shape : text.toList with
    | nil =>
        exact String.toList_eq_nil_iff.mp shape
    | cons first rest =>
        rw [shape, lowerFrom_cons] at isEmpty
        exact absurd (List.append_eq_nil_iff.mp isEmpty).1 (lowerBetween_ne_nil _ _ _)
  · rintro rfl
    rfl

end Text

end RecordSchema
