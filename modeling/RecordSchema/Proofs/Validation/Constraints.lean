import Mathlib.Data.List.Basic
import RecordSchema.Property

namespace RecordSchema

/-!
# Satisfied constraints

What each constraint demands of a value, said without the test that checks it: a value
is without violations exactly when it satisfies every constraint that is set.
-/

/-- The 64-bit integer of a value is the one that it writes. -/
theorem Json.toInt64?_eq_some_iff
    {value : Json}
    {number : Int64} :
    value.toInt64? = some number ↔ value = .ofInt64 number := by
  constructor
  · intro found
    cases value with
    | number source =>
        cases source with
        | integer source =>
            have same : number.toInt = source := int64OfInt?_eq_some_iff.mp found
            rw [← same]
            rfl
        | double source =>
            cases found
    | _ => cases found
  · rintro rfl
    exact int64OfInt?_toInt number

namespace Constraints

/-- What a value must be so that it violates no constraint. -/
structure Satisfied (constraints : Constraints) (value : Json) : Prop where
  nonEmpty :
    constraints.nonEmpty = true → value ≠ .string "" ∧ value ≠ .array []
  choices :
    ∀ choices, constraints.choices = some choices → ∃ choice ∈ choices, value.same choice = true
  pattern :
    ∀ pattern text,
      constraints.pattern = some pattern → value = .string text → pattern.isMatch text = true
  min :
    ∀ bound number, constraints.min = some bound → value = .ofInt64 number → bound ≤ number
  max :
    ∀ bound number, constraints.max = some bound → value = .ofInt64 number → number ≤ bound
  minItems :
    ∀ bound items,
      constraints.minItems = some bound → value = .array items → bound.toNat ≤ items.length

@[simp] theorem failing_eq_nil_iff
    {test : Bool}
    {kind : FailureKind} :
    failing test kind = [] ↔ test = true := by
  cases test <;> simp [failing]

/-- A test that an optional bound asks for does not fail when it succeeds for that bound. -/
theorem flatMap_failing_eq_nil_iff
    {bound? : Option α}
    {test : α → Bool}
    {kind : α → FailureKind} :
    (bound?.toList.flatMap fun bound => failing (test bound) (kind bound)) = [] ↔
      ∀ bound, bound? = some bound → test bound = true := by
  cases bound? with
  | none =>
      simp
  | some bound =>
      simp

theorem isNonEmpty_iff
    {value : Json} :
    isNonEmpty value = true ↔ value ≠ .string "" ∧ value ≠ .array [] := by
  cases value <;> simp [isNonEmpty]

theorem isMatched_iff
    {pattern : Pattern}
    {value : Json} :
    isMatched pattern value = true ↔ ∀ text, value = .string text → pattern.isMatch text = true := by
  cases value <;> simp [isMatched]

theorem isAtLeast_iff
    {bound : Int64}
    {value : Json} :
    isAtLeast bound value = true ↔ ∀ number, value = .ofInt64 number → bound ≤ number := by
  simp only [← Json.toInt64?_eq_some_iff, isAtLeast]
  cases value.toInt64? <;> simp

theorem isAtMost_iff
    {bound : Int64}
    {value : Json} :
    isAtMost bound value = true ↔ ∀ number, value = .ofInt64 number → number ≤ bound := by
  simp only [← Json.toInt64?_eq_some_iff, isAtMost]
  cases value.toInt64? <;> simp

theorem hasItems_iff
    {bound : UInt64}
    {value : Json} :
    hasItems bound value = true ↔ ∀ items, value = .array items → bound.toNat ≤ items.length := by
  cases value <;> simp [hasItems]

/-- A value is without violations exactly when it satisfies the constraints. -/
theorem violations_eq_nil_iff
    {constraints : Constraints}
    {value : Json} :
    constraints.violations value = [] ↔ constraints.Satisfied value := by
  simp only [violations, List.append_eq_nil_iff, flatMap_failing_eq_nil_iff, failing_eq_nil_iff,
    Bool.or_eq_true, Bool.not_eq_true', isNonEmpty_iff, isMatched_iff, isAtLeast_iff,
    isAtMost_iff, hasItems_iff, List.contains_iff_exists_mem_beq]
  constructor
  · rintro ⟨⟨⟨⟨⟨nonEmpty, choices⟩, pattern⟩, min⟩, max⟩, minItems⟩
    refine
      { nonEmpty := fun demanded => ?_
        choices := choices
        pattern := fun source text isPattern => pattern source isPattern text
        min := fun bound number isBound => min bound isBound number
        max := fun bound number isBound => max bound isBound number
        minItems := fun bound items isBound => minItems bound isBound items }
    rcases nonEmpty with notDemanded | holds
    · rw [demanded] at notDemanded
      cases notDemanded
    · exact holds
  · intro satisfied
    refine ⟨⟨⟨⟨⟨?_, satisfied.choices⟩, fun source isPattern text => ?_⟩,
      fun bound isBound number => ?_⟩, fun bound isBound number => ?_⟩,
      fun bound isBound items => ?_⟩
    · cases demanded : constraints.nonEmpty with
      | false => exact .inl rfl
      | true => exact .inr (satisfied.nonEmpty demanded)
    · exact satisfied.pattern source text isPattern
    · exact satisfied.min bound number isBound
    · exact satisfied.max bound number isBound
    · exact satisfied.minItems bound items isBound

/-- The constraints that a value violates, each with the cause that it is reported for. -/
inductive Violates (constraints : Constraints) (value : Json) : FailureKind → Prop where
  | nonEmpty :
      constraints.nonEmpty = true →
      (value = .string "" ∨ value = .array []) →
      Violates constraints value .empty
  | choices {choices : List Json} :
      constraints.choices = some choices →
      (∀ choice ∈ choices, value.same choice = false) →
      Violates constraints value .notInChoices
  | pattern {pattern : Pattern} {text : String} :
      constraints.pattern = some pattern →
      value = .string text →
      pattern.isMatch text = false →
      Violates constraints value (.patternMismatch pattern.source)
  | min {bound number : Int64} :
      constraints.min = some bound →
      value = .ofInt64 number →
      number < bound →
      Violates constraints value (.belowMinimum bound)
  | max {bound number : Int64} :
      constraints.max = some bound →
      value = .ofInt64 number →
      bound < number →
      Violates constraints value (.aboveMaximum bound)
  | minItems {bound : UInt64} {items : List Json} :
      constraints.minItems = some bound →
      value = .array items →
      items.length < bound.toNat →
      Violates constraints value (.tooFewItems bound)

theorem mem_failing_iff
    {test : Bool}
    {kind cause : FailureKind} :
    cause ∈ failing test kind ↔ test = false ∧ cause = kind := by
  cases test <;> simp [failing]

/-- The violations of a value are found, and no others. -/
theorem mem_violations_iff
    {constraints : Constraints}
    {value : Json}
    {kind : FailureKind} :
    kind ∈ constraints.violations value ↔ constraints.Violates value kind := by
  simp only [violations, List.mem_append, List.mem_flatMap, Option.mem_toList, mem_failing_iff,
    ← Bool.not_eq_true, isNonEmpty_iff, isMatched_iff, isAtLeast_iff, isAtMost_iff, hasItems_iff,
    List.contains_iff_exists_mem_beq, Bool.or_eq_true, Bool.not_eq_true']
  constructor
  · rintro (((((⟨notAdmitted, rfl⟩ | ⟨choices, isChoices, none, rfl⟩) |
      ⟨pattern, isPattern, notMatched, rfl⟩) | ⟨bound, isBound, tooSmall, rfl⟩) |
        ⟨bound, isBound, tooLarge, rfl⟩) | ⟨bound, isBound, tooFew, rfl⟩)
    · obtain ⟨demanded, isEmpty⟩ := not_or.mp notAdmitted
      refine .nonEmpty (by simpa using demanded) ?_
      by_contra neither
      exact isEmpty (not_or.mp neither)
    · refine .choices isChoices fun choice member => ?_
      by_contra same
      exact none ⟨choice, member, Bool.of_not_eq_false same⟩
    · push Not at notMatched
      obtain ⟨text, isText, fails⟩ := notMatched
      exact .pattern isPattern isText (by simpa using fails)
    · push Not at tooSmall
      obtain ⟨number, isNumber, smaller⟩ := tooSmall
      exact .min isBound isNumber (Int64.not_le.mp smaller)
    · push Not at tooLarge
      obtain ⟨number, isNumber, larger⟩ := tooLarge
      exact .max isBound isNumber (Int64.not_le.mp larger)
    · push Not at tooFew
      obtain ⟨items, isArray, fewer⟩ := tooFew
      exact .minItems isBound isArray (by omega)
  · intro violates
    cases violates with
    | nonEmpty demanded isEmpty =>
        refine .inl (.inl (.inl (.inl (.inl ⟨?_, rfl⟩))))
        rintro (notDemanded | ⟨notText, notArray⟩)
        · exact notDemanded demanded
        · exact isEmpty.elim notText notArray
    | choices isChoices none =>
        refine .inl (.inl (.inl (.inl (.inr ⟨_, isChoices, ?_, rfl⟩))))
        rintro ⟨choice, member, same⟩
        exact Bool.eq_false_iff.mp (none choice member) same
    | pattern isPattern isText notMatched =>
        refine .inl (.inl (.inl (.inr ⟨_, isPattern, fun matched => ?_, rfl⟩)))
        rw [matched _ isText] at notMatched
        cases notMatched
    | min isBound isNumber smaller =>
        refine .inl (.inl (.inr ⟨_, isBound, fun atLeast => ?_, rfl⟩))
        exact Int64.not_le.mpr smaller (atLeast _ isNumber)
    | max isBound isNumber larger =>
        refine .inl (.inr ⟨_, isBound, fun atMost => ?_, rfl⟩)
        exact Int64.not_le.mpr larger (atMost _ isNumber)
    | minItems isBound isArray fewer =>
        refine .inr ⟨_, isBound, fun enough => ?_, rfl⟩
        exact absurd (enough _ isArray) (by omega)

end Constraints

end RecordSchema
