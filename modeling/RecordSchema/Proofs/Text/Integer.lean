import RecordSchema.Json.Basic
import RecordSchema.Proofs.Text.Blank
import RecordSchema.Text.Integer

namespace RecordSchema

/-!
# Integers in text

An integer is written as an optional minus sign and decimal digits, with any number of zeros
in front.  What is written so is read as that integer, and nothing else is read.  An integer
is printed in one of the forms in which it may be written.
-/

namespace Text

/-- The value of a run of digits is the number that they write in base ten. -/
theorem digitsValue_eq
    (digits : List Char) :
    digitsValue digits = Nat.ofDigitChars 10 digits 0 := by
  rw [digitsValue, Nat.ofDigitChars_eq_foldl]
  simp only [digitValue, Nat.mul_comm]

theorem digitsValue?_eq_some_iff
    {digits : List Char}
    {value : Nat} :
    digitsValue? digits = some value ↔
      digits ≠ [] ∧ (∀ digit ∈ digits, digit.isDigit = true) ∧
        Nat.ofDigitChars 10 digits 0 = value := by
  have refused :
      (digits.isEmpty || !digits.all Char.isDigit) = true ↔
        ¬(digits ≠ [] ∧ ∀ digit ∈ digits, digit.isDigit = true) := by
    simp [Decidable.imp_iff_not_or]
  rw [digitsValue?, digitsValue_eq, ← and_assoc]
  by_cases written : digits ≠ [] ∧ ∀ digit ∈ digits, digit.isDigit = true
  · rw [if_neg (fun isRefused => refused.mp isRefused written), Option.some_inj]
    exact (and_iff_right written).symm
  · rw [if_pos (refused.mpr written)]
    exact iff_of_false (by simp) fun isWritten => written isWritten.1

theorem isDigit_of_mem_toDigits
    {value : Nat}
    {digit : Char}
    (member : digit ∈ Nat.toDigits 10 value) :
    digit.isDigit = true :=
  Nat.isDigit_of_mem_toDigits (by decide) (by decide) member

theorem isBlank_of_isDigit
    {character : Char}
    (digit : character.isDigit = true) :
    isBlank character = false := by
  simp only [Char.isDigit, Bool.and_eq_true, decide_eq_true_eq] at digit
  have lower : 0x30 ≤ character.toNat := digit.1
  have upper : character.toNat ≤ 0x39 := digit.2
  refine Bool.eq_false_iff.mpr fun blank => ?_
  simp only [isBlank, Bool.or_eq_true, Bool.and_eq_true, decide_eq_true_eq, beq_iff_eq] at blank
  omega

/-- An integer as it is written: a minus sign or none, and decimal digits. -/
structure Numeral where
  negative : Bool
  digits : List Char
  present : digits ≠ []
  decimal : ∀ digit ∈ digits, digit.isDigit = true

namespace Numeral

/-- The characters of a written integer. -/
def toChars (numeral : Numeral) : List Char :=
  if numeral.negative then '-' :: numeral.digits else numeral.digits

/-- The integer that is written. -/
def value (numeral : Numeral) : Int :=
  if numeral.negative then
    -(Nat.ofDigitChars 10 numeral.digits 0 : Nat)
  else
    (Nat.ofDigitChars 10 numeral.digits 0 : Nat)

/-- An integer as it is printed. -/
def ofInt (value : Int) : Numeral where
  negative := value < 0
  digits := Nat.toDigits 10 value.natAbs
  present := Nat.toDigits_ne_nil
  decimal _ member := isDigit_of_mem_toDigits member

variable
  (numeral : Numeral)

/-- The digits begin with no minus sign. -/
theorem ne_minus
    {first : Char}
    {rest : List Char}
    (shape : numeral.digits = first :: rest) :
    first ≠ '-' := by
  have digit : first.isDigit = true :=
    numeral.decimal first (shape ▸ List.mem_cons_self)
  rintro rfl
  exact absurd digit (by decide)

@[simp] theorem dropMinus_toChars :
    dropMinus numeral.toChars = numeral.digits := by
  rw [toChars]
  by_cases negative : numeral.negative = true
  · rw [if_pos negative, dropMinus]
  · rw [if_neg negative, dropMinus.eq_def]
    split
    · rename_i rest shape
      exact absurd rfl (numeral.ne_minus shape)
    · rfl

theorem isIntegerShape_toChars :
    isIntegerShape numeral.toChars = true := by
  rw [isIntegerShape, dropMinus_toChars, List.isEmpty_eq_false_iff.mpr numeral.present,
    Bool.not_false, Bool.true_and, List.all_eq_true]
  intro digit member
  exact isDecimalDigit_of_isDigit (numeral.decimal digit member)

/-- A written integer holds digits and a minus sign only. -/
theorem mem_toChars
    {character : Char}
    (member : character ∈ numeral.toChars) :
    character = '-' ∨ character.isDigit = true := by
  rw [toChars] at member
  by_cases negative : numeral.negative = true
  · rw [if_pos negative] at member
    rcases List.mem_cons.mp member with isMinus | digit
    · exact .inl isMinus
    · exact .inr (numeral.decimal character digit)
  · rw [if_neg negative] at member
    exact .inr (numeral.decimal character member)

theorem isBlank_of_mem_toChars
    {character : Char}
    (member : character ∈ numeral.toChars) :
    isBlank character = false := by
  rcases numeral.mem_toChars member with rfl | digit
  · decide
  · exact isBlank_of_isDigit digit

theorem integerValue?_toChars :
    integerValue? numeral.toChars = some numeral.value := by
  have isRead : digitsValue? numeral.digits = some (Nat.ofDigitChars 10 numeral.digits 0) :=
    digitsValue?_eq_some_iff.mpr ⟨numeral.present, numeral.decimal, rfl⟩
  rw [toChars, value]
  by_cases negative : numeral.negative = true
  · rw [if_pos negative, if_pos negative, integerValue?, isRead]
    rfl
  · rw [if_neg negative, if_neg negative, integerValue?.eq_def]
    split
    · rename_i rest shape
      exact absurd rfl (numeral.ne_minus shape)
    · rw [isRead]
      rfl

end Numeral

/-- What is read as an integer is a written integer. -/
theorem exists_numeral_of_integerValue?
    {text : List Char}
    {value : Int}
    (isRead : integerValue? text = some value) :
    ∃ numeral : Numeral, numeral.toChars = text ∧ numeral.value = value := by
  rw [integerValue?.eq_def] at isRead
  split at isRead
  · rename_i digits
    obtain ⟨size, digitsRead, rfl⟩ := Option.map_eq_some_iff.mp isRead
    obtain ⟨present, decimal, rfl⟩ := digitsValue?_eq_some_iff.mp digitsRead
    exact ⟨⟨true, digits, present, decimal⟩, rfl, rfl⟩
  · obtain ⟨size, digitsRead, rfl⟩ := Option.map_eq_some_iff.mp isRead
    obtain ⟨present, decimal, rfl⟩ := digitsValue?_eq_some_iff.mp digitsRead
    exact ⟨⟨false, text, present, decimal⟩, rfl, rfl⟩

/-- A 64-bit integer is read from exactly the texts that write it. -/
theorem parseInt64?_eq_some_iff
    {text : List Char}
    {value : Int64} :
    parseInt64? text = some value ↔
      ∃ numeral : Numeral, numeral.toChars = text ∧ numeral.value = value.toInt := by
  rw [parseInt64?, Option.bind_eq_some_iff]
  simp only [int64OfInt?_eq_some_iff]
  constructor
  · rintro ⟨_, isRead, rfl⟩
    exact exists_numeral_of_integerValue? isRead
  · rintro ⟨numeral, rfl, same⟩
    exact ⟨numeral.value, numeral.integerValue?_toChars, same.symm⟩

namespace Numeral

theorem toChars_ofInt
    (value : Int) :
    (ofInt value).toChars = (Number.integer value).toChars := by
  simp only [toChars, ofInt, Number.toChars, decide_eq_true_eq]

theorem value_ofInt
    (value : Int) :
    (ofInt value).value = value := by
  simp only [Numeral.value, ofInt, Nat.ofDigitChars_ten_toDigits, decide_eq_true_eq]
  split <;> omega

end Numeral

end Text

end RecordSchema
