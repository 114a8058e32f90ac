import RecordSchema.Cast
import RecordSchema.Proofs.Text.Integer

namespace RecordSchema

/-!
# Integers that are cast

An integer of 64 bits may be given as a number or as a text.  In a text it is a written
integer with blanks around it, and nothing else is taken for one: neither the digits of other
scripts nor a number beyond the bounds.
-/

namespace Text.Numeral

/-- A text that consists of a written integer of 64 bits and blanks around it. -/
structure IsReadIn (numeral : Numeral) (text : String) : Prop where
  stands :
    ∃ before after,
      text.toList = before ++ numeral.toChars ++ after ∧
        ∀ character ∈ before ++ after, isBlank character = true
  bounds : -9223372036854775808 ≤ numeral.value ∧ numeral.value ≤ 9223372036854775807

/-- The characters of a written integer are what is left between blanks. -/
theorem trimChars_eq_toChars_iff
    {numeral : Numeral}
    {text : List Char} :
    trimChars text = numeral.toChars ↔
      ∃ before after,
        text = before ++ numeral.toChars ++ after ∧
          ∀ character ∈ before ++ after, isBlank character = true := by
  constructor
  · intro isTrimmed
    rw [← isTrimmed]
    exact exists_of_trimChars text
  · rintro ⟨before, after, rfl, blank⟩
    exact trimChars_append (fun _ => numeral.isBlank_of_mem_toChars) blank

/-- An integer of 64 bits is printed within the bounds of those that are read. -/
theorem isReadIn_ofInt
    (integer : Int64)
    {before after : String}
    (blank : ∀ character ∈ (before ++ after).toList, isBlank character = true) :
    (ofInt integer.toInt).IsReadIn
      (before ++ (Number.integer integer.toInt).toText ++ after) := by
  have aboveLeast := integer.le_toInt
  have belowGreatest := integer.toInt_lt
  refine ⟨⟨before.toList, after.toList, ?_, ?_⟩, ?_⟩
  · rw [toChars_ofInt, String.toList_append, String.toList_append, Number.toText,
      String.toList_ofList]
  · rwa [String.toList_append] at blank
  · rw [value_ofInt]
    omega

end Text.Numeral

namespace Cast

/-- The text between the blanks decides alone. -/
theorem toInteger_string_eq_ok_iff
    {text : String}
    {integer : Int64} :
    toInteger (.string text) = .ok integer ↔
      Text.parseInt64? (Text.trimChars text.toList) = some integer := by
  simp only [toInteger]
  constructor
  · intro accepted
    split at accepted
    · cases accepted
    · split at accepted
      · rename_i isRead
        cases accepted
        exact isRead
      · cases accepted
  · intro isRead
    obtain ⟨numeral, isWritten, _⟩ := Text.parseInt64?_eq_some_iff.mp isRead
    have shaped := numeral.isIntegerShape_toChars
    rw [isWritten] at shaped
    simp only [shaped, isRead]
    rfl

/-- A text is cast to the integer that is written in it. -/
theorem toInteger_string_iff_isReadIn
    {text : String}
    {integer : Int64} :
    toInteger (.string text) = .ok integer ↔
      ∃ numeral : Text.Numeral, numeral.IsReadIn text ∧ numeral.value = integer.toInt := by
  have aboveLeast := integer.le_toInt
  have belowGreatest := integer.toInt_lt
  rw [toInteger_string_eq_ok_iff, Text.parseInt64?_eq_some_iff]
  refine exists_congr fun numeral => ?_
  constructor
  · rintro ⟨isWritten, isValue⟩
    refine ⟨⟨Text.Numeral.trimChars_eq_toChars_iff.mp isWritten.symm, ?_⟩, isValue⟩
    omega
  · rintro ⟨isRead, isValue⟩
    exact ⟨(Text.Numeral.trimChars_eq_toChars_iff.mpr isRead.stands).symm, isValue⟩

/-- A text is cast exactly when an integer of 64 bits is written in it. -/
theorem exists_toInteger_string_iff
    {text : String} :
    (∃ integer, toInteger (.string text) = .ok integer) ↔
      ∃ numeral : Text.Numeral, numeral.IsReadIn text := by
  constructor
  · rintro ⟨integer, accepted⟩
    obtain ⟨numeral, isRead, _⟩ := toInteger_string_iff_isReadIn.mp accepted
    exact ⟨numeral, isRead⟩
  · rintro ⟨numeral, isRead⟩
    have bounds := isRead.bounds
    have kept : (Int64.ofInt numeral.value).toInt = numeral.value :=
      Int64.toInt_ofInt_of_le (by omega) (by omega)
    exact ⟨_, toInteger_string_iff_isReadIn.mpr ⟨numeral, isRead, kept.symm⟩⟩

/-- A number is cast to the integer that it is. -/
theorem toInteger_number_eq_ok_iff
    {number : Number}
    {integer : Int64} :
    toInteger (.number number) = .ok integer ↔ number = .integer integer.toInt := by
  cases number with
  | integer value =>
      rw [toInteger, Number.toInt64?, Number.integer.injEq, eq_comm (a := value),
        ← int64OfInt?_eq_some_iff]
      cases int64OfInt? value <;> simp
  | double value =>
      simp [toInteger, Number.toInt64?]

/-- A number is cast exactly when it is an integer of 64 bits. -/
theorem exists_toInteger_number_iff
    {number : Number} :
    (∃ integer, toInteger (.number number) = .ok integer) ↔
      ∃ value : Int,
        number = .integer value ∧
          -9223372036854775808 ≤ value ∧ value ≤ 9223372036854775807 := by
  simp only [toInteger_number_eq_ok_iff]
  constructor
  · rintro ⟨integer, rfl⟩
    have aboveLeast := integer.le_toInt
    have belowGreatest := integer.toInt_lt
    exact ⟨integer.toInt, rfl, by omega, by omega⟩
  · rintro ⟨value, rfl, aboveLeast, belowGreatest⟩
    have kept : (Int64.ofInt value).toInt = value :=
      Int64.toInt_ofInt_of_le (by omega) (by omega)
    exact ⟨Int64.ofInt value, by rw [kept]⟩

/--
A text is cast exactly when a written integer of 64 bits stands in it between blanks, and to
that integer; so the text of an integer with blanks around it gives back the integer.  A number
is cast exactly when it is an integer of 64 bits, and is kept.
-/
theorem integers_cast_exactly :
    (∀ text,
      ((∃ integer, toInteger (.string text) = .ok integer) ↔
          ∃ numeral : Text.Numeral, numeral.IsReadIn text) ∧
        ∀ integer,
          toInteger (.string text) = .ok integer ↔
            ∃ numeral : Text.Numeral, numeral.IsReadIn text ∧ numeral.value = integer.toInt) ∧
      (∀ (integer : Int64) (before after : String),
        (∀ character ∈ (before ++ after).toList, Text.isBlank character = true) →
          toInteger (.string (before ++ (Number.integer integer.toInt).toText ++ after)) =
            .ok integer) ∧
        ∀ number,
          ((∃ integer, toInteger (.number number) = .ok integer) ↔
              ∃ value : Int,
                number = .integer value ∧
                  -9223372036854775808 ≤ value ∧ value ≤ 9223372036854775807) ∧
            ∀ integer,
              toInteger (.number number) = .ok integer ↔ number = .integer integer.toInt := by
  refine ⟨fun text => ⟨exists_toInteger_string_iff, fun integer => toInteger_string_iff_isReadIn⟩,
    fun integer before after blank => ?_,
    fun number => ⟨exists_toInteger_number_iff, fun integer => toInteger_number_eq_ok_iff⟩⟩
  exact toInteger_string_iff_isReadIn.mpr
    ⟨_, Text.Numeral.isReadIn_ofInt integer blank, Text.Numeral.value_ofInt integer.toInt⟩

/--
The least integer is read between blanks of two kinds and kept as a number; what is one less
and a digit of another script are refused.
-/
theorem integers_cast_exactly_least :
    toInteger (.string ("\u00a0" ++ (Number.integer (-9223372036854775808)).toText ++ "\n")) =
        .ok Int64.minValue ∧
      (¬∃ numeral : Text.Numeral, numeral.IsReadIn "-9223372036854775809") ∧
        (¬∃ numeral : Text.Numeral, numeral.IsReadIn "\u0663") ∧
          toInteger (.number (.integer (-9223372036854775808))) = .ok Int64.minValue := by
  obtain ⟨readExactly, printed, keptExactly⟩ := integers_cast_exactly
  have characters : ("\u00a0" ++ "\n").toList = ['\u00a0', '\n'] := rfl
  have blank : ∀ character ∈ ("\u00a0" ++ "\n").toList, Text.isBlank character = true := by
    rw [characters]
    exact List.forall_mem_cons.mpr ⟨rfl, List.forall_mem_singleton.mpr rfl⟩
  refine ⟨printed Int64.minValue "\u00a0" "\n" blank, ?_, ?_,
    ((keptExactly _).2 Int64.minValue).mpr rfl⟩
  · rw [← (readExactly _).1]
    rintro ⟨integer, accepted⟩
    cases accepted
  · rw [← (readExactly _).1]
    rintro ⟨integer, accepted⟩
    cases accepted

end Cast

end RecordSchema
