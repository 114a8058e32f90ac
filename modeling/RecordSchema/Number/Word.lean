namespace RecordSchema

/-!
# Integers of fixed width

Constraints, record numbers and record identifiers hold 64-bit integers.  What
does not fit is refused, never wrapped.
-/

/-- The 64-bit integer with the given value. -/
def int64OfInt? (value : Int) : Option Int64 :=
  if Int64.minValue.toInt ≤ value && value ≤ Int64.maxValue.toInt then
    some (Int64.ofInt value)
  else
    none

/-- What is in 64 bits already fits them. -/
theorem int64OfInt?_toInt
    (value : Int64) :
    int64OfInt? value.toInt = some value := by
  have least : Int64.minValue.toInt = -2 ^ 63 := rfl
  have greatest : Int64.maxValue.toInt = 2 ^ 63 - 1 := rfl
  have aboveLeast := value.le_toInt
  have belowGreatest := value.toInt_lt
  rw [int64OfInt?, least, greatest, if_pos, Int64.ofInt_toInt]
  rw [Bool.and_eq_true, decide_eq_true_eq, decide_eq_true_eq]
  omega

/-- What fits 64 bits keeps its value there. -/
theorem int64OfInt?_eq_some_iff
    {value : Int}
    {number : Int64} :
    int64OfInt? value = some number ↔ number.toInt = value := by
  have least : Int64.minValue.toInt = -2 ^ 63 := rfl
  have greatest : Int64.maxValue.toInt = 2 ^ 63 - 1 := rfl
  constructor
  · intro found
    rw [int64OfInt?] at found
    split at found
    · rename_i inRange
      cases found
      rw [Bool.and_eq_true, decide_eq_true_eq, decide_eq_true_eq, least, greatest] at inRange
      exact Int64.toInt_ofInt_of_le inRange.1 (by omega)
    · cases found
  · intro same
    rw [← same]
    exact int64OfInt?_toInt number

/-- The 64-bit natural number with the given value. -/
def uint64OfInt? (value : Int) : Option UInt64 :=
  if 0 ≤ value && value < Int.ofNat UInt64.size then some (UInt64.ofNat value.toNat) else none

/-- The 8-bit natural number with the given value. -/
def uint8OfInt? (value : Int) : Option UInt8 :=
  if 0 ≤ value && value < Int.ofNat UInt8.size then some (UInt8.ofNat value.toNat) else none

end RecordSchema
