namespace RecordSchema

/-!
# Double-precision numbers

A double is a sign and a significand scaled by a power of two.  Arithmetic is
exact on natural numbers and rounds once at the end, a tie going to the even
significand, so that every operation here can be evaluated inside a proof.
-/

/-- The number `± significand · 2 ^ exponent`. -/
structure Binary64 where
  negative : Bool
  significand : Nat
  exponent : Int
  deriving Repr, DecidableEq

namespace Binary64

/-- The exponent of the smallest positive double, which zero shares. -/
def leastExponent : Int :=
  -1074

/-- The exponent above which no double is finite. -/
def greatestExponent : Int :=
  971

/-- The significand of a double stays below this. -/
def significandBound : Nat :=
  1 <<< 53

/-- The smallest significand that fills all its bits. -/
def leastFullSignificand : Nat :=
  1 <<< 52

/-- The zero of the given sign. -/
def zero (negative : Bool) : Binary64 :=
  ⟨negative, 0, leastExponent⟩

/-- Both zeros count as zero. -/
def isZero (number : Binary64) : Bool :=
  number.significand == 0

/-- The number with the given sign in place of its own. -/
def withSign (negative : Bool) (number : Binary64) : Binary64 :=
  { number with negative := negative }

/-- Numeric equality: the two zeros are equal, and otherwise sign and size decide. -/
def same (left right : Binary64) : Bool :=
  (left.isZero && right.isZero) || left == right

/-- The quotient rounded to the nearest natural number, a tie going to the even one. -/
def roundQuotient (numerator denominator : Nat) : Nat :=
  let quotient := numerator / denominator
  let twice := 2 * (numerator % denominator)
  if denominator < twice || (twice == denominator && quotient % 2 == 1) then
    quotient + 1
  else
    quotient

/--
The double nearest to `numerator / denominator`, or nothing when that lies
beyond the largest double.  The first estimate of the exponent is at most one
too small, which the width of the quotient shows.
-/
def ofQuotient? (numerator denominator : Nat) : Option Binary64 :=
  if numerator = 0 then
    some (zero false)
  else
    let roundAt (exponent : Int) : Nat :=
      roundQuotient (numerator <<< (-exponent).toNat) (denominator <<< exponent.toNat)
    let estimate : Int := Int.ofNat numerator.log2 - Int.ofNat denominator.log2 - 53
    let floorAt (exponent : Int) : Nat :=
      (numerator <<< (-exponent).toNat) / (denominator <<< exponent.toNat)
    let exact : Int := if floorAt estimate < significandBound then estimate else estimate + 1
    let exponent : Int := max leastExponent exact
    let rounded := roundAt exponent
    let carried := rounded == significandBound
    let significand := if carried then leastFullSignificand else rounded
    let exponent := if carried then exponent + 1 else exponent
    if greatestExponent < exponent then none else some ⟨false, significand, exponent⟩

/-- The double nearest to a natural number below `2 ^ 1024`. -/
def ofNat? (value : Nat) : Option Binary64 :=
  ofQuotient? value 1

/-- The size of a number as a quotient of natural numbers. -/
def toQuotient (number : Binary64) : Nat × Nat :=
  (number.significand <<< number.exponent.toNat, 1 <<< (-number.exponent).toNat)

/-- The rounded product of two sizes; signs are left out. -/
def multiply? (left right : Binary64) : Option Binary64 :=
  let (leftNumerator, leftDenominator) := left.toQuotient
  let (rightNumerator, rightDenominator) := right.toQuotient
  ofQuotient? (leftNumerator * rightNumerator) (leftDenominator * rightDenominator)

/-- The rounded quotient of two sizes; signs are left out. -/
def divide? (left right : Binary64) : Option Binary64 :=
  let (leftNumerator, leftDenominator) := left.toQuotient
  let (rightNumerator, rightDenominator) := right.toQuotient
  ofQuotient? (leftNumerator * rightDenominator) (leftDenominator * rightNumerator)

/-- The double nearest to a power of ten. -/
def powerOfTen? (exponent : Nat) : Option Binary64 :=
  ofNat? (Nat.pow 10 exponent)

/-- The greatest power of ten that scaling uses at once. -/
def greatestDecimalStep : Nat :=
  308

/-- A size divided by `10 ^ 308` as often as told, or until nothing is left of it. -/
def shrink? (number : Binary64) : (steps : Nat) → Option Binary64
  | 0 => some number
  | steps + 1 =>
      if number.isZero then
        some number
      else
        (powerOfTen? greatestDecimalStep).bind fun power =>
          (number.divide? power).bind fun smaller => smaller.shrink? steps

/--
A size times a power of ten, each step rounded: one multiplication or division
where the power is itself a double, and steps of `10 ^ 308` on the way down to
it.  Nothing is the answer beyond the largest double.
-/
def scaleByTen? (number : Binary64) (exponent : Int) : Option Binary64 :=
  let size := exponent.natAbs
  if number.isZero then
    some number
  else if 0 ≤ exponent then
    if size ≤ greatestDecimalStep then
      (powerOfTen? size).bind number.multiply?
    else
      none
  else
    let steps := (size - 1) / greatestDecimalStep
    (number.shrink? steps).bind fun smaller =>
      (powerOfTen? (size - steps * greatestDecimalStep)).bind smaller.divide?

end Binary64

end RecordSchema
