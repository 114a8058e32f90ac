import RecordSchema.Number.Binary64

namespace RecordSchema

/-!
# The shortest decimal text of a double

Of all decimals that round back to a double, the shortest is written, and of
several such the nearest.  Candidates are the two neighbours of the double on
the grid of decimals with one, two, up to seventeen digits.
-/

/-- The decimal `digits · 10 ^ (exponent - (count of digits - 1))`. -/
structure Decimal where
  digits : Nat
  exponent : Int
  deriving Repr, DecidableEq

namespace Decimal

/-- How many decimal digits a natural number has; zero has none. -/
def digitCount (value : Nat) : Nat :=
  if value = 0 then 0 else (Nat.toDigits 10 value).length

/-- The power of ten of the leading digit of a positive quotient. -/
def leadingExponent (numerator denominator : Nat) : Int :=
  if denominator ≤ numerator then
    Int.ofNat (digitCount (numerator / denominator)) - 1
  else
    -Int.ofNat (digitCount ((denominator - 1) / numerator))

end Decimal

namespace Binary64

/--
Whether the decimal `units · 10 ^ place` rounds to the number: it lies between
the midpoints to the neighbouring doubles, which themselves count when the
significand is even.  Below a power of two the lower neighbour is nearer.
-/
def roundsFrom (number : Binary64) (units : Nat) (place : Int) : Bool :=
  let quarter := number.exponent - 2
  let below :=
    if number.significand == leastFullSignificand && leastExponent < number.exponent then 1 else 2
  let scale (value : Nat) : Nat := (value <<< quarter.toNat) * Nat.pow 10 (-place).toNat
  let decimal := (units * Nat.pow 10 place.toNat) <<< (-quarter).toNat
  let lower := scale (4 * number.significand - below)
  let upper := scale (4 * number.significand + 2)
  if number.significand % 2 == 0 then
    lower ≤ decimal && decimal ≤ upper
  else
    lower < decimal && decimal < upper

/-- The neighbour on a decimal grid that rounds to the number, the nearer of two. -/
def onGrid? (number : Binary64) (place : Int) : Option Nat :=
  let (numerator, denominator) := number.toQuotient
  let scaledNumerator := numerator * Nat.pow 10 (-place).toNat
  let scaledDenominator := denominator * Nat.pow 10 place.toNat
  let lower := scaledNumerator / scaledDenominator
  let nearest := roundQuotient scaledNumerator scaledDenominator
  let other := if nearest == lower then lower + 1 else lower
  if number.roundsFrom nearest place then
    some nearest
  else if number.roundsFrom other place then
    some other
  else
    none

/-- The first hit among the grids with `count`, `count + 1`, … digits. -/
def shortestFrom (number : Binary64) (leading : Int) (count : Nat) : (further : Nat) → Decimal
  | 0 =>
      let place := leading - (Int.ofNat count - 1)
      let (numerator, denominator) := number.toQuotient
      ⟨roundQuotient (numerator * Nat.pow 10 (-place).toNat) (denominator * Nat.pow 10 place.toNat), leading⟩
  | further + 1 =>
      match number.onGrid? (leading - (Int.ofNat count - 1)) with
      | some units =>
          if units == Nat.pow 10 count then ⟨1, leading + 1⟩ else ⟨units, leading⟩
      | none => shortestFrom number leading (count + 1) further

/-- The shortest decimal that rounds to a positive number. -/
def shortest (number : Binary64) : Decimal :=
  let (numerator, denominator) := number.toQuotient
  shortestFrom number (Decimal.leadingExponent numerator denominator) 1 16

end Binary64

/-- How a decimal is laid out in text. -/
structure DecimalFormat where
  leastPositional : Int
  greatestPositional : Int
  deriving Repr, DecidableEq

namespace DecimalFormat

/-- Exponents from -5 to 15 are written out in full, others with a signed power of ten. -/
def plain : DecimalFormat :=
  ⟨-5, 15⟩

/-- A fraction mark and the digits after it, none when there are none. -/
def fraction (digits : List Char) : List Char :=
  if digits.isEmpty then [] else '.' :: digits

/-- The text of a positive decimal. -/
def write (format : DecimalFormat) (decimal : Decimal) : List Char :=
  let digits := Nat.toDigits 10 decimal.digits
  if format.leastPositional ≤ decimal.exponent && decimal.exponent ≤ format.greatestPositional then
    if decimal.exponent < 0 then
      '0' :: '.' :: (List.replicate ((-decimal.exponent).toNat - 1) '0' ++ digits)
    else
      let width := decimal.exponent.toNat + 1
      let whole := digits.take width ++ List.replicate (width - digits.length) '0'
      let rest := digits.drop width
      whole ++ (if rest.isEmpty then ['.', '0'] else fraction rest)
  else
    let sign := if decimal.exponent < 0 then '-' else '+'
    digits.take 1 ++ fraction (digits.drop 1) ++
      'e' :: sign :: Nat.toDigits 10 decimal.exponent.natAbs

end DecimalFormat

namespace Binary64

/-- The text of a number: its sign, then the shortest decimal that reads back to it. -/
def toChars (number : Binary64) : List Char :=
  let size :=
    if number.isZero then
      ['0', '.', '0']
    else
      DecimalFormat.plain.write number.shortest
  if number.negative then '-' :: size else size

end Binary64

end RecordSchema
