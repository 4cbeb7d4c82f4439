import PagePaint.Number.Binary32

set_option autoImplicit false

/-!
# The shortest decimal of a number

Many decimals round to the same single-precision number. The one with the fewest digits is its
usual written form, and among those the one nearest to the number, the larger of two that are
equally near. All comparisons are between exact fractions.
-/

namespace PagePaint.Shortest

open PagePaint

/-- A decimal number: its digits, read as one natural number, times a power of ten. -/
structure Decimal where
  digits : Nat
  exponent : Int
deriving DecidableEq, Repr

structure Fraction where
  numerator : Nat
  denominator : Nat

private def ratio (value : Nat) (exponent : Int) : Fraction :=
  ⟨value <<< exponent.toNat, 1 <<< (-exponent).toNat⟩

/-- The numbers that round to a given one lie between `low` and `high`; the ends themselves do iff
`closed`. -/
structure Interval where
  low : Fraction
  value : Fraction
  high : Fraction
  closed : Bool

/-- The rounding interval of a positive number. Below a power of two the neighbour is half as far
as above it. -/
def roundingInterval (significand : Nat) (exponent : Int) : Interval :=
  let lower :=
    if significand = Binary32.leadingBit ∧ -149 < exponent then 4 * significand - 1
    else 4 * significand - 2
  { low := ratio lower (exponent - 2)
    value := ratio (4 * significand) (exponent - 2)
    high := ratio (4 * significand + 2) (exponent - 2)
    closed := significand % 2 == 0 }

def powerOfTen (exponent : Nat) : Nat := Nat.pow 10 exponent

/-- Compares a number of units of a power of ten with a fraction. -/
def compareUnits (units : Nat) (power : Int) (fraction : Fraction) : Ordering :=
  compare (units * powerOfTen power.toNat * fraction.denominator)
    (fraction.numerator * powerOfTen (-power).toNat)

private def holds (interval : Interval) (units : Nat) (power : Int) : Bool :=
  match compareUnits units power interval.low, compareUnits units power interval.high with
  | .gt, .lt => true
  | .eq, _ => interval.closed
  | _, .eq => interval.closed
  | _, _ => false

/-- The exponent of the leading decimal digit. Every single-precision number lies between
ten to the power of -46 and ten to the power of 39. -/
def leadingPower (value : Fraction) : Int :=
  let powers := (List.range 86).map fun (step : Nat) => (39 : Int) - step
  match powers.find? fun power => compareUnits 1 power value != .gt with
  | some power => power
  | none => -46

/-- The multiple of a power of ten nearest to a number, of those that round to it. Halfway between
two of them the upper one counts. -/
private def onGrid (interval : Interval) (power : Int) : Option Nat :=
  let value := interval.value
  let below :=
    value.numerator * powerOfTen (-power).toNat /
      (value.denominator * powerOfTen power.toNat)
  let above := below + 1
  match holds interval below power, holds interval above power with
  | true, true =>
    -- Twice the number against the sum of both neighbours.
    if compareUnits (below + above) power ⟨2 * value.numerator, value.denominator⟩ == .gt
    then some below else some above
  | true, false => some below
  | false, true => some above
  | false, false => none

private def dropZeros : Nat → Nat → Int → Decimal
  | 0, digits, exponent => ⟨digits, exponent⟩
  | fuel + 1, digits, exponent =>
    if digits % 10 = 0 ∧ digits ≠ 0 then dropZeros fuel (digits / 10) (exponent + 1)
    else ⟨digits, exponent⟩

/-- The shortest decimal that rounds to a positive number. Nine digits always suffice. -/
def decimal (significand : Nat) (exponent : Int) : Decimal :=
  let interval := roundingInterval significand exponent
  let leading := leadingPower interval.value
  let found := (List.range 9).findSome? fun (extra : Nat) =>
    (onGrid interval (leading - extra)).map fun units => (units, leading - extra)
  match found with
  | some (units, power) => dropZeros 10 units power
  | none => ⟨significand, 0⟩

end PagePaint.Shortest
