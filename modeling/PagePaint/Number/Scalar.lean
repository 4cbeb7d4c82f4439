import PagePaint.Number.Numeral

set_option autoImplicit false

/-!
# Scalars

Pages, outlines and transforms are written over a scalar type. Painting runs on single-precision
numbers; the same definitions read over the rationals give the placement that the rounding
approximates.
-/

namespace PagePaint

/-- Coordinates and lengths. `same` and `less` compare values, so that both zeroes are the same and
a number that is no number is neither the same as, nor less than, anything. -/
class Scalar (α : Type) extends Add α, Sub α, Mul α, Div α, Neg α where
  ofInt : Int → α
  /-- `sumOfProducts a b c d` is `a * b + c * d`, rounded once more than exact products are. -/
  sumOfProducts : α → α → α → α → α
  same : α → α → Bool
  less : α → α → Bool
  finite : α → Bool
  /-- The absolute value. -/
  magnitude : α → α
  /-- The smaller of two; next to a number that is no number, the other one. -/
  lesser : α → α → α
  /-- Whether the extent between two bounds stays in the range of the scalars. -/
  extentFits : α → α → Bool
  text : Numeral.Layout → α → String

namespace Scalar

variable {α : Type} [Scalar α]

def zero : α := ofInt 0

def one : α := ofInt 1

def atMost (left right : α) : Bool := less left right || same left right

end Scalar

private def widestExtent : Float := Binary32.widen (Float32.ofBits 0x7F7FFFFF)

/-- Single precision. Products of two single-precision numbers are exact in double precision, where
they are added; the sum is then rounded. -/
instance : Scalar Float32 where
  ofInt := Float32.ofInt
  sumOfProducts a b c d :=
    Binary32.narrow
      (Binary32.widen a * Binary32.widen b + Binary32.widen c * Binary32.widen d)
  same left right := left == right
  less left right := decide (left < right)
  finite := Float32.isFinite
  magnitude := Float32.abs
  lesser left right :=
    if left.isNaN then right
    else if right.isNaN then left
    else if right < left then right else left
  extentFits low high :=
    let extent := Binary32.widen high - Binary32.widen low
    decide (-widestExtent < extent) && decide (extent < widestExtent)
  text := Numeral.text

/-- Exact arithmetic. Every rational is finite and no extent is too wide. -/
instance : Scalar Rat where
  ofInt value := (value : Rat)
  sumOfProducts a b c d := a * b + c * d
  same left right := decide (left = right)
  less left right := decide (left < right)
  finite _ := true
  magnitude value := if value < 0 then -value else value
  lesser left right := if right < left then right else left
  extentFits _ _ := true
  text _ value := toString value

end PagePaint
