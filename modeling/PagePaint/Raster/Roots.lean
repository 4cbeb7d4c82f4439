import PagePaint.Raster.Vector

set_option autoImplicit false

/-!
# Roots

Roots of polynomials in single precision, where they are the shares of a curve's parameter. A share
lies between the two ends of the curve.
-/

namespace PagePaint

namespace Roots

def quotient? (numerator denominator : Float32) : Option Float32 :=
  let upper := if numerator < 0 then -numerator else numerator
  let lower := if numerator < 0 then -denominator else denominator
  if lower == 0 || upper == 0 || decide (lower ≤ upper) then none
  else
    let result := upper / lower
    if 0 < result ∧ result < 1 then some result else none

/-- The roots of `a * t * t + b * t + c` strictly between zero and one, in order. -/
def ofQuadratic (a b c : Float32) : List Float32 :=
  if a == 0 then (quotient? (-c) b).toList
  else
    let wideB := b.toFloat
    let discriminant := wideB * wideB - 4 * a.toFloat * c.toFloat
    if discriminant < 0 then []
    else
      let root := discriminant.sqrt.toFloat32
      let sum := if b < 0 then -(b - root) / 2 else -(b + root) / 2
      let first := (quotient? sum a).toList
      let second := (quotient? c sum).toList
      match first, second with
      | [low], [high] =>
        if high < low then [high, low] else if low == high then [low] else [low, high]
      | first, second => first ++ second

private def clamped (value : Float32) : Float32 :=
  if 0 < value then (if 1 < value then 1 else value) else 0

/-- The real roots of a cubic polynomial, brought between zero and one, in order and once each. -/
def ofCubic (cube square linear constant : Float32) : List Float32 :=
  if Raster.isTiny cube then ofQuadratic square linear constant
  else
    let inverse := 1 / cube
    let a := square * inverse
    let b := linear * inverse
    let c := constant * inverse
    let q := (a * a - b * 3) / 9
    let r := (2 * a * a * a - 9 * a * b + 27 * c) / 54
    let q3 := q * q * q
    let difference := r * r - q3
    let third := a / 3
    if difference < 0 then
      let cosine := r / q3.sqrt
      let bounded := if cosine < -1 then -1 else if 1 < cosine then 1 else cosine
      let angle := bounded.acos
      let pi : Float32 := 3.14159265
      let size := -2 * q.sqrt
      let root (angle : Float32) : Float32 := clamped (size * (angle / 3).cos - third)
      let sorted := [root angle, root (angle + 2 * pi), root (angle - 2 * pi)].mergeSort
        fun left right => decide (left ≤ right)
      sorted.foldr (fun root later => if later.head?.any (· == root) then later else root :: later)
        []
    else
      let sum := r.abs + difference.sqrt
      let size := sum.cbrt
      let signed := if 0 < r then -size else size
      let combined := if signed == 0 then 0 else signed + q / signed
      [clamped (combined - third)]

end Roots

end PagePaint
