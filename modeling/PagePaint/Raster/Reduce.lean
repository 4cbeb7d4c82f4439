import PagePaint.Raster.Curve
import PagePaint.Raster.Roots

set_option autoImplicit false

/-!
# Curves that are lines

A curve whose points lie on one line runs along it to and fro. It is stroked as the lines between
its turning points, where its curvature is largest.
-/

namespace PagePaint

inductive Reduction where
  /-- All its points are one. -/
  | point
  /-- It leads straight from its start to its end. -/
  | line
  /-- It runs along a line and turns at these points. -/
  | turns (points : List (Point Float32))
  | curve

namespace Reduction

def pointless (vector : Point Float32) : Bool := !vector.finite || vector.same .origin

/-- The square of the distance of a point from a line, or from its start if the point lies before
or past it. -/
def squareDistance (point start finish : Point Float32) : Float32 :=
  let along := finish - start
  let share := along.dot (point - start) / along.dot along
  let square (vector : Point Float32) : Float32 := vector.dot vector
  if 0 ≤ share ∧ share ≤ 1 then
    square (start.scaled (1 - share) + finish.scaled share - point)
  else square (point - start)

/-- The pairs of points in order, each with its position in the list. -/
private def pairs (points : List (Point Float32)) :
    List ((Nat × Point Float32) × (Nat × Point Float32)) :=
  let numbered := (List.range points.length).zip points
  numbered.flatMap fun first =>
    (numbered.drop (first.1 + 1)).map fun second => (first, second)

/-- Whether points lie on the line between the two that are farthest apart. -/
def collinear (slop : Float32) (points : List (Point Float32)) : Bool :=
  let widest := (pairs points).foldl
    (fun (best : Float32 × (Nat × Point Float32) × (Nat × Point Float32)) pair =>
      let extent := (pair.2.2 - pair.1.2).extent
      if best.1 < extent then (extent, pair) else best)
    (-1, (0, .origin), (0, .origin))
  let (extent, first, last) := widest
  ((List.range points.length).zip points).all fun entry =>
    entry.1 == first.1 || entry.1 == last.1 ||
      decide (squareDistance entry.2 first.2 last.2 ≤ extent * extent * slop)

/-- The share at which a curve with one control point bends most. -/
private def sharpest (start control finish : Point Float32) : Float32 :=
  let linear := control - start
  let square := start - control - control + finish
  let numerator := -(linear.dot square)
  let denominator := square.dot square
  if numerator ≤ 0 then 0
  else if denominator ≤ numerator then 1
  else numerator / denominator

/-- The shares at which a curve with two control points may bend most: its first two derivatives
are at right angles there. -/
def sharpestCubic (start first second finish : Point Float32) : List Float32 :=
  let terms (a b c d : Float32) : List Float32 :=
    let linear := b - a
    let square := c - 2 * b + a
    let cube := d + 3 * (b - c) - a
    [cube * cube, 3 * square * cube, 2 * square * square + cube * linear, linear * square]
  let across := terms start.x first.x second.x finish.x
  let down := terms start.y first.y second.y finish.y
  match List.zipWith (· + ·) across down with
  | [cube, square, linear, constant] => Roots.ofCubic cube square linear constant
  | _ => []

def ofCurve (curve : Curve) : Reduction :=
  match curve with
  | .line _ _ => .line
  | .quadratic start control finish =>
    match pointless (control - start), pointless (finish - control) with
    | true, true => .point
    | true, false => .line
    | false, true => .line
    | false, false =>
      if collinear 0.000005 curve.points then
        let share := sharpest start control finish
        if share == 0 || share == 1 then .line else .turns [curve.point share]
      else .curve
  | .cubic start first second finish =>
    let count := [first - start, second - first, finish - second].countP pointless
    if count = 3 then .point
    else if count = 2 then .line
    else if collinear 0.00001 curve.points then
      let shares := (sharpestCubic start first second finish).filter fun share =>
        decide (0 < share) && decide (share < 1)
      let points := (shares.map curve.point).filter fun point =>
        !point.same start && !point.same finish
      if points.isEmpty then .line else .turns points
    else .curve

/-- Where a curve with two control points stops and turns around. Only one whose control lines
cross has such a point. -/
def cusp? (curve : Curve) : Option (Point Float32) :=
  match curve with
  | .cubic start first second finish =>
    let sides (origin target one other : Point Float32) : Bool :=
      let line := target - origin
      decide (0 ≤ line.cross (one - origin) * line.cross (other - origin))
    if start.same first || second.same finish || sides second finish start first ||
        sides start first second finish then none
    else
      let square (vector : Point Float32) : Float32 := vector.dot vector
      let least := (square (first - start) + square (second - first) + square (finish - second)) *
        0.00000001
      let shares := (sharpestCubic start first second finish).filter fun share =>
        decide (0 < share) && decide (share < 1) &&
          decide (square ((curve.direction share).scaled 3) < least)
      shares.head?.map curve.point
  | _ => none

end Reduction

end PagePaint
