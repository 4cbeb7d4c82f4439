import PagePaint.Raster.Curve

set_option autoImplicit false

/-!
# Arcs

Arcs of circles, as conic sections of at most a quarter turn, which are then replaced by curves with
one control point.
-/

namespace PagePaint

/-- A conic section from one point to another. With a weight of the cosine of half its angle it is
an arc of a circle. -/
structure Conic where
  start : Point Float32
  control : Point Float32
  finish : Point Float32
  weight : Float32

namespace Conic

def halves (conic : Conic) : Conic × Conic :=
  let scale := 1 / (1 + conic.weight)
  let pull := conic.control.scaled conic.weight
  let middle := ((conic.start + pull.scaled 2 + conic.finish).scaled scale).scaled 0.5
  let weight := (0.5 + conic.weight * 0.5).sqrt
  (⟨conic.start, (conic.start + pull).scaled scale, middle, weight⟩,
    ⟨middle, (pull + conic.finish).scaled scale, conic.finish, weight⟩)

/-- How many times a conic section is halved, at least once, so that curves with one control point
come near it. -/
def doublings (conic : Conic) : Nat :=
  let offset := conic.weight - 1
  let factor := offset / (4 * (2 + offset))
  let error := ((conic.start - conic.control.scaled 2 + conic.finish).scaled factor).length
  max 1 (Curve.halvings 4 0.25 error)

/-- The curves of a conic section that is halved some times. -/
def pieces (conic : Conic) : Nat → List (Segment Float32)
  | 0 => [.quadratic conic.control conic.finish]
  | doublings + 1 =>
    let (before, after) := conic.halves
    before.pieces doublings ++ after.pieces doublings

def segments (conic : Conic) : List (Segment Float32) := conic.pieces conic.doublings

def map (conic : Conic) (change : Point Float32 → Point Float32) : Conic :=
  ⟨change conic.start, change conic.control, change conic.finish, conic.weight⟩

end Conic

namespace Arc

/-- The ends of the quarters of the unit circle, and the corners of the square around it between
them. -/
private def quarters : List (Conic) :=
  [⟨⟨1, 0⟩, ⟨1, 1⟩, ⟨0, 1⟩, Raster.halfRoot⟩, ⟨⟨0, 1⟩, ⟨-1, 1⟩, ⟨-1, 0⟩, Raster.halfRoot⟩,
    ⟨⟨-1, 0⟩, ⟨-1, -1⟩, ⟨0, -1⟩, Raster.halfRoot⟩, ⟨⟨0, -1⟩, ⟨1, -1⟩, ⟨1, 0⟩, Raster.halfRoot⟩]

/-- How many whole quarters an arc from `(1, 0)` to a point of the unit circle passes. -/
private def wholeQuarters (point : Point Float32) : Nat :=
  if point.y == 0 then 2
  else if point.x == 0 then (if 0 < point.y then 1 else 3)
  else
    (if point.y < 0 then 2 else 0) +
      (if decide (point.x < 0) != decide (point.y < 0) then 1 else 0)

/-- The last part of an arc, from the end of a quarter to a point of the unit circle. -/
private def rest? (start point : Point Float32) : Option Conic :=
  let cosine := start.dot point
  if cosine < 1 then
    let weight := ((1 + cosine) / 2).sqrt
    match (start + point).withLength? (1 / weight) with
    | some control =>
      let offset := start - control
      if Raster.isTiny offset.x && Raster.isTiny offset.y then none
      else some ⟨start, control, point, weight⟩
    | none => some ⟨start, .origin, point, weight⟩
  else none

/-- The conic sections of an arc around a centre between two unit vectors. Vectors that nearly
coincide have none. -/
def conics (center : Point Float32) (radius : Float32) (start finish : Point Float32)
    (clockwise : Bool) : List Conic :=
  let x := start.dot finish
  let y := start.cross finish
  if Raster.isTiny y && 0 < x && (if clockwise then decide (0 ≤ y) else decide (y ≤ 0)) then []
  else
    let target : Point Float32 := ⟨x, if clockwise then y else -y⟩
    let count := wholeQuarters target
    let whole := quarters.take count
    let last := ((quarters[count]?).map Conic.start).getD ⟨1, 0⟩
    let rest := (rest? last target).toList
    let turn : Transform Float32 := ⟨start.x, start.y, -start.y, start.x, 0, 0⟩
    let turn := if clockwise then turn else turn.after (.scaling 1 (-1))
    let place := (Transform.mk radius 0 0 radius center.x center.y).after turn
    (whole ++ rest).map fun conic => conic.map place.apply

/-- The segments of an arc that goes on from a point, which is its start but for rounding. -/
def segments (center : Point Float32) (radius : Float32) (start finish : Point Float32)
    (clockwise : Bool) (reached : Point Float32) : List (Segment Float32) :=
  match conics center radius start finish clockwise with
  | [] => []
  | first :: rest => { first with start := reached }.segments ++ rest.flatMap Conic.segments

def circle (center : Point Float32) (radius : Float32) : List (Segment Float32) :=
  let place (point : Point Float32) : Point Float32 := center + point.scaled radius
  .move (place ⟨1, 0⟩) ::
    (quarters.map fun conic => conic.map place).flatMap Conic.segments ++ [.close]

end Arc

end PagePaint
