import PagePaint.Raster.Join
import PagePaint.Raster.Reduce

set_option autoImplicit false

/-!
# Strokes

The outline of a stroke is built contour by contour in the object's own space: the two sides follow
the segments of the contour, joined at its corners, and are linked by caps or closed each on their
own.
-/

namespace PagePaint

structure Tracer where
  /-- The contours that are finished, last segment first. -/
  finished : List (Segment Float32)
  sides : Sides
  /-- The circles around points where a curve stops, last segment first. -/
  circles : List (Segment Float32)
  /-- How many pieces the contour has so far. -/
  pieces : Nat
  first : Point Float32
  current : Point Float32
  /-- The unit normal to the first piece. -/
  firstUnit : Point Float32
  /-- The normal to the first piece, half the width long. -/
  firstNormal : Point Float32
  currentUnit : Point Float32
  currentNormal : Point Float32
  /-- Where the outer side began. -/
  outerFirst : Point Float32
  /-- The last piece is straight. -/
  afterLine : Bool
  /-- The contour has left its first point. -/
  joined : Bool

namespace Tracer

def empty : Tracer :=
  { finished := []
    sides := ⟨[], []⟩
    circles := []
    pieces := 0
    first := .origin
    current := .origin
    firstUnit := .origin
    firstNormal := .origin
    currentUnit := .origin
    currentNormal := .origin
    outerFirst := .origin
    afterLine := false
    joined := false }

private def unit? (pen : Pen) (displacement : Point Float32) : Option (Point Float32) :=
  ((displacement.scaled pen.scale).withLength? 1).map Point.turnedBack

/-- Ends the contour. A closed one is joined to its first piece and its sides become contours of
their own; one that is not closed gets a cap at either end. -/
def finish (tracer : Tracer) (pen : Pen) (closed isLine : Bool) : Tracer :=
  if tracer.pieces = 0 then { tracer with sides := ⟨[], []⟩ }
  else
    let drawn :=
      if closed then
        let corner : Corner :=
          ⟨tracer.current, tracer.currentUnit, tracer.firstUnit, isLine, tracer.afterLine⟩
        let sides := pen.joinSides pen.join corner tracer.sides
        .close :: Sides.backwards (.move (Sides.reached sides.inner) :: .close :: sides.outer)
          sides.inner
      else
        let stop := Sides.reached tracer.sides.inner
        let outer := pen.capSide tracer.current tracer.currentNormal stop isLine
          tracer.sides.outer
        let outer := Sides.backwards outer tracer.sides.inner
        .close :: pen.capSide tracer.first (-tracer.firstNormal) tracer.outerFirst
          tracer.afterLine outer
    { tracer with
      finished := tracer.circles ++ drawn ++ tracer.finished
      sides := ⟨[], []⟩
      circles := []
      pieces := 0 }

def moveTo (tracer : Tracer) (pen : Pen) (target : Point Float32) : Tracer :=
  { tracer.finish pen false false with
    pieces := 0, first := target, current := target, joined := false }

/-- Prepares both sides for a piece with a unit normal. -/
private def turn (tracer : Tracer) (pen : Pen) (join : LineJoin) (unit : Point Float32)
    (isLine : Bool) : Tracer :=
  let normal := unit.scaled pen.radius
  if tracer.pieces = 0 then
    { tracer with
      sides := ⟨[.move (tracer.current + normal)], [.move (tracer.current - normal)]⟩
      firstUnit := unit
      firstNormal := normal
      outerFirst := tracer.current + normal
      afterLine := isLine }
  else
    let corner : Corner := ⟨tracer.current, tracer.currentUnit, unit, isLine, tracer.afterLine⟩
    { tracer with sides := pen.joinSides join corner tracer.sides, afterLine := isLine }

private def arrive (tracer : Tracer) (target unit normal : Point Float32) : Tracer :=
  { tracer with
    joined := true
    current := target
    currentUnit := unit
    currentNormal := normal
    pieces := tracer.pieces + 1 }

/-- Whether a contour goes on with a curve that has a direction before it ends. -/
def tangentAhead : List (Segment Float32) → Bool
  | .line _ :: rest => tangentAhead rest
  | .quadratic control target :: rest => !control.same target || tangentAhead rest
  | .cubic first second target :: rest =>
    !(first.same target && second.same target) || tangentAhead rest
  | _ => false

/-- The unit normal to a piece. With caps that show even a piece without length is drawn; it is
upright. -/
private def normalTo? (tracer : Tracer) (pen : Pen) (target : Point Float32) :
    Option (Point Float32) :=
  match unit? pen (target - tracer.current) with
  | some unit => some unit
  | none => if pen.cap = .butt then none else some ⟨1, 0⟩

/-- Adds a straight piece. One without extent is left out, unless it is all there is and has caps
that show. -/
def lineTo (tracer : Tracer) (pen : Pen) (join : LineJoin) (ahead : List (Segment Float32))
    (target : Point Float32) : Tracer :=
  let way := tracer.current - target
  let isShort := decide (way.x.abs ≤ pen.shortest) && decide (way.y.abs ≤ pen.shortest)
  if isShort && (pen.cap = .butt || tracer.joined || tangentAhead ahead) then tracer
  else
    match tracer.normalTo? pen target with
    | none => tracer
    | some unit =>
      let turned := tracer.turn pen join unit true
      let normal := unit.scaled pen.radius
      { turned with sides := turned.sides.lineTo target normal }.arrive target unit normal

/-- Whether a line between two points passes near a third, as far as a middle point tells. -/
private def passes (tolerance : Float32) (start finish middle : Point Float32) : Bool :=
  decide (((start + finish).scaled 0.5 - middle).extent ≤ tolerance)

/-- Follows a curve between two shares of its parameter, in halves until its direction changes
little and both sides are nearly straight. The fuel bounds the number of halvings, the least of
which are done in any case; the last four only follow sudden turns. -/
private def follow (pen : Pen) (curve : Curve) :
    Nat → Nat → Float32 → Float32 → Point Float32 → Point Float32 → Sides → Sides
  | 0, _, _, high, _, late, sides => sides.lineTo (curve.point high) (late.scaled pen.radius)
  | fuel + 1, least, low, high, early, late, sides =>
    let middle := (low + high) * 0.5
    let unit := (((curve.direction middle).withLength? 1).map Point.turnedBack).getD early
    let start := curve.point low
    let finish := curve.point high
    let way := curve.point middle
    let isStraight (radius : Float32) : Bool :=
      passes (1 / (pen.scale * 16)) (start + early.scaled radius) (finish + late.scaled radius)
        (way + unit.scaled radius)
    if least = 0 && decide (0.998 ≤ early.dot late) &&
        (decide (fuel < 4) || isStraight pen.radius && isStraight (-pen.radius)) then
      sides.lineTo finish (late.scaled pen.radius)
    else
      follow pen curve fuel (least - 1) middle high unit late
        (follow pen curve fuel (least - 1) low middle early unit sides)

/-- Adds a curved piece that leaves towards one point and arrives from another. -/
private def curveTo (tracer : Tracer) (pen : Pen) (join : LineJoin) (curve : Curve)
    (toward : Point Float32) (arrival : Point Float32 → Point Float32) : Tracer :=
  match tracer.normalTo? pen toward with
  | none => tracer.lineTo pen join [] curve.finish
  | some unit =>
    let turned := tracer.turn pen join unit false
    let last := arrival unit
    let sides := follow pen curve 18 3 0 1 unit last turned.sides
    { turned with sides }.arrive curve.finish last (last.scaled pen.radius)

/-- The unit normal at the end of a curve with two control points, given the one at its start. -/
private def cubicArrival (start first second finish unit : Point Float32) : Point Float32 :=
  let early := if Reduction.pointless (first - start) then second - start else first - start
  let late := if Reduction.pointless (finish - second) then finish - first else finish - second
  if Reduction.pointless early || Reduction.pointless late then unit
  else ((late.withLength? 1).map Point.turnedBack).getD unit

/-- Adds a curve. One that runs along a line is drawn as lines with round turns. -/
def add (tracer : Tracer) (pen : Pen) (curve : Curve) : Tracer :=
  match Reduction.ofCurve curve, curve with
  | .turns (first :: rest), _ =>
    (rest ++ [curve.finish]).foldl (fun tracer point => tracer.lineTo pen .round [] point)
      (tracer.lineTo pen pen.join [] first)
  | .curve, .quadratic _ control finish =>
    tracer.curveTo pen pen.join curve control fun unit =>
      (unit? pen (finish - control)).getD unit
  | .curve, .cubic start first second finish =>
    let toward := if Reduction.pointless (first - start) then second else first
    let traced := tracer.curveTo pen pen.join curve toward
      (cubicArrival start first second finish)
    match Reduction.cusp? curve with
    | some point =>
      { traced with circles := (Arc.circle point pen.radius).reverse ++ traced.circles }
    | none => traced
  | _, _ => tracer.lineTo pen pen.join [] curve.finish

/-- Closes the contour. With caps that show, a contour that never left its first point is drawn as
if it were open. -/
def close (tracer : Tracer) (pen : Pen) (isLine : Bool) : Tracer × Bool :=
  if pen.cap != .butt && tracer.pieces == 0 then
    (tracer.lineTo pen pen.join [] tracer.first, true)
  else if pen.cap != .butt && Sides.still tracer.sides.inner && Sides.still tracer.sides.outer then
    (tracer, true)
  else (tracer.finish pen true isLine, isLine)

/-- Traces segments in order. A flag says whether the last one was straight. -/
def trace (pen : Pen) : Tracer → Bool → List (Segment Float32) → Tracer
  | tracer, isLine, [] => tracer.finish pen false isLine
  | tracer, isLine, segment :: rest =>
    match segment with
    | .move target => trace pen (tracer.moveTo pen target) isLine rest
    | .line target => trace pen (tracer.lineTo pen pen.join rest target) true rest
    | .close =>
      let (closed, isLine) := tracer.close pen isLine
      trace pen closed isLine rest
    | segment =>
      match Curve.ofSegment? tracer.current segment with
      | some curve => trace pen (tracer.add pen curve) false rest
      | none => trace pen tracer isLine rest

end Tracer

namespace Outline

/-- The segments of an outline with the lines that its closings leave out. -/
def explicit (outline : Outline Float32) : List (Segment Float32) :=
  (outline.segments.foldl
    (fun (state : List (Segment Float32) × Point Float32 × Point Float32) segment =>
      let (segments, first, current) := state
      match segment with
      | .move target => (segment :: segments, target, target)
      | .close =>
        if current.same first then (segment :: segments, first, first)
        else (segment :: .line first :: segments, first, first)
      | segment => (segment :: segments, first, (segment.target?).getD current))
    ([], .origin, .origin)).1.reverse

/-- The outline of a stroke along an outline, to be filled by the nonzero rule. There is none if
nothing is drawn. -/
def stroked? (outline : Outline Float32) (style : StrokeStyle Float32) (scale : Float32) :
    Option (Outline Float32) := do
  let pen ← Pen.ofStyle? style scale
  ofSegments? (Tracer.trace pen .empty false outline.explicit).finished.reverse

end Outline

end PagePaint
