import PagePaint.Page.Style
import PagePaint.Raster.Arc

set_option autoImplicit false

/-!
# Joins and caps

A stroke is the outline between its two sides, half the width away from the line it follows. A join
leads both sides around a corner; a cap leads from one side to the other at a loose end.
-/

namespace PagePaint

/-- The geometry of a stroke. -/
structure Pen where
  /-- Half the width. -/
  radius : Float32
  cap : LineCap
  join : LineJoin
  /-- A corner whose half angle has a smaller sine gets no miter. -/
  leastSine : Float32
  /-- The scale under which the stroke is going to be painted. -/
  scale : Float32

namespace Pen

/-- The pen of a style. A miter that may not reach past the width is a bevel. There is none without
a positive finite width. -/
def ofStyle? (style : StrokeStyle Float32) (scale : Float32) : Option Pen :=
  if style.width.isFinite && decide (0 < style.width) then
    let isMiter := style.join = .miter
    let blunt := decide (style.miterLimit ≤ 1)
    some {
      radius := style.width * 0.5
      cap := style.cap
      join := if isMiter && blunt then .bevel else style.join
      leastSine := if isMiter && !blunt then 1 / style.miterLimit else 0
      scale }
  else none

/-- Lines up to this extent count as points. -/
def shortest (pen : Pen) : Float32 := Raster.tiny * (1 / (pen.scale * 4))

end Pen

/-- The two sides of a stroke under construction, last segment first. -/
structure Sides where
  outer : List (Segment Float32)
  inner : List (Segment Float32)

namespace Sides

def withEnd (side : List (Segment Float32)) (target : Point Float32) : List (Segment Float32) :=
  match side with
  | [] => [.move target]
  | .move _ :: rest => .move target :: rest
  | .line _ :: rest => .line target :: rest
  | .quadratic control _ :: rest => .quadratic control target :: rest
  | .cubic first second _ :: rest => .cubic first second target :: rest
  | .close :: rest => .close :: withEnd rest target

def reached (side : List (Segment Float32)) : Point Float32 :=
  (side.findSome? Segment.target?).getD .origin

/-- Leads both sides straight on to a point with a normal. -/
def lineTo (sides : Sides) (point normal : Point Float32) : Sides :=
  ⟨.line (point + normal) :: sides.outer, .line (point - normal) :: sides.inner⟩

/-- The segments that lead back along a side, put after others, last segment first. -/
def backwards (before : List (Segment Float32)) :
    List (Segment Float32) → List (Segment Float32)
  | segment :: previous :: rest =>
    let target := (previous.target?).getD .origin
    let back : Segment Float32 := match segment with
      | .quadratic control _ => .quadratic control target
      | .cubic first second _ => .cubic second first target
      | _ => .line target
    backwards (back :: before) (previous :: rest)
  | _ => before

def still (side : List (Segment Float32)) : Bool :=
  match side.flatMap Segment.points with
  | [] => true
  | first :: rest => rest.all first.same

end Sides

/-- A corner of the line a stroke follows: unit normals to the pieces before and after it, and
whether these pieces are straight. -/
structure Corner where
  pivot : Point Float32
  before : Point Float32
  after : Point Float32
  afterLine : Bool
  beforeLine : Bool

namespace Corner

/-- The kinds of corners, by the cosine of the angle between the normals. -/
inductive Kind where
  | straight
  | shallow
  | sharp
  | turning
deriving DecidableEq, Repr

def cosine (corner : Corner) : Float32 := corner.before.dot corner.after

def kind (corner : Corner) : Kind :=
  if 0 ≤ corner.cosine then
    if Raster.isTiny (1 - corner.cosine) then .straight else .shallow
  else if Raster.isTiny (1 + corner.cosine) then .turning
  else .sharp

/-- Whether the line turns with the clock, so that its outer side is on the outside. -/
def clockwise (corner : Corner) : Bool :=
  decide (corner.before.y * corner.after.x < corner.before.x * corner.after.y)

/-- Leads the inside of a corner through its pivot, so that nothing shows through where the pieces
are shorter than the stroke is wide. -/
private def inside (pivot normal : Point Float32) (side : List (Segment Float32)) :
    List (Segment Float32) :=
  .line (pivot - normal) :: .line pivot :: side

/-- Builds a join for a turn with the clock and exchanges the sides for any other. The builder is
given the normals on the outside. -/
private def outside (corner : Corner) (sides : Sides)
    (build : Point Float32 → Point Float32 → Sides → Sides) : Sides :=
  if corner.clockwise then build corner.before corner.after sides
  else
    let built := build (-corner.before) (-corner.after) ⟨sides.inner, sides.outer⟩
    ⟨built.inner, built.outer⟩

def bevel (corner : Corner) (radius : Float32) (sides : Sides) : Sides :=
  corner.outside sides fun _ after sides =>
    let normal := after.scaled radius
    ⟨.line (corner.pivot + normal) :: sides.outer, inside corner.pivot normal sides.inner⟩

def round (corner : Corner) (radius : Float32) (sides : Sides) : Sides :=
  if corner.kind = .straight then sides
  else
    corner.outside sides fun before after sides =>
      match Arc.segments corner.pivot radius before after corner.clockwise
          (Sides.reached sides.outer) with
      | [] => sides
      | segments =>
        ⟨segments.reverse ++ sides.outer, inside corner.pivot (after.scaled radius) sides.inner⟩

/-- The tip of a miter, from the pivot. There is none if the corner is too sharp. -/
private def tip? (corner : Corner) (radius leastSine : Float32) (before after : Point Float32) :
    Option (Point Float32) :=
  if corner.cosine == 0 && decide (leastSine ≤ Raster.halfRoot) then
    some ((before + after).scaled radius)
  else
    let along : Point Float32 :=
      if corner.kind = .sharp then
        let across : Point Float32 := ⟨after.y - before.y, before.x - after.x⟩
        if corner.clockwise then across else -across
      else before + after
    let sine := ((1 + corner.cosine) * 0.5).sqrt
    if sine < leastSine then none
    else some ((along.withLength? (radius / sine)).getD .origin)

/-- Prolongs the corner to a point, or cuts it off if it is too sharp. -/
def miter (corner : Corner) (radius leastSine : Float32) (sides : Sides) : Sides :=
  match corner.kind with
  | .straight => sides
  | .turning =>
    let normal := corner.after.scaled radius
    ⟨.line (corner.pivot + normal) :: sides.outer, inside corner.pivot normal sides.inner⟩
  | _ =>
    corner.outside sides fun before after sides =>
      let normal := after.scaled radius
      let outer :=
        match corner.tip? radius leastSine before after with
        | none => .line (corner.pivot + normal) :: sides.outer
        | some tip =>
          let reached :=
            if corner.beforeLine then Sides.withEnd sides.outer (corner.pivot + tip)
            else .line (corner.pivot + tip) :: sides.outer
          if corner.afterLine then reached else .line (corner.pivot + normal) :: reached
      ⟨outer, inside corner.pivot normal sides.inner⟩

end Corner

namespace Pen

def joinSides (pen : Pen) (style : LineJoin) (corner : Corner) (sides : Sides) : Sides :=
  match style with
  | .miter => corner.miter pen.radius pen.leastSine sides
  | .round => corner.round pen.radius sides
  | .bevel => corner.bevel pen.radius sides

/-- Leads a side around a loose end to a point on the other side. -/
def capSide (pen : Pen) (pivot normal stop : Point Float32) (isLine : Bool)
    (side : List (Segment Float32)) : List (Segment Float32) :=
  let ahead := pivot + normal.turned
  match pen.cap with
  | .butt => .line stop :: side
  | .round =>
    let early : Conic := ⟨Sides.reached side, ahead + normal, ahead, Raster.halfRoot⟩
    let late : Conic := ⟨ahead, ahead - normal, stop, Raster.halfRoot⟩
    late.segments.reverse ++ early.segments.reverse ++ side
  | .square =>
    let first := pivot + normal + normal.turned
    let second := pivot - normal + normal.turned
    if isLine then .line second :: Sides.withEnd side first
    else .line stop :: .line second :: .line first :: side

end Pen

end PagePaint
