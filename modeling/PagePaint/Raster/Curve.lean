import PagePaint.Geometry.Outline
import PagePaint.Raster.Vector

set_option autoImplicit false

/-!
# Curves

The drawn pieces of an outline: lines and curves with one or two control points. A curve can be
evaluated, split, and replaced by lines that stay close to it.
-/

namespace PagePaint

inductive Curve where
  | line (start finish : Point Float32)
  | quadratic (start control finish : Point Float32)
  | cubic (start first second finish : Point Float32)

namespace Curve

def start : Curve → Point Float32
  | .line start _ => start
  | .quadratic start _ _ => start
  | .cubic start _ _ _ => start

def finish : Curve → Point Float32
  | .line _ finish => finish
  | .quadratic _ _ finish => finish
  | .cubic _ _ _ finish => finish

def points : Curve → List (Point Float32)
  | .line start finish => [start, finish]
  | .quadratic start control finish => [start, control, finish]
  | .cubic start first second finish => [start, first, second, finish]

/-- The segment that draws a curve from where it starts. -/
def segment : Curve → Segment Float32
  | .line _ finish => .line finish
  | .quadratic _ control finish => .quadratic control finish
  | .cubic _ first second finish => .cubic first second finish

/-- The curve a segment draws from a point. Moves and closings draw none. -/
def ofSegment? (start : Point Float32) : Segment Float32 → Option Curve
  | .line target => some (.line start target)
  | .quadratic control target => some (.quadratic start control target)
  | .cubic first second target => some (.cubic start first second target)
  | .move _ => none
  | .close => none

def point (curve : Curve) (share : Float32) : Point Float32 :=
  match curve with
  | .line start finish => start.toward finish share
  | .quadratic start control finish =>
    let linear := (control - start).scaled 2
    let square := finish - control.scaled 2 + start
    (square.scaled share + linear).scaled share + start
  | .cubic start first second finish =>
    let linear := (first - start).scaled 3
    let square := (second - first.scaled 2 + start).scaled 3
    let cube := finish + (first - second).scaled 3 - start
    ((cube.scaled share + square).scaled share + linear).scaled share + start

/-- The direction of a curve at a share of its parameter. Its length has no meaning. -/
def direction (curve : Curve) (share : Float32) : Point Float32 :=
  match curve with
  | .line start finish => finish - start
  | .quadratic start control finish =>
    (control - start).toward (finish - control) share
  | .cubic start first second finish =>
    let early := (first - start).toward (second - first) share
    early.toward ((second - first).toward (finish - second) share) share

/-- The two parts of a curve before and after a share of its parameter. -/
def split (curve : Curve) (share : Float32) : Curve × Curve :=
  match curve with
  | .line start finish =>
    let middle := start.toward finish share
    (.line start middle, .line middle finish)
  | .quadratic start control finish =>
    let before := start.toward control share
    let after := control.toward finish share
    let middle := before.toward after share
    (.quadratic start before middle, .quadratic middle after finish)
  | .cubic start first second finish =>
    let before := start.toward first share
    let between := first.toward second share
    let after := second.toward finish share
    let early := before.toward between share
    let late := between.toward after share
    let middle := early.toward late share
    (.cubic start before early middle, .cubic middle late after finish)

/-- A share kept off both ends, so that both parts of a split have some extent. -/
private def inner (share : Float32) : Float32 :=
  let least : Float32 := 1 / 8388608
  if share < least then least else if 1 - least < share then 1 - least else share

/-- The part of a curve between two shares of its parameter. The end of a line is exact. -/
def between (curve : Curve) (low high : Float32) : Curve :=
  match curve with
  | .line start finish =>
    .line (start.toward finish low) (if high == 1 then finish else start.toward finish high)
  | curve =>
    let rest := if low == 0 then curve else (curve.split (inner low)).2
    if high == 1 then rest
    else
      let share := if low == 0 then high else (high - low) / (1 - low)
      (rest.split (inner share)).1

/-- How many times a curve is halved until its pieces bend less than a tolerance, up to a limit.
Halving leaves a quarter of a bend. -/
def halvings : Nat → Float32 → Float32 → Nat
  | 0, _, _ => 0
  | limit + 1, tolerance, bend =>
    if tolerance < bend then halvings limit tolerance (bend * 0.25) + 1 else 0

/-- The points of a curve at equal shares of its parameter, its start left out. -/
def samples (curve : Curve) (halvings : Nat) : List (Point Float32) :=
  let count := 1 <<< halvings
  (List.range count).map fun index =>
    if index + 1 = count then curve.finish
    else curve.point ((index + 1).toFloat32 / count.toFloat32)

end Curve

namespace Outline

/-- The walk along an outline: what was drawn so far, where the contour began, where the walk is,
and whether the contour is still open. -/
structure Walk where
  drawn : Array Curve
  first : Point Float32
  current : Point Float32
  isOpen : Bool

namespace Walk

def close (walk : Walk) : Walk :=
  if walk.isOpen then
    { walk with drawn := walk.drawn.push (.line walk.current walk.first), isOpen := false }
  else walk

def step (walk : Walk) (segment : Segment Float32) : Walk :=
  match segment with
  | .move target => { walk.close with first := target, current := target }
  | .close => walk.close
  | segment =>
    match Curve.ofSegment? walk.current segment with
    | some curve =>
      { walk with drawn := walk.drawn.push curve, current := curve.finish, isOpen := true }
    | none => walk

end Walk

/-- The curves around an outline. Every contour ends where it began. -/
def curves (outline : Outline Float32) : Array Curve :=
  (outline.segments.foldl Walk.step ⟨#[], .origin, .origin, false⟩).close.drawn

/-- An outline moved by a transform. There is none if a point leaves the range of single
precision. -/
def moved? (outline : Outline Float32) (transform : Transform Float32) :
    Option (Outline Float32) :=
  if transform.isIdentity then some outline
  else
    let segments := outline.segments.map fun segment => segment.map transform.apply
    if bounded segments then some ⟨segments⟩ else none

end Outline

end PagePaint
