import PagePaint.Raster.Clip
import PagePaint.Raster.Curve
import PagePaint.Raster.Roots

set_option autoImplicit false

/-!
# Pieces of curves within a box

The curved sides of a filled shape are cut where they turn, so that every piece leads only down or
up and only to the left or right, and then at the sides of a box. As with lines, what lies above or
below the box is dropped, and what lies to its left or right is moved onto its edge.
-/

namespace PagePaint

namespace Curve

def map (change : Point Float32 → Point Float32) : Curve → Curve
  | .line start finish => .line (change start) (change finish)
  | .quadratic start control finish => .quadratic (change start) (change control) (change finish)
  | .cubic start first second finish =>
    .cubic (change start) (change first) (change second) (change finish)

def transposed (curve : Curve) : Curve := curve.map fun point => ⟨point.y, point.x⟩

def reversed : Curve → Curve
  | .line start finish => .line finish start
  | .quadratic start control finish => .quadratic finish control start
  | .cubic start first second finish => .cubic finish second first start

/-- The parts of what is left of a curve after one share of its parameter, cut at others. What
rounding does not let be cut stays whole. -/
private def partsAfter (curve : Curve) (passed : Float32) : List Float32 → List Curve
  | [] => [curve]
  | next :: rest =>
    match Roots.quotient? (next - passed) (1 - passed) with
    | some share =>
      let (early, late) := curve.split share
      early :: late.partsAfter next rest
    | none => [curve]

/-- The parts of a curve cut at growing shares of its parameter. -/
def parts (curve : Curve) (shares : List Float32) : List Curve := curve.partsAfter 0 shares

private def arrivingLevel : Curve → Curve
  | .line start finish => .line start finish
  | .quadratic start control finish => .quadratic start ⟨control.x, finish.y⟩ finish
  | .cubic start first second finish => .cubic start first ⟨second.x, finish.y⟩ finish

private def leavingLevel : Curve → Curve
  | .line start finish => .line start finish
  | .quadratic start control finish => .quadratic start ⟨control.x, start.y⟩ finish
  | .cubic start first second finish => .cubic start ⟨first.x, start.y⟩ second finish

/-- Whether the second of three values does not lie on the way from the first to the third. -/
private def turns (first second third : Float32) : Bool :=
  let before := first - second
  let after := if before < 0 then -(second - third) else second - third
  before == 0 || decide (after < 0)

/-- Makes parts of a curve level where they meet. A flag says whether the first of them is the first
part of the curve. -/
private def levelled : Bool → List Curve → List Curve
  | _, [] => []
  | isFirst, [last] => [if isFirst then last else last.leavingLevel]
  | isFirst, part :: next :: rest =>
    (if isFirst then part else part.leavingLevel).arrivingLevel :: levelled false (next :: rest)

/-- The parts of a curve between its highest and lowest points. Each leads only down or only up. -/
def slopes (curve : Curve) : List Curve :=
  match curve with
  | .line _ _ => [curve]
  | .quadratic start control finish =>
    let before := start.y - control.y
    if turns start.y control.y finish.y then
      match Roots.quotient? before (before - control.y + finish.y) with
      | some share => levelled true (curve.parts [share])
      | none =>
        let isNear := decide (before.abs < (control.y - finish.y).abs)
        [.quadratic start ⟨control.x, if isNear then start.y else finish.y⟩ finish]
    else [curve]
  | .cubic start first second finish =>
    let cube := finish.y - start.y + 3 * (first.y - second.y)
    let square := 2 * (start.y - first.y - first.y + second.y)
    levelled true (curve.parts (Roots.ofQuadratic cube square (first.y - start.y)))

/-- The height of a curve at a share of its parameter, in double precision. -/
private def wideHeight (start first second finish : Float) (share : Float) : Float :=
  let linear := 3 * (first - start)
  let square := 3 * (second - 2 * first + start)
  let cube := finish + 3 * (first - second) - start
  ((cube * share + square) * share + linear) * share + start

/-- Halves a stretch of the parameter around the share at which a growing function reaches a value.
The fuel is the number of halvings. -/
private def shareAt (height : Float → Float) (value : Float) : Nat → Float → Float → Float
  | 0, low, high => (low + high) / 2
  | fuel + 1, low, high =>
    let middle := (low + high) / 2
    if height middle < value then shareAt height value fuel middle high
    else shareAt height value fuel low middle

private def wideToward (start finish : Point Float) (share : Float) : Point Float :=
  ⟨start.x + (finish.x - start.x) * share, start.y + (finish.y - start.y) * share⟩

/-- The parts of a curve with two control points before and after a share of its parameter, computed
in double precision. -/
private def splitWide (start first second finish : Point Float32) (share : Float) :
    Curve × Curve :=
  let wide (point : Point Float32) : Point Float :=
    ⟨point.x.toFloat, point.y.toFloat⟩
  let single (point : Point Float) : Point Float32 :=
    ⟨point.x.toFloat32, point.y.toFloat32⟩
  let before := wideToward (wide start) (wide first) share
  let between := wideToward (wide first) (wide second) share
  let after := wideToward (wide second) (wide finish) share
  let early := wideToward before between share
  let late := wideToward between after share
  let middle := single (wideToward early late share)
  (.cubic start (single before) (single early) middle,
    .cubic middle (single late) (single after) finish)

/-- The parts of a curve that leads down, above and below a height. A curve with one control point
may miss the height by rounding. -/
private def partsAt? (curve : Curve) (height : Float32) : Option (Curve × Curve) :=
  match curve with
  | .line _ _ => none
  | .quadratic start control finish =>
    (Roots.ofQuadratic (start.y - control.y - control.y + finish.y) (2 * (control.y - start.y))
      (start.y - height)).head?.map curve.split
  | .cubic start first second finish =>
    let share := shareAt
      (wideHeight start.y.toFloat first.y.toFloat second.y.toFloat finish.y.toFloat)
      height.toFloat 64 0 1
    some (splitWide start first second finish share)

private def least (low : Float32) (point : Point Float32) : Point Float32 :=
  if point.y < low then ⟨point.x, low⟩ else point

private def most (high : Float32) (point : Point Float32) : Point Float32 :=
  if high < point.y then ⟨point.x, high⟩ else point

/-- Makes a curve start at a height, and leave to below it. -/
private def startingAt (height : Float32) : Curve → Curve
  | .line start finish => .line ⟨start.x, height⟩ finish
  | .quadratic start control finish =>
    .quadratic ⟨start.x, height⟩ (least height control) finish
  | .cubic start first second finish =>
    .cubic ⟨start.x, height⟩ (least height first) second finish

/-- Makes a curve end at a height, and arrive from above it. -/
private def endingAt (height : Float32) : Curve → Curve
  | .line start finish => .line start ⟨finish.x, height⟩
  | .quadratic start control finish =>
    .quadratic start (most height control) ⟨finish.x, height⟩
  | .cubic start first second finish =>
    .cubic start (most height first) (most height second) ⟨finish.x, height⟩

/-- The part of a curve after a cut at a height. Where the cut still leaves most of it above the
height, it is cut once more. -/
private def after (height : Float32) (part : Curve) : Curve :=
  match part with
  | .cubic start first second _ =>
    if start.y < height ∧ first.y < height ∧ second.y < height then
      match part.partsAt? height with
      | some (_, .cubic again third fourth finish) =>
        startingAt height (.cubic again third fourth finish)
      | _ => startingAt height part
    else startingAt height part
  | part => startingAt height part

/-- The part of a curve that leads down between two heights. -/
private def betweenHeights (top bottom : Float32) (curve : Curve) : Curve :=
  let lower :=
    if curve.start.y < top then
      match curve.partsAt? top with
      | some (_, late) => after top late
      | none => curve.map (least top)
    else curve
  if bottom < lower.finish.y then
    match lower.partsAt? bottom with
    | some (early, _) => endingAt bottom early
    | none => lower.map (most bottom)
  else lower

private def upright (column top bottom : Float32) : Curve := .line ⟨column, top⟩ ⟨column, bottom⟩

/-- The sides that a piece stands for within a box. The piece leads down and only to the left or
right. -/
private def cutWide (box : Bounds) (curve : Curve) : List Curve :=
  let isBackward := decide (curve.finish.x < curve.start.x)
  let ahead := if isBackward then curve.reversed else curve
  let pieces :=
    if ahead.finish.x ≤ box.left then [upright box.left ahead.start.y ahead.finish.y]
    else if box.right ≤ ahead.start.x then [upright box.right ahead.start.y ahead.finish.y]
    else
      let across := ahead.transposed
      let cutLeft : List Curve × Option Curve :=
        if ahead.start.x < box.left then
          match across.partsAt? box.left with
          | some (early, late) =>
            ([upright box.left early.start.x early.finish.x], some (startingAt box.left late))
          | none => ([upright box.left ahead.start.y ahead.finish.y], none)
        else ([], some across)
      match cutLeft with
      | (head, none) => head
      | (head, some across) =>
        if box.right < across.finish.y then
          match across.partsAt? box.right with
          | some (early, late) =>
            head ++ [(endingAt box.right early).transposed,
              upright box.right early.finish.x late.finish.x]
          | none => head ++ [(across.map (most box.right)).transposed]
        else head ++ [across.transposed]
  if isBackward then pieces.map reversed else pieces

/-- The sides that a piece stands for within a box. The piece leads only down or up and only to the
left or right. -/
private def cutPiece (box : Bounds) (curve : Curve) : List Curve :=
  let rises := decide (curve.finish.y < curve.start.y)
  let down := if rises then curve.reversed else curve
  if down.finish.y ≤ box.top || box.bottom ≤ down.start.y then []
  else
    let pieces := cutWide box (betweenHeights box.top box.bottom down)
    if rises then pieces.map reversed else pieces

/-- The distance from the origin up to which a curve with two control points is cut to a box. -/
def reach : Float32 := 4194304

/-- Whether a curve within bounds can be cut to a box. -/
private def cuttable (bounds : Bounds) : Curve → Bool
  | .cubic _ _ _ _ =>
    decide (-reach ≤ bounds.left) && decide (-reach ≤ bounds.top) &&
      decide (bounds.right ≤ reach) && decide (bounds.bottom ≤ reach)
  | _ => true

/-- The sides that a curve stands for within a box. A curve with two control points that reaches too
far stands for the line between its ends. -/
def sides (curve : Curve) (box : Bounds) : List Curve :=
  let straight (line : Line) : List Curve :=
    (line.sides box).map fun side => .line side.start side.finish
  match curve with
  | .line start finish => straight ⟨start, finish⟩
  | curve =>
    let bounds := Bounds.ofPoints curve.points
    if !bounds.fits || decide (bounds.bottom ≤ box.top) || decide (box.bottom ≤ bounds.top) then []
    else if curve.cuttable bounds then
      curve.slopes.flatMap fun slope =>
        (slope.transposed.slopes.map transposed).flatMap (cutPiece box)
    else straight ⟨curve.start, curve.finish⟩

end Curve

end PagePaint
