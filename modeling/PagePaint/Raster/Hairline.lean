import PagePaint.Page.Style
import PagePaint.Raster.Coverage
import PagePaint.Raster.Edge
import PagePaint.Raster.Reduce

set_option autoImplicit false

/-!
# Hairlines

A line that is one pixel wide whatever the transform is drawn pixel by pixel along the direction in
which it is longer. Without smoothing there is one pixel for each step; with smoothing there are two
neighbours that share the coverage.
-/

namespace PagePaint

namespace Hairline

/-- How far a cap reaches past the end of a line. A round one covers the area of half a disc. -/
def reach : LineCap → Float32
  | .butt => 0
  | .square => 0.5
  | .round => 3.14159265 / 8

/-- Moves the first point of a piece, and the points that coincide with it, away from the rest. If
all coincide, the first moves along a direction of its own. -/
def prolong (distance : Float32) (fallback : Point Float32) (points : List (Point Float32)) :
    List (Point Float32) :=
  match points with
  | [] => []
  | first :: rest =>
    let equal := rest.takeWhile first.same
    match rest.drop equal.length with
    | [] => (first + fallback.scaled distance) :: rest
    | next :: others =>
      let away := (((first - next).withLength? 1).getD .origin).scaled distance
      (first :: equal).map (· + away) ++ next :: others

/-- How many times a curve with one control point is halved, so that its lines stay within about a
pixel of it. -/
private def quadraticHalvings (start control finish : Point Float32) : Nat :=
  let whole (value : Float32) : Nat := (Binary32.truncate (Binary32.ceil value.abs)).toNat
  let across := whole ((start.x + finish.x) * 0.5 - control.x)
  let down := whole ((start.y + finish.y) * 0.5 - control.y)
  let distance := if down < across then across + down / 2 else down + across / 2
  if distance = 0 then 0 else min 5 ((Nat.log2 distance + 2) / 2)

/-- How many times a curve with two control points is halved, at most, given how far they are from
where they would be on a line. -/
private def cubicHalvings : Nat → Float32 → Float32 → Nat
  | 0, _, _ => 0
  | limit + 1, tolerance, distance =>
    if distance < tolerance then 0 else cubicHalvings limit (tolerance * 4) distance + 1

/-- The corners of lines along a curve with two control points, its start left out. -/
private def cubicCorners (start first second finish : Point Float32) : List (Point Float32) :=
  let third : Float32 := 1 / 3
  let rest : Float32 := 2 / 3
  let early := (finish.scaled third + start.scaled rest - first).extent
  let late := (start.scaled third + finish.scaled rest - second).extent
  let distance := if early < late then late else early
  let corners := (Curve.cubic start first second finish).samples (cubicHalvings 9 (1 / 8) distance)
  if corners.all Point.finite then corners else []

/-- Whether the control points of a curve lie between its ends, seen along the line through
these. -/
private def isGentle (start first second finish : Point Float32) : Bool :=
  let ahead (point pivot other : Point Float32) : Bool :=
    decide (0 ≤ (point - pivot).dot (other - pivot))
  ahead first start finish && ahead second start finish && ahead first finish start &&
    ahead second finish start

/-- Lines through points. A curve with two control points that is not gentle is first cut where it
bends most. -/
private def through (points : List (Point Float32)) : List Line :=
  match points with
  | [start, control, finish] =>
    let curve := Curve.quadratic start control finish
    Line.between (start :: curve.samples (quadraticHalvings start control finish))
  | [start, first, second, finish] =>
    let curve := Curve.cubic start first second finish
    let parts :=
      if isGentle start first second finish then [curve]
      else
        curve.parts ((Reduction.sharpestCubic start first second finish).filter fun share =>
          decide (0 < share) && decide (share < 1))
    parts.flatMap fun part =>
      match part with
      | .cubic start first second finish =>
        Line.between (start :: cubicCorners start first second finish)
      | _ => []
  | points => Line.between points

/-- The walk along an outline: the lines so far, last first, where the contour began, where the walk
is, and whether it has just moved there. -/
structure Walk where
  lines : List Line
  first : Point Float32
  current : Point Float32
  moved : Bool

private def Walk.draw (walk : Walk) (points : List (Point Float32)) : Walk :=
  { walk with lines := (through points).reverse ++ walk.lines, moved := false }

private def endsBefore : List (Segment Float32) → Bool
  | [] => true
  | .move _ :: _ => true
  | .close :: _ => true
  | _ => false

private def capped (cap : LineCap) (atStart atEnd : Bool) (points : List (Point Float32)) :
    List (Point Float32) :=
  if cap = .butt then points
  else
    let points := if atStart then prolong (reach cap) ⟨1, 0⟩ points else points
    if atEnd then (prolong (reach cap) ⟨-1, 0⟩ points.reverse).reverse else points

/-- The lines drawn for segments. A contour that was prolonged at its start is closed to there. -/
def linesOf (cap : LineCap) : Walk → List (Segment Float32) → List Line
  | walk, [] => walk.lines.reverse
  | walk, segment :: rest =>
    match segment with
    | .move target =>
      linesOf cap { walk with first := target, current := target, moved := true } rest
    | .close =>
      let points := [walk.current, walk.first]
      let points := if walk.moved then capped cap true (endsBefore rest) points else points
      linesOf cap (walk.draw points) rest
    | segment =>
      match Curve.ofSegment? walk.current segment with
      | none => linesOf cap walk rest
      | some curve =>
        let points := capped cap walk.moved (endsBefore rest) curve.points
        let first :=
          if cap != .butt && walk.moved then points.headD walk.first else walk.first
        linesOf cap { walk.draw points with first, current := curve.finish } rest

/-- Positions are kept within this distance from the origin. -/
def farthest : Float32 := 32767

private def near : Bounds := ⟨-farthest, -farthest, farthest, farthest⟩

structure Track where
  x₀ : Int
  y₀ : Int
  x₁ : Int
  y₁ : Int
deriving DecidableEq, Repr

namespace Track

def ofLine? (line : Line) (box : Bounds) : Option Track := do
  let kept ← line.within? near
  let kept ← kept.within? box
  let place (value : Float32) : Int := Binary32.truncate (value * 64)
  return ⟨place kept.start.x, place kept.start.y, place kept.finish.x, place kept.finish.y⟩

def transposed (track : Track) : Track := ⟨track.y₀, track.x₀, track.y₁, track.x₁⟩

def isFlat (track : Track) : Bool :=
  decide ((track.y₁ - track.y₀).natAbs < (track.x₁ - track.x₀).natAbs)

def forward (track : Track) : Track :=
  if track.x₁ < track.x₀ then ⟨track.x₁, track.y₁, track.x₀, track.y₀⟩ else track

end Track

private def full (column row : Int) : Run := ⟨row.toNat, column.toNat, 1, fullCoverage⟩

def drawSharp (width height : Nat) (runs : List Run) (line : Line) : List Run :=
  match Track.ofLine? line (.ofSize width height) with
  | none => runs
  | some track =>
    let isFlat := track.isFlat
    let track := if isFlat then track.forward else track.transposed.forward
    let first := (track.x₀ + 32) / 64
    let last := (track.x₁ + 32) / 64
    let slope := Edge.quotient (track.y₁ - track.y₀) (track.x₁ - track.x₀)
    let start := track.y₀ * 1024 + slope * ((32 - track.x₀) % 64) / 64
    (last - first).toNat.fold
      (fun step _ runs =>
        let along := first + step
        let across := start + slope * step
        if along < 0 || across < 0 then runs
        else if isFlat then
          if across < (height : Int) * 65536 then full along (across / 65536) :: runs else runs
        else full (across / 65536) along :: runs)
      runs

/-- A pixel drawn with a coverage, unless there is none or it lies outside a box. -/
private def dot (box : Option PixelBox) (column row : Int) (coverage : Nat) (runs : List Run) :
    List Run :=
  if coverage = 0 then runs
  else if box.all fun box => box.holds column row then
    ⟨row.toNat, column.toNat, 1, coverage⟩ :: runs
  else runs

/-- A share of 64 of a coverage. -/
private def part (coverage : Nat) (share : Int) : Nat := coverage * share.toNat / 64

/-- One step of a smoothed line: the pixel the line runs through takes the part of the coverage
below its position, the one before it the rest. A level line leaves out a pixel before the first;
any other draws on the first again. -/
private def step (box : Option PixelBox) (isFlat isLevel : Bool) (along position : Int)
    (share : Int) (runs : List Run) : List Run :=
  let position := max 0 (position + 32768)
  let at₁ := position / 65536
  let low := (position / 256 % 256).toNat
  let place (across : Int) (coverage : Nat) (runs : List Run) : List Run :=
    if isFlat then dot box along across coverage runs else dot box across along coverage runs
  if isLevel then
    let runs := place at₁ (part low share) runs
    if isFlat && at₁ == 0 then runs else place (max at₁ 1 - 1) (part (255 - low) share) runs
  else
    let base := max at₁ 1 - 1
    place (base + 1) (part low share) (place base (part (255 - low) share) runs)

/-- The position after a step. A position before the first pixel counts as on its edge. -/
private def advance (position slope : Int) : Int := max 0 (position + 32768) - 32768 + slope

/-- The parts of a track that are drawn differently: from where to where, the position at the start,
and the shares of the first and the last step. -/
private structure Stretch where
  first : Int
  last : Int
  position : Int
  early : Int
  late : Int

private def Stretch.cut? (stretch : Stretch) (slope endPosition low high : Int) :
    Option Stretch :=
  if high ≤ stretch.first || stretch.last ≤ low then none
  else
    let stretch :=
      if stretch.first < low then
        let moved := { stretch with
          position := stretch.position + slope * (low - stretch.first), first := low, early := 64 }
        if moved.last - low = 1 then
          { moved with early := (endPosition - 1) % 64 + 1, late := 0 }
        else moved
      else stretch
    let stretch :=
      if high < stretch.last then { stretch with last := high, late := 0 } else stretch
    if stretch.first = stretch.last then none else some stretch

/-- Whether no pixel beside a stretch can lie between two positions. -/
private def Stretch.misses (stretch : Stretch) (slope low high : Int) : Bool :=
  let final := stretch.position + (stretch.last - stretch.first - 1) * slope
  let least := if 0 ≤ slope then stretch.position else final
  let most := if 0 ≤ slope then final else stretch.position
  let above := (least - 32768) / 65536 - 1
  let below := (most + 32768 + 65535) / 65536 + 1
  decide (high ≤ above) || decide (below ≤ low)

private def Stretch.draw (stretch : Stretch) (box : Option PixelBox) (isFlat isLevel : Bool)
    (slope : Int) (runs : List Run) : List Run :=
  let runs := step box isFlat isLevel stretch.first stretch.position stretch.early runs
  let position := advance stretch.position slope
  let whole := stretch.last - stretch.first - 1 - (if 0 < stretch.late then 1 else 0)
  let (runs, position) := whole.toNat.fold
    (fun index _ state =>
      (step box isFlat isLevel (stretch.first + 1 + index) state.2 64 state.1,
        advance state.2 slope))
    (runs, position)
  if 0 < stretch.late then
    step box isFlat isLevel (stretch.last - 1) position stretch.late runs
  else runs

/-- Draws a track with smoothing, in halves while it is long. The fuel bounds the number of
halvings. -/
def drawTrack (box : Option PixelBox) : Nat → Track → List Run → List Run
  | 0, _, runs => runs
  | fuel + 1, track, runs =>
    if 511 * 64 < (track.x₁ - track.x₀).natAbs || 511 * 64 < (track.y₁ - track.y₀).natAbs then
      let x := track.x₀ / 2 + track.x₁ / 2
      let y := track.y₀ / 2 + track.y₁ / 2
      drawTrack box fuel ⟨x, y, track.x₁, track.y₁⟩
        (drawTrack box fuel ⟨track.x₀, track.y₀, x, y⟩ runs)
    else
      let isFlat := track.isFlat
      let track := if isFlat then track.forward else track.transposed.forward
      if track.x₀ = track.x₁ then runs
      else
        let isLevel := decide (track.y₀ = track.y₁)
        let slope := ((track.y₁ - track.y₀) * 65536).tdiv (track.x₁ - track.x₀)
        let first := track.x₀ / 64
        let last := (track.x₁ + 63) / 64
        let single := decide (last - first = 1)
        let start := track.y₀ * 1024
        let stretch : Stretch :=
          { first
            last
            position :=
              if isLevel then start else start + (slope * (32 - track.x₀ % 64) + 32) / 64
            early := if single then track.x₁ - track.x₀ else 64 - track.x₀ % 64
            late := if single then 0 else track.x₁ % 64 }
        match box with
        | none => stretch.draw none isFlat isLevel slope runs
        | some limits =>
          let low := if isFlat then limits.left else limits.top
          let high := if isFlat then limits.right else limits.bottom
          let lowAcross := if isFlat then limits.top else limits.left
          let highAcross := if isFlat then limits.bottom else limits.right
          match stretch.cut? slope track.x₁ low high with
          | none => runs
          | some cut =>
            if cut.misses slope lowAcross highAcross then runs
            else cut.draw box isFlat isLevel slope runs

def drawSmooth (width height : Nat) (runs : List Run) (line : Line) : List Run :=
  match Track.ofLine? line ((Bounds.ofSize width height).outset 1) with
  | none => runs
  | some track =>
    let grid := PixelBox.ofSize width height
    let around : PixelBox :=
      { left := (min track.x₀ track.x₁) / 64 - 1
        top := (min track.y₀ track.y₁) / 64 - 1
        right := (max track.x₀ track.x₁ + 63) / 64 + 1
        bottom := (max track.y₀ track.y₁ + 63) / 64 + 1 }
    match grid.meet? around with
    | none => runs
    | some shared => drawTrack (if grid.contains around then none else some shared) 12 track runs

end Hairline

namespace Outline

/-- The pixels of a hairline along an outline in device space, on a grid of a size. A grid that the
hairline leaves has to have a pixel that is not on its edge. -/
def hairlineRuns (cap : LineCap) (smooth : Bool) (outline : Outline Float32)
    (width height : Nat) : List Run :=
  let bounds := outline.bounds.outset (if cap = .butt then 1 else 2)
  let grid := PixelBox.ofSize width height
  match if bounds.fits then PixelBox.around? bounds else none with
  | none => []
  | some around =>
    if (grid.meet? around).isNone || (!grid.contains around && (width ≤ 2 || height ≤ 2)) then []
    else
      let lines := Hairline.linesOf cap ⟨[], .origin, .origin, false⟩ outline.segments
      let draw := if smooth then Hairline.drawSmooth else Hairline.drawSharp
      (lines.foldl (draw width height) []).reverse

end Outline

end PagePaint
