import PagePaint.Raster.Curve

set_option autoImplicit false

/-!
# Lengths along outlines

A contour is measured in single precision from its start. Curves are measured in pieces that are
nearly straight. A piece too short to make the distance grow is left out.
-/

namespace PagePaint

/-- A distance from the start of a contour, with the curve that reaches it and the share of its
parameter there. -/
structure Mark where
  distance : Float32
  curve : Nat
  share : Float32

/-- A measured contour: its curves, and marks at growing distances. -/
structure Measured where
  curves : Array Curve
  marks : Array Mark
  length : Float32
  closed : Bool

namespace Measured

/-- A contour while it is measured. The curves are joined at `kept`, the end of the last one that
was not left out; `current` is where the outline is. -/
structure Draft where
  curves : Array Curve
  marks : Array Mark
  length : Float32
  closed : Bool
  first : Point Float32
  kept : Point Float32
  current : Point Float32

namespace Draft

def start (point : Point Float32) : Draft := ⟨#[], #[], 0, false, point, point, point⟩

/-- Adds a straight piece that reaches a share of the curve under way. -/
def mark (draft : Draft) (length share : Float32) : Draft :=
  let distance := draft.length + length
  if draft.length < distance then
    { draft with
      marks := draft.marks.push ⟨distance, draft.curves.size, share⟩
      length := distance }
  else { draft with length := distance }

/-- Parameters along a curve are counted up to this. -/
def fullShare : Nat := 0x3FFFFFFF

private def share (position : Nat) : Float32 :=
  (UInt32.ofNat position).toFloat32 * (1 / 1073741824)

/-- How far the inner points of a curve are from where they would be on a line. -/
def deviation : Curve → Float32
  | .line _ _ => 0
  | .quadratic start control finish =>
    let x := control.x * 0.5 - (start.x + finish.x) * 0.5 * 0.5
    let y := control.y * 0.5 - (start.y + finish.y) * 0.5 * 0.5
    Point.extent ⟨x, y⟩
  | .cubic start first second finish =>
    let early := (start.toward finish (1 / 3) - first).extent
    let late := (start.toward finish (2 / 3) - second).extent
    if early < late then late else early

/-- Measures the part of a curve between two positions, in halves while it is not nearly straight.
The fuel bounds the number of halvings. -/
def measure (tolerance : Float32) : Nat → Curve → Nat → Nat → Draft → Draft
  | 0, curve, _, high, draft => draft.mark (curve.start.distance curve.finish) (share high)
  | fuel + 1, curve, low, high, draft =>
    if 1024 ≤ high - low ∧ tolerance < deviation curve then
      let middle := (low + high) / 2
      let (before, after) := curve.split 0.5
      measure tolerance fuel after middle high (measure tolerance fuel before low middle draft)
    else draft.mark (curve.start.distance curve.finish) (share high)

/-- Adds a curve from the current point. It is left out if it does not make the distance grow. -/
def add (tolerance : Float32) (draft : Draft) (segment : Segment Float32) : Draft :=
  match segment with
  | .move _ => draft
  | .close => { draft with closed := true }
  | segment =>
    match Curve.ofSegment? draft.current segment, Curve.ofSegment? draft.kept segment with
    | some curve, some joined =>
      let measured := measure tolerance 21 curve 0 fullShare draft
      let measured := { measured with current := curve.finish }
      if draft.length < measured.length then
        { measured with curves := measured.curves.push joined, kept := curve.finish }
      else measured
    | _, _ => draft

/-- Ends a contour. A closed one goes back to its first point. There is none if its length is not
finite. -/
def finish? (draft : Draft) : Option Measured :=
  if !draft.length.isFinite then none
  else if draft.closed then
    let back := draft.mark (draft.kept.distance draft.first) 1
    let curves :=
      if draft.length < back.length then back.curves.push (.line draft.kept draft.first)
      else back.curves
    some ⟨curves, back.marks, back.length, true⟩
  else some ⟨draft.curves, draft.marks, draft.length, false⟩

end Draft

/-- The contours of an outline that are measured so far, the one under way, and whether a contour
failed; the contours after it are lost. -/
structure Progress where
  contours : Array Measured
  draft : Option Draft
  failed : Bool

namespace Progress

def finish (progress : Progress) : Progress :=
  match progress.draft with
  | none => progress
  | some draft =>
    if progress.failed then { progress with draft := none }
    else
      match draft.finish? with
      | some contour => ⟨progress.contours.push contour, none, false⟩
      | none => ⟨progress.contours, none, true⟩

def step (tolerance : Float32) (progress : Progress) (segment : Segment Float32) : Progress :=
  match segment with
  | .move target => { progress.finish with draft := some (.start target) }
  | segment => { progress with draft := progress.draft.map (·.add tolerance segment) }

end Progress

/-- The measured contours of an outline that is going to be scaled. -/
def ofOutline (outline : Outline Float32) (scale : Float32) : Array Measured :=
  let tolerance := 0.5 * (1 / scale)
  (outline.segments.foldl (Progress.step tolerance) ⟨#[], none, false⟩).finish.contours

/-- The first mark of an array that is not before a distance, sought between two positions. The
fuel bounds the number of halvings. -/
def seek (marks : Array Mark) (distance : Float32) : Nat → Nat → Nat → Nat
  | 0, low, _ => low
  | fuel + 1, low, high =>
    if low < high then
      let middle := (low + high) / 2
      if (marks[middle]?).any fun mark => decide (mark.distance < distance) then
        seek marks distance fuel (middle + 1) high
      else seek marks distance fuel low middle
    else low

/-- The curve at a distance and the share of its parameter there. A distance where two curves meet
belongs to the first. -/
def locate? (contour : Measured) (distance : Float32) : Option (Nat × Float32) := do
  let index := seek contour.marks distance 64 0 contour.marks.size
  let mark ← contour.marks[index]?
  let before : Mark := if index = 0 then ⟨0, mark.curve, 0⟩
    else (contour.marks[index - 1]?).getD ⟨0, mark.curve, 0⟩
  let share := if before.curve = mark.curve then before.share else 0
  let result := share + (mark.share - share) * (distance - before.distance) /
    (mark.distance - before.distance)
  if 0 ≤ result ∧ result ≤ 1 then some (mark.curve, result) else none

/-- Draws the part of a curve between two shares. A part without length repeats the point reached
last. -/
def drawPart (contour : Measured) (path : Outline.Draft Float32) (curve : Nat)
    (low high : Float32) : Outline.Draft Float32 :=
  if low == high then
    match path.reached? with
    | some point => path.add (.line point)
    | none => path
  else
    match contour.curves[curve]? with
    | some curve => path.add (curve.between low high).segment
    | none => path

/-- Draws the part of a contour between two distances, after a move to its start if asked for. -/
def drawBetween (contour : Measured) (path : Outline.Draft Float32) (start finish : Float32)
    (moves : Bool) : Outline.Draft Float32 :=
  let start := if start < 0 then 0 else start
  let finish := if contour.length < finish then contour.length else finish
  if start ≤ finish then
    match contour.locate? start, contour.locate? finish with
    | some (first, low), some (last, high) =>
      let path :=
        match moves, contour.curves[first]? with
        | true, some curve => path.moveTo (curve.point low)
        | _, _ => path
      if first = last then contour.drawPart path first low high
      else
        let path := contour.drawPart path first low 1
        let path := (last - first - 1).fold
          (fun step _ path => contour.drawPart path (first + 1 + step) 0 1) path
        contour.drawPart path last 0 high
    | _, _ => path
  else path

end Measured

end PagePaint
