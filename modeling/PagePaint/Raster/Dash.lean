import PagePaint.Page.Style
import PagePaint.Raster.Measure

set_option autoImplicit false

/-!
# Dashes

A dash array gives the lengths of dashes and gaps in turn, repeated without end. A contour is cut at
these lengths, measured along it from a phase into the pattern.
-/

namespace PagePaint

/-- A usable dash pattern: lengths of dashes and gaps in turn, the length of one repetition, and
where a contour starts: the entry that holds there and how much of it is left. -/
structure DashPattern where
  lengths : Array Float32
  period : Float32
  firstEntry : Nat
  firstLength : Float32

namespace DashPattern

/-- Whether a dash array can be used: it has entries for dashes and gaps alike, none negative, with
a positive finite sum, and the phase is finite. -/
def usable (dashes : List Float32) (phase : Float32) : Bool :=
  phase.isFinite && decide (2 ≤ dashes.length) && dashes.length % 2 == 0 &&
    dashes.all (fun dash => !decide (dash < 0)) &&
    (let sum := dashes.foldl (· + ·) 0
     sum.isFinite && decide (0 < sum))

/-- A phase brought into one repetition of a pattern. A negative phase counts from the end. -/
def wrap (phase period : Float32) : Float32 :=
  if phase < 0 then
    let back := -phase
    let rest := period - (if period < back then Binary32.remainder back period else back)
    if rest == period then 0 else rest
  else if period ≤ phase then Binary32.remainder phase period
  else phase

/-- The entry at a phase, counted from the start of the array, and how much of it is left. Sums are
rounded, so a phase may seem to lie past the last entry; then the array starts over. -/
def firstInterval (lengths : List Float32) (phase : Float32) : Nat × Float32 :=
  go 0 phase lengths
where
  go : Nat → Float32 → List Float32 → Nat × Float32
    | _, _, [] => (0, lengths.headD 0)
    | index, phase, length :: rest =>
      if length < phase || (phase == length && length != 0) then
        go (index + 1) (phase - length) rest
      else (index, length - phase)

/-- The pattern of a dash array. An unusable array has none. -/
def of? (dashes : List Float32) (phase : Float32) : Option DashPattern :=
  if usable dashes phase then
    let period := dashes.foldl (· + ·) 0
    let (entry, length) := firstInterval dashes (wrap phase period)
    some ⟨dashes.toArray, period, entry, length⟩
  else none

def isDash (entry : Nat) : Bool := entry % 2 == 0

end DashPattern

namespace StrokeStyle

/-- The dash pattern of a style. A style without dashes has none, and neither has one whose dashes
cannot be used. -/
def pattern? (style : StrokeStyle Float32) : Option DashPattern :=
  DashPattern.of? style.dashes style.phase

end StrokeStyle

namespace Measured

structure Dashing where
  path : Outline.Draft Float32
  /-- The stretch under way is left out: it is drawn at the end of a closed contour. -/
  skips : Bool
  /-- The last stretch was drawn as a dash. -/
  drew : Bool

/-- Draws the dashes from a distance on, given the entry that holds there and what is left of it.
The fuel bounds the number of stretches. -/
def drawDashes (contour : Measured) (pattern : DashPattern) :
    Nat → Nat → Float32 → Float32 → Dashing → Dashing
  | 0, _, _, _, dashing => dashing
  | fuel + 1, entry, distance, rest, dashing =>
    if distance < contour.length then
      let draws := DashPattern.isDash entry && !dashing.skips
      let path :=
        if draws then contour.drawBetween dashing.path distance (distance + rest) true
        else dashing.path
      let next := if entry + 1 = pattern.lengths.size then 0 else entry + 1
      drawDashes contour pattern fuel next (distance + rest) ((pattern.lengths[next]?).getD 0)
        ⟨path, false, draws⟩
    else dashing

/-- The most dashes an outline may have. -/
def mostDashes : Float32 := 1000000

/-- A bound on the number of stretches of a contour that is not longer than allowed. Rounding can
swallow short entries, but no more than one in two repetitions. -/
private def stretches (pattern : DashPattern) : Nat := 4000000 * (pattern.lengths.size + 1)

/-- Draws the dashes of a contour. On a closed contour a dash at its start is drawn last, and goes
on from a dash that reaches the end. -/
def dash (contour : Measured) (pattern : DashPattern) (path : Outline.Draft Float32) :
    Outline.Draft Float32 :=
  let drawn := contour.drawDashes pattern (stretches pattern) pattern.firstEntry 0
    pattern.firstLength ⟨path, contour.closed, false⟩
  if contour.closed && DashPattern.isDash pattern.firstEntry &&
      decide (0 ≤ pattern.firstLength) then
    contour.drawBetween drawn.path 0 pattern.firstLength (!drawn.drew)
  else drawn.path

end Measured

namespace Outline

/-- The dashes of an outline that is going to be scaled. There are none if they would be too
many, or if nothing is drawn. -/
def dashed? (outline : Outline Float32) (pattern : DashPattern) (scale : Float32) :
    Option (Outline Float32) := do
  let halves := (pattern.lengths.size / 2).toFloat32
  let (path, _) ← (Measured.ofOutline outline scale).foldlM
    (fun (path, count) contour =>
      let count := count + contour.length * halves / pattern.period
      if Measured.mostDashes < count then none else some (contour.dash pattern path, count))
    ((Draft.empty : Draft Float32), (0 : Float32))
  ofSegments? path.drawn.reverse

end Outline

end PagePaint
