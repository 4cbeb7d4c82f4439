import PagePaint.Raster.Monotone

set_option autoImplicit false

/-!
# Edges

The sides of a filled shape, followed from row to row in fixed-point numbers. Corners are first
placed on a grid of 64 positions a row. An edge owns the rows whose middle it crosses; its position
in a row is counted in 65536ths of a column. A curve is followed in straight steps, by adding up
differences.
-/

namespace PagePaint

structure Edge where
  /-- The first row. -/
  first : Int
  /-- The last row. -/
  last : Int
  /-- The position in the first row. -/
  position : Int
  /-- What is added to the position from row to row. -/
  slope : Int
  /-- Whether the side leads down or up. -/
  winding : Int
deriving DecidableEq, Repr

/-- A position in 64ths. -/
structure GridPoint where
  x : Int
  y : Int
deriving DecidableEq, Repr

namespace GridPoint

/-- The position of a point, its fractions cut off, on a grid refined by a factor. -/
def ofPoint (fineness : Nat) (point : Point Float32) : GridPoint :=
  let scale : Float32 := 64 * .ofNat fineness
  ⟨Binary32.truncate (point.x * scale), Binary32.truncate (point.y * scale)⟩

/-- The row whose middle is the first at a position or below it. -/
def row (point : GridPoint) : Int := (point.y + 32) / 64

end GridPoint

namespace Edge

private def between (low high value : Int) : Int := max low (min high value)

/-- The quotient of two lengths in 65536ths, cut off towards zero, within 32 bits. -/
def quotient (numerator denominator : Int) : Int :=
  between (-2147483648) 2147483647 ((numerator * 65536).tdiv denominator)

/-- The edge from one position down to another. There is none if no middle of a row lies between
them. -/
def down? (upper lower : GridPoint) (winding : Int) : Option Edge :=
  let first := upper.row
  let next := lower.row
  if first = next then none
  else
    let slope := quotient (lower.x - upper.x) (lower.y - upper.y)
    let down := first * 64 + 32 - upper.y
    some {
      first
      last := next - 1
      position := (upper.x + slope * down / 65536) * 1024
      slope
      winding }

/-- The edges between neighbouring positions, given in 65536ths. -/
private def steps (winding : Int) : List (Int × Int) → List Edge
  | upper :: lower :: rest =>
    let place (point : Int × Int) : GridPoint := ⟨point.1 / 1024, point.2 / 1024⟩
    (down? (place upper) (place lower) winding).toList ++ steps winding (lower :: rest)
  | _ => []

/-- A number shifted down by places; what is lost is cut off downwards. -/
private def lowered (value : Int) (places : Nat) : Int := value / ((1 <<< places : Nat) : Int)

private def raised (value : Int) (places : Nat) : Int := value * ((1 <<< places : Nat) : Int)

/-- A length that is quick to compute and never too short. -/
private def roughLength (x y : Int) : Nat :=
  let x := x.natAbs
  let y := y.natAbs
  if y < x then x + y / 2 else y + x / 2

/-- How many times a curve with a bend is halved. Halving leaves a quarter of it. On a finer grid
less accuracy will do. -/
private def halvings (x y : Int) (places : Nat) : Nat :=
  let bend := (roughLength x y + 16) / (1 <<< (3 + places))
  if bend = 0 then 0 else (Nat.log2 bend + 1) / 2

def mostHalvings : Nat := 6

/-- Positions that are followed by first and second differences. -/
private def quadraticSteps (places : Nat) : Nat → Int → Int → Int → List Int
  | 0, _, _, _ => []
  | count + 1, position, first, second =>
    let next := position + lowered first places
    next :: quadraticSteps places count next (first + second) second

/-- The positions in one direction of a curve with one control point. -/
private def quadraticAxis (start control finish : Int) (halvings : Nat) : List Int :=
  let square := (start - control - control + finish) * 512
  let linear := (control - start) * 1024
  let position := start * 1024
  position ::
    quadraticSteps (halvings - 1) (1 <<< halvings - 1) position
      (linear + lowered square halvings) (lowered square (halvings - 1)) ++ [finish * 1024]

/-- The edges of a curve with one control point that leads only down or only up. -/
def ofQuadratic (fineness : Nat) (start control finish : Point Float32) : List Edge :=
  let start := GridPoint.ofPoint fineness start
  let control := GridPoint.ofPoint fineness control
  let finish := GridPoint.ofPoint fineness finish
  let rises := decide (finish.y < start.y)
  let upper := if rises then finish else start
  let lower := if rises then start else finish
  if upper.row = lower.row then []
  else
    let bend (start control finish : Int) : Int := (control * 2 - start - finish) / 4
    let count := halvings (bend upper.x control.x lower.x) (bend upper.y control.y lower.y)
      (Nat.log2 fineness)
    let count := max 1 (min mostHalvings count)
    steps (if rises then -1 else 1)
      ((quadraticAxis upper.x control.x lower.x count).zip
        (quadraticAxis upper.y control.y lower.y count))

/-- Positions that are followed by first, second and third differences. -/
private def cubicSteps (places finer : Nat) : Nat → Int → Int → Int → Int → List Int
  | 0, _, _, _, _ => []
  | count + 1, position, first, second, third =>
    let next := position + lowered first places
    next ::
      cubicSteps places finer count next (first + lowered second finer) (second + third) third

/-- The positions in one direction of a curve with two control points. -/
private def cubicAxis (start first second finish : Int) (halvings : Nat) : List Int :=
  let up := max 6 (10 - halvings)
  let linear := raised (3 * (first - start)) up
  let square := raised (3 * (start - first - first + second)) up
  let cube := raised (finish + 3 * (first - second) - start) up
  let third := lowered (3 * cube) (halvings - 1)
  let position := start * 1024
  position ::
    cubicSteps (halvings + up - 10) halvings (1 <<< halvings - 1) position
      (linear + lowered square halvings + lowered cube (2 * halvings)) (2 * square + third) third ++
      [finish * 1024]

/-- Heights that never go back. -/
private def growing : Int → List Int → List Int
  | _, [] => []
  | reached, height :: rest =>
    let height := max reached height
    height :: growing height rest

/-- How far the control points are from where they would be on a line. -/
private def cubicBend (start first second finish : Int) : Int :=
  let early := (start * 8 - first * 15 + 6 * second + finish) * 19 / 512
  let late := (start + 6 * first - second * 15 + finish * 8) * 19 / 512
  max (early.natAbs : Int) (late.natAbs : Int)

/-- The edges of a curve with two control points that leads only down or only up. Rounding may make
it turn; it is then kept level. -/
def ofCubic (fineness : Nat) (start first second finish : Point Float32) : List Edge :=
  let start := GridPoint.ofPoint fineness start
  let first := GridPoint.ofPoint fineness first
  let second := GridPoint.ofPoint fineness second
  let finish := GridPoint.ofPoint fineness finish
  let rises := decide (finish.y < start.y)
  let (start, first, second, finish) :=
    if rises then (finish, second, first, start) else (start, first, second, finish)
  if start.row = finish.row then []
  else
    let count := halvings (cubicBend start.x first.x second.x finish.x)
      (cubicBend start.y first.y second.y finish.y) 2
    let count := min mostHalvings (count + 1)
    steps (if rises then -1 else 1)
      ((cubicAxis start.x first.x second.x finish.x count).zip
        (growing (start.y * 1024) (cubicAxis start.y first.y second.y finish.y count)))

def ofLine? (fineness : Nat) (start finish : Point Float32) : Option Edge :=
  let start := GridPoint.ofPoint fineness start
  let finish := GridPoint.ofPoint fineness finish
  if finish.y < start.y then down? finish start (-1) else down? start finish 1

/-- The edges of a curve that leads only down or only up, on a grid refined by a factor. -/
def ofCurve (fineness : Nat) : Curve → List Edge
  | .line start finish => (ofLine? fineness start finish).toList
  | .quadratic start control finish => ofQuadratic fineness start control finish
  | .cubic start first second finish => ofCubic fineness start first second finish

/-- Puts an edge before others. An upright edge that leads back along the one before it removes
both: together they change nothing. -/
def push (edges : List Edge) (edge : Edge) : List Edge :=
  match edges with
  | [] => [edge]
  | last :: rest =>
    if edge.slope = 0 ∧ last.slope = 0 ∧ edge.position = last.position ∧ edge.first = last.first ∧
        edge.last = last.last ∧ edge.winding + last.winding = 0 then rest
    else edge :: edges

end Edge

namespace Outline

/-- The edges of an outline on a grid refined by a factor, cut to a box if there is one, from the
first row on and from left to right. A side that leaves the range of single precision spoils them
all. -/
def edges (outline : Outline Float32) (fineness : Nat) (box : Option Bounds) : List Edge :=
  let edges? : Option (List Edge) := outline.curves.foldlM
    (fun edges curve =>
      let sides := match box with
        | some box => curve.sides box
        | none => curve.slopes
      sides.foldlM
        (fun edges side =>
          if side.points.all Point.finite then
            some ((Edge.ofCurve fineness side).foldl Edge.push edges)
          else none)
        edges)
    []
  (edges?.getD []).reverse.mergeSort fun left right =>
    if left.first = right.first then decide (left.position ≤ right.position)
    else decide (left.first < right.first)

end Outline

end PagePaint
