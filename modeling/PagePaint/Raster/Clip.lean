import PagePaint.Raster.Box

set_option autoImplicit false

/-!
# Clipping lines

Lines are cut at the sides of a box before they are followed in fixed-point numbers. The sides of a
filled shape must not get lost, so what lies to the left or right of the box is moved onto its edge;
a line drawn for itself is cut off.
-/

namespace PagePaint

namespace Line

private def pinned (value left right : Float) : Float :=
  let low := if right < left then right else left
  let high := if right < left then left else right
  if value < low then low else if high < value then high else value

private def meeting (at₀ at₁ value₀ value₁ position : Float) : Float :=
  value₀ + (position - at₀) * (value₁ - value₀) / (at₁ - at₀)

/-- The column at which a line meets a height. It stays between the ends of the line. -/
def columnAt (line : Line) (y : Float32) : Float32 :=
  if Raster.isTiny (line.finish.y - line.start.y) then (line.start.x + line.finish.x) * 0.5
  else
    let x₀ := line.start.x.toFloat
    let x₁ := line.finish.x.toFloat
    let met := meeting line.start.y.toFloat line.finish.y.toFloat x₀ x₁ y.toFloat
    (pinned met x₀ x₁).toFloat32

def rowAt (line : Line) (x : Float32) : Float32 :=
  if Raster.isTiny (line.finish.x - line.start.x) then (line.start.y + line.finish.y) * 0.5
  else
    (meeting line.start.x.toFloat line.finish.x.toFloat
      line.start.y.toFloat line.finish.y.toFloat x.toFloat).toFloat32

def rowWithin (line : Line) (x : Float32) : Float32 :=
  let row := line.rowAt x
  let falls := decide (line.finish.y < line.start.y)
  let low := if falls then line.finish.y else line.start.y
  let high := if falls then line.start.y else line.finish.y
  if row < low then low else if high < row then high else row

/-- An end of a line, cut at the upper and lower side of a box. -/
private def cutHigh (line : Line) (box : Bounds) (point : Point Float32) : Point Float32 :=
  if point.y < box.top then ⟨line.columnAt box.top, box.top⟩
  else if box.bottom < point.y then ⟨line.columnAt box.bottom, box.bottom⟩
  else point

/-- An end of a line, cut at the left and right side of a box. -/
private def cutWide (line : Line) (box : Bounds) (point : Point Float32) : Point Float32 :=
  if point.x < box.left then ⟨box.left, line.rowAt box.left⟩
  else if box.right < point.x then ⟨box.right, line.rowAt box.right⟩
  else point

def between : List (Point Float32) → List Line
  | first :: second :: rest => ⟨first, second⟩ :: between (second :: rest)
  | _ => []

/-- The side of a shape that a line stands for within a box. Parts to the left and right become
upright lines on the edge of the box. -/
def sides (line : Line) (box : Bounds) : List Line :=
  let rises := decide (line.start.y < line.finish.y)
  let upper := if rises then line.start.y else line.finish.y
  let lower := if rises then line.finish.y else line.start.y
  if lower ≤ box.top || box.bottom ≤ upper then []
  else
    let cut : Line := ⟨line.cutHigh box line.start, line.cutHigh box line.finish⟩
    let ahead := decide (line.start.x < line.finish.x)
    let left := if ahead then cut.start else cut.finish
    let right := if ahead then cut.finish else cut.start
    if right.x ≤ box.left then
      [⟨⟨box.left, cut.start.y⟩, ⟨box.left, cut.finish.y⟩⟩]
    else if box.right ≤ left.x then
      [⟨⟨box.right, cut.start.y⟩, ⟨box.right, cut.finish.y⟩⟩]
    else
      let head : List (Point Float32) :=
        if left.x < box.left then [⟨box.left, left.y⟩, ⟨box.left, cut.rowWithin box.left⟩]
        else [left]
      let tail : List (Point Float32) :=
        if box.right < right.x then [⟨box.right, cut.rowWithin box.right⟩, ⟨box.right, right.y⟩]
        else [right]
      between (if ahead then head ++ tail else (head ++ tail).reverse)

/-- Two stretches that do not overlap. Stretches that only touch do, unless one has no length. -/
private def apart (before after extent : Float32) : Bool :=
  decide (before ≤ after) && (decide (before < after) || decide (0 < extent))

/-- The part of a line within a box. A line along the edge of the box is within. -/
def within? (line : Line) (box : Bounds) : Option Line :=
  let bounds := Bounds.ofPoints [line.start, line.finish]
  if box.left ≤ bounds.left && box.top ≤ bounds.top && bounds.right ≤ box.right &&
      bounds.bottom ≤ box.bottom then some line
  else if bounds.fits &&
      (apart bounds.right box.left bounds.width || apart box.right bounds.left bounds.width ||
        apart bounds.bottom box.top bounds.height ||
        apart box.bottom bounds.top bounds.height) then none
  else
    let start := line.cutHigh box line.start
    let finish := line.cutHigh box line.finish
    let left := if start.x < finish.x then start.x else finish.x
    let right := if start.x < finish.x then finish.x else start.x
    if (right ≤ box.left || box.right ≤ left) &&
        (start.x != finish.x || start.x < box.left || box.right < start.x) then none
    else some ⟨line.cutWide box start, line.cutWide box finish⟩

end Line

end PagePaint
