import PagePaint.Geometry.Outline
import PagePaint.Raster.Vector

set_option autoImplicit false

/-!
# Boxes

The box around an outline in device space, and the boxes of whole pixels made from it. Pixel
positions are counted in 32 bits; a box that would leave them does not exist.
-/

namespace PagePaint

structure Bounds where
  left : Float32
  top : Float32
  right : Float32
  bottom : Float32

namespace Bounds

def width (bounds : Bounds) : Float32 := bounds.right - bounds.left

def height (bounds : Bounds) : Float32 := bounds.bottom - bounds.top

def reaching (bounds : Bounds) (point : Point Float32) : Bounds :=
  { left := if point.x < bounds.left then point.x else bounds.left
    top := if point.y < bounds.top then point.y else bounds.top
    right := if bounds.right < point.x then point.x else bounds.right
    bottom := if bounds.bottom < point.y then point.y else bounds.bottom }

def ofPoints (points : List (Point Float32)) : Bounds :=
  match points with
  | [] => ⟨0, 0, 0, 0⟩
  | first :: rest => rest.foldl Bounds.reaching ⟨first.x, first.y, first.x, first.y⟩

def ofSize (width height : Nat) : Bounds := ⟨0, 0, width.toFloat32, height.toFloat32⟩

/-- Whether the extents stay in the range of single precision. -/
def fits (bounds : Bounds) : Bool :=
  Scalar.extentFits bounds.left bounds.right && Scalar.extentFits bounds.top bounds.bottom

def outset (bounds : Bounds) (distance : Float32) : Bounds :=
  ⟨bounds.left - distance, bounds.top - distance, bounds.right + distance,
    bounds.bottom + distance⟩

/-- The box with every side moved outwards to a whole number. -/
def rounded (bounds : Bounds) : Bounds :=
  ⟨Binary32.floor bounds.left, Binary32.floor bounds.top, Binary32.ceil bounds.right,
    Binary32.ceil bounds.bottom⟩

end Bounds

namespace Outline

/-- The box around every point of an outline, control points included. -/
def bounds (outline : Outline Float32) : Bounds :=
  match outline.segments.findSome? Segment.target? with
  | none => ⟨0, 0, 0, 0⟩
  | some start =>
    outline.segments.foldl
      (fun bounds segment =>
        match segment with
        | .move target => bounds.reaching target
        | .line target => bounds.reaching target
        | .quadratic control target => (bounds.reaching control).reaching target
        | .cubic first second target =>
          ((bounds.reaching first).reaching second).reaching target
        | .close => bounds)
      ⟨start.x, start.y, start.x, start.y⟩

end Outline

/-- The pixels from `left` up to and not including `right`, and likewise downwards. -/
structure PixelBox where
  left : Int
  top : Int
  right : Int
  bottom : Int
deriving DecidableEq, Repr

namespace PixelBox

def farthest : Int := 2147483647

/-- The largest whole number of 32 bits in single precision. -/
def farthestSingle : Int := 2147483520

/-- The box between four positions. One without pixels, or with a side that cannot be counted, is
none. -/
def between? (left top right bottom : Int) : Option PixelBox :=
  if left < right ∧ right - left ≤ farthest ∧ top < bottom ∧ bottom - top ≤ farthest then
    some ⟨left, top, right, bottom⟩
  else none

def sized? (left top width height : Int) : Option PixelBox :=
  if left + width ≤ farthest ∧ top + height ≤ farthest then
    between? left top (left + width) (top + height)
  else none

def ofSize (width height : Nat) : PixelBox := ⟨0, 0, width, height⟩

def meet? (left right : PixelBox) : Option PixelBox :=
  between? (max left.left right.left) (max left.top right.top) (min left.right right.right)
    (min left.bottom right.bottom)

def contains (outer inner : PixelBox) : Bool :=
  decide (outer.left ≤ inner.left) && decide (outer.top ≤ inner.top) &&
    decide (inner.right ≤ outer.right) && decide (inner.bottom ≤ outer.bottom)

def holds (box : PixelBox) (column row : Int) : Bool :=
  decide (box.left ≤ column) && decide (column < box.right) && decide (box.top ≤ row) &&
    decide (row < box.bottom)

private def near (value : Float32) : Int :=
  max (-farthestSingle) (min farthestSingle (Binary32.truncate value))

/-- The pixels a box in device space touches, at least one in each direction. -/
def around? (bounds : Bounds) : Option PixelBox :=
  sized? (near (Binary32.floor bounds.left)) (near (Binary32.floor bounds.top))
    (max 1 (near (Binary32.ceil bounds.width))) (max 1 (near (Binary32.ceil bounds.height)))

/-- What is added to a side before it is rounded to pixel centres, so that positions that drift
while they are followed from row to row stay within the box. -/
def slack : Float := 0.5 + 1.5 / 64

private def whole (value : Float) : Int := value.toInt32.toInt

/-- The pixels whose centres a box in device space can hold. -/
def centers? (bounds : Bounds) : Option PixelBox :=
  between? (whole (bounds.left.toFloat - slack).ceil)
    (whole (bounds.top.toFloat - slack).ceil)
    (whole (bounds.right.toFloat + slack).floor)
    (whole (bounds.bottom.toFloat + slack).floor)

end PixelBox

end PagePaint
