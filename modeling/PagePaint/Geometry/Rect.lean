import PagePaint.Geometry.Transform

set_option autoImplicit false

/-!
# Rectangles

Page rectangles are given by their lower-left corner and extent; y grows upwards. Device rectangles
are given in whole pixels by their upper-left corner; y grows downwards.
-/

namespace PagePaint

/-- A rectangle in page space. Nothing is required of its sides. -/
structure Rect (α : Type) where
  x : α
  y : α
  width : α
  height : α
deriving DecidableEq, Repr

structure Edges (α : Type) where
  left : α
  top : α
  right : α
  bottom : α
deriving DecidableEq, Repr

namespace Rect

variable {α : Type} [Scalar α]

/-- The rectangle spanned by two opposite corners, in any order. -/
def ofCorners (x₀ y₀ x₁ y₁ : α) : Rect α :=
  { x := Scalar.lesser x₀ x₁
    y := Scalar.lesser y₀ y₁
    width := Scalar.magnitude (x₁ - x₀)
    height := Scalar.magnitude (y₁ - y₀) }

def right (rect : Rect α) : α := rect.x + rect.width

def top (rect : Rect α) : α := rect.y + rect.height

/-- No area: a side that is not positive. -/
def isEmpty (rect : Rect α) : Bool :=
  !(Scalar.less Scalar.zero rect.width && Scalar.less Scalar.zero rect.height)

/-- The edges of a rectangle with an area, in order and finite, whose extents stay in range. -/
def edges? (rect : Rect α) : Option (Edges α) :=
  if rect.isEmpty then none
  else
    let right := rect.width + rect.x
    let bottom := rect.height + rect.y
    if Scalar.finite rect.x && Scalar.finite rect.y && Scalar.finite right &&
        Scalar.finite bottom && Scalar.atMost rect.x right && Scalar.atMost rect.y bottom &&
        Scalar.extentFits rect.x right && Scalar.extentFits rect.y bottom then
      some ⟨rect.x, rect.y, right, bottom⟩
    else none

def listing (rect : Rect α) : String :=
  let number := Scalar.text Numeral.tagged
  "Rect \x7b x: " ++ number rect.x ++ ", y: " ++ number rect.y ++
    ", width: " ++ number rect.width ++ ", height: " ++ number rect.height ++ " \x7d"

end Rect

/-- The pixels a whole page is mapped onto. A position off the origin pans the page. -/
structure DeviceRect where
  x : Int32
  y : Int32
  width : UInt32
  height : UInt32
deriving DecidableEq, Repr, Inhabited

namespace DeviceRect

def ofSize (width height : UInt32) : DeviceRect := ⟨0, 0, width, height⟩

/-- A side without pixels. -/
def isEmpty (rect : DeviceRect) : Bool := rect.width == 0 || rect.height == 0

end DeviceRect

end PagePaint
