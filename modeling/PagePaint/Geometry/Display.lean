import PagePaint.Geometry.Rect

set_option autoImplicit false

/-!
# From page space to device space

A page is turned clockwise by quarter turns and stretched over its device rectangle. Page y points
up and device y points down, so every one of the four matrices reverses orientation once.
-/

namespace PagePaint

inductive Rotation where
  | upright
  | clockwise90
  | half
  | clockwise270
deriving DecidableEq, Repr, Inhabited

namespace Rotation

def quarterTurns : Rotation → UInt8
  | upright => 0
  | clockwise90 => 1
  | half => 2
  | clockwise270 => 3

def ofQuarterTurns? (turns : UInt8) : Option Rotation :=
  if turns = 0 then some upright
  else if turns = 1 then some clockwise90
  else if turns = 2 then some half
  else if turns = 3 then some clockwise270
  else none

/-- Odd numbers of quarter turns exchange width and height. -/
def swapsAxes : Rotation → Bool
  | upright | half => false
  | clockwise90 | clockwise270 => true

def next : Rotation → Rotation
  | upright => clockwise90
  | clockwise90 => half
  | half => clockwise270
  | clockwise270 => upright

def name : Rotation → String
  | upright => "None"
  | clockwise90 => "Clockwise90"
  | half => "Rotate180"
  | clockwise270 => "Clockwise270"

def all : List Rotation := [upright, clockwise90, half, clockwise270]

end Rotation

variable {α : Type} [Scalar α]

/-- The matrix that turns a page and stretches it over a device rectangle. -/
def displayTransform (pageWidth pageHeight : α) (device : DeviceRect) (rotation : Rotation) :
    Transform α :=
  let left : α := Scalar.ofInt device.x.toInt
  let top : α := Scalar.ofInt device.y.toInt
  let width : α := Scalar.ofInt device.width.toNat
  let height : α := Scalar.ofInt device.height.toNat
  let zero : α := Scalar.zero
  match rotation with
  | .upright => ⟨width / pageWidth, zero, zero, -height / pageHeight, left, top + height⟩
  | .clockwise90 => ⟨zero, height / pageWidth, width / pageHeight, zero, left, top⟩
  | .half => ⟨-width / pageWidth, zero, zero, height / pageHeight, left + width, top⟩
  | .clockwise270 =>
    ⟨zero, -height / pageWidth, -width / pageHeight, zero, left + width, top + height⟩

end PagePaint
