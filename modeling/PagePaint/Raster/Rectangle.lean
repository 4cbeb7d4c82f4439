import PagePaint.Raster.Shape
import PagePaint.Target.Target

set_option autoImplicit false

/-!
# Overwriting rectangles

A rectangle of whole pixels is overwritten without mixing. Its edges are placed in single precision;
a target with long sides treats it as any other shape.
-/

namespace PagePaint.Target

/-- One dimension of a rectangle as it is painted: its first pixel and its number of pixels. -/
structure PixelExtent where
  first : Int
  count : Int
deriving DecidableEq, Repr

/-- The pixel of a coordinate: half a pixel is added, the fraction is cut off towards zero, and the
result is kept within the range of single-precision integers of 31 bits. A whole number below zero
moves up by one. -/
def nearestPixel (coordinate : Float32) : Int :=
  match Binary32.read (coordinate + 0.5) with
  | .nan => 0
  | .infinite negative => if negative then -2147483520 else 2147483520
  | .finite negative significand exponent =>
    let magnitude := significand <<< exponent.toNat >>> (-exponent).toNat
    let bounded := min magnitude 2147483520
    if negative then -(bounded : Int) else bounded

/-- Edges are placed in single precision and each extent has at least one pixel. There is none if
the far edge leaves the range of 32-bit coordinates. -/
def pixelExtent? (first : Int32) (length : UInt32) : Option PixelExtent :=
  let low := Float32.ofInt first.toInt
  let start := nearestPixel low
  let count := max 1 (nearestPixel (length.toFloat32 + low - low))
  if start + count ≤ 2147483647 then some ⟨start, count⟩ else none

/-- Overwrites the pixels of two extents, clipped to the target. -/
def fillExtents (target : Target) (across down : PixelExtent) (pixel : Pixel) : Target :=
  { target with
    pixmap := target.pixmap.mapPixels fun column row old =>
      if across.first ≤ column ∧ (column : Int) < across.first + across.count ∧
          down.first ≤ row ∧ (row : Int) < down.first + down.count then pixel
      else old }

def rectangle (left top : Int32) (width height : UInt32) : Outline Float32 :=
  let x := Float32.ofInt left.toInt
  let y := Float32.ofInt top.toInt
  .ofEdges ⟨x, y, width.toFloat32 + x, height.toFloat32 + y⟩

def isTiled (target : Target) : Bool :=
  decide (Tile.longest < target.width.toNat) || decide (Tile.longest < target.height.toNat)

/-- Overwrites a rectangle, clipped to the target. Nothing is mixed. -/
def fillRect (target : Target) (left top : Int32) (width height : UInt32) (color : Argb) :
    Target :=
  let pixel := target.storedPixel color
  if target.isTiled then
    { target with
      pixmap := target.pixmap.fillOutline (rectangle left top width height) (.plain pixel)
        (fun _ => some fun _ _ _ _ => pixel) .nonZero false .identity }
  else
    match pixelExtent? left width, pixelExtent? top height with
    | some across, some down => target.fillExtents across down pixel
    | _, _ => target

end PagePaint.Target
