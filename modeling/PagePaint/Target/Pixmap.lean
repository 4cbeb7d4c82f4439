import PagePaint.Target.Pixel

set_option autoImplicit false

/-!
# Pixel grids

A pixmap is a fixed grid of pixels, row by row from the top.
-/

namespace PagePaint

structure Pixmap where
  width : UInt32
  height : UInt32
  pixels : Array Pixel
  size_eq : pixels.size = width.toNat * height.toNat
deriving DecidableEq

namespace Pixmap

/-- A grid needs pixels in both directions, and a row's bytes have to be counted in 31 bits. -/
def allocatable (width height : UInt32) : Bool :=
  width != 0 && height != 0 && decide (width.toNat * 4 < 0x80000000)

def filled (width height : UInt32) (pixel : Pixel) : Pixmap :=
  { width, height
    pixels := Array.replicate (width.toNat * height.toNat) pixel
    size_eq := Array.size_replicate }

def allocate? (width height : UInt32) : Option Pixmap :=
  if allocatable width height then some (filled width height .clear) else none

/-- Replaces every pixel by a function of its column, its row and its value. -/
def mapPixels (pixmap : Pixmap) (change : Nat → Nat → Pixel → Pixel) : Pixmap :=
  { pixmap with
    pixels := pixmap.pixels.mapIdx fun index pixel =>
      change (index % pixmap.width.toNat) (index / pixmap.width.toNat) pixel
    size_eq := by simpa using pixmap.size_eq }

def pixel? (pixmap : Pixmap) (column row : Nat) : Option Pixel :=
  if column < pixmap.width.toNat ∧ row < pixmap.height.toNat then
    pixmap.pixels[row * pixmap.width.toNat + column]?
  else none

def byteCount (pixmap : Pixmap) : Nat := 4 * pixmap.pixels.size

def bytes (pixmap : Pixmap) : ByteArray :=
  pixmap.pixels.foldl
    (fun collected pixel =>
      (((collected.push pixel.red).push pixel.green).push pixel.blue).push pixel.alpha)
    ByteArray.empty

def row (pixmap : Pixmap) (index : Nat) : List Pixel :=
  (pixmap.pixels.extract (index * pixmap.width.toNat)
    ((index + 1) * pixmap.width.toNat)).toList

end Pixmap

end PagePaint
