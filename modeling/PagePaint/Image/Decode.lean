import PagePaint.Error
import PagePaint.Page.Object
import PagePaint.Target.Pixmap

set_option autoImplicit false

/-!
# Decoding images

An image is decoded when its bytes are as many as its size asks for and a pixmap of that size can be
allocated. The bytes are counted before the allocation is tried.
-/

namespace PagePaint

variable {α : Type}

namespace ImageObject

/-- The stored form of the pixel at a position in storage order. -/
def pixelAt (image : ImageObject α) (index : Nat) : Pixel :=
  let byte (offset : Nat) : UInt8 := (image.bytes[4 * index + offset]?).getD 0
  .ofStraight (byte 0) (byte 1) (byte 2) (byte 3)

def decode (image : ImageObject α) : Except BackendFault Pixmap :=
  if image.bytes.size ≠ image.byteLength.toNat then
    .error (.imageSize image.id image.width image.height image.bytes.size image.byteLength)
  else if Pixmap.allocatable image.width image.height then
    .ok
      { width := image.width
        height := image.height
        pixels := Array.ofFn (n := image.width.toNat * image.height.toNat) fun index =>
          image.pixelAt index
        size_eq := Array.size_ofFn }
  else .error (.unallocatableImage image.id image.width image.height)

end ImageObject

end PagePaint
