import PagePaint.Target.Digest
import PagePaint.Target.Png

set_option autoImplicit false

/-!
# Render targets

A target is a pixmap with or without an alpha channel. One without it stores every colour it is
filled with at full alpha.
-/

namespace PagePaint

structure Target where
  pixmap : Pixmap
  hasAlpha : Bool
deriving DecidableEq

namespace Target

def width (target : Target) : UInt32 := target.pixmap.width

def height (target : Target) : UInt32 := target.pixmap.height

/-- A target of clear pixels, if it can be allocated. -/
def allocate? (width height : UInt32) (hasAlpha : Bool) : Option Target :=
  (Pixmap.allocate? width height).map fun pixmap => ⟨pixmap, hasAlpha⟩

def defaultBackground (target : Target) : Argb :=
  if target.hasAlpha then .transparent else .white

def storable (target : Target) (color : Argb) : Argb :=
  if target.hasAlpha then color else color.opaqueColor

def storedPixel (target : Target) (color : Argb) : Pixel := .ofColor (target.storable color)

def fill (target : Target) (color : Argb) : Target :=
  { target with pixmap := .filled target.width target.height (target.storedPixel color) }

/-- The straight colour of a pixel. There is none outside the target. -/
def pixel? (target : Target) (column row : Nat) : Option Argb :=
  (target.pixmap.pixel? column row).map Pixel.straight

def count (target : Target) (color : Argb) : Nat :=
  target.pixmap.pixels.foldl
    (fun found pixel => if pixel.straight = color then found + 1 else found) 0

def checksum (target : Target) : String := Hexadecimal.ofBytes (Digest.md5 target.pixmap.bytes)

def listing (target : Target) : String :=
  "RenderTarget \x7b width: " ++ toString target.width ++ ", height: " ++
    toString target.height ++ ", has_alpha: " ++ (if target.hasAlpha then "true" else "false") ++
    " \x7d"

end Target

end PagePaint
