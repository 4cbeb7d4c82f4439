import PagePaint.Color
import PagePaint.Number.Binary32

set_option autoImplicit false

/-!
# Pixels

A stored pixel has its colour channels multiplied by its alpha. Colours and image bytes are
straight; the two directions round differently, each by its own rule.
-/

namespace PagePaint

structure Pixel where
  red : UInt8
  green : UInt8
  blue : UInt8
  alpha : UInt8
deriving DecidableEq, Repr, Inhabited

namespace Pixel

def clear : Pixel := ⟨0, 0, 0, 0⟩

def fraction (channel : UInt8) : Float32 := channel.toFloat32 / 255

/-- The channel nearest to a fraction of the full value. -/
def ofFraction (value : Float32) : UInt8 := (value * 255 + 0.5).toUInt8

/-- The stored form of a colour, computed on fractions. -/
def ofColor (color : Argb) : Pixel :=
  let alpha := fraction color.alpha
  let stored (channel : UInt8) : UInt8 :=
    ofFraction (if color.alpha = 255 then fraction channel else fraction channel * alpha)
  ⟨stored color.red, stored color.green, stored color.blue, ofFraction alpha⟩

/-- The stored form of a colour whose alpha is multiplied by a share below one. -/
def ofFaded (color : Argb) (share : Float32) : Pixel :=
  let alpha := fraction color.alpha * share
  let stored (channel : UInt8) : UInt8 := ofFraction (fraction channel * alpha)
  ⟨stored color.red, stored color.green, stored color.blue, ofFraction alpha⟩

/-- The integer nearest to the product of a channel and an alpha over 255. -/
def scaleChannel (channel alpha : UInt8) : UInt8 :=
  let product := channel.toNat * alpha.toNat + 128
  UInt8.ofNat ((product + product / 256) / 256)

def ofStraight (red green blue alpha : UInt8) : Pixel :=
  if alpha = 255 then ⟨red, green, blue, alpha⟩
  else ⟨scaleChannel red alpha, scaleChannel green alpha, scaleChannel blue alpha, alpha⟩

/-- The straight colour of a pixel. A channel above its alpha saturates, and so does one over an
alpha of zero. -/
def straight (pixel : Pixel) : Argb :=
  if pixel.alpha = 255 then .ofChannels pixel.red pixel.green pixel.blue 255
  else
    let alpha : Float := pixel.alpha.toFloat / 255
    let divided (channel : UInt8) : UInt8 := (channel.toFloat / alpha + 0.5).toUInt8
    .ofChannels (divided pixel.red) (divided pixel.green) (divided pixel.blue) pixel.alpha

def bytes (pixel : Pixel) : List UInt8 := [pixel.red, pixel.green, pixel.blue, pixel.alpha]

end Pixel

end PagePaint
