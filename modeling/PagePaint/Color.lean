import PagePaint.Number.Hexadecimal

set_option autoImplicit false

/-!
# Colours and colour schemes

A colour is one packed word of alpha, red, green and blue, not premultiplied. A scheme names four
colours that replace the colours of a page by the role they play.
-/

namespace PagePaint

/-- A colour `0xAARRGGBB`. -/
structure Argb where
  word : UInt32
deriving DecidableEq, Repr, Inhabited

namespace Argb

def ofChannels (red green blue alpha : UInt8) : Argb :=
  ⟨(alpha.toUInt32 <<< 24) ||| (red.toUInt32 <<< 16) ||| (green.toUInt32 <<< 8) |||
    blue.toUInt32⟩

def rgb (red green blue : UInt8) : Argb := ofChannels red green blue 255

def alpha (color : Argb) : UInt8 := (color.word >>> 24).toUInt8

def red (color : Argb) : UInt8 := (color.word >>> 16).toUInt8

def green (color : Argb) : UInt8 := (color.word >>> 8).toUInt8

def blue (color : Argb) : UInt8 := color.word.toUInt8

def transparent : Argb := ⟨0x00000000⟩

def black : Argb := ⟨0xFF000000⟩

def white : Argb := ⟨0xFFFFFFFF⟩

def pureRed : Argb := ⟨0xFFFF0000⟩

def pureGreen : Argb := ⟨0xFF00FF00⟩

def pureBlue : Argb := ⟨0xFF0000FF⟩

def withAlpha (color : Argb) (alpha : UInt8) : Argb :=
  ofChannels color.red color.green color.blue alpha

def opaqueColor (color : Argb) : Argb := color.withAlpha 255

/-- The product of two alphas over 255, to the nearest. -/
def alphaProduct (left right : UInt8) : UInt8 :=
  UInt8.ofNat ((left.toNat * right.toNat + 127) / 255)

def modulateAlpha (color : Argb) (alpha : UInt8) : Argb :=
  color.withAlpha (alphaProduct color.alpha alpha)

/-- The listing of a colour: its word in eight upper-case digits. -/
def listing (color : Argb) : String :=
  "Argb(0x" ++ (Hexadecimal.text 8 color.word.toNat).map Char.toUpper ++ ")"

end Argb

inductive PaintRole where
  | pathFill
  | pathStroke
  | textFill
  | textStroke
deriving DecidableEq, Repr

structure ColorScheme where
  pathFill : Argb
  pathStroke : Argb
  textFill : Argb
  textStroke : Argb
deriving DecidableEq, Repr

namespace ColorScheme

def uniform (color : Argb) : ColorScheme := ⟨color, color, color, color⟩

def pick (scheme : ColorScheme) : PaintRole → Argb
  | .pathFill => scheme.pathFill
  | .pathStroke => scheme.pathStroke
  | .textFill => scheme.textFill
  | .textStroke => scheme.textStroke

end ColorScheme

end PagePaint
