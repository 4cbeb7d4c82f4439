import PagePaint.Page.Style
import PagePaint.Target.Pixel

set_option autoImplicit false

/-!
# Blending

A painted pixel is mixed with the one below it channel by channel, on premultiplied values. Solid
colours are mixed in integers, where a product of two channels is divided by 256 after adding 255;
image pixels are mixed in single precision and rounded once at the end.
-/

namespace PagePaint.Blend

open PagePaint

/-- A product of two channels over the full value, rounded the way integer blending does. -/
def divide (product : Nat) : Nat := (product + 255) / 256

private def channel (value : Nat) : UInt8 := UInt8.ofNat (min value 255)

def allChannels (mix : Nat → Nat → Nat) (source below : Pixel) : Pixel :=
  { red := channel (mix source.red.toNat below.red.toNat)
    green := channel (mix source.green.toNat below.green.toNat)
    blue := channel (mix source.blue.toNat below.blue.toNat)
    alpha := channel (mix source.alpha.toNat below.alpha.toNat) }

/-- The coverage of one pixel over another: what the upper one leaves of the lower one is added. -/
def laidOver (sourceAlpha : Nat) (source below : Nat) : Nat :=
  source + divide (below * (255 - sourceAlpha))

/-- Applies a mix to the colour channels; the alphas are laid over each other. -/
def colorChannels (mix : Nat → Nat → Nat) (source below : Pixel) : Pixel :=
  { allChannels mix source below with
    alpha := channel (laidOver source.alpha.toNat source.alpha.toNat below.alpha.toNat) }

/-- A pixel as fractions of the full value, premultiplied. -/
structure Fractions where
  red : Float32
  green : Float32
  blue : Float32
  alpha : Float32

namespace Fractions

def zero : Fractions := ⟨0, 0, 0, 0⟩

def ofPixel (pixel : Pixel) : Fractions :=
  let unit : Float32 := 1 / 255
  ⟨pixel.red.toFloat32 * unit, pixel.green.toFloat32 * unit, pixel.blue.toFloat32 * unit,
    pixel.alpha.toFloat32 * unit⟩

def scale (fractions : Fractions) (factor : Float32) : Fractions :=
  ⟨fractions.red * factor, fractions.green * factor, fractions.blue * factor,
    fractions.alpha * factor⟩

def plus (sum : Fractions) (weight : Float32) (added : Fractions) : Fractions :=
  ⟨weight * added.red + sum.red, weight * added.green + sum.green,
    weight * added.blue + sum.blue, weight * added.alpha + sum.alpha⟩

/-- The integer nearest to a fraction of the full value, between the two ends; a half goes to the
even one. -/
def roundChannel (value : Float32) : UInt8 :=
  let bounded := if value < 0 then 0 else if 1 < value then 1 else value
  let scaled := bounded * 255
  let whole := scaled.toUInt8
  let rest := scaled - whole.toFloat32
  if rest < 0.5 then whole
  else if rest == 0.5 then whole + whole % 2
  else whole + 1

def toPixel (fractions : Fractions) : Pixel :=
  ⟨roundChannel fractions.red, roundChannel fractions.green, roundChannel fractions.blue,
    roundChannel fractions.alpha⟩

def allChannels (mix : Float32 → Float32 → Float32) (source below : Fractions) : Fractions :=
  ⟨mix source.red below.red, mix source.green below.green, mix source.blue below.blue,
    mix source.alpha below.alpha⟩

/-- Applies a mix to the colour channels; the alphas are laid over each other. -/
def colorChannels (mix : Float32 → Float32 → Float32) (source below : Fractions) : Fractions :=
  { allChannels mix source below with
    alpha := below.alpha * (1 - source.alpha) + source.alpha }

end Fractions

private def lower (left right : Float32) : Float32 := if right < left then right else left

private def upper (left right : Float32) : Float32 := if left < right then right else left

/-- The hard-light mix of premultiplied channels: twice the product where the one that decides is
dark, and a screen of the two where it is light. -/
private def hardLight (decider : Float32) (deciderAlpha : Float32) (source below : Float32)
    (sourceAlpha belowAlpha : Float32) : Float32 :=
  let both :=
    if decider + decider ≤ deciderAlpha then 2 * source * below
    else sourceAlpha * belowAlpha - 2 * (belowAlpha - below) * (sourceAlpha - source)
  source * (1 - belowAlpha) + below * (1 - sourceAlpha) + both

private def hardLightChannel (decider deciderAlpha source below sourceAlpha belowAlpha : Nat) :
    Nat :=
  let both :=
    if 2 * decider ≤ deciderAlpha then 2 * source * below
    else sourceAlpha * belowAlpha - 2 * (sourceAlpha - source) * (belowAlpha - below)
  divide (source * (255 - belowAlpha) + below * (255 - sourceAlpha) + both)

def softLight (source below : Float32) : Float32 :=
  if source ≤ 0.5 then below - (1 - 2 * source) * below * (1 - below)
  else
    let lifted :=
      if below ≤ 0.25 then ((16 * below - 12) * below + 4) * below else below.sqrt
    below + (2 * source - 1) * (lifted - below)

def colorDodge (source below : Float32) : Float32 :=
  if below == 0 then 0
  else if 1 ≤ source then 1
  else lower 1 (below / (1 - source))

def colorBurn (source below : Float32) : Float32 :=
  if 1 ≤ below then 1
  else if source ≤ 0 then 0
  else 1 - lower 1 ((1 - below) / source)

/-- A mix of straight channels, weighted by how much the two pixels cover each other. -/
def separable (mix : Float32 → Float32 → Float32) (source below : Fractions) : Fractions :=
  let straight (value alpha : Float32) : Float32 := if alpha == 0 then 0 else value / alpha
  Fractions.colorChannels
    (fun upperValue lowerValue =>
      upperValue * (1 - below.alpha) + lowerValue * (1 - source.alpha) +
        source.alpha * below.alpha *
          mix (straight upperValue source.alpha) (straight lowerValue below.alpha))
    source below

def mixFractions (mode : BlendMode) (source below : Fractions) : Fractions :=
  let keepBelow := 1 - source.alpha
  let keepSource := 1 - below.alpha
  match mode with
  | .normal => Fractions.allChannels (fun s d => d * keepBelow + s) source below
  | .multiply =>
    Fractions.allChannels (fun s d => s * keepSource + d * keepBelow + s * d) source below
  | .screen => Fractions.allChannels (fun s d => s + d - s * d) source below
  | .darken =>
    Fractions.colorChannels
      (fun s d => s + d - upper (s * below.alpha) (d * source.alpha)) source below
  | .lighten =>
    Fractions.colorChannels
      (fun s d => s + d - lower (s * below.alpha) (d * source.alpha)) source below
  | .difference =>
    Fractions.colorChannels
      (fun s d => s + d - 2 * lower (s * below.alpha) (d * source.alpha)) source below
  | .exclusion => Fractions.colorChannels (fun s d => s + d - 2 * (s * d)) source below
  | .overlay =>
    Fractions.colorChannels
      (fun s d => hardLight d below.alpha s d source.alpha below.alpha) source below
  | .hardLight =>
    Fractions.colorChannels
      (fun s d => hardLight s source.alpha s d source.alpha below.alpha) source below
  | .softLight => separable softLight source below
  | .colorDodge => separable colorDodge source below
  | .colorBurn => separable colorBurn source below

/-- Mixes a pixel of a solid colour with the one below it. -/
def solid (mode : BlendMode) (source below : Pixel) : Pixel :=
  let sourceAlpha := source.alpha.toNat
  let belowAlpha := below.alpha.toNat
  match mode with
  | .normal =>
    if source.alpha = 255 then source else allChannels (laidOver sourceAlpha) source below
  | .multiply =>
    allChannels
      (fun s d => divide (s * (255 - belowAlpha) + d * (255 - sourceAlpha) + s * d)) source below
  | .screen => allChannels (fun s d => s + d - divide (s * d)) source below
  | .darken =>
    colorChannels (fun s d => s + d - divide (max (s * belowAlpha) (d * sourceAlpha))) source below
  | .lighten =>
    colorChannels (fun s d => s + d - divide (min (s * belowAlpha) (d * sourceAlpha))) source below
  | .difference =>
    colorChannels (fun s d => s + d - 2 * divide (min (s * belowAlpha) (d * sourceAlpha)))
      source below
  | .exclusion => colorChannels (fun s d => s + d - 2 * divide (s * d)) source below
  | .overlay =>
    colorChannels (fun s d => hardLightChannel d belowAlpha s d sourceAlpha belowAlpha)
      source below
  | .hardLight =>
    colorChannels (fun s d => hardLightChannel s sourceAlpha s d sourceAlpha belowAlpha)
      source below
  | mode => (mixFractions mode (.ofPixel source) (.ofPixel below)).toPixel

/-- Lays a mixed pixel on the one below it by a share of 255. -/
def laidOn (coverage : Nat) (mixed below : Pixel) : Pixel :=
  allChannels (fun m b => divide (b * (255 - coverage) + m * coverage)) mixed below

def thinned (coverage : Nat) (source : Pixel) : Pixel :=
  allChannels (fun s _ => divide (s * coverage)) source source

/-- Mixes a pixel that covers the one below it by a share of 255. A paint that is see-through
anyway and is not mixed in any special way is thinned before it is mixed; any other is mixed in full
and laid on by its share. -/
def covering (mode : BlendMode) (seeThrough : Bool) (coverage : Nat) (source below : Pixel) :
    Pixel :=
  if coverage = 255 then solid mode source below
  else if mode = .normal ∧ seeThrough then solid mode (thinned coverage source) below
  else laidOn coverage (solid mode source below) below

/-- Mixes what an image shows under a constant opacity with the pixel below it. -/
def sampled (mode : BlendMode) (opacity : UInt8) (source : Fractions) (below : Pixel) : Pixel :=
  let faded := if opacity = 255 then source else source.scale (Pixel.fraction opacity)
  (mixFractions mode faded (.ofPixel below)).toPixel

end PagePaint.Blend
