import PagePaint.Number.Binary32
import PagePaint.Raster.Blend
import PagePaint.Raster.Coverage
import PagePaint.Raster.Gradient

set_option autoImplicit false

/-!
# Brushes

What a shape is painted with: one pixel, a gradient or an image. Gradients and images are looked up
at the centre of each pixel, moved back into the space they are given in. A transform that cannot be
undone paints nothing. An image shows the pixel that contains the place looked up or, if it is drawn
smoothly, the four pixels around it.
-/

namespace PagePaint

namespace Transform

def widen (transform : Transform Float32) : Transform Float :=
  ⟨transform.sx.toFloat, transform.ky.toFloat, transform.kx.toFloat,
    transform.sy.toFloat, transform.tx.toFloat, transform.ty.toFloat⟩

/-- Determinants up to this count as zero. -/
def flat : Float32 := Raster.tiny * Raster.tiny * Raster.tiny

/-- The inverse of a transform. A transform without skew is undone axis by axis, even if an axis is
lost; any other needs a determinant that is not next to zero. -/
def inverse? (transform : Transform Float32) : Option (Transform Float32) :=
  if transform.isIdentity then some transform
  else if !transform.hasSkew then
    if transform.sx == 1 && transform.sy == 1 then
      some (.shifting (-transform.tx) (-transform.ty))
    else
      let across := 1 / transform.sx
      let down := 1 / transform.sy
      some ⟨across, 0, 0, down, -transform.tx * across, -transform.ty * down⟩
  else
    let wide := transform.widen
    let determinant := wide.sx * wide.sy - wide.kx * wide.ky
    if determinant.toFloat32.abs ≤ flat then none
    else
      let scale := 1 / determinant
      let inverse : Transform Float32 :=
        { sx := (wide.sy * scale).toFloat32
          ky := (-wide.ky * scale).toFloat32
          kx := (-wide.kx * scale).toFloat32
          sy := (wide.sx * scale).toFloat32
          tx := ((wide.kx * wide.ty - wide.sy * wide.tx) * scale).toFloat32
          ty := ((wide.ky * wide.tx - wide.sx * wide.ty) * scale).toFloat32 }
      if inverse.finite then some inverse else none

/-- Whether a transform moves without turning or scaling. -/
def onlyShifts (transform : Transform Float32) : Bool :=
  transform.sx == 1 && transform.sy == 1 && !transform.hasSkew

/-- The centre of a pixel, moved by a transform. One that is not finite moves nothing. -/
def center (transform : Transform Float32) (column row : Nat) : Point Float32 :=
  let x := column.toFloat32 + 0.5
  let y := row.toFloat32 + 0.5
  if transform.finite && !transform.isIdentity then
    { x := x * transform.sx + (y * transform.kx + transform.tx)
      y := x * transform.ky + (y * transform.sy + transform.ty) }
  else ⟨x, y⟩

end Transform

namespace Pixmap

private def bounded (value : Float32) (size : Nat) : Nat :=
  if 0 < value then min value.toUInt32.toNat (size - 1) else 0

/-- The pixel that contains a point. Points outside count as the nearest inside. -/
def sample (pixmap : Pixmap) (point : Point Float32) : Pixel :=
  let column := bounded point.x pixmap.width.toNat
  let row := bounded point.y pixmap.height.toNat
  (pixmap.pixels[row * pixmap.width.toNat + column]?).getD .clear

/-- The four pixels whose centres are around a point, each weighted by how near it is across and
down. -/
def surroundings (pixmap : Pixmap) (point : Point Float32) : Blend.Fractions :=
  let across := Binary32.fraction (point.x + 0.5)
  let down := Binary32.fraction (point.y + 0.5)
  let left := point.x - 0.5
  let top := point.y - 0.5
  let shown (x y : Float32) := Blend.Fractions.ofPixel (pixmap.sample ⟨x, y⟩)
  Blend.Fractions.zero
    |>.plus ((1 - across) * (1 - down)) (shown left top)
    |>.plus (across * (1 - down)) (shown (left + 1) top)
    |>.plus ((1 - across) * down) (shown left (top + 1))
    |>.plus (across * down) (shown (left + 1) (top + 1))

def shownAt (pixmap : Pixmap) (smooth : Bool) (point : Point Float32) : Blend.Fractions :=
  if smooth then pixmap.surroundings point else .ofPixel (pixmap.sample point)

end Pixmap

/-- What a shape is painted with. A gradient and an image come with the transform from their own
space to that of the shape. -/
inductive Brush where
  | plain (pixel : Pixel)
  | gradient (colors : Gradient) (placement : Transform Float32)
  | image (pixmap : Pixmap) (smooth : Bool) (opacity : UInt8) (placement : Transform Float32)

namespace Brush

/-- A brush for a shape that is moved by a transform. -/
def moved (brush : Brush) (transform : Transform Float32) : Brush :=
  match brush with
  | .plain pixel => .plain pixel
  | .gradient colors placement => .gradient colors (transform.after placement)
  | .image pixmap smooth opacity placement =>
    .image pixmap smooth opacity (transform.after placement)

/-- How a brush paints a pixel. Images have no use for coverage: their edges are not smoothed. One
that is only shifted shows its own pixels, also if it is drawn smoothly. -/
def mix? (brush : Brush) (mode : BlendMode) : Option Mix :=
  match brush with
  | .plain pixel =>
    some fun coverage _ _ below => Blend.covering mode (pixel.alpha != 255) coverage pixel below
  | .gradient colors placement =>
    placement.inverse?.map fun inverse =>
      let toLine := colors.toLine.after inverse
      fun coverage column row below =>
        Blend.covering mode (colors.isRing || !colors.ramp.isOpaque) coverage
          (colors.pixel (toLine.center column row)) below
  | .image pixmap smooth opacity placement =>
    placement.inverse?.map fun toImage _ column row below =>
      Blend.sampled mode opacity
        (pixmap.shownAt (smooth && !toImage.onlyShifts) (toImage.center column row)) below

end Brush

end PagePaint
