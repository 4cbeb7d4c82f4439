import PagePaint.Raster.Brush
import PagePaint.Raster.Dash
import PagePaint.Raster.Fill
import PagePaint.Raster.Hairline
import PagePaint.Raster.Stroke

set_option autoImplicit false

/-!
# Painting shapes

Filled outlines and strokes on a pixmap. A shape is moved to device space first; a pixmap with long
sides is painted in tiles.
-/

namespace PagePaint

namespace Pixmap

/-- Paints a shape in device space tile by tile. For each tile the shape and the brush are moved so
that the tile's corner is the origin, and back again; both keep what rounding does to them on the
way. A shape that leaves the range of single precision is given up. -/
def paintTiles (mix? : Brush → Option Mix) (runs : Outline Float32 → Nat → Nat → List Run) :
    List Tile → Outline Float32 → Brush → Pixmap → Pixmap
  | [], _, _, pixmap => pixmap
  | tile :: rest, outline, brush, pixmap =>
    let x := tile.left.toFloat32
    let y := tile.top.toFloat32
    let there : Transform Float32 := .shifting (-x) (-y)
    let back : Transform Float32 := .shifting x y
    match outline.moved? there with
    | none => pixmap
    | some moved =>
      let placed := brush.moved there
      let painted :=
        match mix? placed with
        | some mix => pixmap.paintRuns tile mix (runs moved tile.width tile.height)
        | none => pixmap
      match moved.moved? back with
      | none => painted
      | some outline => paintTiles mix? runs rest outline (placed.moved back) painted

def paintShape (pixmap : Pixmap) (outline : Outline Float32) (brush : Brush)
    (mix? : Brush → Option Mix) (runs : Outline Float32 → Nat → Nat → List Run) : Pixmap :=
  paintTiles mix? runs (Tile.cover pixmap.width.toNat pixmap.height.toNat) outline brush pixmap

def fillOutline (pixmap : Pixmap) (outline : Outline Float32) (brush : Brush)
    (mix? : Brush → Option Mix) (rule : FillRule) (smooth : Bool)
    (transform : Transform Float32) : Pixmap :=
  match outline.moved? transform with
  | none => pixmap
  | some device =>
    if device.fillable then
      pixmap.paintShape device (brush.moved transform) mix? (Outline.fillRuns rule smooth)
    else pixmap

def drawHairline (pixmap : Pixmap) (outline : Outline Float32) (pixel : Pixel) (mode : BlendMode)
    (cap : LineCap) (smooth : Bool) (transform : Transform Float32) : Pixmap :=
  match outline.moved? transform with
  | none => pixmap
  | some device =>
    pixmap.paintShape device (.plain pixel) (fun brush => brush.mix? mode)
      (Outline.hairlineRuns cap smooth)

end Pixmap

namespace Transform

/-- How much a transform enlarges along the axis it enlarges most, for choosing how finely curves
are followed. One that does not enlarge in a usable way counts as leaving sizes alone. -/
def enlargement (transform : Transform Float32) : Float32 :=
  let across := Point.length ⟨transform.sx, transform.kx⟩
  let down := Point.length ⟨transform.ky, transform.sy⟩
  if across.isFinite && down.isFinite then
    let scale := if across < down then down else across
    if 0 < scale then scale else 1
  else 1

end Transform

namespace Hairline

/-- A length that is quick to compute and never too short. -/
private def roughLength (vector : Point Float32) : Float32 :=
  let x := vector.x.abs
  let y := vector.y.abs
  if x < y then y + x * 0.5 else x + y * 0.5

/-- The coverage of a stroke that is drawn as a hairline: one without a width, and with smoothing
one that is at most a pixel wide. Any other has none. -/
def coverage? (width : Float32) (smooth : Bool) (transform : Transform Float32) :
    Option Float32 :=
  if width == 0 then some 1
  else if !smooth then none
  else
    let turned := { transform with tx := 0, ty := 0 }
    let across := roughLength (turned.apply ⟨width, 0⟩)
    let down := roughLength (turned.apply ⟨0, width⟩)
    if across ≤ 1 ∧ down ≤ 1 then some ((across + down) * 0.5) else none

/-- The pixel of a colour under a coverage. Only a paint that is not mixed in any special way is
faded, in steps of 256. -/
def pixel (color : Argb) (mode : BlendMode) (coverage : Float32) : Pixel :=
  if coverage == 1 || mode != .normal then .ofColor color
  else
    let steps := (Binary32.truncate (coverage * 256)).toNat
    .ofFaded color ((255 * steps / 256).toFloat32 / 255)

end Hairline

namespace Pixmap

/-- Strokes an outline in a colour. A width that is negative or not finite paints nothing. -/
def strokeOutline (pixmap : Pixmap) (outline : Outline Float32) (color : Argb)
    (mode : BlendMode) (smooth : Bool) (style : StrokeStyle Float32)
    (transform : Transform Float32) : Pixmap :=
  if style.width < 0 then pixmap
  else
    let scale := transform.enlargement
    let followed? := match style.pattern? with
      | some pattern => outline.dashed? pattern scale
      | none => some outline
    match followed? with
    | none => pixmap
    | some followed =>
      match Hairline.coverage? style.width smooth transform with
      | some coverage =>
        pixmap.drawHairline followed (Hairline.pixel color mode coverage) mode style.cap smooth
          transform
      | none =>
        match followed.stroked? style scale with
        | none => pixmap
        | some stroke =>
          pixmap.fillOutline stroke (.plain (.ofColor color)) (fun brush => brush.mix? mode)
            .nonZero smooth transform

end Pixmap

end PagePaint
