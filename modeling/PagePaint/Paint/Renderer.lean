import PagePaint.Page.Page
import PagePaint.Paint.Policy
import PagePaint.Paint.Script

set_option autoImplicit false

/-!
# From page objects to scripts

A renderer turns one object or annotation into its script: which calls it takes, with which colours,
blend modes and transforms.
-/

namespace PagePaint

variable {α : Type} [Scalar α]

/-- What the painting of a page's objects has in common. -/
structure Renderer (α : Type) where
  base : Transform α
  policy : ColorPolicy
  flags : RenderFlags
deriving DecidableEq, Repr

namespace Renderer

def withPolicy (page : Page α) (config : Config) (policy : ColorPolicy) : Renderer α :=
  { base := displayTransform page.width page.height config.rect config.rotation
    policy
    flags := config.flags }

/-- The renderer of the base pass. -/
def ofConfig (page : Page α) (config : Config) : Renderer α :=
  withPolicy page config (.ofConfig config)

/-- The renderer of the form layer: native colours under the same transform. -/
def native (page : Page α) (config : Config) : Renderer α := withPolicy page config .native

omit [Scalar α]

def smoothPaths (renderer : Renderer α) : Bool := !renderer.flags.has .noSmoothPath

def smoothText (renderer : Renderer α) : Bool := !renderer.flags.has .noSmoothText

def smoothImages (renderer : Renderer α) : Bool := !renderer.flags.has .noSmoothImage

end Renderer

/-- Units of the font size to device space, for one glyph. -/
def glyphTransform (textTransform : Transform α) (glyph : Glyph α) (fontSize : α) :
    Transform α :=
  (textTransform.after (.shifting glyph.x glyph.y)).after (.scaling fontSize fontSize)

/-- The calls of a run of glyphs under a transform from page to device space. Text of size zero
paints nothing. A stroke is given in text space, so the glyphs share one style divided by the
magnitude of the font size. -/
def textCalls (text : TextObject α) (base : Transform α) (fill stroke : Option Paint) :
    List (PaintCall α) :=
  if Scalar.same text.fontSize Scalar.zero then []
  else
    let textTransform := base.after text.transform
    let style := text.strokeStyle.shrink (Scalar.magnitude text.fontSize)
    text.glyphs.flatMap fun glyph =>
      let transform := glyphTransform textTransform glyph text.fontSize
      (fill.toList.map fun paint => .fill glyph.outline paint .nonZero transform) ++
        stroke.toList.map fun paint => .stroke glyph.outline paint style transform

/-- Image pixels, top row first, to the unit square. -/
def pixelToUnit (width height : UInt32) : Transform α :=
  { sx := Scalar.one / Scalar.ofInt width.toNat
    ky := Scalar.zero
    kx := Scalar.zero
    sy := -Scalar.one / Scalar.ofInt height.toNat
    tx := Scalar.zero
    ty := Scalar.one }

namespace Renderer

def pathCalls (renderer : Renderer α) (path : PathObject α) (blend : BlendMode) :
    List (PaintCall α) :=
  let transform := renderer.base.after path.transform
  (renderer.policy.pathPaints path).map fun paint =>
    match paint with
    | .fill color rule =>
      .fill path.outline ⟨color, blend, renderer.smoothPaths⟩ rule transform
    | .stroke color =>
      .stroke path.outline ⟨color, blend, renderer.smoothPaths⟩ path.strokeStyle transform

def textCalls (renderer : Renderer α) (text : TextObject α) (blend : BlendMode) :
    List (PaintCall α) :=
  let colors := renderer.policy.textPaint text
  let paint (color : Argb) : Paint := ⟨color, blend, renderer.smoothText⟩
  PagePaint.textCalls text renderer.base (colors.fill.map paint) (colors.stroke.map paint)

def imageTransform (renderer : Renderer α) (image : ImageObject α) : Transform α :=
  (renderer.base.after image.transform).after (pixelToUnit image.width image.height)

/-- An image without pixels is passed over with a note. -/
def imageScript (renderer : Renderer α) (image : ImageObject α) (blend : BlendMode) :
    Script α :=
  if image.width = 0 ∨ image.height = 0 then
    [.note (.trace ("skipping empty " ++ toString image.width ++ "x" ++ toString image.height ++
      " image " ++ toString image.id))]
  else [.call (.image image blend renderer.smoothImages (renderer.imageTransform image))]

/-- Under a scheme a shading is a flat fill of its area. -/
def shadingCall (renderer : Renderer α) (object : ShadingObject α) (blend : BlendMode) :
    PaintCall α :=
  let transform := renderer.base.after object.transform
  match renderer.policy.shadingColor object.shading with
  | some color => .fill object.area ⟨color, blend, renderer.smoothPaths⟩ .nonZero transform
  | none => .shade object.area object.shading blend renderer.smoothPaths transform

/-- The script of an object under a blend mode, which may differ from the object's own. -/
def objectScript (renderer : Renderer α) (object : PageObject α) (blend : BlendMode) :
    Script α :=
  match object with
  | .path path => .ofCalls (renderer.pathCalls path blend)
  | .text text => .ofCalls (renderer.textCalls text blend)
  | .image image => renderer.imageScript image blend
  | .shading shading => .ofCalls [renderer.shadingCall shading blend]

def annotScript (renderer : Renderer α) (annot : Annot α) : Script α :=
  annot.appearance.flatMap fun object =>
    renderer.objectScript object (annot.effectiveBlend object)

end Renderer

end PagePaint
