import PagePaint.Color
import PagePaint.Page.Style

set_option autoImplicit false

/-!
# Page objects

What a page consists of: paths, runs of glyphs, images and shadings. Text comes as placed outlines
and images as decoded pixels, so painting needs neither fonts nor codecs.
-/

namespace PagePaint

variable {α : Type}

structure Fill where
  color : Argb
  rule : FillRule
deriving DecidableEq, Repr

/-- An outline with the paints it asks for. The stroke style is there even if there is no stroke:
a fill may be turned into one. -/
structure PathObject (α : Type) where
  outline : Outline α
  transform : Transform α
  fill : Option Fill
  stroke : Option Argb
  strokeStyle : StrokeStyle α
  blend : BlendMode
deriving DecidableEq, Repr

namespace PathObject

variable [Scalar α]

def ofOutline (outline : Outline α) : PathObject α :=
  { outline
    transform := .identity
    fill := none
    stroke := none
    strokeStyle := .plain
    blend := .normal }

/-- A filled rectangle. There is none for a rectangle without usable edges. -/
def filledRect? (rect : Rect α) (color : Argb) : Option (PathObject α) :=
  rect.edges?.map fun edges =>
    { ofOutline (.ofEdges edges) with fill := some ⟨color, .nonZero⟩ }

/-- The stroked border of a rectangle. There is none for a rectangle without usable edges. -/
def strokedRect? (rect : Rect α) (color : Argb) (width : α) : Option (PathObject α) :=
  rect.edges?.map fun edges =>
    { ofOutline (.ofEdges edges) with stroke := some color, strokeStyle := .ofWidth width }

end PathObject

inductive TextMode where
  | fill
  | stroke
  | fillStroke
  | invisible
deriving DecidableEq, Repr, Inhabited

namespace TextMode

def fills : TextMode → Bool
  | fill | fillStroke => true
  | stroke | invisible => false

def strokes : TextMode → Bool
  | stroke | fillStroke => true
  | fill | invisible => false

def name : TextMode → String
  | fill => "Fill"
  | stroke => "Stroke"
  | fillStroke => "FillStroke"
  | invisible => "Invisible"

def all : List TextMode := [fill, stroke, fillStroke, invisible]

end TextMode

/-- An outline in units of the font size, placed at a point of text space. -/
structure Glyph (α : Type) where
  outline : Outline α
  x : α
  y : α
deriving DecidableEq, Repr

structure TextObject (α : Type) where
  glyphs : List (Glyph α)
  fontSize : α
  transform : Transform α
  mode : TextMode
  fillColor : Argb
  strokeColor : Argb
  strokeStyle : StrokeStyle α
  blend : BlendMode
deriving DecidableEq, Repr

namespace TextObject

variable [Scalar α]

def ofGlyphs (glyphs : List (Glyph α)) (fontSize : α) : TextObject α :=
  { glyphs
    fontSize
    transform := .identity
    mode := .fill
    fillColor := .black
    strokeColor := .black
    strokeStyle := .plain
    blend := .normal }

end TextObject

/-- A decoded image: rows from the top, four bytes a pixel, red, green, blue and alpha, not
premultiplied. The bytes need not match the size; painting reports it if they do not. The
transform maps the unit square to the page. -/
structure ImageObject (α : Type) where
  id : UInt64
  width : UInt32
  height : UInt32
  bytes : Array UInt8
  transform : Transform α
  opacity : UInt8
  blend : BlendMode
deriving DecidableEq, Repr

namespace ImageObject

variable [Scalar α]

def ofTransform (id : UInt64) (width height : UInt32) (bytes : Array UInt8)
    (transform : Transform α) : ImageObject α :=
  { id, width, height, bytes, transform, opacity := 255, blend := .normal }

def placed (id : UInt64) (width height : UInt32) (bytes : Array UInt8) (rect : Rect α) :
    ImageObject α :=
  ofTransform id width height bytes
    ⟨rect.width, Scalar.zero, Scalar.zero, rect.height, rect.x, rect.y⟩

omit [Scalar α] in
/-- The number of bytes the size asks for, in 64-bit arithmetic. -/
def byteLength (image : ImageObject α) : UInt64 :=
  image.width.toUInt64 * image.height.toUInt64 * 4

omit [Scalar α] in
/-- Whether every complete pixel has full alpha. -/
def pixelsOpaque (image : ImageObject α) : Bool :=
  (List.range (image.bytes.size / 4)).all fun index => image.bytes[4 * index + 3]? == some 255

omit [Scalar α] in
/-- Constant or per-pixel opacity below the full one. -/
def isTranslucent (image : ImageObject α) : Bool := image.opacity != 255 || !image.pixelsOpaque

end ImageObject

/-- A colour of a ramp, at an offset from zero to one. -/
structure ColorStop (α : Type) where
  offset : α
  color : Argb
deriving DecidableEq, Repr

/-- Where a colour ramp lies: along an axis, or around a centre. -/
inductive ShadingShape (α : Type) where
  | axial (start finish : Point α)
  | radial (center : Point α) (radius : α)
deriving DecidableEq, Repr

structure Shading (α : Type) where
  shape : ShadingShape α
  stops : List (ColorStop α)
deriving DecidableEq, Repr

namespace Shading

/-- The largest alpha of the stops, full if there are none. -/
def maxAlpha (shading : Shading α) : UInt8 :=
  match shading.stops with
  | [] => 255
  | first :: rest =>
    rest.foldl (fun alpha stop => if alpha < stop.color.alpha then stop.color.alpha else alpha)
      first.color.alpha

end Shading

/-- A shading over an area; both lie in the object's own space. -/
structure ShadingObject (α : Type) where
  area : Outline α
  shading : Shading α
  transform : Transform α
  blend : BlendMode
deriving DecidableEq, Repr

inductive PageObject (α : Type) where
  | path (path : PathObject α)
  | text (text : TextObject α)
  | image (image : ImageObject α)
  | shading (shading : ShadingObject α)
deriving DecidableEq, Repr

namespace PageObject

def kind : PageObject α → String
  | path _ => "path"
  | text _ => "text"
  | image _ => "image"
  | shading _ => "shading"

def blend : PageObject α → BlendMode
  | path object => object.blend
  | text object => object.blend
  | image object => object.blend
  | shading object => object.blend

/-- Paint below full opacity, blend modes aside. Colours that the object does not use do not
count. -/
def paintsTranslucent : PageObject α → Bool
  | path object =>
    object.fill.any (·.color.alpha != 255) || object.stroke.any (·.alpha != 255)
  | text object =>
    object.mode.fills && object.fillColor.alpha != 255 ||
      object.mode.strokes && object.strokeColor.alpha != 255
  | image object => object.isTranslucent
  | shading object => object.shading.stops.any (·.color.alpha != 255)

/-- Whether painting the object needs a target with an alpha channel. -/
def needsAlpha (object : PageObject α) : Bool :=
  object.blend != .normal || object.paintsTranslucent

end PageObject

end PagePaint
