import PagePaint.Backend.Backend
import PagePaint.Image.Cache
import PagePaint.Raster.Rectangle

set_option autoImplicit false

/-!
# The painting backend

The backend that paints pixels. Its state is its image cache. A call with a transform that is not
finite fails before anything else is looked at.
-/

namespace PagePaint

namespace Painter

/-- A target after a call and, if the call failed, why. -/
structure Painted where
  target : Target
  fault : Option BackendFault

structure Effect extends Painted where
  cache : ImageCache
  log : List LogLine

def Painted.keepCache (painted : Painted) (cache : ImageCache) : Effect := ⟨painted, cache, []⟩

def transformFault? (transform : Transform Float32) : Option BackendFault :=
  if transform.finite then none else some (.nonFiniteTransform transform.listing)

/-- Paints a target unless the transform is not finite. -/
def checked (target : Target) (transform : Transform Float32) (painted : Painted) : Painted :=
  match transformFault? transform with
  | some fault => ⟨target, some fault⟩
  | none => painted

def fill (target : Target) (outline : Outline Float32) (paint : Paint) (rule : FillRule)
    (transform : Transform Float32) : Painted :=
  checked target transform
    { target := { target with
        pixmap := target.pixmap.fillOutline outline (.plain (.ofColor paint.color))
          (fun brush => brush.mix? paint.blend) rule paint.antiAlias transform }
      fault := none }

def stroke (target : Target) (outline : Outline Float32) (paint : Paint)
    (style : StrokeStyle Float32) (transform : Transform Float32) : Painted :=
  checked target transform
    { target := { target with
        pixmap := target.pixmap.strokeOutline outline paint.color paint.blend paint.antiAlias style
          transform }
      fault := none }

def brushOf : Shade → Brush
  | .flat color => .plain (.ofColor color)
  | .gradient gradient => .gradient gradient .identity

def shade (target : Target) (area : Outline Float32) (shading : Shading Float32)
    (blend : BlendMode) (antiAlias : Bool) (transform : Transform Float32) : Painted :=
  checked target transform <|
    match shading.shade? with
    | none => ⟨target, some .noColorStops⟩
    | some shade =>
      { target := { target with
          pixmap := target.pixmap.fillOutline area (brushOf shade) (fun brush => brush.mix? blend)
            .nonZero antiAlias transform }
        fault := none }

def box (pixmap : Pixmap) : Outline Float32 :=
  .ofEdges ⟨0, 0, pixmap.width.toFloat32, pixmap.height.toFloat32⟩

/-- Paints a pixmap under a transform from its pixels to device space. -/
def placePixmap (target : Target) (pixmap : Pixmap) (blend : BlendMode) (smooth : Bool)
    (opacity : UInt8) (transform : Transform Float32) : Target :=
  { target with
    pixmap := target.pixmap.fillOutline (box pixmap) (.image pixmap smooth opacity .identity)
      (fun brush => brush.mix? blend) .nonZero false transform }

/-- Paints an image from the cache, which decodes it if need be. -/
def image (cache : ImageCache) (target : Target) (image : ImageObject Float32)
    (blend : BlendMode) (smooth : Bool) (transform : Transform Float32) : Effect :=
  if transform.finite then
    let reply := cache.getOrDecode image
    let painted : Painted :=
      match reply.answer with
      | .ok pixmap =>
        ⟨placePixmap target pixmap blend smooth image.opacity transform, none⟩
      | .error fault => ⟨target, some fault⟩
    ⟨painted, reply.cache, reply.log⟩
  else Painted.keepCache ⟨target, some (.nonFiniteImageTransform image.id)⟩ cache

def effect (cache : ImageCache) (target : Target) : PaintCall Float32 → Effect
  | .clear color => Painted.keepCache ⟨target.fill color, none⟩ cache
  | .fill outline paint rule transform =>
    (fill target outline paint rule transform).keepCache cache
  | .stroke outline paint style transform =>
    (stroke target outline paint style transform).keepCache cache
  | .shade area shading blend antiAlias transform =>
    (shade target area shading blend antiAlias transform).keepCache cache
  | .image drawn blend smooth transform => image cache target drawn blend smooth transform

end Painter

namespace Backend

def cacheLimit (config : Config) : Option Nat :=
  if config.flags.has .limitedImageCache then some ImageCache.limitedBytes else none

def painter : Backend Float32 ImageCache where
  prepare config cache :=
    let reply := cache.setLimit (cacheLimit config)
    (reply.cache, reply.log)
  paint made canvas :=
    let effect := Painter.effect canvas.state canvas.target made
    ⟨⟨effect.cache, effect.target⟩, effect.log, effect.fault.map (.backend none)⟩

end Backend

end PagePaint
