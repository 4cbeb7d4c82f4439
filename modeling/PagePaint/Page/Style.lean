import PagePaint.Geometry.Outline

set_option autoImplicit false

/-!
# Painting styles

How an outline is filled or stroked and how the result is mixed with what lies below it.
-/

namespace PagePaint

/-- How a painted pixel is mixed with the one below it. -/
inductive BlendMode where
  | normal
  | multiply
  | screen
  | overlay
  | darken
  | lighten
  | colorDodge
  | colorBurn
  | hardLight
  | softLight
  | difference
  | exclusion
deriving DecidableEq, Repr, Inhabited

namespace BlendMode

def name : BlendMode → String
  | normal => "Normal"
  | multiply => "Multiply"
  | screen => "Screen"
  | overlay => "Overlay"
  | darken => "Darken"
  | lighten => "Lighten"
  | colorDodge => "ColorDodge"
  | colorBurn => "ColorBurn"
  | hardLight => "HardLight"
  | softLight => "SoftLight"
  | difference => "Difference"
  | exclusion => "Exclusion"

/-- The name of the compositing operator behind a mode. -/
def operatorName : BlendMode → String
  | normal => "SourceOver"
  | mode => mode.name

def all : List BlendMode :=
  [normal, multiply, screen, overlay, darken, lighten, colorDodge, colorBurn, hardLight, softLight,
    difference, exclusion]

end BlendMode

inductive FillRule where
  | nonZero
  | evenOdd
deriving DecidableEq, Repr, Inhabited

namespace FillRule

def name : FillRule → String
  | nonZero => "NonZero"
  | evenOdd => "EvenOdd"

def all : List FillRule := [nonZero, evenOdd]

end FillRule

inductive LineCap where
  | butt
  | round
  | square
deriving DecidableEq, Repr, Inhabited

namespace LineCap

def name : LineCap → String
  | butt => "Butt"
  | round => "Round"
  | square => "Square"

def all : List LineCap := [butt, round, square]

end LineCap

inductive LineJoin where
  | miter
  | round
  | bevel
deriving DecidableEq, Repr, Inhabited

namespace LineJoin

def name : LineJoin → String
  | miter => "Miter"
  | round => "Round"
  | bevel => "Bevel"

def all : List LineJoin := [miter, round, bevel]

end LineJoin

/-- The geometry of a stroke in its object's own space. No dashes mean a solid line. -/
structure StrokeStyle (α : Type) where
  width : α
  cap : LineCap
  join : LineJoin
  miterLimit : α
  dashes : List α
  phase : α
deriving DecidableEq, Repr

namespace StrokeStyle

variable {α : Type} [Scalar α]

/-- A solid stroke with square ends and pointed joins. -/
def ofWidth (width : α) : StrokeStyle α :=
  { width
    cap := .butt
    join := .miter
    miterLimit := Scalar.ofInt 10
    dashes := []
    phase := Scalar.zero }

def plain : StrokeStyle α := ofWidth Scalar.one

/-- Every length divided by a scale. Cap, join and miter limit have no length. -/
def shrink (style : StrokeStyle α) (scale : α) : StrokeStyle α :=
  { style with
    width := style.width / scale
    dashes := style.dashes.map (· / scale)
    phase := style.phase / scale }

end StrokeStyle

end PagePaint
