import PagePaint.Config
import PagePaint.Page.Object

set_option autoImplicit false

/-!
# Colour policies

A policy decides which colours an object is painted with. Without a scheme they are the object's
own. With one, every path and text colour becomes the scheme's colour for its role, the two alphas
multiplied; blend modes and images are left alone.
-/

namespace PagePaint

variable {α : Type}

structure ColorPolicy where
  scheme : Option ColorScheme
  strokesFills : Bool
deriving DecidableEq, Repr

/-- One paint operation of a path. -/
inductive PathPaint where
  | fill (color : Argb) (rule : FillRule)
  | stroke (color : Argb)
deriving DecidableEq, Repr

structure TextPaint where
  fill : Option Argb
  stroke : Option Argb
deriving DecidableEq, Repr

namespace ColorPolicy

def native : ColorPolicy := ⟨none, false⟩

def ofConfig (config : Config) : ColorPolicy := ⟨config.scheme, config.strokesFills⟩

def isActive (policy : ColorPolicy) : Bool := policy.scheme.isSome

/-- The colour to paint with in a role, given the object's own. -/
def resolve (policy : ColorPolicy) (role : PaintRole) (own : Argb) : Argb :=
  match policy.scheme with
  | some scheme => (scheme.pick role).modulateAlpha own.alpha
  | none => own

/-- The paints of a path in painting order. Where fills become strokes, a filled path is stroked
once, with the alpha of its stroke if it has one and of its fill otherwise. -/
def pathPaints (policy : ColorPolicy) (path : PathObject α) : List PathPaint :=
  let stroke := path.stroke.toList.map fun own => .stroke (policy.resolve .pathStroke own)
  match path.fill with
  | none => stroke
  | some fill =>
    if policy.strokesFills then
      [.stroke (policy.resolve .pathStroke (path.stroke.getD fill.color))]
    else .fill (policy.resolve .pathFill fill.color) fill.rule :: stroke

/-- The colours of a run of glyphs, as its mode asks. -/
def textPaint (policy : ColorPolicy) (text : TextObject α) : TextPaint :=
  { fill := if text.mode.fills then some (policy.resolve .textFill text.fillColor) else none
    stroke :=
      if text.mode.strokes then some (policy.resolve .textStroke text.strokeColor) else none }

/-- The flat colour that replaces a shading under a scheme. Its alpha is that of the most opaque
stop. -/
def shadingColor (policy : ColorPolicy) (shading : Shading α) : Option Argb :=
  if policy.isActive then
    some (policy.resolve .pathFill (Argb.black.withAlpha shading.maxAlpha))
  else none

end ColorPolicy

end PagePaint
