import PagePaint.Flags
import PagePaint.Page.Object

set_option autoImplicit false

/-!
# Annotations

An annotation comes with its appearance, a list of page objects in page space. Widgets belong to
the form layer; every other annotation may take part in the base pass.
-/

namespace PagePaint

inductive AnnotSubtype where
  | text
  | link
  | freeText
  | line
  | square
  | circle
  | polygon
  | polyLine
  | highlight
  | underline
  | squiggly
  | strikeOut
  | stamp
  | caret
  | ink
  | popup
  | fileAttachment
  | widget
  | redact
  | unknown
deriving DecidableEq, Repr, Inhabited

namespace AnnotSubtype

def name : AnnotSubtype → String
  | text => "Text"
  | link => "Link"
  | freeText => "FreeText"
  | line => "Line"
  | square => "Square"
  | circle => "Circle"
  | polygon => "Polygon"
  | polyLine => "PolyLine"
  | highlight => "Highlight"
  | underline => "Underline"
  | squiggly => "Squiggly"
  | strikeOut => "StrikeOut"
  | stamp => "Stamp"
  | caret => "Caret"
  | ink => "Ink"
  | popup => "Popup"
  | fileAttachment => "FileAttachment"
  | widget => "Widget"
  | redact => "Redact"
  | unknown => "Unknown"

def all : List AnnotSubtype :=
  [text, link, freeText, line, square, circle, polygon, polyLine, highlight, underline, squiggly,
    strikeOut, stamp, caret, ink, popup, fileAttachment, widget, redact, unknown]

def isWidget (subtype : AnnotSubtype) : Bool := subtype == widget

/-- The blend mode of an annotation that names none. A highlight multiplies, so that what it marks
stays readable. -/
def defaultBlend : AnnotSubtype → BlendMode
  | highlight => .multiply
  | _ => .normal

end AnnotSubtype

variable {α : Type}

structure Annot (α : Type) where
  subtype : AnnotSubtype
  rect : Rect α
  flags : AnnotFlags
  blend : BlendMode
  appearance : List (PageObject α)
deriving DecidableEq, Repr

namespace Annot

/-- A printable annotation with the blend mode of its kind. -/
def ofAppearance (subtype : AnnotSubtype) (rect : Rect α) (appearance : List (PageObject α)) :
    Annot α :=
  { subtype, rect, flags := .printable, blend := subtype.defaultBlend, appearance }

def isWidget (annot : Annot α) : Bool := annot.subtype.isWidget

def isVisible (annot : Annot α) (printing : Bool) : Bool := annot.flags.isVisible printing

/-- The blend mode of an object of the appearance: the annotation's own unless it is the normal
one, which leaves the object its own. -/
def effectiveBlend (annot : Annot α) (object : PageObject α) : BlendMode :=
  if annot.blend = .normal then object.blend else annot.blend

def isBaseContent (annot : Annot α) (printing : Bool) : Bool :=
  !annot.isWidget && annot.isVisible printing

end Annot

end PagePaint
