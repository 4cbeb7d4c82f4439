import PagePaint.Paint.Renderer

set_option autoImplicit false

/-!
# The form overlay

Widgets are painted over a finished page in the device rectangle and rotation of the page, but in
their own colours, whatever scheme the page was painted with.
-/

namespace PagePaint

variable {α : Type}

/-- Which annotations are painted as widgets of a page, in order, and the colour under each of
them, if any. Nothing requires the annotations to be widgets or to be distinct. -/
structure FormLayer (α : Type) where
  widgets : Page α → List (Annot α)
  highlight : Option Argb

namespace FormLayer

def ofPage (highlight : Option Argb) : FormLayer α := ⟨Page.widgets, highlight⟩

end FormLayer

namespace Overlay

variable [Scalar α]

/-- The highlight of a widget. A rectangle without usable edges has none. -/
def highlightCalls (renderer : Renderer α) (rect : Rect α) (highlight : Option Argb) :
    List (PaintCall α) :=
  match highlight, rect.edges? with
  | some color, some edges =>
    [.fill (.ofEdges edges) { Paint.ofColor color with antiAlias := renderer.smoothPaths } .nonZero
      renderer.base]
  | _, _ => []

/-- The script of the widgets in order, the count of those already painted given. A widget that is
not visible is passed over with a note. -/
def widgetsScript (renderer : Renderer α) (highlight : Option Argb) (printing : Bool) :
    Nat → List (Annot α) → Script α
  | _, [] => []
  | drawn, widget :: rest =>
    if widget.isVisible printing then
      .ofCalls (highlightCalls renderer widget.rect highlight) ++
        .note (.trace ("painting widget " ++ toString drawn ++ " at " ++ widget.rect.listing)) ::
        renderer.annotScript widget ++
        widgetsScript renderer highlight printing (drawn + 1) rest
    else
      .note (.warn ("skipping widget at " ++ widget.rect.listing ++ ": flags " ++
        widget.flags.listing)) ::
      widgetsScript renderer highlight printing drawn rest

def script (layer : FormLayer α) (page : Page α) (config : Config) : Script α :=
  widgetsScript (.native page config) layer.highlight config.isPrinting 0 (layer.widgets page)

omit [Scalar α] in
def drawnCount (layer : FormLayer α) (page : Page α) (config : Config) : Nat :=
  (layer.widgets page).countP fun widget => widget.isVisible config.isPrinting

end Overlay

end PagePaint
