import PagePaint.Paint.Overlay
import PagePaint.Proofs.Paint.Order

set_option autoImplicit false

/-!
# The painting order of a form layer

The calls of a form layer as a flat list: for each visible widget in turn its highlight and then its
appearance, which is painted as the base pass would paint it without a scheme.
-/

namespace PagePaint

variable {α : Type}

def Config.withoutScheme (config : Config) : Config := { config with scheme := none }

namespace PaintingOrder

/-- Whether an annotation is painted at all: not hidden, and carrying the print flag on paper or
lacking the no-view flag on a screen. -/
def visible (config : Config) (item : Annot α) : Bool :=
  !item.flags.has .hidden &&
    if config.flags.has .printing then item.flags.has .print else !item.flags.has .noView

theorem shown_eq (config : Config) (item : Annot α) :
    shown config item = (!item.isWidget && visible config item) := by
  rw [shown, visible, Bool.and_assoc]
  rfl

variable [Scalar α]

def highlight (base : Transform α) (config : Config) (rect : Rect α) (color? : Option Argb) :
    List (PaintCall α) :=
  match color?, rect.edges? with
  | some color, some edges =>
    [.fill (.ofEdges edges) ⟨color, .normal, !config.flags.has .noSmoothPath⟩ .nonZero base]
  | _, _ => []

def widget (base : Transform α) (config : Config) (color? : Option Argb) (item : Annot α) :
    List (PaintCall α) :=
  highlight base config item.rect color? ++ annot base config.withoutScheme item

/-- The calls of a form layer over a page. -/
def overlay (layer : FormLayer α) (page : Page α) (config : Config) : List (PaintCall α) :=
  let base := displayTransform page.width page.height config.rect config.rotation
  ((layer.widgets page).filter fun item => item.isVisible config.isPrinting).flatMap
    (widget base config layer.highlight)

private theorem highlightCalls_native (page : Page α) (config : Config) (rect : Rect α)
    (color? : Option Argb) :
    Overlay.highlightCalls (.native page config) rect color? =
      highlight (Renderer.native page config).base config rect color? := by
  simp only [Overlay.highlightCalls, highlight]
  cases color? with
  | none => rfl
  | some color => cases rect.edges? <;> rfl

private theorem annotScript_native (page : Page α) (config : Config) (item : Annot α) :
    ((Renderer.native page config).annotScript item).calls =
      annot (Renderer.native page config).base config.withoutScheme item :=
  annotScript_calls page config.withoutScheme item

private theorem widgetsScript_calls (page : Page α) (config : Config) (color? : Option Argb)
    (drawn : Nat) (widgets : List (Annot α)) :
    (Overlay.widgetsScript (.native page config) color? config.isPrinting drawn widgets).calls =
      (widgets.filter fun item => item.isVisible config.isPrinting).flatMap
        (widget (Renderer.native page config).base config color?) := by
  induction widgets generalizing drawn with
  | nil => rfl
  | cons item rest ih =>
      simp only [Overlay.widgetsScript, List.filter_cons]
      split
      · rw [List.flatMap_cons, ← ih (drawn + 1), widget, ← annotScript_native,
          ← highlightCalls_native, Script.calls_append, Script.calls_append, Script.calls_ofCalls]
        rfl
      · exact ih drawn

theorem overlayScript_calls (layer : FormLayer α) (page : Page α) (config : Config) :
    (Overlay.script layer page config).calls = overlay layer page config :=
  widgetsScript_calls page config layer.highlight 0 (layer.widgets page)

end PaintingOrder

end PagePaint
