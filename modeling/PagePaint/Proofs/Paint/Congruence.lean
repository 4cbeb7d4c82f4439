import PagePaint.Proofs.Paint.Overlay

set_option autoImplicit false

/-!
# What painting reads of a configuration

Objects are painted by the scheme, three smoothing options and, if they are paths, the conversion of
fills. A base pass reads the device frame besides, and which annotations are shown. A form layer
reads neither the scheme nor the conversion.
-/

namespace PagePaint

variable {α : Type}

theorem PaintingOrder.shown_congr {left right : Config}
    (printing : left.flags.has .printing = right.flags.has .printing) :
    shown (α := α) left = shown right := by
  funext item
  simp only [shown, printing]

namespace Config

structure SameBut (flag : RenderFlag) (left right : Config) : Prop where
  rect : left.rect = right.rect
  rotation : left.rotation = right.rotation
  scheme : left.scheme = right.scheme
  background : left.background = right.background
  stepLimit : left.stepLimit = right.stepLimit
  flags : ∀ other, other ≠ flag → left.flags.has other = right.flags.has other

structure ShowsLike (left right : Config) : Prop where
  rect : left.rect = right.rect
  rotation : left.rotation = right.rotation
  printing : left.flags.has .printing = right.flags.has .printing
  annotations : left.flags.has .annotations = right.flags.has .annotations

structure PaintsLike (left right : Config) : Prop where
  scheme : left.scheme = right.scheme
  smoothPaths : left.flags.has .noSmoothPath = right.flags.has .noSmoothPath
  smoothText : left.flags.has .noSmoothText = right.flags.has .noSmoothText
  smoothImages : left.flags.has .noSmoothImage = right.flags.has .noSmoothImage

structure PassesLike (left right : Config) : Prop extends left.PaintsLike right where
  rect : left.rect = right.rect
  rotation : left.rotation = right.rotation
  conversion : left.strokesFills = right.strokesFills
  printing : left.flags.has .printing = right.flags.has .printing
  annotations : left.flags.has .annotations = right.flags.has .annotations

/-- Configurations that paint form layers alike. Scheme, background, step limit and all other
options may differ. -/
structure FormsLike (left right : Config) : Prop where
  rect : left.rect = right.rect
  rotation : left.rotation = right.rotation
  printing : left.flags.has .printing = right.flags.has .printing
  smoothPaths : left.flags.has .noSmoothPath = right.flags.has .noSmoothPath
  smoothText : left.flags.has .noSmoothText = right.flags.has .noSmoothText
  smoothImages : left.flags.has .noSmoothImage = right.flags.has .noSmoothImage

def formOptions : List RenderFlag := [.printing, .noSmoothPath, .noSmoothText, .noSmoothImage]

theorem strokesFills_iff (config : Config) :
    config.strokesFills = true ↔ config.scheme.isSome ∧ config.flags.has .fillToStroke :=
  Bool.and_eq_true_iff

namespace PaintsLike

variable {left right : Config}

theorem color_eq (like : left.PaintsLike right) (role : PaintRole) (own : Argb) :
    PaintingOrder.color left role own = PaintingOrder.color right role own := by
  simp only [PaintingOrder.color, like.scheme]

variable [Scalar α] (base : Transform α)

private theorem path_eq (like : left.PaintsLike right)
    (conversion : left.strokesFills = right.strokesFills) (item : PathObject α)
    (blend : BlendMode) :
    PaintingOrder.path base left item blend = PaintingOrder.path base right item blend := by
  have converts : (left.scheme.isSome ∧ left.flags.has .fillToStroke ∧ item.fill.isSome) ↔
      (right.scheme.isSome ∧ right.flags.has .fillToStroke ∧ item.fill.isSome) := by
    rw [← and_assoc, ← and_assoc, ← strokesFills_iff, ← strokesFills_iff, conversion]
  simp only [PaintingOrder.path, like.color_eq, like.smoothPaths, converts]

theorem object_eq_of_not_path (like : left.PaintsLike right) {item : PageObject α}
    (other : ∀ path, item ≠ .path path) (blend : BlendMode) :
    PaintingOrder.object base left item blend = PaintingOrder.object base right item blend := by
  cases item with
  | path item => exact absurd rfl (other item)
  | text item =>
      simp only [PaintingOrder.object, PaintingOrder.text, like.color_eq, like.smoothText]
  | image item => simp only [PaintingOrder.object, PaintingOrder.image, like.smoothImages]
  | shading item =>
      simp only [PaintingOrder.object, PaintingOrder.shading, like.scheme, like.smoothPaths]

theorem object_eq (like : left.PaintsLike right)
    (conversion : left.strokesFills = right.strokesFills) (item : PageObject α)
    (blend : BlendMode) :
    PaintingOrder.object base left item blend = PaintingOrder.object base right item blend := by
  cases item with
  | path item => exact like.path_eq base conversion item blend
  | text | image | shading => exact like.object_eq_of_not_path base (by simp) blend

theorem annot_eq (like : left.PaintsLike right)
    (conversion : left.strokesFills = right.strokesFills) :
    PaintingOrder.annot base left = PaintingOrder.annot base right := by
  funext item
  simp only [PaintingOrder.annot, like.object_eq base conversion]

end PaintsLike

namespace PassesLike

variable {left right : Config}

theorem units_eq [Scalar α] (like : left.PassesLike right) (page : Page α) :
    PaintingOrder.units page left = PaintingOrder.units page right := by
  simp only [PaintingOrder.units, like.rect, like.rotation,
    like.toPaintsLike.object_eq _ like.conversion, like.toPaintsLike.annot_eq _ like.conversion,
    PaintingOrder.shown_congr like.printing, like.annotations]

end PassesLike

namespace FormsLike

variable {left right : Config}

private theorem withoutScheme (like : left.FormsLike right) :
    left.withoutScheme.PaintsLike right.withoutScheme where
  scheme := rfl
  smoothPaths := like.smoothPaths
  smoothText := like.smoothText
  smoothImages := like.smoothImages

variable [Scalar α]

private theorem widget_eq (like : left.FormsLike right) (base : Transform α)
    (color? : Option Argb) :
    PaintingOrder.widget base left color? = PaintingOrder.widget base right color? := by
  funext item
  simp only [PaintingOrder.widget, PaintingOrder.highlight, like.withoutScheme.annot_eq base rfl,
    like.smoothPaths]

/-- A form layer paints alike over pages of one size in which it finds the same widgets. -/
theorem overlay_eq (like : left.FormsLike right) {layer : FormLayer α} {page page' : Page α}
    (width : page.width = page'.width) (height : page.height = page'.height)
    (widgets : layer.widgets page = layer.widgets page') :
    PaintingOrder.overlay layer page left = PaintingOrder.overlay layer page' right := by
  simp only [PaintingOrder.overlay, Config.isPrinting, width, height, widgets, like.rect,
    like.rotation, like.printing, like.widget_eq]

end FormsLike

namespace SameBut

variable {flag : RenderFlag} {left right : Config}

theorem formsLike (same : left.SameBut flag right) (unread : flag ∉ formOptions) :
    left.FormsLike right := by
  have agree (option : RenderFlag) (read : option ∈ formOptions) :
      left.flags.has option = right.flags.has option :=
    same.flags option fun isFlag => unread (isFlag ▸ read)
  exact
    { rect := same.rect
      rotation := same.rotation
      printing := agree .printing (by decide)
      smoothPaths := agree .noSmoothPath (by decide)
      smoothText := agree .noSmoothText (by decide)
      smoothImages := agree .noSmoothImage (by decide) }

theorem paintsLike (same : left.SameBut flag right) (unread : flag ∉ formOptions) :
    left.PaintsLike right :=
  { same.formsLike unread with scheme := same.scheme }

theorem strokesFills_eq (same : left.SameBut flag right) (other : flag ≠ .fillToStroke) :
    left.strokesFills = right.strokesFills := by
  rw [strokesFills, strokesFills, same.scheme, same.flags _ other.symm]

theorem passesLike (same : left.SameBut flag right) (unread : flag ∉ formOptions)
    (conversion : left.strokesFills = right.strokesFills) (unlisted : flag ≠ .annotations) :
    left.PassesLike right :=
  { same.formsLike unread with
    scheme := same.scheme
    conversion
    annotations := same.flags _ unlisted.symm }

end SameBut

end Config

end PagePaint
