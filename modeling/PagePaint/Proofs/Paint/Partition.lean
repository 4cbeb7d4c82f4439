import Mathlib.Data.List.FinRange
import PagePaint.Proofs.Paint.Overlay

set_option autoImplicit false

/-!
# How base pass and form layer divide the annotations

The base pass and the page's own form choose annotations by two filters. Over any list of
annotations the filters are complements: what is visible is chosen by one of them, unless it is no
widget and annotations are not painted, and by no more than one.
-/

namespace PagePaint

variable {α : Type}

namespace Page

def annotsAt (page : Page α) (kind : Annot α → Bool) : List (Fin page.annots.length) :=
  (List.finRange page.annots.length).filter fun position => kind (page.annots.get position)

variable (page : Page α) (kind : Annot α → Bool)

theorem annotsAt_map : (page.annotsAt kind).map page.annots.get = page.annots.filter kind := by
  conv => rhs; rw [← List.map_get_finRange page.annots, List.filter_map]
  rfl

theorem mem_annotsAt {position : Fin page.annots.length} :
    position ∈ page.annotsAt kind ↔ kind (page.annots.get position) = true := by
  simp [annotsAt]

private theorem annotsAt_count (position : Fin page.annots.length) :
    (page.annotsAt kind).count position = if kind (page.annots.get position) then 1 else 0 := by
  have distinct : (page.annotsAt kind).Nodup := (List.nodup_finRange _).filter _
  simp only [distinct.count, mem_annotsAt]

private theorem annotsAt_pairwise : (page.annotsAt kind).Pairwise (· < ·) :=
  (List.pairwise_lt_finRange _).filter _

structure SameButWidgets (left right : Page α) : Prop where
  width : left.width = right.width
  height : left.height = right.height
  objects : left.objects = right.objects
  others : left.annots.filter (!·.isWidget) = right.annots.filter (!·.isWidget)

structure SameWidgets (left right : Page α) : Prop where
  width : left.width = right.width
  height : left.height = right.height
  widgets : left.widgets = right.widgets

end Page

/-- The annotations of a page divided among two passes: those at some positions go to the base pass,
those at others to the form layer. Each pass keeps the page order, the first takes no widget and the
second nothing else. An annotation is taken exactly once if it is visible and a widget or annotations
are painted, and not at all otherwise. -/
structure DividesAnnots (page : Page α) (config : Config)
    (inBase inForm : List (Fin page.annots.length)) : Prop where
  baseOrder : inBase.Pairwise (· < ·)
  formOrder : inForm.Pairwise (· < ·)
  base : ∀ position ∈ inBase, (page.annots.get position).isWidget = false
  form : ∀ position ∈ inForm, (page.annots.get position).isWidget = true
  once : ∀ position, (inBase ++ inForm).count position =
    if PaintingOrder.visible config (page.annots.get position) = true ∧
        ((page.annots.get position).isWidget = true ∨ config.flags.has .annotations = true) then 1
    else 0

namespace PaintingOrder

def inBase (page : Page α) (config : Config) : List (Fin page.annots.length) :=
  page.annotsAt fun item => config.flags.has .annotations && (!item.isWidget && visible config item)

def inForm (page : Page α) (config : Config) : List (Fin page.annots.length) :=
  page.annotsAt fun item => item.isWidget && visible config item

theorem dividesAnnots (page : Page α) (config : Config) :
    DividesAnnots page config (inBase page config) (inForm page config) where
  baseOrder := page.annotsAt_pairwise _
  formOrder := page.annotsAt_pairwise _
  base := by
    intro position member
    have chosen := (page.mem_annotsAt _).mp member
    simp only [Bool.and_eq_true, Bool.not_eq_true'] at chosen
    exact chosen.2.1
  form := by
    intro position member
    have chosen := (page.mem_annotsAt _).mp member
    exact (Bool.and_eq_true_iff.mp chosen).1
  once := by
    intro position
    -- Two conditions and whether it is a widget decide; no case lets both filters choose it.
    rw [List.count_append, inBase, inForm, Page.annotsAt_count, Page.annotsAt_count]
    cases (page.annots.get position).isWidget <;> cases config.flags.has .annotations <;>
      cases visible config (page.annots.get position) <;> rfl

private theorem shownAnnots_eq (page : Page α) (config : Config) :
    (if config.flags.has .annotations then page.annots.filter (shown config) else []) =
      (inBase page config).map page.annots.get := by
  rw [inBase, Page.annotsAt_map]
  cases config.flags.has .annotations with
  | false => simp
  | true => simp [← shown_eq]

private theorem visibleWidgets_eq (page : Page α) (config : Config) :
    page.widgets.filter (visible config) = (inForm page config).map page.annots.get := by
  rw [inForm, Page.annotsAt_map, Page.widgets, List.filter_filter]
  exact List.filter_congr fun item _ => Bool.and_comm _ _

private theorem filter_shown_eq {page page' : Page α} (same : page.SameButWidgets page')
    (config : Config) : page.annots.filter (shown config) = page'.annots.filter (shown config) := by
  have split (annots : List (Annot α)) :
      annots.filter (shown config) = (annots.filter (!·.isWidget)).filter (visible config) := by
    rw [List.filter_filter]
    exact List.filter_congr fun item _ => (shown_eq config item).trans (Bool.and_comm _ _)
  rw [split, split, same.others]

variable [Scalar α]

/-- The calls of a base pass: those of the objects and then those of the annotations it takes. -/
theorem units_flatten (page : Page α) (config : Config) :
    let base := displayTransform page.width page.height config.rect config.rotation
    (units page config).flatten =
      page.objects.flatMap (fun item => object base config item item.blend) ++
        (inBase page config).flatMap fun position =>
          annot base config (page.annots.get position) := by
  intro base
  rw [units, shownAnnots_eq, List.flatten_append, ← List.flatMap_def, ← List.flatMap_def,
    List.flatMap_map]

theorem overlay_ofPage (highlight : Option Argb) (page : Page α) (config : Config) :
    overlay (.ofPage highlight) page config = (inForm page config).flatMap fun position =>
      widget (displayTransform page.width page.height config.rect config.rotation) config highlight
        (page.annots.get position) := by
  rw [← List.flatMap_map, ← visibleWidgets_eq]
  rfl

theorem units_sameButWidgets {page page' : Page α} (same : page.SameButWidgets page')
    (config : Config) : units page config = units page' config := by
  simp only [units, same.width, same.height, same.objects, filter_shown_eq same config]

end PaintingOrder

end PagePaint
