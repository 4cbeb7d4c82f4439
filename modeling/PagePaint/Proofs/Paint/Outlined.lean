import PagePaint.Proofs.Paint.Congruence

set_option autoImplicit false

/-!
# Outlined pages

Turning fills into strokes is a rewriting of the page: under a scheme, a page that is painted with
the conversion makes the calls of its outlined page painted without it. Only paths are rewritten,
and the appearances of widgets are left alone.
-/

namespace PagePaint

variable {α : Type}

/-- A filled path is stroked instead, with its stroke if it has one and in the colour of its fill
otherwise. -/
def PathObject.outlined (item : PathObject α) : PathObject α :=
  match item.fill with
  | none => item
  | some fill => { item with fill := none, stroke := some (item.stroke.getD fill.color) }

def PageObject.outlined : PageObject α → PageObject α
  | .path item => .path item.outlined
  | .text item => .text item
  | .image item => .image item
  | .shading item => .shading item

def Annot.outlined (item : Annot α) : Annot α :=
  { item with appearance := item.appearance.map PageObject.outlined }

def Page.outlined (page : Page α) : Page α :=
  { page with
    objects := page.objects.map PageObject.outlined
    annots := page.annots.map fun item =>
      if item.subtype = .widget then item else item.outlined }

theorem PathObject.outlined_eq_self {item : PathObject α} (unfilled : item.fill = none) :
    item.outlined = item := by
  rw [outlined, unfilled]

theorem PathObject.outlined_of_fill {item : PathObject α} {fill : Fill}
    (filled : item.fill = some fill) :
    item.outlined =
      { item with fill := none, stroke := some (item.stroke.getD fill.color) } := by
  rw [outlined, filled]

@[simp] theorem PageObject.blend_outlined (item : PageObject α) :
    item.outlined.blend = item.blend := by
  cases item with
  | path item =>
      cases filled : item.fill with
      | none => rw [outlined, PathObject.outlined_eq_self filled]
      | some fill =>
          rw [outlined, PathObject.outlined_of_fill filled]
          rfl
  | text | image | shading => rfl

private theorem Page.widgets_outlined (page : Page α) : page.outlined.widgets = page.widgets := by
  obtain ⟨width, height, objects, annots⟩ := page
  change List.filter _ (annots.map _) = List.filter _ annots
  induction annots with
  | nil => rfl
  | cons item rest ih =>
      rw [List.map_cons, List.filter_cons, List.filter_cons, ih]
      by_cases widget : item.subtype = .widget
      · rw [if_pos widget]
      · have other : item.isWidget = false := beq_eq_false_iff_ne.mpr widget
        have outlined : item.outlined.isWidget = false := other
        rw [if_neg widget, outlined, other]
        rfl

namespace PaintingOrder

variable [Scalar α] {base : Transform α} {config config' : Config} {blend : BlendMode}

/-!
## Conversion
-/

theorem path_strokes (converts : config.strokesFills = true) (item : PathObject α) :
    ∀ call ∈ path base config item blend, ∃ paint,
      call = .stroke item.outline paint item.strokeStyle (base.after item.transform) := by
  rw [Config.strokesFills_iff] at converts
  intro call made
  simp only [path] at made
  split at made
  · obtain ⟨own, -, rfl⟩ := List.mem_map.mp made
    exact ⟨_, rfl⟩
  · rename_i unconverted
    rcases List.mem_append.mp made with filled | stroked
    · obtain ⟨fill, own, -⟩ := List.mem_map.mp filled
      have filled : item.fill.isSome := Option.isSome_of_mem (Option.mem_toList.mp own)
      exact absurd ⟨converts.1, converts.2, filled⟩ unconverted
    · obtain ⟨own, -, rfl⟩ := List.mem_map.mp stroked
      exact ⟨_, rfl⟩

theorem path_of_fill (converts : config.strokesFills = true) {item : PathObject α} {fill : Fill}
    (filled : item.fill = some fill) :
    path base config item blend =
      [.stroke item.outline
        ⟨color config .pathStroke (item.stroke.getD fill.color), blend,
          !config.flags.has .noSmoothPath⟩ item.strokeStyle (base.after item.transform)] := by
  rw [Config.strokesFills_iff] at converts
  have converted : config.scheme.isSome ∧ config.flags.has .fillToStroke ∧
      (some fill).isSome := ⟨converts.1, converts.2, rfl⟩
  simp only [path, filled, if_pos converted]
  cases item.stroke <;> rfl

private theorem path_of_unfilled {item : PathObject α} (unfilled : item.fill = none) :
    path base config item blend =
      item.stroke.toList.map fun own =>
        .stroke item.outline
          ⟨color config .pathStroke own, blend, !config.flags.has .noSmoothPath⟩
          item.strokeStyle (base.after item.transform) := by
  simp [path, unfilled]

/-!
## The outlined page
-/

section Outlined

variable (like : config.PaintsLike config') (converts : config.strokesFills = true)
include like converts

private theorem path_outlined (item : PathObject α) :
    path base config item blend = path base config' item.outlined blend := by
  cases filled : item.fill with
  | none =>
      rw [PathObject.outlined_eq_self filled, path_of_unfilled filled, path_of_unfilled filled]
      simp only [like.color_eq, like.smoothPaths]
  | some fill =>
      rw [PathObject.outlined_of_fill filled, path_of_fill converts filled, path_of_unfilled rfl,
        like.color_eq, like.smoothPaths]
      rfl

theorem object_outlined (item : PageObject α) :
    object base config item blend = object base config' item.outlined blend := by
  cases item with
  | path item => exact path_outlined like converts item
  | text | image | shading => exact like.object_eq_of_not_path base (by simp) blend

private theorem annot_outlined (item : Annot α) :
    annot base config item = annot base config' item.outlined := by
  simp only [annot, Annot.outlined, List.flatMap_map, PageObject.blend_outlined,
    object_outlined like converts]

end Outlined

omit [Scalar α] in
private theorem filter_shown_outlined (config : Config) (page : Page α) :
    page.outlined.annots.filter (shown config) =
      (page.annots.filter (shown config)).map Annot.outlined := by
  obtain ⟨width, height, objects, annots⟩ := page
  change List.filter _ (annots.map _) = _
  induction annots with
  | nil => rfl
  | cons item rest ih =>
      rw [List.map_cons, List.filter_cons, List.filter_cons, ih]
      by_cases widget : item.subtype = .widget
      · have hidden : shown config item = false := by simp [shown, widget]
        rw [if_pos widget, hidden]
        rfl
      · have same : shown config item.outlined = shown config item := rfl
        rw [if_neg widget, same]
        split <;> rfl

/-- With the conversion, a page makes the calls of its outlined page without it, unit by unit. -/
theorem units_outlined (same : config.SameBut .fillToStroke config')
    (converts : config.strokesFills = true) (page : Page α) :
    units page config = units page.outlined config' := by
  have like : config.PaintsLike config' := same.paintsLike (by decide)
  have printing : config.flags.has .printing = config'.flags.has .printing :=
    same.flags .printing (by decide)
  have annotations : config.flags.has .annotations = config'.flags.has .annotations :=
    same.flags .annotations (by decide)
  rw [units, units, filter_shown_outlined, ← same.rect, ← same.rotation, ← annotations,
    ← shown_congr printing]
  refine congr (congrArg HAppend.hAppend ?_) ?_
  · change _ = (page.objects.map PageObject.outlined).map _
    rw [List.map_map]
    refine List.map_congr_left fun item _ => ?_
    rw [Function.comp_apply, PageObject.blend_outlined, ← object_outlined like converts]
    rfl
  · split
    · rw [List.map_map]
      exact List.map_congr_left fun item _ => annot_outlined like converts item
    · rfl

theorem overlay_outlined (same : config.SameBut .fillToStroke config') (page : Page α)
    (color? : Option Argb) :
    overlay (.ofPage color?) page config = overlay (.ofPage color?) page.outlined config' :=
  (same.formsLike (by decide)).overlay_eq rfl rfl page.widgets_outlined.symm

end PaintingOrder

end PagePaint
