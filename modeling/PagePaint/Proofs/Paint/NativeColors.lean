import PagePaint.Proofs.Paint.Congruence
import PagePaint.Proofs.Paint.Recolor

set_option autoImplicit false

/-!
# What a scheme lets through of native colours

Under a scheme the calls of a page depend on its native colours through their alphas only, and on a
shading through its largest alpha. Pages that differ in nothing else are painted by the same calls.
-/

namespace PagePaint

variable {α : Type}

/-!
## Objects that differ in their colours
-/

structure PathObject.SameButColors (left right : PathObject α) : Prop where
  outline : left.outline = right.outline
  transform : left.transform = right.transform
  strokeStyle : left.strokeStyle = right.strokeStyle
  blend : left.blend = right.blend
  fill : Option.Rel
    (fun fill fill' => fill.rule = fill'.rule ∧ fill.color.alpha = fill'.color.alpha)
    left.fill right.fill
  stroke : Option.Rel (fun own own' => own.alpha = own'.alpha) left.stroke right.stroke

/-- Runs of glyphs that agree in everything but the red, green and blue of the colours they are
painted in, and in the colours they are not painted in. -/
structure TextObject.SameButColors (left right : TextObject α) : Prop where
  glyphs : left.glyphs = right.glyphs
  fontSize : left.fontSize = right.fontSize
  transform : left.transform = right.transform
  mode : left.mode = right.mode
  strokeStyle : left.strokeStyle = right.strokeStyle
  blend : left.blend = right.blend
  fill : left.mode.fills = true → left.fillColor.alpha = right.fillColor.alpha
  stroke : left.mode.strokes = true → left.strokeColor.alpha = right.strokeColor.alpha

structure ShadingObject.SameButColors (left right : ShadingObject α) : Prop where
  area : left.area = right.area
  transform : left.transform = right.transform
  blend : left.blend = right.blend
  opacity : ∃ alpha, left.shading.LargestAlpha alpha ∧ right.shading.LargestAlpha alpha

inductive PageObject.SameButColors : PageObject α → PageObject α → Prop where
  | path {left right : PathObject α} (same : left.SameButColors right) :
      SameButColors (.path left) (.path right)
  | text {left right : TextObject α} (same : left.SameButColors right) :
      SameButColors (.text left) (.text right)
  | image (item : ImageObject α) : SameButColors (.image item) (.image item)
  | shading {left right : ShadingObject α} (same : left.SameButColors right) :
      SameButColors (.shading left) (.shading right)

structure Annot.SameButColors (left right : Annot α) : Prop where
  subtype : left.subtype = right.subtype
  rect : left.rect = right.rect
  flags : left.flags = right.flags
  blend : left.blend = right.blend
  appearance : List.Forall₂ PageObject.SameButColors left.appearance right.appearance
  widget : left.subtype = .widget → left.appearance = right.appearance

/-- Pages that agree in everything but the colours of their objects and of the appearances of
annotations other than widgets. -/
structure Page.SameButColors (left right : Page α) : Prop where
  width : left.width = right.width
  height : left.height = right.height
  objects : List.Forall₂ PageObject.SameButColors left.objects right.objects
  annots : List.Forall₂ Annot.SameButColors left.annots right.annots

private theorem Shading.LargestAlpha.maxAlpha_eq {shading : Shading α} {alpha : UInt8}
    (largest : shading.LargestAlpha alpha) : shading.maxAlpha = alpha := by
  rcases largest with ⟨none, rfl⟩ | ⟨⟨stop, member, rfl⟩, bounds⟩
  · rw [maxAlpha, none]
  · rcases shading.maxAlpha_largest with ⟨none, -⟩ | ⟨⟨other, member', same⟩, bounds'⟩
    · rw [none] at member
      cases member
    · refine UInt8.le_antisymm ?_ (bounds' stop member)
      rw [← same]
      exact bounds other member'

theorem PageObject.SameButColors.blend_eq {left right : PageObject α}
    (same : left.SameButColors right) : left.blend = right.blend := by
  cases same with
  | path same => exact same.blend
  | text same => exact same.blend
  | image item => rfl
  | shading same => exact same.blend

theorem Page.SameButColors.widgets_eq {left right : Page α} (same : left.SameButColors right) :
    left.widgets = right.widgets := by
  obtain ⟨-, -, -, annots⟩ := same
  rw [Page.widgets, Page.widgets]
  generalize left.annots = listed at annots ⊢
  generalize right.annots = listed' at annots ⊢
  induction annots with
  | nil => rfl
  | @cons annot annot' rest rest' pair _ ih =>
      obtain ⟨subtype, rect, flags, blend, appearance⟩ := annot
      obtain ⟨subtype', rect', flags', blend', appearance'⟩ := annot'
      obtain ⟨rfl, rfl, rfl, rfl, -, widget⟩ := pair
      rw [List.filter_cons, List.filter_cons, ih]
      by_cases kept : subtype = .widget
      · obtain rfl : appearance = appearance' := widget kept
        rfl
      · have other : ∀ items : List (PageObject α),
            Annot.isWidget ⟨subtype, rect, flags, blend, items⟩ = false :=
          fun _ => beq_eq_false_iff_ne.mpr kept
        rw [other, other]
        rfl

/-!
## The calls under a scheme
-/

theorem map_eq_of_forall₂ {β γ δ : Type} {related : β → γ → Prop} {left : β → δ} {right : γ → δ}
    {entries : List β} {entries' : List γ} (paired : List.Forall₂ related entries entries')
    (each : ∀ entry entry', related entry entry' → left entry = right entry') :
    entries.map left = entries'.map right := by
  rw [← List.forall₂_eq_eq_eq]
  exact List.rel_map each paired

namespace PaintingOrder

variable [Scalar α] {config : Config} {base : Transform α}

theorem color_eq_of_alpha (schemed : config.scheme.isSome) (role : PaintRole) {own own' : Argb}
    (alpha : own.alpha = own'.alpha) : color config role own = color config role own' := by
  obtain ⟨scheme, chosen⟩ := Option.isSome_iff_exists.mp schemed
  simp only [color, chosen, alpha]

section Schemed

variable (schemed : config.scheme.isSome)
include schemed

private theorem path_sameButColors {left right : PathObject α} (same : left.SameButColors right)
    (blend : BlendMode) : path base config left blend = path base config right blend := by
  obtain ⟨outline, transform, fill, stroke, strokeStyle, own⟩ := left
  obtain ⟨outline', transform', fill', stroke', strokeStyle', own'⟩ := right
  obtain ⟨rfl, rfl, rfl, rfl, fills, strokes⟩ := same
  -- Whether there is a fill and a stroke is the same; whatever is painted has the same alpha.
  simp only [path]
  cases fills with
  | none =>
      cases strokes with
      | none => rfl
      | some alpha =>
          simp [color_eq_of_alpha schemed _ alpha]
  | @some fill fill' rules =>
      obtain ⟨rule, alpha⟩ := rules
      cases strokes with
      | none => simp [color_eq_of_alpha schemed _ alpha, rule]
      | some alpha' =>
          simp [color_eq_of_alpha schemed _ alpha, color_eq_of_alpha schemed _ alpha', rule]

private theorem text_sameButColors {left right : TextObject α} (same : left.SameButColors right)
    (blend : BlendMode) : text base config left blend = text base config right blend := by
  simp only [text, ← same.glyphs, ← same.fontSize, ← same.transform, ← same.mode,
    ← same.strokeStyle]
  refine ite_congr rfl (fun _ => rfl) fun _ => ?_
  rw [List.flatMap_def, List.flatMap_def]
  refine congrArg List.flatten (List.map_congr_left fun glyph _ => congrArg₂ HAppend.hAppend ?_ ?_)
  · refine ite_congr rfl (fun fills => ?_) fun _ => rfl
    rw [color_eq_of_alpha schemed .textFill (same.fill fills)]
  · refine ite_congr rfl (fun strokes => ?_) fun _ => rfl
    rw [color_eq_of_alpha schemed .textStroke (same.stroke strokes)]

private theorem shading_sameButColors {left right : ShadingObject α}
    (same : left.SameButColors right) (blend : BlendMode) :
    shading base config left blend = shading base config right blend := by
  obtain ⟨scheme, chosen⟩ := Option.isSome_iff_exists.mp schemed
  obtain ⟨alpha, largest, largest'⟩ := same.opacity
  simp only [shading, chosen, same.area, same.transform, largest.maxAlpha_eq,
    largest'.maxAlpha_eq]

theorem object_sameButColors {left right : PageObject α} (same : left.SameButColors right)
    (blend : BlendMode) : object base config left blend = object base config right blend := by
  cases same with
  | path same => exact path_sameButColors schemed same blend
  | text same => exact text_sameButColors schemed same blend
  | image item => rfl
  | shading same => exact shading_sameButColors schemed same blend

private theorem annot_sameButColors {left right : Annot α} (same : left.SameButColors right) :
    annot base config left = annot base config right := by
  rw [annot, annot, List.flatMap_def, List.flatMap_def]
  refine congrArg List.flatten (map_eq_of_forall₂ same.appearance fun _ _ pair => ?_)
  rw [same.blend, pair.blend_eq]
  exact object_sameButColors schemed pair _

/-- Under a scheme, pages that differ in colours only are painted by the same calls. -/
theorem units_sameButColors {left right : Page α} (same : left.SameButColors right) :
    units left config = units right config := by
  have shownAlike (annot annot' : Annot α) (pair : annot.SameButColors annot') :
      shown config annot = true ↔ shown config annot' = true := by
    rw [shown, shown, pair.subtype, pair.flags]
  simp only [units, same.width, same.height]
  refine congrArg₂ HAppend.hAppend (map_eq_of_forall₂ same.objects fun _ _ pair => ?_) ?_
  · rw [pair.blend_eq]
    exact object_sameButColors schemed pair _
  · split
    · exact map_eq_of_forall₂ (List.rel_filter shownAlike same.annots)
        fun _ _ => annot_sameButColors schemed
    · rfl

end Schemed

end PaintingOrder

end PagePaint
