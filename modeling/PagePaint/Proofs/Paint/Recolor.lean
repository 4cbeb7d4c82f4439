import Mathlib.Data.List.Forall2
import PagePaint.Proofs.Paint.Congruence

set_option autoImplicit false

/-!
# What a colour scheme does to the painting order

A scheme that leaves fills as fills replaces colours by role and makes a shading flat. It moves no
call, drops none and adds none. The calls of a page are compared together with the objects they come
from, since the role of a colour depends on the object.
-/

namespace PagePaint

variable {α : Type}

theorem forall₂_flatMap {β γ δ : Type} {related : γ → δ → Prop} {left : β → List γ}
    {right : β → List δ} {entries : List β}
    (each : ∀ entry ∈ entries, List.Forall₂ related (left entry) (right entry)) :
    List.Forall₂ related (entries.flatMap left) (entries.flatMap right) := by
  induction entries with
  | nil => exact .nil
  | cons entry rest ih =>
      obtain ⟨first, others⟩ := List.forall_mem_cons.mp each
      exact List.rel_append first (ih others)

/-!
## Tints
-/

namespace Argb

structure TintedBy (color entry : Argb) (own : UInt8) : Prop where
  red : color.red = entry.red
  green : color.green = entry.green
  blue : color.blue = entry.blue
  alpha : color.alpha.toNat = (entry.alpha.toNat * own.toNat + 127) / 255
  bounded : color.alpha ≤ own

private theorem channels_ofChannels (red green blue alpha : UInt8) :
    (ofChannels red green blue alpha).red = red ∧
      (ofChannels red green blue alpha).green = green ∧
      (ofChannels red green blue alpha).blue = blue := by
  refine ⟨?_, ?_, ?_⟩
  all_goals
    apply UInt8.eq_of_toBitVec_eq
    apply BitVec.eq_of_getLsbD_eq
    intro bit inside
  · simp only [Argb.red, ofChannels]
    simp [BitVec.getLsbD_ushiftRight]
    grind
  · simp only [Argb.green, ofChannels]
    simp [BitVec.getLsbD_ushiftRight]
    grind
  · simp [Argb.blue, ofChannels, inside]

theorem alphaProduct_le (left right : UInt8) :
    (left.toNat * right.toNat + 127) / 255 ≤ right.toNat := by
  have bounded : left.toNat * right.toNat ≤ 255 * right.toNat :=
    Nat.mul_le_mul_right _ (Nat.le_of_lt_succ left.toNat_lt)
  omega

private theorem alphaProduct_toNat (left right : UInt8) :
    (alphaProduct left right).toNat = (left.toNat * right.toNat + 127) / 255 := by
  have small := alphaProduct_le left right
  have bounded := right.toNat_lt
  rw [alphaProduct, UInt8.toNat_ofNat']
  omega

theorem modulateAlpha_tintedBy (entry : Argb) (own : UInt8) :
    (entry.modulateAlpha own).TintedBy entry own where
  red := (channels_ofChannels _ _ _ _).1
  green := (channels_ofChannels _ _ _ _).2.1
  blue := (channels_ofChannels _ _ _ _).2.2
  alpha := (congrArg UInt8.toNat (alpha_ofChannels _ _ _ _)).trans (alphaProduct_toNat _ _)
  bounded := by
    rw [modulateAlpha, withAlpha, alpha_ofChannels, UInt8.le_iff_toNat_le, alphaProduct_toNat]
    exact alphaProduct_le _ _

end Argb

namespace Shading

def LargestAlpha (shading : Shading α) (alpha : UInt8) : Prop :=
  shading.stops = [] ∧ alpha = 255 ∨
    (∃ stop ∈ shading.stops, stop.color.alpha = alpha) ∧
      ∀ stop ∈ shading.stops, stop.color.alpha ≤ alpha

private theorem foldl_alpha (stops : List (ColorStop α)) (first : UInt8) :
    let largest := stops.foldl
      (fun alpha stop => if alpha < stop.color.alpha then stop.color.alpha else alpha) first
    (largest = first ∨ ∃ stop ∈ stops, stop.color.alpha = largest) ∧ first ≤ largest ∧
      ∀ stop ∈ stops, stop.color.alpha ≤ largest := by
  induction stops generalizing first with
  | nil => exact ⟨.inl rfl, UInt8.le_refl _, List.forall_mem_nil _⟩
  | cons stop rest ih =>
      rw [List.foldl_cons]
      split
      · rename_i less
        obtain ⟨origin, above, bounds⟩ := ih stop.color.alpha
        refine ⟨.inr ?_, UInt8.le_trans (UInt8.le_of_lt less) above,
          List.forall_mem_cons.mpr ⟨above, bounds⟩⟩
        rcases origin with same | ⟨other, member, same⟩
        · exact ⟨stop, List.mem_cons_self, same.symm⟩
        · exact ⟨other, List.mem_cons_of_mem _ member, same⟩
      · rename_i notLess
        obtain ⟨origin, above, bounds⟩ := ih first
        refine ⟨?_, above, List.forall_mem_cons.mpr
          ⟨UInt8.le_trans (UInt8.not_lt.mp notLess) above, bounds⟩⟩
        rcases origin with same | ⟨other, member, same⟩
        · exact .inl same
        · exact .inr ⟨other, List.mem_cons_of_mem _ member, same⟩

theorem maxAlpha_largest (shading : Shading α) : shading.LargestAlpha shading.maxAlpha := by
  simp only [maxAlpha, LargestAlpha]
  cases shading.stops with
  | nil => exact .inl ⟨rfl, rfl⟩
  | cons first rest =>
      obtain ⟨origin, above, bounds⟩ := foldl_alpha rest first.color.alpha
      refine .inr ⟨?_, List.forall_mem_cons.mpr ⟨above, bounds⟩⟩
      rcases origin with same | ⟨stop, member, same⟩
      · exact ⟨first, List.mem_cons_self, same.symm⟩
      · exact ⟨stop, List.mem_cons_of_mem _ member, same⟩

end Shading

/-!
## Calls and the objects they come from
-/

/-- What a scheme makes of a call that paints an object in its own colours. -/
inductive Recolors (scheme : ColorScheme) : PageObject α → PaintCall α → PaintCall α → Prop where
  | pathFill {item : PathObject α} {outline : Outline α} {own color : Argb} {blend : BlendMode}
      {smooth : Bool} {rule : FillRule} {transform : Transform α}
      (tinted : color.TintedBy scheme.pathFill own.alpha) :
      Recolors scheme (.path item) (.fill outline ⟨own, blend, smooth⟩ rule transform)
        (.fill outline ⟨color, blend, smooth⟩ rule transform)
  | pathStroke {item : PathObject α} {outline : Outline α} {own color : Argb} {blend : BlendMode}
      {smooth : Bool} {style : StrokeStyle α} {transform : Transform α}
      (tinted : color.TintedBy scheme.pathStroke own.alpha) :
      Recolors scheme (.path item) (.stroke outline ⟨own, blend, smooth⟩ style transform)
        (.stroke outline ⟨color, blend, smooth⟩ style transform)
  | textFill {item : TextObject α} {outline : Outline α} {own color : Argb} {blend : BlendMode}
      {smooth : Bool} {rule : FillRule} {transform : Transform α}
      (tinted : color.TintedBy scheme.textFill own.alpha) :
      Recolors scheme (.text item) (.fill outline ⟨own, blend, smooth⟩ rule transform)
        (.fill outline ⟨color, blend, smooth⟩ rule transform)
  | textStroke {item : TextObject α} {outline : Outline α} {own color : Argb} {blend : BlendMode}
      {smooth : Bool} {style : StrokeStyle α} {transform : Transform α}
      (tinted : color.TintedBy scheme.textStroke own.alpha) :
      Recolors scheme (.text item) (.stroke outline ⟨own, blend, smooth⟩ style transform)
        (.stroke outline ⟨color, blend, smooth⟩ style transform)
  | image {item : ImageObject α} (call : PaintCall α) : Recolors scheme (.image item) call call
  | shading {item : ShadingObject α} {area : Outline α} {shading : Shading α} {opacity : UInt8}
      {color : Argb} {blend : BlendMode} {smooth : Bool} {transform : Transform α}
      (largest : shading.LargestAlpha opacity)
      (tinted : color.TintedBy scheme.pathFill opacity) :
      Recolors scheme (.shading item) (.shade area shading blend smooth transform)
        (.fill area ⟨color, blend, smooth⟩ .nonZero transform)

namespace PaintingOrder

variable [Scalar α]

section Objects

variable {config : Config} {scheme : ColorScheme} {base : Transform α} {blend : BlendMode}

private theorem path_recolors (unconverted : config.flags.has .fillToStroke = false)
    (item : PathObject α) :
    List.Forall₂ (Recolors scheme (.path item)) (path base config.withoutScheme item blend)
      (path base (config.withScheme scheme) item blend) := by
  -- Only the flag together with a scheme would turn the fill into a stroke.
  have fills : ¬((config.withScheme scheme).scheme.isSome ∧
      (config.withScheme scheme).flags.has .fillToStroke ∧ item.fill.isSome) := by
    rintro ⟨-, converted, -⟩
    cases unconverted.symm.trans converted
  have nativeFills : ¬(config.withoutScheme.scheme.isSome ∧
      config.withoutScheme.flags.has .fillToStroke ∧ item.fill.isSome) := nofun
  simp only [path, if_neg fills, if_neg nativeFills]
  refine List.rel_append ?_ ?_
  · cases item.fill with
    | none => exact .nil
    | some own => exact .cons (.pathFill (Argb.modulateAlpha_tintedBy _ _)) .nil
  · cases item.stroke with
    | none => exact .nil
    | some own => exact .cons (.pathStroke (Argb.modulateAlpha_tintedBy _ _)) .nil

private theorem text_recolors (item : TextObject α) :
    List.Forall₂ (Recolors scheme (.text item)) (text base config.withoutScheme item blend)
      (text base (config.withScheme scheme) item blend) := by
  simp only [text]
  split
  · exact .nil
  · refine forall₂_flatMap fun glyph _ => List.rel_append ?_ ?_
    · split
      · exact .cons (.textFill (Argb.modulateAlpha_tintedBy _ _)) .nil
      · exact .nil
    · split
      · exact .cons (.textStroke (Argb.modulateAlpha_tintedBy _ _)) .nil
      · exact .nil

private theorem image_recolors (item : ImageObject α) :
    List.Forall₂ (Recolors scheme (.image item)) (image base config.withoutScheme item blend)
      (image base (config.withScheme scheme) item blend) := by
  simp only [image]
  split
  · exact .nil
  · exact .cons (.image _) .nil

private theorem shading_recolors (item : ShadingObject α) :
    List.Forall₂ (Recolors scheme (.shading item))
      (shading base config.withoutScheme item blend)
      (shading base (config.withScheme scheme) item blend) :=
  .cons (.shading item.shading.maxAlpha_largest (Argb.modulateAlpha_tintedBy _ _)) .nil

theorem object_recolors (unconverted : config.flags.has .fillToStroke = false)
    (item : PageObject α) :
    List.Forall₂ (Recolors scheme item) (object base config.withoutScheme item blend)
      (object base (config.withScheme scheme) item blend) := by
  cases item with
  | path item => exact path_recolors unconverted item
  | text item => exact text_recolors item
  | image item => exact image_recolors item
  | shading item => exact shading_recolors item

end Objects

/-- The objects that the base pass paints, in order, with the blend modes they are painted in. -/
def contents (page : Page α) (config : Config) : List (PageObject α × BlendMode) :=
  page.objects.map (fun item => (item, item.blend)) ++
    (if config.flags.has .annotations then page.annots.filter (shown config) else []).flatMap
      fun annot => annot.appearance.map fun item =>
        (item, if annot.blend = .normal then item.blend else annot.blend)

/-- The calls of the base pass after the background, each with the object it comes from. -/
def sourced (page : Page α) (config : Config) : List (PageObject α × PaintCall α) :=
  (contents page config).flatMap fun entry =>
    (object (displayTransform page.width page.height config.rect config.rotation) config entry.1
      entry.2).map fun call => (entry.1, call)

theorem sourced_calls (page : Page α) (config : Config) :
    (sourced page config).map Prod.snd = (units page config).flatten := by
  have calls : (sourced page config).map Prod.snd = (contents page config).flatMap fun entry =>
      object (displayTransform page.width page.height config.rect config.rotation) config entry.1
        entry.2 := by
    simp only [sourced, List.map_flatMap, List.map_map, Function.comp_def, List.map_id']
  rw [calls, contents, units, List.flatMap_append, List.flatten_append, List.flatMap_map,
    List.flatMap_assoc, ← List.flatMap_def, ← List.flatMap_def]
  simp only [List.flatMap_map]
  rfl

/-!
## Base passes over the same objects
-/

section Passes

variable {config config' : Config} {related : PageObject α → PaintCall α → PaintCall α → Prop}

omit [Scalar α] in
private theorem contents_eq (like : config.ShowsLike config') (page : Page α) :
    contents page config = contents page config' := by
  simp only [contents, like.annotations, shown_congr like.printing]

/-- What holds of the calls of each object holds of those of the units. -/
theorem units_related (like : config.ShowsLike config')
    (objects : ∀ base item blend, List.Forall₂ (related item) (object base config item blend)
      (object base config' item blend)) (page : Page α) :
    List.Forall₂ (List.Forall₂ fun call call' => ∃ item, related item call call')
      (units page config) (units page config') := by
  have painted (base : Transform α) (item : PageObject α) (blend : BlendMode) :
      List.Forall₂ (fun call call' => ∃ item, related item call call')
        (object base config item blend) (object base config' item blend) :=
    (objects base item blend).imp fun _ _ holds => ⟨item, holds⟩
  simp only [units, ← like.rect, ← like.rotation, ← like.annotations,
    ← shown_congr like.printing]
  refine List.rel_append ?_ ?_
  · rw [List.forall₂_map_left_iff, List.forall₂_map_right_iff]
    exact List.forall₂_same.mpr fun item _ => painted _ item item.blend
  · rw [List.forall₂_map_left_iff, List.forall₂_map_right_iff]
    exact List.forall₂_same.mpr fun annot _ => forall₂_flatMap fun item _ => painted _ item _

theorem sourced_related (like : config.ShowsLike config')
    (objects : ∀ base item blend, List.Forall₂ (related item) (object base config item blend)
      (object base config' item blend)) (page : Page α) :
    List.Forall₂ (fun entry entry' => entry.1 = entry'.1 ∧ related entry.1 entry.2 entry'.2)
      (sourced page config) (sourced page config') := by
  rw [sourced, sourced, ← contents_eq like, ← like.rect, ← like.rotation]
  refine forall₂_flatMap fun entry _ => ?_
  rw [List.forall₂_map_left_iff, List.forall₂_map_right_iff]
  exact (objects _ entry.1 entry.2).imp fun _ _ holds => ⟨rfl, holds⟩

end Passes

theorem withScheme_showsLike (config : Config) (scheme : ColorScheme) :
    config.withoutScheme.ShowsLike (config.withScheme scheme) :=
  ⟨rfl, rfl, rfl, rfl⟩

theorem units_recolors {config : Config} (unconverted : config.flags.has .fillToStroke = false)
    (page : Page α) (scheme : ColorScheme) :
    List.Forall₂ (List.Forall₂ fun call call' => ∃ item, Recolors scheme item call call')
      (units page config.withoutScheme) (units page (config.withScheme scheme)) :=
  units_related (withScheme_showsLike config scheme)
    (fun _ item _ => object_recolors unconverted item) page

/-- With a scheme the base pass makes a recoloured call for each call it makes without one. -/
theorem sourced_recolors {config : Config}
    (unconverted : config.flags.has .fillToStroke = false) (page : Page α)
    (scheme : ColorScheme) :
    List.Forall₂ (fun left right => left.1 = right.1 ∧ Recolors scheme left.1 left.2 right.2)
      (sourced page config.withoutScheme) (sourced page (config.withScheme scheme)) :=
  sourced_related (withScheme_showsLike config scheme)
    (fun _ item _ => object_recolors unconverted item) page

end PaintingOrder

end PagePaint
