import PagePaint.Proofs.Paint.Overlay
import PagePaint.Proofs.Paint.Recolor

set_option autoImplicit false

/-!
# Pages that need no alpha channel

Whether a page needs an alpha channel is told from its objects and annotations before anything is
painted. If it needs none, and the scheme does not bring alpha in, every call hides what is under
it: the normal blend mode, and full alpha everywhere.
-/

namespace PagePaint

variable {α : Type}

structure ImageObject.Solid (image : ImageObject α) : Prop where
  opacity : image.opacity = 255
  pixels : ∀ index, 4 * index + 3 < image.bytes.size → image.bytes[4 * index + 3]? = some 255

/-- A call that paints with the normal blend mode and with full alpha only. -/
def PaintCall.Solid : PaintCall α → Prop
  | .clear _ => False
  | .fill _ paint _ _ | .stroke _ paint _ _ => paint.blend = .normal ∧ paint.color.alpha = 255
  | .shade _ shading blend _ _ =>
    blend = .normal ∧ ∀ stop ∈ shading.stops, stop.color.alpha = 255
  | .image drawn blend _ _ => blend = .normal ∧ drawn.Solid

def Config.SolidScheme (config : Config) : Prop :=
  ∀ scheme, config.scheme = some scheme → ∀ role, (scheme.pick role).alpha = 255

private theorem Config.withoutScheme_solidScheme (config : Config) :
    config.withoutScheme.SolidScheme :=
  nofun

theorem Argb.modulateAlpha_full {entry : Argb} (full : entry.alpha = 255) :
    (entry.modulateAlpha 255).alpha = 255 := by
  have product := (modulateAlpha_tintedBy entry 255).alpha
  rw [full] at product
  exact UInt8.toNat_inj.mp product

private theorem Shading.maxAlpha_full {shading : Shading α}
    (full : ∀ stop ∈ shading.stops, stop.color.alpha = 255) : shading.maxAlpha = 255 := by
  rcases shading.maxAlpha_largest with ⟨-, same⟩ | ⟨⟨stop, member, same⟩, -⟩
  · exact same
  · rw [← same]
    exact full stop member

/-!
## What needs no alpha channel
-/

private theorem ImageObject.solid_of_isTranslucent {image : ImageObject α}
    (solid : image.isTranslucent = false) : image.Solid := by
  simp only [isTranslucent, Bool.or_eq_false_iff, bne_eq_false_iff_eq, Bool.not_eq_false'] at solid
  obtain ⟨opacity, pixels⟩ := solid
  refine ⟨opacity, fun index complete => ?_⟩
  have counted : index ∈ List.range (image.bytes.size / 4) := List.mem_range.mpr (by omega)
  exact eq_of_beq (List.all_eq_true.mp pixels index counted)

namespace PageObject

private theorem needsAlpha_eq_false_iff {item : PageObject α} :
    item.needsAlpha = false ↔ item.blend = .normal ∧ item.paintsTranslucent = false := by
  rw [needsAlpha, Bool.or_eq_false_iff, bne_eq_false_iff_eq]

end PageObject

theorem Page.needsAlpha_eq_false_iff {page : Page α} :
    page.needsAlpha = false ↔
      (∀ item ∈ page.objects, item.needsAlpha = false) ∧
        ∀ annot ∈ page.annots, annot.blend = .normal ∧
          ∀ item ∈ annot.appearance, item.needsAlpha = false := by
  simp only [needsAlpha, Bool.or_eq_false_iff, List.any_eq_false, Bool.not_eq_true,
    bne_eq_false_iff_eq]

namespace PaintingOrder

variable {config : Config}

theorem color_full (scheme : config.SolidScheme) (role : PaintRole) {own : Argb}
    (full : own.alpha = 255) : (color config role own).alpha = 255 := by
  cases chosen : config.scheme with
  | none => simpa only [color, chosen] using full
  | some entries =>
      simp only [color, chosen, full]
      exact Argb.modulateAlpha_full (scheme entries chosen role)

/-!
## Calls of objects, annotations and pages
-/

variable [Scalar α] {base : Transform α} {call : PaintCall α}

private theorem solid_of_mem_path (scheme : config.SolidScheme) {item : PathObject α}
    (solid : (PageObject.path item).paintsTranslucent = false)
    (made : call ∈ path base config item .normal) : call.Solid := by
  simp only [PageObject.paintsTranslucent, Bool.or_eq_false_iff, Option.any_eq_false,
    bne_eq_false_iff_eq] at solid
  obtain ⟨fills, strokes⟩ := solid
  simp only [path] at made
  split at made
  · -- A fill that is turned into a stroke brings its own colour along.
    obtain ⟨own, chosen, rfl⟩ := List.mem_map.mp made
    refine ⟨rfl, color_full scheme _ ?_⟩
    cases stroked : item.stroke with
    | some stroke =>
        obtain rfl : own = stroke := by simpa [stroked] using chosen
        exact strokes own stroked
    | none =>
        obtain ⟨fill, filled, rfl⟩ : ∃ fill, item.fill = some fill ∧ fill.color = own := by
          simpa [stroked] using chosen
        exact fills fill filled
  · rcases List.mem_append.mp made with filled | stroked
    · obtain ⟨own, chosen, rfl⟩ := List.mem_map.mp filled
      exact ⟨rfl, color_full scheme _ (fills own (Option.mem_toList.mp chosen))⟩
    · obtain ⟨own, chosen, rfl⟩ := List.mem_map.mp stroked
      exact ⟨rfl, color_full scheme _ (strokes own (Option.mem_toList.mp chosen))⟩

private theorem solid_of_mem_text (scheme : config.SolidScheme) {item : TextObject α}
    (solid : (PageObject.text item).paintsTranslucent = false)
    (made : call ∈ text base config item .normal) : call.Solid := by
  simp only [PageObject.paintsTranslucent, Bool.or_eq_false_iff, Bool.and_eq_false_imp,
    bne_eq_false_iff_eq] at solid
  obtain ⟨fills, strokes⟩ := solid
  simp only [text] at made
  split at made
  · cases made
  · obtain ⟨glyph, -, made⟩ := List.mem_flatMap.mp made
    rcases List.mem_append.mp made with filled | stroked
    · split at filled
      next mode =>
        cases List.mem_singleton.mp filled
        exact ⟨rfl, color_full scheme _ (fills mode)⟩
      next => cases filled
    · split at stroked
      next mode =>
        cases List.mem_singleton.mp stroked
        exact ⟨rfl, color_full scheme _ (strokes mode)⟩
      next => cases stroked

private theorem solid_of_mem_image {item : ImageObject α}
    (solid : (PageObject.image item).paintsTranslucent = false)
    (made : call ∈ image base config item .normal) : call.Solid := by
  simp only [image] at made
  split at made
  · cases made
  · cases List.mem_singleton.mp made
    exact ⟨rfl, ImageObject.solid_of_isTranslucent solid⟩

private theorem solid_of_mem_shading (scheme : config.SolidScheme) {item : ShadingObject α}
    (solid : (PageObject.shading item).paintsTranslucent = false)
    (made : call ∈ shading base config item .normal) : call.Solid := by
  simp only [PageObject.paintsTranslucent, List.any_eq_false, Bool.not_eq_true,
    bne_eq_false_iff_eq] at solid
  simp only [shading] at made
  split at made
  next entries chosen =>
    cases List.mem_singleton.mp made
    rw [Shading.maxAlpha_full solid]
    exact ⟨rfl, Argb.modulateAlpha_full (scheme entries chosen .pathFill)⟩
  next =>
    cases List.mem_singleton.mp made
    exact ⟨rfl, solid⟩

theorem solid_of_mem_object (scheme : config.SolidScheme) {item : PageObject α}
    (solid : item.needsAlpha = false) (made : call ∈ object base config item item.blend) :
    call.Solid := by
  obtain ⟨normal, solid⟩ := PageObject.needsAlpha_eq_false_iff.mp solid
  rw [normal] at made
  cases item with
  | path item => exact solid_of_mem_path scheme solid made
  | text item => exact solid_of_mem_text scheme solid made
  | image item => exact solid_of_mem_image solid made
  | shading item => exact solid_of_mem_shading scheme solid made

theorem solid_of_mem_annot (scheme : config.SolidScheme) {item : Annot α}
    (normal : item.blend = .normal)
    (solid : ∀ object ∈ item.appearance, object.needsAlpha = false)
    (made : call ∈ annot base config item) : call.Solid := by
  obtain ⟨object, member, made⟩ := List.mem_flatMap.mp made
  rw [if_pos normal] at made
  exact solid_of_mem_object scheme (solid object member) made

/-- The base pass of a page that needs no alpha channel. Annotations that are not shown make no
call, whatever they consist of. -/
theorem solid_of_mem_units (scheme : config.SolidScheme) {page : Page α}
    (solid : page.needsAlpha = false) {unit : List (PaintCall α)}
    (listed : unit ∈ units page config) (made : call ∈ unit) : call.Solid := by
  obtain ⟨objects, annots⟩ := Page.needsAlpha_eq_false_iff.mp solid
  rcases List.mem_append.mp listed with unitOfObject | unitOfAnnot
  · obtain ⟨item, member, rfl⟩ := List.mem_map.mp unitOfObject
    exact solid_of_mem_object scheme (objects item member) made
  · obtain ⟨item, member, rfl⟩ := List.mem_map.mp unitOfAnnot
    split at member
    · obtain ⟨normal, appearance⟩ := annots item (List.mem_filter.mp member).1
      exact solid_of_mem_annot scheme normal appearance made
    · cases member

/-- The widgets of such a page, with no highlight under them. They take their own colours, so the
scheme does not matter. -/
theorem solid_of_mem_overlay {page : Page α} (solid : page.needsAlpha = false)
    (made : call ∈ overlay (.ofPage none) page config) : call.Solid := by
  obtain ⟨-, annots⟩ := Page.needsAlpha_eq_false_iff.mp solid
  obtain ⟨item, member, made⟩ := List.mem_flatMap.mp made
  have widget : item ∈ page.widgets := (List.mem_filter.mp member).1
  obtain ⟨normal, appearance⟩ := annots item (List.mem_filter.mp widget).1
  exact solid_of_mem_annot config.withoutScheme_solidScheme normal appearance made

end PaintingOrder

end PagePaint
