import PagePaint.Proofs.Geometry.Composition
import PagePaint.Proofs.Paint.Order

set_option autoImplicit false

/-!
# Where images come to lie

The pixels of an image are counted downwards from its top left corner, but the unit square that its
matrix maps to the page is measured upwards. So an image is turned over between its pixels and the
page, and once more, with the page, between there and the device.
-/

namespace PagePaint

namespace Rect

def level (rect : Rect ℚ) (y : ℚ) : Set (Point ℚ) :=
  {point | point.x ∈ Set.Icc rect.x rect.right ∧ point.y = y}

def leftSide (rect : Rect ℚ) : Set (Point ℚ) :=
  {point | point.x = rect.x ∧ point.y ∈ Set.Icc rect.y rect.top}

end Rect

private theorem pixelToUnit_apply (width height : UInt32) (u v : ℚ) :
    (pixelToUnit width height).apply ⟨u, v⟩ = ⟨u / width.toNat, 1 - v / height.toNat⟩ := by
  have zero : (Scalar.zero : ℚ) = 0 := rfl
  have one : (Scalar.one : ℚ) = 1 := rfl
  simp only [pixelToUnit, Transform.apply, zero, one, Scalar.ofInt, Point.mk.injEq]
  constructor <;> push_cast <;> ring

private theorem pixelToUnit_determinant (width height : UInt32) :
    (pixelToUnit width height : Transform ℚ).determinant =
      -(1 / width.toNat * (1 / height.toNat)) := by
  have zero : (Scalar.zero : ℚ) = 0 := rfl
  have one : (Scalar.one : ℚ) = 1 := rfl
  simp only [pixelToUnit, Transform.determinant, zero, one, Scalar.ofInt]
  push_cast
  ring

namespace ImageObject

variable {image : ImageObject ℚ} {rect : Rect ℚ}

/-- The rectangle of an image's pixels, its upper side at zero. -/
def pixelRect (image : ImageObject ℚ) : Rect ℚ := pageRect image.width.toNat image.height.toNat

private theorem mem_pixelRect_leftSide {point : Point ℚ} :
    point ∈ image.pixelRect.leftSide ↔
      point.x = 0 ∧ point.y ∈ Set.Icc 0 (image.height.toNat : ℚ) := by
  simp [Rect.leftSide, pixelRect, pageRect, Rect.top]

private theorem mem_pixelRect_level {point : Point ℚ} {y : ℚ} :
    point ∈ image.pixelRect.level y ↔
      point.x ∈ Set.Icc 0 (image.width.toNat : ℚ) ∧ point.y = y := by
  simp [Rect.level, pixelRect, pageRect, Rect.right]

/-- The image is placed on its page so that it covers a rectangle. -/
def PlacedAt (image : ImageObject ℚ) (rect : Rect ℚ) : Prop :=
  image.transform = (placed image.id image.width image.height image.bytes rect).transform

private theorem PlacedAt.apply (placedAt : image.PlacedAt rect) (point : Point ℚ) :
    image.transform.apply point =
      ⟨rect.x + rect.width * point.x, rect.y + rect.height * point.y⟩ := by
  rw [placedAt]
  simp [placed, ofTransform, Transform.apply, Scalar.zero, Scalar.ofInt, add_comm]

private theorem PlacedAt.determinant (placedAt : image.PlacedAt rect) :
    image.transform.determinant = rect.width * rect.height := by
  rw [placedAt]
  simp [placed, ofTransform, Transform.determinant, Scalar.zero, Scalar.ofInt]

structure Spread (image : ImageObject ℚ) (rect : Rect ℚ) : Prop where
  wide : (0 : ℚ) < image.width.toNat
  high : (0 : ℚ) < image.height.toNat
  across : 0 < rect.width
  up : 0 < rect.height

private theorem Spread.of_pixels (wide : image.width ≠ 0) (high : image.height ≠ 0)
    (across : 0 < rect.width) (up : 0 < rect.height) : Spread image rect := by
  have positive {side : UInt32} (some : side ≠ 0) : (0 : ℚ) < side.toNat := by
    rw [Nat.cast_pos, Nat.pos_iff_ne_zero]
    exact fun none => some (UInt32.toNat_inj.mp none)
  exact ⟨positive wide, positive high, across, up⟩

def onto (spread : Spread image rect) : Point ℚ ≃ Point ℚ where
  toFun point :=
    ⟨rect.width * (point.x / image.width.toNat) + rect.x,
      rect.height * ((image.height.toNat - point.y) / image.height.toNat) + rect.y⟩
  invFun point :=
    ⟨image.width.toNat * ((point.x - rect.x) / rect.width),
      image.height.toNat * (1 - (point.y - rect.y) / rect.height)⟩
  left_inv := by
    rintro ⟨x, y⟩
    obtain ⟨wide, high, across, up⟩ := spread
    rw [Point.mk.injEq]
    constructor <;> field_simp <;> ring
  right_inv := by
    rintro ⟨x, y⟩
    obtain ⟨wide, high, across, up⟩ := spread
    rw [Point.mk.injEq]
    constructor <;> field_simp <;> ring

private theorem PlacedAt.apply_unit (placedAt : image.PlacedAt rect) (spread : Spread image rect)
    (u v : ℚ) :
    image.transform.apply ⟨u / image.width.toNat, 1 - v / image.height.toNat⟩ =
      onto spread ⟨u, v⟩ := by
  have high := spread.high.ne'
  rw [placedAt.apply]
  change _ = (⟨_, _⟩ : Point ℚ)
  rw [Point.mk.injEq]
  constructor
  · exact add_comm _ _
  · rw [sub_div, div_self high, add_comm]

/-- Between its pixels and the page an image is turned over. -/
theorem reversed (spread : Spread image rect) {scale : ℚ} (regular : scale ≠ 0) :
    scale * (rect.width * rect.height) * -(1 / image.width.toNat * (1 / image.height.toNat)) *
      scale < 0 := by
  obtain ⟨wide, high, across, up⟩ := spread
  have positive : 0 < scale * scale *
      (rect.width * rect.height * (1 / image.width.toNat * (1 / image.height.toNat))) :=
    mul_pos (mul_self_pos.mpr regular) (by positivity)
  linarith

section Sides

variable (spread : Spread image rect)

private theorem onto_area : Set.BijOn (onto spread) image.pixelRect.area rect.area := by
  refine (onto spread).bijOn fun point => ?_
  rw [pixelRect, mem_pageRect_area, ← Set.sub_mem_Icc_zero_iff_right (a := point.y)]
  exact and_congr (stretch_mem_Icc spread.wide spread.across rect.x point.x)
    (stretch_mem_Icc spread.high spread.up rect.y _)

private theorem onto_upperSide :
    Set.BijOn (onto spread) (image.pixelRect.level 0) (rect.level rect.top) := by
  refine (onto spread).bijOn fun point => ?_
  rw [mem_pixelRect_level]
  refine and_congr (stretch_mem_Icc spread.wide spread.across rect.x point.x) ?_
  obtain ⟨-, high, -, up⟩ := spread
  change rect.height * ((image.height.toNat - point.y) / image.height.toNat) + rect.y =
    rect.y + rect.height ↔ _
  rw [add_comm rect.y, add_left_inj, mul_eq_left₀ up.ne', div_eq_one_iff_eq high.ne',
    sub_eq_self]

private theorem onto_leftSide :
    Set.BijOn (onto spread) image.pixelRect.leftSide rect.leftSide := by
  refine (onto spread).bijOn fun point => ?_
  rw [mem_pixelRect_leftSide, ← Set.sub_mem_Icc_zero_iff_right (a := point.y)]
  refine and_congr ?_ (stretch_mem_Icc spread.high spread.up rect.y _)
  obtain ⟨wide, -, across, -⟩ := spread
  change rect.width * (point.x / image.width.toNat) + rect.x = rect.x ↔ _
  rw [add_eq_right, mul_eq_zero_iff_left across.ne', div_eq_zero_iff,
    or_iff_left wide.ne']

end Sides

/-- How a transform shows the pixels of an image where a display shows a rectangle of the page:
upper side on upper side, left side on left side, and the corners in the order in which they are met
on a way round, so that nothing is mirrored. -/
structure ShownAt (image : ImageObject ℚ) (rect : Rect ℚ) (display transform : Transform ℚ) :
    Prop where
  area : transform.apply '' image.pixelRect.area = display.apply '' rect.area
  upperSide : transform.apply '' image.pixelRect.level 0 = display.apply '' rect.level rect.top
  leftSide : transform.apply '' image.pixelRect.leftSide = display.apply '' rect.leftSide
  corners : image.pixelRect.corners.map transform.apply = rect.corners.reverse.map display.apply

private theorem shownAt_of_onto {display transform : Transform ℚ} (spread : Spread image rect)
    (split : transform.apply = display.apply ∘ onto spread) :
    image.ShownAt rect display transform := by
  constructor
  case area => rw [split, Set.image_comp, (onto_area spread).image_eq]
  case upperSide => rw [split, Set.image_comp, (onto_upperSide spread).image_eq]
  case leftSide => rw [split, Set.image_comp, (onto_leftSide spread).image_eq]
  case corners =>
    have wide := spread.wide.ne'
    have high := spread.high.ne'
    simp [split, Rect.corners, pixelRect, pageRect, Rect.right, Rect.top, onto, wide, high,
      add_comm]

end ImageObject

namespace Renderer

variable {image : ImageObject ℚ}

private theorem imageTransform_apply (renderer : Renderer ℚ) (u v : ℚ) :
    (renderer.imageTransform image).apply ⟨u, v⟩ =
      renderer.base.apply
        (image.transform.apply ⟨u / image.width.toNat, 1 - v / image.height.toNat⟩) := by
  rw [imageTransform, Transform.apply_after, Transform.apply_after, pixelToUnit_apply]

private theorem imageTransform_determinant (renderer : Renderer ℚ) :
    (renderer.imageTransform image).determinant =
      renderer.base.determinant * image.transform.determinant *
        -(1 / image.width.toNat * (1 / image.height.toNat)) := by
  rw [imageTransform, Transform.determinant_after, Transform.determinant_after,
    pixelToUnit_determinant]

/-- Every image is painted where its matrix and that of its page put it, whatever the rotation of
the page and the skew of the image. An image that was placed at a rectangle fills the place of the
rectangle on the device, its first row along the upper side; unless the page or the
device has no extent, it does so one to one, and turns the plane over exactly if its page does not:
between its pixels and the page it is turned over once, as its rows are counted downwards. -/
theorem images_placed (page : Page ℚ) (config : Config) (policy : ColorPolicy)
    (wide : image.width ≠ 0) (high : image.height ≠ 0) (blend : BlendMode) :
    let display := displayTransform page.width page.height config.rect config.rotation
    ∃ transform,
      ((withPolicy page config policy).objectScript (.image image) blend).calls =
        [.image image blend (!config.flags.has .noSmoothImage) transform] ∧
      (∀ u v : ℚ, transform.apply ⟨u, v⟩ =
        display.apply
          (image.transform.apply ⟨u / image.width.toNat, 1 - v / image.height.toNat⟩)) ∧
      ∀ rect : Rect ℚ, image.PlacedAt rect → 0 < rect.width → 0 < rect.height →
        image.ShownAt rect display transform ∧
          (page.width ≠ 0 → page.height ≠ 0 → config.rect.isEmpty = false →
            Set.BijOn transform.apply image.pixelRect.area (display.apply '' rect.area) ∧
              transform.determinant * display.determinant < 0) := by
  intro display
  let renderer := withPolicy page config policy
  let transform := renderer.imageTransform image
  have pixels (u v : ℚ) : transform.apply ⟨u, v⟩ = display.apply (image.transform.apply
      ⟨u / image.width.toNat, 1 - v / image.height.toNat⟩) := renderer.imageTransform_apply u v
  refine ⟨transform, ?_, pixels, ?_⟩
  · change (renderer.imageScript image blend).calls = _
    rw [imageScript, if_neg (not_or.mpr ⟨wide, high⟩)]
    rfl
  · intro rect placedAt across up
    have spread : ImageObject.Spread image rect := .of_pixels wide high across up
    have split : transform.apply = display.apply ∘ ImageObject.onto spread := by
      funext point
      obtain ⟨u, v⟩ := point
      rw [pixels, placedAt.apply_unit spread]
      rfl
    refine ⟨ImageObject.shownAt_of_onto spread split, fun pageWide pageHigh nonempty => ?_⟩
    have regular : display.determinant ≠ 0 :=
      displayTransform_regular config.rotation pageWide pageHigh nonempty
    have opposite : transform.determinant * display.determinant < 0 := by
      rw [renderer.imageTransform_determinant, placedAt.determinant]
      exact ImageObject.reversed spread regular
    refine ⟨?_, opposite⟩
    rw [← (ImageObject.shownAt_of_onto spread split).area]
    exact (Transform.apply_injective (left_ne_zero_of_mul opposite.ne)).injOn.bijOn_image

/-- An image of three by two pixels on a page that lies on its side: the middle of its lower side
is below the rectangle's middle on the page, which is to the left of it on the device. -/
theorem images_placed_turned :
    let page : Page ℚ := ⟨200, 100, [], []⟩
    let config := (Config.ofRect ⟨-10, 20, 50, 80⟩).withRotation .clockwise90
    let rect : Rect ℚ := ⟨20, 10, 60, 40⟩
    let image : ImageObject ℚ := .placed 7 3 2 #[] rect
    let display := displayTransform page.width page.height config.rect config.rotation
    image.width ≠ 0 ∧ image.height ≠ 0 ∧ (0 < rect.width ∧ 0 < rect.height) ∧
      (page.width ≠ 0 ∧ page.height ≠ 0 ∧ config.rect.isEmpty = false) ∧
      ∃ transform,
        ((withPolicy page config .native).objectScript (.image image) .normal).calls =
          [.image image .normal true transform] ∧
        transform.apply ⟨3 / 2, 2⟩ = ⟨-5, 40⟩ ∧ image.ShownAt rect display transform ∧
        Set.BijOn transform.apply image.pixelRect.area (display.apply '' rect.area) := by
  intro page config rect image display
  have wide : image.width ≠ 0 := by decide
  have high : image.height ≠ 0 := by decide
  have across : 0 < rect.width := by norm_num [rect]
  have up : 0 < rect.height := by norm_num [rect]
  have pageWide : page.width ≠ 0 := by norm_num [page]
  have pageHigh : page.height ≠ 0 := by norm_num [page]
  have nonempty : config.rect.isEmpty = false := rfl
  have smooth : config.flags.has .noSmoothImage = false := by decide +kernel
  obtain ⟨transform, calls, pixels, placed⟩ :=
    images_placed page config .native wide high .normal
  obtain ⟨shown, regular⟩ := placed rect rfl across up
  refine ⟨wide, high, ⟨across, up⟩, ⟨pageWide, pageHigh, nonempty⟩, transform, ?_, ?_, shown,
    (regular pageWide pageHigh nonempty).1⟩
  · rw [calls, smooth]
    rfl
  · rw [pixels]
    decide +kernel

end Renderer

end PagePaint
