import Mathlib
import PagePaint.Geometry.Display

set_option autoImplicit false

/-!
# Where a page comes to lie

Over exact scalars the matrix of a page fills the device rectangle with it, whatever the rotation.
Only the upright matrix has to be looked at: each of the others is the one before it, on the page
as it lies after a quarter turn.
-/

namespace PagePaint

namespace Rect

def area (rect : Rect ℚ) : Set (Point ℚ) :=
  {point | point.x ∈ Set.Icc rect.x rect.right ∧ point.y ∈ Set.Icc rect.y rect.top}

/-- The corners in the order in which the sides join them. Where `y` points down they go clockwise
from the top left one, where it points up counterclockwise from the bottom left one. -/
def corners (rect : Rect ℚ) : List (Point ℚ) :=
  [⟨rect.x, rect.y⟩, ⟨rect.right, rect.y⟩, ⟨rect.right, rect.top⟩, ⟨rect.x, rect.top⟩]

end Rect

/-- The rectangle of a page, its lower left corner at the origin. -/
def pageRect (width height : ℚ) : Rect ℚ := ⟨0, 0, width, height⟩

theorem mem_pageRect_area {width height : ℚ} {point : Point ℚ} :
    point ∈ (pageRect width height).area ↔
      point.x ∈ Set.Icc 0 width ∧ point.y ∈ Set.Icc 0 height := by
  simp [Rect.area, pageRect, Rect.right, Rect.top]

def DeviceRect.exact (device : DeviceRect) : Rect ℚ :=
  ⟨device.x.toInt, device.y.toInt, device.width.toNat, device.height.toNat⟩

namespace Transform

def determinant (transform : Transform ℚ) : ℚ :=
  transform.sx * transform.sy - transform.kx * transform.ky

/-- The transform fills the device rectangle with the page. The page's corners are read clockwise
from the top left one, like those of the device rectangle, where a turned page begins some corners
later. -/
structure Lays (display : Transform ℚ) (page device : Rect ℚ) (turns : Nat) : Prop where
  onto : Set.BijOn display.apply page.area device.area
  corners : page.corners.reverse.map display.apply = device.corners.rotate turns

end Transform

/-!
## Turning the page
-/

variable {width height : ℚ}

def Point.quarterTurn (width : ℚ) (point : Point ℚ) : Point ℚ := ⟨point.y, width - point.x⟩

private theorem turned_bijOn (width height : ℚ) :
    Set.BijOn (Point.quarterTurn width) (pageRect width height).area
      (pageRect height width).area := by
  let turn : Point ℚ ≃ Point ℚ :=
    { toFun := Point.quarterTurn width
      invFun := fun point => ⟨width - point.y, point.x⟩
      left_inv := fun point => by simp [Point.quarterTurn]
      right_inv := fun point => by simp [Point.quarterTurn] }
  refine turn.bijOn fun point => ?_
  change point.quarterTurn width ∈ _ ↔ _
  rw [mem_pageRect_area, mem_pageRect_area, and_comm]
  exact and_congr Set.sub_mem_Icc_zero_iff_right Iff.rfl

private theorem turned_corners (width height : ℚ) :
    (pageRect width height).corners.reverse.map (Point.quarterTurn width) =
      (pageRect height width).corners.reverse.rotate 1 := by
  simp [pageRect, Rect.corners, Rect.right, Rect.top, Point.quarterTurn, List.rotate]

/-- A transform that lays the turned page lays the page with one turn more. -/
theorem Transform.Lays.turn {earlier later : Transform ℚ} {device : Rect ℚ} {turns : Nat}
    (lays : earlier.Lays (pageRect height width) device turns)
    (turned : ∀ point, later.apply point = earlier.apply (point.quarterTurn width)) :
    later.Lays (pageRect width height) device (turns + 1) := by
  have split : later.apply = earlier.apply ∘ Point.quarterTurn width := funext turned
  constructor
  · rw [split]
    exact lays.onto.comp (turned_bijOn width height)
  · rw [split, ← List.map_map, turned_corners, List.map_rotate, lays.corners, List.rotate_rotate]

/-!
## The four rotations
-/

variable {device : DeviceRect}

theorem DeviceRect.exact_sides (nonempty : device.isEmpty = false) :
    0 < device.exact.width ∧ 0 < device.exact.height := by
  simp only [DeviceRect.isEmpty, Bool.or_eq_false_iff, beq_eq_false_iff_ne, ne_eq,
    ← UInt32.toNat_inj, UInt32.toNat_zero] at nonempty
  simp only [DeviceRect.exact, Nat.cast_pos]
  omega

theorem displayTransform_next (device : DeviceRect) (rotation : Rotation) (wide : width ≠ 0)
    (high : height ≠ 0) (point : Point ℚ) :
    (displayTransform width height device rotation.next).apply point =
      (displayTransform height width device rotation).apply (point.quarterTurn width) := by
  cases rotation <;>
    simp only [displayTransform, Rotation.next, Transform.apply, Point.quarterTurn, Scalar.zero,
      Scalar.ofInt, Point.mk.injEq] <;>
    constructor <;> push_cast <;> field_simp <;> ring

private theorem displayTransform_upright (width : ℚ) (high : height ≠ 0) (device : DeviceRect)
    (point : Point ℚ) :
    (displayTransform width height device .upright).apply point =
      ⟨device.exact.width * (point.x / width) + device.exact.x,
        device.exact.height * ((height - point.y) / height) + device.exact.y⟩ := by
  simp only [displayTransform, Transform.apply, DeviceRect.exact, Scalar.zero, Scalar.ofInt,
    Point.mk.injEq]
  constructor <;> push_cast <;> field_simp <;> ring

theorem stretch_mem_Icc {length extent : ℚ} (long : 0 < length) (wide : 0 < extent)
    (start position : ℚ) :
    extent * (position / length) + start ∈ Set.Icc start (start + extent) ↔
      position ∈ Set.Icc 0 length := by
  rw [Set.mem_Icc, Set.mem_Icc, le_add_iff_nonneg_left, add_comm, add_le_add_iff_left,
    mul_nonneg_iff_of_pos_left wide, mul_le_iff_le_one_right wide, div_le_one long,
    le_div_iff₀ long, zero_mul]

private theorem upright_lays (wide : 0 < width) (high : 0 < height)
    (nonempty : device.isEmpty = false) :
    (displayTransform width height device .upright).Lays (pageRect width height) device.exact
      0 := by
  obtain ⟨across, down⟩ := DeviceRect.exact_sides nonempty
  have upright := displayTransform_upright width high.ne' device
  constructor
  · let fill : Point ℚ ≃ Point ℚ :=
      { toFun := (displayTransform width height device .upright).apply
        invFun := fun point =>
          ⟨width * ((point.x - device.exact.x) / device.exact.width),
            height * (1 - (point.y - device.exact.y) / device.exact.height)⟩
        left_inv := fun ⟨x, y⟩ => by
          rw [upright, Point.mk.injEq]
          constructor <;> field_simp <;> ring
        right_inv := fun ⟨x, y⟩ => by
          rw [upright, Point.mk.injEq]
          constructor <;> field_simp <;> ring }
    refine fill.bijOn fun point => ?_
    change (displayTransform width height device .upright).apply point ∈ _ ↔ _
    rw [upright, mem_pageRect_area, ← Set.sub_mem_Icc_zero_iff_right (a := point.y)]
    exact and_congr (stretch_mem_Icc wide across device.exact.x point.x)
      (stretch_mem_Icc high down device.exact.y (height - point.y))
  · simp [pageRect, Rect.corners, Rect.right, Rect.top, upright, wide.ne', high.ne', add_comm]

/-- Every rotation lays the page over the device rectangle, turned as often as it says. -/
theorem displayTransform_lays (rotation : Rotation) (wide : 0 < width) (high : 0 < height)
    (nonempty : device.isEmpty = false) :
    (displayTransform width height device rotation).Lays (pageRect width height) device.exact
      rotation.quarterTurns.toNat := by
  have later {width height : ℚ} (wide : 0 < width) (high : 0 < height) (rotation : Rotation) :=
    displayTransform_next device rotation wide.ne' high.ne'
  have once {width height : ℚ} (wide : 0 < width) (high : 0 < height) :=
    (upright_lays high wide nonempty).turn (later wide high .upright)
  have twice {width height : ℚ} (wide : 0 < width) (high : 0 < height) :=
    (once high wide).turn (later wide high .clockwise90)
  cases rotation with
  | upright => exact upright_lays wide high nonempty
  | clockwise90 => exact once wide high
  | half => exact twice wide high
  | clockwise270 => exact (twice high wide).turn (later wide high .half)

theorem displayTransform_determinant (width height : ℚ) (device : DeviceRect)
    (rotation : Rotation) :
    (displayTransform width height device rotation).determinant =
      -(device.exact.width / width * (device.exact.height / height)) := by
  cases rotation <;>
    simp only [displayTransform, Transform.determinant, DeviceRect.exact, Scalar.zero,
      Scalar.ofInt] <;>
    push_cast <;> ring

theorem displayTransform_regular (rotation : Rotation) (wide : width ≠ 0) (high : height ≠ 0)
    (nonempty : device.isEmpty = false) :
    (displayTransform width height device rotation).determinant ≠ 0 := by
  obtain ⟨across, down⟩ := DeviceRect.exact_sides nonempty
  rw [displayTransform_determinant]
  exact neg_ne_zero.mpr (mul_ne_zero (div_ne_zero across.ne' wide) (div_ne_zero down.ne' high))

private theorem eq_next_of_quarterTurns {rotation turned : Rotation}
    (more : turned.quarterTurns.toNat = (rotation.quarterTurns.toNat + 1) % 4) :
    turned = rotation.next := by
  cases rotation <;> cases turned <;> first | rfl | exact absurd more (by decide)

/-- The matrix of a page maps the page onto the device rectangle, one to one and corner to corner,
the corners moved on clockwise by the rotation; it turns the plane over once. A quarter turn more
is the same as a clockwise quarter turn of the page before, and after the fourth turn the page is
upright again. -/
theorem displayTransform_turns_clockwise (rotation : Rotation) (wide : 0 < width)
    (high : 0 < height) (nonempty : device.isEmpty = false) :
    (displayTransform width height device rotation).Lays (pageRect width height) device.exact
        rotation.quarterTurns.toNat ∧
      (displayTransform width height device rotation).determinant < 0 ∧
      ∀ turned : Rotation,
        turned.quarterTurns.toNat = (rotation.quarterTurns.toNat + 1) % 4 → ∀ point : Point ℚ,
          (displayTransform width height device turned).apply point =
            (displayTransform height width device rotation).apply
              ⟨point.y, width - point.x⟩ := by
  refine ⟨displayTransform_lays rotation wide high nonempty, ?_, ?_⟩
  · obtain ⟨across, down⟩ := DeviceRect.exact_sides nonempty
    rw [displayTransform_determinant, neg_lt_zero]
    positivity
  · intro turned more point
    rw [eq_next_of_quarterTurns more]
    exact displayTransform_next device rotation wide.ne' high.ne' point

/-- A page of 200 by 100 on a device rectangle that is panned: after three turns its top left
corner is at the bottom left, and the fourth turn sets it upright. -/
theorem displayTransform_turns_clockwise_panned :
    let device : DeviceRect := ⟨-10, 20, 50, 80⟩
    let display : Transform ℚ := displayTransform 200 100 device .clockwise270
    (0 : ℚ) < 200 ∧ (0 : ℚ) < 100 ∧ device.isEmpty = false ∧
      Set.BijOn display.apply (pageRect 200 100).area device.exact.area ∧
      (pageRect 200 100).corners.reverse.map display.apply =
        [⟨-10, 100⟩, ⟨-10, 20⟩, ⟨40, 20⟩, ⟨40, 100⟩] ∧
      display.determinant < 0 ∧
      (displayTransform 200 100 device .upright).apply (⟨30, 40⟩ : Point ℚ) =
        (displayTransform 100 200 device .clockwise270).apply ⟨40, 200 - 30⟩ := by
  intro device display
  have wide : (0 : ℚ) < 200 := by norm_num
  have high : (0 : ℚ) < 100 := by norm_num
  have nonempty : device.isEmpty = false := rfl
  obtain ⟨lays, reversed, cycle⟩ :=
    displayTransform_turns_clockwise .clockwise270 wide high nonempty
  exact ⟨wide, high, nonempty, lays.onto, lays.corners.trans (by decide +kernel), reversed,
    cycle .upright rfl ⟨30, 40⟩⟩

end PagePaint
