import PagePaint.Proofs.Geometry.Display

set_option autoImplicit false

/-!
# Transforms one after the other

Composing takes a shorter way where one side is the identity or neither side has skew. Over exact
scalars every way gives the same transform, the one that moves points by the inner side and then by
the outer one.
-/

namespace PagePaint

theorem Scalar.magnitude_eq_abs (value : ℚ) : Scalar.magnitude value = |value| := by
  change (if value < 0 then -value else value) = |value|
  split
  · rename_i negative
    exact (abs_of_neg negative).symm
  · rename_i nonneg
    exact (abs_of_nonneg (not_lt.mp nonneg)).symm

namespace Transform

private theorem isIdentity_iff {transform : Transform ℚ} :
    transform.isIdentity = true ↔ transform = .identity := by
  cases transform
  simp [isIdentity, identity, Scalar.same, and_assoc]

private theorem hasSkew_eq_false_iff {transform : Transform ℚ} :
    transform.hasSkew = false ↔ transform.kx = 0 ∧ transform.ky = 0 := by
  simp [hasSkew, Scalar.same, Scalar.zero, Scalar.ofInt]

theorem after_eq (outer inner : Transform ℚ) :
    outer.after inner =
      { sx := outer.sx * inner.sx + outer.kx * inner.ky
        ky := outer.ky * inner.sx + outer.sy * inner.ky
        kx := outer.sx * inner.kx + outer.kx * inner.sy
        sy := outer.ky * inner.kx + outer.sy * inner.sy
        tx := outer.sx * inner.tx + outer.kx * inner.ty + outer.tx
        ty := outer.ky * inner.tx + outer.sy * inner.ty + outer.ty } := by
  have zero : (Scalar.zero : ℚ) = 0 := rfl
  have one : (Scalar.one : ℚ) = 1 := rfl
  unfold after
  split
  · rename_i same
    rw [isIdentity_iff.mp same]
    simp [identity, zero, one]
  split
  · rename_i same
    rw [isIdentity_iff.mp same]
    simp [identity, zero, one]
  split
  · rename_i straight
    simp only [Bool.and_eq_true, Bool.not_eq_true', hasSkew_eq_false_iff] at straight
    obtain ⟨⟨kx, ky⟩, kx', ky'⟩ := straight
    simp [kx, ky, kx', ky', zero]
  · rfl

/-- A composition moves points by its inner side first. -/
theorem apply_after (outer inner : Transform ℚ) (point : Point ℚ) :
    (outer.after inner).apply point = outer.apply (inner.apply point) := by
  rw [after_eq]
  simp only [apply, Point.mk.injEq]
  constructor <;> ring

theorem apply_shifting (x y : ℚ) (point : Point ℚ) :
    (shifting x y).apply point = ⟨x + point.x, y + point.y⟩ := by
  simp [shifting, apply, Scalar.zero, Scalar.one, Scalar.ofInt, add_comm]

theorem apply_scaling (x y : ℚ) (point : Point ℚ) :
    (scaling x y).apply point = ⟨x * point.x, y * point.y⟩ := by
  simp [scaling, apply, Scalar.zero, Scalar.ofInt]

theorem determinant_after (outer inner : Transform ℚ) :
    (outer.after inner).determinant = outer.determinant * inner.determinant := by
  rw [after_eq]
  simp only [determinant]
  ring

theorem apply_injective {transform : Transform ℚ} (regular : transform.determinant ≠ 0) :
    Function.Injective transform.apply := by
  rintro ⟨x, y⟩ ⟨x', y'⟩ same
  simp only [apply, Point.mk.injEq] at same
  obtain ⟨across, down⟩ := same
  -- Each coordinate is found by eliminating the other one.
  have horizontal : transform.determinant * (x - x') = 0 := by
    simp only [determinant]
    linear_combination transform.sy * across - transform.kx * down
  have vertical : transform.determinant * (y - y') = 0 := by
    simp only [determinant]
    linear_combination transform.sx * down - transform.ky * across
  rw [Point.mk.injEq]
  exact ⟨sub_eq_zero.mp ((mul_eq_zero_iff_left regular).mp horizontal),
    sub_eq_zero.mp ((mul_eq_zero_iff_left regular).mp vertical)⟩

end Transform

end PagePaint
