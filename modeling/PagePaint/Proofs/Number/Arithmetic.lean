import PagePaint.Proofs.Number.Rounding

set_option autoImplicit false

/-!
# Arithmetic with errors

Sums, differences and products of single-precision numbers are computed exactly and then rounded.
The errors of a longer computation add up, those of a factor multiplied by the other one.
-/

namespace PagePaint.Binary32

open Float.Model (Format UnpackedFloat)
open Float.Model.UnpackedFloat

theorem signed_value (sign : Sign) (significand : Nat) {exponent lower : Int}
    (below : lower ≤ exponent) :
    ((sign.apply (significand <<< (exponent - lower).toNat : Nat) : Int) : ℚ) * 2 ^ lower =
      (sign.apply significand : Int) * 2 ^ exponent := by
  rw [cast_apply, cast_apply sign significand, mul_assoc, mul_assoc, shiftLeft_value _ below]

theorem Denotes.neg {number : UnpackedFloat} {value : ℚ} (denotes : Denotes number value) :
    Denotes number.neg (-value) := by
  cases denotes with
  | zero sign =>
      rw [neg_zero]
      exact .zero _
  | @finite sign significand exponent positive canonical =>
      have negated : -(((sign.apply significand : Int) : ℚ) * 2 ^ exponent) =
          ((-sign).apply significand : Int) * 2 ^ exponent := by
        rw [neg_apply, Int.cast_neg, neg_mul]
      rw [negated]
      exact .finite _ positive canonical

variable {left right : UnpackedFloat} {first second : ℚ} {size : Int}

theorem Denotes.add (leftDenotes : Denotes left first) (rightDenotes : Denotes right second)
    (sized : Sized size) (small : |first + second| < 2 ^ size) :
    Rounds (left.add .binary32 right) (first + second) size := by
  cases leftDenotes with
  | zero sign =>
      rw [zero_add]
      cases rightDenotes with
      | zero other => cases sign <;> cases other <;> exact (Denotes.zero _).rounds size
      | finite other positive canonical =>
          exact (Denotes.finite other positive canonical).rounds size
  | @finite sign significand exponent positive canonical =>
      cases rightDenotes with
      | zero =>
          rw [add_zero]
          exact (Denotes.finite sign positive canonical).rounds size
      | @finite other significand' exponent' =>
          rw [← signed_value sign significand (min_le_left exponent exponent'),
            ← signed_value other significand' (min_le_right exponent exponent'), ← add_mul,
            ← Int.cast_add] at small ⊢
          exact normalize_rounds .positive sized small

theorem sub_eq_add (left right : UnpackedFloat) :
    left.sub .binary32 right = left.add .binary32 right.neg := by
  cases left with
  | notANumber | infinity | zero => cases right <;> rfl
  | finite =>
      cases right with
      | notANumber | infinity | zero => rfl
      | finite =>
          simp only [UnpackedFloat.sub, UnpackedFloat.add, UnpackedFloat.neg, neg_apply,
            Int.sub_eq_add_neg]

private theorem Denotes.sub (leftDenotes : Denotes left first) (rightDenotes : Denotes right second)
    (sized : Sized size) (small : |first - second| < 2 ^ size) :
    Rounds (left.sub .binary32 right) (first - second) size := by
  rw [sub_eq_add]
  rw [sub_eq_add_neg] at small ⊢
  exact leftDenotes.add rightDenotes.neg sized small

theorem Canonical.enough {significand significand' : Nat} {exponent exponent' : Int}
    (left : Canonical significand exponent) (right : Canonical significand' exponent')
    (positive : 0 < significand) (positive' : 0 < significand') :
    exponent + exponent' ≤ target (significand * significand') (exponent + exponent') := by
  have long (long : 2 ^ 23 ≤ significand * significand') :
      23 ≤ (significand * significand').log2 := (Nat.le_log2 (by positivity)).mpr long
  simp only [target]
  rcases left.full with full | lowest
  · have := long (full.trans (Nat.le_mul_of_pos_right _ positive'))
    omega
  · rcases right.full with full | lowest'
    · have := long (full.trans (Nat.le_mul_of_pos_left _ positive))
      omega
    · omega

private theorem Denotes.mul (leftDenotes : Denotes left first) (rightDenotes : Denotes right second)
    (sized : Sized size) (small : |first * second| < 2 ^ size) :
    Rounds (left.mul .binary32 right) (first * second) size := by
  cases leftDenotes with
  | zero sign =>
      rw [zero_mul]
      cases rightDenotes <;> exact (Denotes.zero _).rounds size
  | @finite sign significand exponent positive canonical =>
      cases rightDenotes with
      | zero =>
          rw [mul_zero]
          exact (Denotes.zero _).rounds size
      | @finite other significand' exponent' positive' canonical' =>
          have product : ((sign.apply significand : Int) : ℚ) * 2 ^ exponent *
              ((other.apply significand' : Int) * 2 ^ exponent') =
                ((sign * other).apply (significand * significand' : Nat) : Int) *
                  2 ^ (exponent + exponent') := by
            rw [Nat.cast_mul, apply_mul_apply, zpow_add₀ two_ne_zero, Int.cast_mul]
            ring
          rw [product] at small ⊢
          refine roundWithAccuracy_rounds (sign * other) _ _ (Nat.mul_pos positive positive')
            (canonical.enough canonical' positive positive') sized ?_
          rwa [cast_apply, mul_assoc, abs_mul, abs_sign, one_mul, abs_of_nonneg (by positivity)]
            at small

/-!
## Words
-/

/-- A number that stands for a rational next to another. -/
def Near (number : Float32) (exact error : ℚ) : Prop :=
  ∃ value, Stands number value ∧ |value - exact| ≤ error

theorem Rounds.near {number : UnpackedFloat} {exact : ℚ} (rounds : Rounds number exact size) :
    Near (.ofModel (.pack number)) exact (2 ^ (size - 24)) := by
  obtain ⟨value, denotes, close⟩ := rounds
  exact ⟨value, denotes.stands, close⟩

variable {x y : Float32}

private theorem Stands.add (left : Stands x first) (right : Stands y second) (sized : Sized size)
    (small : |first + second| < 2 ^ size) : Near (x + y) (first + second) (2 ^ (size - 24)) :=
  (Denotes.add left right sized small).near

private theorem Stands.sub (left : Stands x first) (right : Stands y second) (sized : Sized size)
    (small : |first - second| < 2 ^ size) : Near (x - y) (first - second) (2 ^ (size - 24)) :=
  (Denotes.sub left right sized small).near

theorem Stands.mul (left : Stands x first) (right : Stands y second) (sized : Sized size)
    (small : |first * second| < 2 ^ size) : Near (x * y) (first * second) (2 ^ (size - 24)) :=
  (Denotes.mul left right sized small).near

/-!
## Errors that add up
-/

theorem Stands.near (stands : Stands x first) : Near x first 0 :=
  ⟨first, stands, by rw [sub_self, abs_zero]⟩

variable {leftError rightError : ℚ}

theorem Near.nonneg (near : Near x first leftError) : 0 ≤ leftError := by
  obtain ⟨value, -, close⟩ := near
  exact (abs_nonneg _).trans close

theorem Near.mono (near : Near x first leftError) (larger : leftError ≤ rightError) :
    Near x first rightError := by
  obtain ⟨value, stands, close⟩ := near
  exact ⟨value, stands, close.trans larger⟩

/-- An operation on numbers next to the exact ones is off by their errors and one rounding. -/
theorem Near.rounded {number : Float32} {exact value error : ℚ} (apart : |value - exact| ≤ error)
    (rounds : |value| < 2 ^ size → Near number value (2 ^ (size - 24)))
    (small : |exact| + error < 2 ^ size) : Near number exact (error + 2 ^ (size - 24)) := by
  have near := abs_sub_abs_le_abs_sub value exact
  obtain ⟨rounded, stands, close⟩ := rounds (by linarith)
  have whole := abs_sub_le rounded value exact
  exact ⟨rounded, stands, by linarith⟩

theorem Near.add (left : Near x first leftError) (right : Near y second rightError)
    (sized : Sized size) (small : |first + second| + (leftError + rightError) < 2 ^ size) :
    Near (x + y) (first + second) (leftError + rightError + 2 ^ (size - 24)) := by
  obtain ⟨value, stands, close⟩ := left
  obtain ⟨value', stands', close'⟩ := right
  refine .rounded ?_ (stands.add stands' sized) small
  rw [add_sub_add_comm]
  exact (abs_add_le _ _).trans (add_le_add close close')

theorem Near.sub (left : Near x first leftError) (right : Near y second rightError)
    (sized : Sized size) (small : |first - second| + (leftError + rightError) < 2 ^ size) :
    Near (x - y) (first - second) (leftError + rightError + 2 ^ (size - 24)) := by
  obtain ⟨value, stands, close⟩ := left
  obtain ⟨value', stands', close'⟩ := right
  refine .rounded ?_ (stands.sub stands' sized) small
  rw [sub_sub_sub_comm]
  exact (abs_sub _ _).trans (add_le_add close close')

theorem Near.mul (bound bound' : ℚ) (left : Near x first leftError)
    (right : Near y second rightError) (leftBound : |first| ≤ bound)
    (rightBound : |second| + rightError ≤ bound') (sized : Sized size)
    (small : bound * bound' + (leftError * bound' + bound * rightError) < 2 ^ size) :
    Near (x * y) (first * second) (leftError * bound' + bound * rightError + 2 ^ (size - 24)) := by
  obtain ⟨value, stands, close⟩ := left
  obtain ⟨value', stands', close'⟩ := right
  have nonneg : 0 ≤ rightError := (abs_nonneg _).trans close'
  have bounded : |value'| ≤ bound' := by
    have := abs_sub_abs_le_abs_sub value' second
    linarith
  have split : value * value' - first * second =
      (value - first) * value' + first * (value' - second) := by ring
  refine .rounded ?_ (stands.mul stands' sized) ?_
  · rw [split]
    refine (abs_add_le _ _).trans ?_
    rw [abs_mul, abs_mul]
    exact add_le_add (mul_le_mul close bounded (abs_nonneg _) ((abs_nonneg _).trans close))
      (mul_le_mul leftBound close' (abs_nonneg _) ((abs_nonneg _).trans leftBound))
  · refine lt_of_le_of_lt (add_le_add_left ?_ _) small
    rw [abs_mul]
    exact mul_le_mul leftBound (by linarith) (abs_nonneg _) ((abs_nonneg _).trans leftBound)

end PagePaint.Binary32
