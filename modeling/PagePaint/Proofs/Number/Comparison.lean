import PagePaint.Proofs.Number.Rounding

set_option autoImplicit false

/-!
# Comparing and cutting off

Single-precision numbers compare like the rationals they stand for, and cutting off the fraction of
one gives the whole part of its rational.
-/

namespace PagePaint.Binary32

open Float.Model (Format UnpackedFloat)
open Float.Model.UnpackedFloat

variable {x y : Float32} {left right : UnpackedFloat} {first second value : ℚ}

/-!
## Order
-/

/-- At different exponents the exponents decide: the larger one has a full significand. -/
theorem Canonical.lt_of_exponent_lt {significand significand' : Nat} {exponent exponent' : Int}
    (left : Canonical significand exponent) (right : Canonical significand' exponent')
    (below : exponent < exponent') :
    (significand : ℚ) * 2 ^ exponent < significand' * 2 ^ exponent' := by
  have full : (2 : ℚ) ^ 23 ≤ significand' := by
    have := right.full.resolve_right (by have := left.lowest; omega)
    exact_mod_cast this
  have short : (significand : ℚ) < 2 ^ 24 := by exact_mod_cast left.short
  calc (significand : ℚ) * 2 ^ exponent < 2 ^ 24 * 2 ^ exponent := by gcongr
    _ = 2 ^ 23 * 2 ^ (exponent + 1) := by rw [zpow_add_one₀ two_ne_zero]; ring
    _ ≤ 2 ^ 23 * 2 ^ exponent' := by
        gcongr
        · exact one_le_two
        · omega
    _ ≤ significand' * 2 ^ exponent' := by gcongr

private theorem Canonical.compare_eq {significand significand' : Nat} {exponent exponent' : Int}
    (left : Canonical significand exponent) (right : Canonical significand' exponent') :
    (compare exponent exponent').then (compare significand significand') =
      compare ((significand : ℚ) * 2 ^ exponent) (significand' * 2 ^ exponent') := by
  rcases lt_trichotomy exponent exponent' with below | rfl | above
  · rw [compare_lt_iff_lt.mpr below, compare_lt_iff_lt.mpr (left.lt_of_exponent_lt right below)]
    rfl
  · rw [compare_eq_iff_eq.mpr rfl, Ordering.eq_then]
    have scale : (0 : ℚ) < 2 ^ exponent := by positivity
    rcases lt_trichotomy significand significand' with less | rfl | more
    · rw [compare_lt_iff_lt.mpr less, compare_lt_iff_lt.mpr]
      gcongr
    · rw [compare_eq_iff_eq.mpr rfl, compare_eq_iff_eq.mpr rfl]
    · rw [compare_gt_iff_gt.mpr more, compare_gt_iff_gt.mpr]
      gcongr
  · rw [compare_gt_iff_gt.mpr above, compare_gt_iff_gt.mpr (right.lt_of_exponent_lt left above)]
    rfl

private theorem swap_compare (first second : ℚ) :
    (compare first second).swap = compare (-first) (-second) := by
  rcases lt_trichotomy first second with less | rfl | more
  · rw [compare_lt_iff_lt.mpr less, compare_gt_iff_gt.mpr (neg_lt_neg less)]
    rfl
  · rw [compare_eq_iff_eq.mpr rfl, compare_eq_iff_eq.mpr rfl]
    rfl
  · rw [compare_gt_iff_gt.mpr more, compare_lt_iff_lt.mpr (neg_lt_neg more)]
    rfl

theorem Denotes.compare_eq (leftDenotes : Denotes left first)
    (rightDenotes : Denotes right second) : left.compare right = some (compare first second) := by
  cases leftDenotes with
  | zero sign =>
      cases rightDenotes with
      | zero other => rw [compare_eq_iff_eq.mpr rfl]; rfl
      | @finite other significand exponent positive canonical =>
          have magnitude : (0 : ℚ) < significand * 2 ^ exponent := by positivity
          cases other with
          | positive => rw [compare_lt_iff_lt.mpr (by simpa [Sign.apply])]; rfl
          | negative => rw [compare_gt_iff_gt.mpr (by simpa [Sign.apply])]; rfl
  | @finite sign significand exponent positive canonical =>
      have magnitude : (0 : ℚ) < significand * 2 ^ exponent := by positivity
      cases rightDenotes with
      | zero =>
          cases sign with
          | positive => rw [compare_gt_iff_gt.mpr (by simpa [Sign.apply])]; rfl
          | negative => rw [compare_lt_iff_lt.mpr (by simpa [Sign.apply])]; rfl
      | @finite other significand' exponent' positive' canonical' =>
          have magnitude' : (0 : ℚ) < significand' * 2 ^ exponent' := by positivity
          cases sign with
          | positive =>
              cases other with
              | positive =>
                  exact congrArg some (canonical.compare_eq canonical')
              | negative =>
                  have more := (neg_neg_of_pos magnitude').trans magnitude
                  rw [compare_gt_iff_gt.mpr (by simpa [Sign.apply])]; rfl
          | negative =>
              cases other with
              | positive =>
                  have less := (neg_neg_of_pos magnitude).trans magnitude'
                  rw [compare_lt_iff_lt.mpr (by simpa [Sign.apply])]; rfl
              | negative =>
                  simp only [Sign.apply, Int.cast_neg, Int.cast_natCast, neg_mul]
                  rw [← swap_compare, ← canonical.compare_eq canonical']
                  rfl

theorem Stands.lt_iff (left : Stands x first) (right : Stands y second) :
    x < y ↔ first < second := by
  refine decide_eq_true_iff.trans ?_
  change (x.toModel.unpack.compare y.toModel.unpack == some .lt) = true ↔ _
  rw [Denotes.compare_eq left right, beq_iff_eq, Option.some_inj, compare_lt_iff_lt]

theorem Stands.le_iff (left : Stands x first) (right : Stands y second) :
    x ≤ y ↔ first ≤ second := by
  refine decide_eq_true_iff.trans ?_
  change (x.toModel.unpack.compare y.toModel.unpack).any Ordering.isLE = true ↔ _
  rw [Denotes.compare_eq left right, Option.any_some, ← compare_le_iff_le]
  cases compare first second <;> decide

theorem Stands.beq_iff (left : Stands x first) (right : Stands y second) :
    (x == y) = true ↔ first = second := by
  change (x.toModel.unpack.compare y.toModel.unpack == some .eq) = true ↔ _
  rw [Denotes.compare_eq left right, beq_iff_eq, Option.some_inj, compare_eq_iff_eq]

/-!
## Whole parts
-/

private theorem roundToInt_eq (sign : Sign) (significand : Nat) (exponent : Int) :
    roundToInt sign significand exponent =
      sign.apply (significand <<< exponent.toNat / 2 ^ (-exponent).toNat : Nat) := by
  have places : (0 - (exponent - (exponent - 0).toNat)).toNat = (-exponent).toNat := by omega
  change sign.apply ((ExtendedMantissa.ofMantissaAndAccuracy
    (significand <<< (exponent - 0).toNat) .exact >>>
      (0 - (exponent - (exponent - 0).toNat)).toNat).mantissa : Nat) = _
  rw [shiftRight_mantissa, places, Int.sub_zero]
  rfl

theorem floor_significand (significand : Nat) (exponent : Int) :
    ⌊(significand : ℚ) * 2 ^ exponent⌋₊ =
      significand <<< exponent.toNat / 2 ^ (-exponent).toNat := by
  have quotient : (significand : ℚ) * 2 ^ exponent =
      (significand <<< exponent.toNat : Nat) / (2 ^ (-exponent).toNat : Nat) := by
    have split : exponent = (exponent.toNat : Int) - (-exponent).toNat := by omega
    rw [Nat.shiftLeft_eq]
    conv_lhs => rw [split, zpow_sub₀ two_ne_zero, zpow_natCast, zpow_natCast]
    push_cast
    ring
  rw [quotient]
  exact Nat.floor_div_eq_div _ _

private theorem Denotes.toInt {number : UnpackedFloat} (denotes : Denotes number value)
    (nonneg : 0 ≤ value) (lowest highest : Int) :
    (number.toInt lowest highest).toNat = ⌊value⌋₊ := by
  cases denotes with
  | zero => rw [Nat.floor_zero]; rfl
  | @finite sign significand exponent positive =>
      cases sign with
      | negative =>
          have magnitude : (0 : ℚ) < significand * 2 ^ exponent := by positivity
          simp only [Sign.apply] at nonneg
          push_cast at nonneg
          linarith
      | positive =>
          change (roundToInt .positive significand exponent).toNat = _
          rw [roundToInt_eq]
          exact (floor_significand significand exponent).symm

theorem Stands.toUInt8_eq (stands : Stands x value) {whole : UInt8} (least : whole.toNat ≤ value)
    (most : value < whole.toNat + 1) : x.toUInt8 = whole := by
  have nonneg : 0 ≤ value := (Nat.cast_nonneg _).trans least
  have floor : ⌊value⌋₊ = whole.toNat := (Nat.floor_eq_iff nonneg).mpr ⟨least, most⟩
  change UInt8.ofNatClamp (x.toModel.unpack.toInt 0 255).toNat = whole
  rw [Denotes.toInt stands nonneg, floor, UInt8.ofNatClamp_eq_ofNat _ whole.toNat_lt,
    UInt8.ofNat_toNat]

end PagePaint.Binary32
