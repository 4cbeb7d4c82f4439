import PagePaint.Proofs.Number.Significand

set_option autoImplicit false

/-!
# Rounding

What does not fit 24 bits is rounded. Whatever the direction, the result is no more than one step
away from the exact number.
-/

namespace PagePaint.Binary32

open Float.Model (Format UnpackedFloat totalExponent)
open Float.Model.UnpackedFloat

/-- The exponent that a rounded number gets: its significand has 24 bits, or fewer at the lowest
exponent. -/
def target (significand : Nat) (exponent : Int) : Int :=
  max (significand.log2 + 1 + exponent - 24) (-149)

/-!
## Dropping bits
-/

theorem shiftRight_mantissa (extended : ExtendedMantissa) (places : Nat) :
    (extended >>> places).mantissa = extended.mantissa / 2 ^ places := by
  induction places with
  | zero => exact (Nat.div_one _).symm
  | succ places ih =>
      change (extended >>> places).mantissa / 2 = _
      rw [ih, Nat.div_div_eq_div_mul, Nat.pow_succ]

theorem roundedMantissa_bounds (extended : ExtendedMantissa) :
    extended.mantissa ≤ extended.roundedMantissa ∧
      extended.roundedMantissa ≤ extended.mantissa + 1 := by
  obtain ⟨mantissa, roundBit, stickyBit⟩ := extended
  cases roundBit <;> cases stickyBit <;>
    simp only [ExtendedMantissa.roundedMantissa, ExtendedMantissa.accuracy,
      Accuracy.roundToNearestEven] <;> omega

theorem shiftToTargetExponent_eq (significand : Nat) (exponent : Int) :
    let shifted := shiftToTargetExponent .binary32 significand exponent .exact
    let places := (target significand exponent - exponent).toNat
    shifted.1.mantissa = significand / 2 ^ places ∧ shifted.2 = exponent + places :=
  ⟨shiftRight_mantissa _ _, rfl⟩

/-- Rounding drops bits twice: the second time one that rounding up has added. -/
theorem roundWithAccuracy_eq (sign : Sign) (significand : Nat) (exponent : Int) :
    roundWithAccuracy .binary32 sign significand exponent .exact =
      let first := shiftToTargetExponent .binary32 significand exponent .exact
      let last := shiftToTargetExponent .binary32 first.1.roundedMantissa first.2 .exact
      if zero : last.1.mantissa = 0 then .zero sign
      else .finite sign last.1.mantissa last.2 (Nat.pos_of_ne_zero zero) := rfl

theorem denotes_of_significand (sign : Sign) {significand : Nat} {exponent : Int}
    (canonical : significand ≠ 0 → Canonical significand exponent) :
    Denotes
      (if zero : significand = 0 then .zero sign
        else .finite sign significand exponent (Nat.pos_of_ne_zero zero))
      ((sign.apply significand : Int) * 2 ^ exponent) := by
  by_cases zero : significand = 0
  · have none : ((sign.apply significand : Int) : ℚ) * 2 ^ exponent = 0 := by
      subst zero
      cases sign <;> simp [Sign.apply]
    rw [dif_pos zero, none]
    exact .zero sign
  · rw [dif_neg zero]
    exact .finite sign _ (canonical zero)

theorem shift_rounded (rounded : Nat) (exponent : Int) (lowest : -149 ≤ exponent)
    (short : rounded ≤ 2 ^ 24) :
    let last := shiftToTargetExponent .binary32 rounded exponent .exact
    rounded < 2 ^ 24 ∧ last.1.mantissa = rounded ∧ last.2 = exponent ∨
      rounded = 2 ^ 24 ∧ last.1.mantissa = 2 ^ 23 ∧ last.2 = exponent + 1 := by
  obtain ⟨mantissa, shifted⟩ := shiftToTargetExponent_eq rounded exponent
  intro last
  rw [show last.1.mantissa = _ from mantissa, show last.2 = _ from shifted]
  -- Rounding up may have carried into a bit more; that bit pushes out a zero.
  obtain smaller | rfl := Nat.lt_or_eq_of_le short
  · left
    have bits : rounded.log2 ≤ 23 := by
      by_cases zero : rounded = 0
      · simp [zero]
      · exact Nat.lt_succ_iff.mp ((Nat.log2_lt zero).mpr smaller)
    have places : (target rounded exponent - exponent).toNat = 0 := by
      simp only [target]
      omega
    rw [places]
    exact ⟨smaller, Nat.div_one _, Int.add_zero _⟩
  · right
    have places : (target (2 ^ 24) exponent - exponent).toNat = 1 := by
      simp only [target, Nat.log2_two_pow]
      omega
    rw [places]
    exact ⟨rfl, by norm_num, rfl⟩

/-!
## Signs
-/

theorem apply_mul_apply (sign other : Sign) (first second : Int) :
    (sign * other).apply (first * second) = sign.apply first * other.apply second := by
  cases sign with
  | negative =>
      cases other with
      | negative => exact (neg_mul_neg first second).symm
      | positive => exact (neg_mul first second).symm
  | positive =>
      cases other with
      | negative => exact (mul_neg first second).symm
      | positive => rfl

theorem neg_apply (sign : Sign) (magnitude : Int) :
    (-sign).apply magnitude = -sign.apply magnitude := by
  cases sign with
  | negative => exact (neg_neg magnitude).symm
  | positive => rfl

theorem cast_apply (sign : Sign) (magnitude : Nat) :
    ((sign.apply magnitude : Int) : ℚ) = (sign.apply 1 : Int) * magnitude := by
  cases sign <;> simp [Sign.apply]

theorem abs_sign (sign : Sign) : |((sign.apply 1 : Int) : ℚ)| = 1 := by
  cases sign <;> simp [Sign.apply]

/-!
## Shifting up
-/

theorem shiftLeft_value (significand : Nat) {exponent lower : Int} (below : lower ≤ exponent) :
    ((significand <<< (exponent - lower).toNat : Nat) : ℚ) * 2 ^ lower =
      significand * 2 ^ exponent := by
  have places : ((exponent - lower).toNat : Int) + lower = exponent := by omega
  rw [Nat.shiftLeft_eq, Nat.cast_mul, Nat.cast_pow, Nat.cast_ofNat, mul_assoc, ← zpow_natCast,
    ← zpow_add₀ two_ne_zero, places]

theorem log2_shiftLeft {significand : Nat} (positive : 0 < significand) (places : Nat) :
    (significand <<< places).log2 = significand.log2 + places := by
  rw [Nat.shiftLeft_eq]
  refine (Nat.log2_eq_iff (by positivity)).mpr ⟨?_, ?_⟩
  · rw [Nat.pow_add]
    exact Nat.mul_le_mul_right _ (Nat.log2_self_le (by omega))
  · rw [Nat.add_right_comm, Nat.pow_add]
    exact Nat.mul_lt_mul_of_pos_right Nat.lt_log2_self (by positivity)

/-!
## One rounding
-/

theorem kept_bits {significand : Nat} {exponent : Int} (positive : 0 < significand)
    (enough : exponent ≤ target significand exponent) :
    let kept := significand / 2 ^ (target significand exponent - exponent).toNat
    kept < 2 ^ 24 ∧ (2 ^ 23 ≤ kept ∨ target significand exponent = -149) := by
  intro kept
  have nonzero : significand ≠ 0 := by omega
  have targetEq : target significand exponent = max (significand.log2 + 1 + exponent - 24) (-149) :=
    rfl
  constructor
  · refine Nat.div_lt_of_lt_mul ?_
    rw [← Nat.pow_add]
    calc significand < 2 ^ (significand.log2 + 1) := Nat.lt_log2_self
      _ ≤ 2 ^ ((target significand exponent - exponent).toNat + 24) :=
        Nat.pow_le_pow_right (by omega) (by omega)
  · by_cases lowest : target significand exponent = -149
    · exact .inr lowest
    · left
      refine (Nat.le_div_iff_mul_le (by positivity)).mpr ?_
      rw [← Nat.pow_add]
      calc 2 ^ (23 + (target significand exponent - exponent).toNat) ≤ 2 ^ significand.log2 :=
            Nat.pow_le_pow_right (by omega) (by omega)
        _ ≤ significand := Nat.log2_self_le nonzero

/-- A significand with enough bits is rounded to a multiple of the power of two it is aimed at. -/
theorem roundWithAccuracy_multiple (sign : Sign) {significand : Nat} {exponent : Int}
    (positive : 0 < significand) (enough : exponent ≤ target significand exponent)
    (bounded : significand.log2 + exponent ≤ 126) :
    let kept := significand / 2 ^ (target significand exponent - exponent).toNat
    ∃ rounded : Nat, kept ≤ rounded ∧ rounded ≤ kept + 1 ∧
      Denotes (roundWithAccuracy .binary32 sign significand exponent .exact)
        ((sign.apply rounded : Int) * 2 ^ target significand exponent) := by
  intro kept
  obtain ⟨short, full⟩ := kept_bits positive enough
  obtain ⟨whole, shifted⟩ := shiftToTargetExponent_eq significand exponent
  have aimed : -149 ≤ target significand exponent ∧ target significand exponent ≤ 103 := by
    simp only [target]
    omega
  rw [roundWithAccuracy_eq]
  extract_lets first last
  replace whole : first.1.mantissa = kept := whole
  have reached : first.2 = target significand exponent := by
    rw [show first.2 = _ from shifted]
    omega
  obtain ⟨least, most⟩ := roundedMantissa_bounds first.1
  rw [whole] at least most
  refine ⟨first.1.roundedMantissa, least, most, ?_⟩
  have step := shift_rounded first.1.roundedMantissa first.2 (by omega) (by omega)
  obtain ⟨canonical, value⟩ : Canonical last.1.mantissa last.2 ∧
      ((sign.apply first.1.roundedMantissa : Int) : ℚ) * 2 ^ target significand exponent =
        (sign.apply last.1.mantissa : Int) * 2 ^ last.2 := by
    rcases step with ⟨smaller, mantissa, exponentEq⟩ | ⟨carried, mantissa, exponentEq⟩
    · rw [mantissa, exponentEq, reached]
      exact ⟨⟨smaller, aimed.1, by omega, full.imp_left (Nat.le_trans · least)⟩, rfl⟩
    · rw [mantissa, exponentEq, reached, carried]
      refine ⟨⟨by norm_num, by omega, by omega, .inl le_rfl⟩, ?_⟩
      rw [zpow_add_one₀ two_ne_zero, cast_apply, cast_apply sign (2 ^ 23)]
      push_cast
      ring
  rw [value]
  exact denotes_of_significand sign fun _ => canonical

/-!
## Rounding errors
-/

/-- A number within one step of a rational, as the steps are below two to the power of `size`. -/
def Rounds (number : UnpackedFloat) (exact : ℚ) (size : Int) : Prop :=
  ∃ value, Denotes number value ∧ |value - exact| ≤ 2 ^ (size - 24)

theorem Denotes.rounds {number : UnpackedFloat} {value : ℚ} (denotes : Denotes number value)
    (size : Int) : Rounds number value size :=
  ⟨value, denotes, by rw [sub_self, abs_zero]; positivity⟩

structure Sized (size : Int) : Prop where
  lowest : -125 ≤ size
  highest : size ≤ 127

private theorem log2_lt_size {significand : Nat} {exponent size : Int} (positive : 0 < significand)
    (small : (significand : ℚ) * 2 ^ exponent < 2 ^ size) :
    significand.log2 + exponent < size := by
  refine (zpow_lt_zpow_iff_right₀ (one_lt_two : (1 : ℚ) < 2)).mp ?_
  have leading : (2 : ℚ) ^ (significand.log2 : Int) ≤ significand := by
    rw [zpow_natCast]
    exact_mod_cast Nat.log2_self_le (by omega)
  calc (2 : ℚ) ^ (significand.log2 + exponent)
      = 2 ^ (significand.log2 : Int) * 2 ^ exponent := zpow_add₀ two_ne_zero _ _
    _ ≤ significand * 2 ^ exponent := by gcongr
    _ < 2 ^ size := small

private theorem abs_mul_sub_le {value divisor rounded : Nat} (least : value / divisor ≤ rounded)
    (most : rounded ≤ value / divisor + 1) (positive : 0 < divisor) :
    |(rounded * divisor : ℚ) - value| ≤ divisor := by
  have above : rounded * divisor ≤ value + divisor :=
    calc rounded * divisor ≤ (value / divisor + 1) * divisor := Nat.mul_le_mul_right _ most
      _ = value / divisor * divisor + divisor := Nat.succ_mul _ _
      _ ≤ value + divisor := Nat.add_le_add_right (Nat.div_mul_le_self _ _) _
  have below : value ≤ rounded * divisor + divisor :=
    calc value ≤ value / divisor * divisor + divisor := (Nat.lt_div_mul_add positive).le
      _ ≤ rounded * divisor + divisor :=
        Nat.add_le_add_right (Nat.mul_le_mul_right _ least) _
  rw [abs_le]
  constructor
  · have : (value : ℚ) ≤ rounded * divisor + divisor := by exact_mod_cast below
    linarith
  · have : (rounded * divisor : ℚ) ≤ value + divisor := by exact_mod_cast above
    linarith

theorem roundWithAccuracy_rounds (sign : Sign) (significand : Nat) (exponent : Int) {size : Int}
    (positive : 0 < significand) (enough : exponent ≤ target significand exponent)
    (sized : Sized size) (small : (significand : ℚ) * 2 ^ exponent < 2 ^ size) :
    Rounds (roundWithAccuracy .binary32 sign significand exponent .exact)
      ((sign.apply significand : Int) * 2 ^ exponent) size := by
  obtain ⟨lowest, highest⟩ := sized
  have log := log2_lt_size positive small
  obtain ⟨rounded, least, most, denotes⟩ :=
    roundWithAccuracy_multiple sign positive enough (by omega)
  set places := (target significand exponent - exponent).toNat with placesEq
  have aimed : target significand exponent = places + exponent := by omega
  refine ⟨_, denotes, ?_⟩
  have difference : ((sign.apply rounded : Int) : ℚ) * 2 ^ target significand exponent -
      (sign.apply significand : Int) * 2 ^ exponent =
        (sign.apply 1 : Int) * ((rounded * (2 ^ places : Nat) - significand) * 2 ^ exponent) := by
    rw [cast_apply, cast_apply sign significand, aimed, zpow_add₀ two_ne_zero, zpow_natCast]
    push_cast
    ring
  rw [difference, abs_mul, abs_mul, abs_sign, one_mul,
    abs_of_pos (zpow_pos (two_pos : (0 : ℚ) < 2) exponent)]
  calc |(rounded * (2 ^ places : Nat) - significand : ℚ)| * 2 ^ exponent
      ≤ (2 ^ places : Nat) * 2 ^ exponent := by
        gcongr
        exact abs_mul_sub_le least most (by positivity)
    _ = 2 ^ target significand exponent := by
        rw [aimed, zpow_add₀ two_ne_zero, zpow_natCast, Nat.cast_pow, Nat.cast_ofNat]
    _ ≤ 2 ^ (size - 24) := by
        refine zpow_le_zpow_right₀ one_le_two ?_
        simp only [target]
        omega

theorem round_eq (sign : Sign) {significand : Nat} (positive : 0 < significand) (exponent : Int) :
    ∃ longer lower, 0 < longer ∧ lower ≤ target longer lower ∧
      (longer : ℚ) * 2 ^ lower = significand * 2 ^ exponent ∧
      UnpackedFloat.round .binary32 sign significand exponent =
        roundWithAccuracy .binary32 sign longer lower .exact := by
  let more := (exponent - target significand exponent).toNat
  let longer := significand <<< more
  have same : target longer (exponent - more) = target significand exponent := by
    simp only [target, longer, log2_shiftLeft positive]
    omega
  have value : (longer : ℚ) * 2 ^ (exponent - more) = significand * 2 ^ exponent := by
    have shifted := shiftLeft_value significand (by omega : exponent - more ≤ exponent)
    rwa [sub_sub_cancel, Int.toNat_natCast] at shifted
  refine ⟨longer, exponent - more, ?_, by omega, value, rfl⟩
  change 0 < significand <<< more
  rw [Nat.shiftLeft_eq]
  positivity

private theorem round_rounds (sign : Sign) (significand : Nat) (exponent : Int) {size : Int}
    (positive : 0 < significand) (sized : Sized size)
    (small : (significand : ℚ) * 2 ^ exponent < 2 ^ size) :
    Rounds (UnpackedFloat.round .binary32 sign significand exponent)
      ((sign.apply significand : Int) * 2 ^ exponent) size := by
  obtain ⟨longer, lower, longerPositive, enough, value, rounded⟩ := round_eq sign positive exponent
  have rounds := roundWithAccuracy_rounds sign longer lower longerPositive enough sized
    (by rwa [value])
  rw [cast_apply, mul_assoc, value] at rounds
  rwa [rounded, cast_apply, mul_assoc]

theorem normalize_rounds (zeroSign : Sign) {signed exponent size : Int} (sized : Sized size)
    (small : |(signed : ℚ) * 2 ^ exponent| < 2 ^ size) :
    Rounds (UnpackedFloat.normalize .binary32 signed exponent zeroSign) (signed * 2 ^ exponent)
      size := by
  rw [abs_mul, abs_of_pos (zpow_pos (two_pos : (0 : ℚ) < 2) exponent)] at small
  unfold UnpackedFloat.normalize
  rcases lt_trichotomy signed 0 with below | rfl | above
  · obtain ⟨magnitude, rfl⟩ : ∃ magnitude : Nat, signed = -magnitude :=
      ⟨(-signed).toNat, by omega⟩
    rw [compare_lt_iff_lt.mpr below]
    have rounds := round_rounds .negative magnitude exponent (by omega) sized
      (by simpa using small)
    simpa [Sign.apply] using rounds
  · rw [compare_eq_iff_eq.mpr rfl, Int.cast_zero, zero_mul]
    exact (Denotes.zero zeroSign).rounds size
  · obtain ⟨magnitude, rfl⟩ : ∃ magnitude : Nat, signed = magnitude := ⟨signed.toNat, by omega⟩
    rw [compare_gt_iff_gt.mpr above]
    have rounds := round_rounds .positive magnitude exponent (by omega) sized
      (by simpa using small)
    simpa [Sign.apply] using rounds

end PagePaint.Binary32
