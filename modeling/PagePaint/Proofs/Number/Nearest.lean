import PagePaint.Proofs.Number.Rounding

set_option autoImplicit false

/-!
# The nearest number

A number that is computed exactly and then rounded is the nearest one there is, and of two that are
equally near the one with an even significand. The bits that are dropped leave enough behind to
decide this: whether they come to nothing, to less than half a step, to half a step or to more.
-/

namespace PagePaint.Binary32

open Float.Model (UnpackedFloat)
open Float.Model.UnpackedFloat

/-- A significand of 24 bits and an exponent from the lowest on, no matter how large. -/
structure Holds (significand : Nat) (exponent : Int) : Prop where
  short : significand < 2 ^ 24
  lowest : -149 ≤ exponent

/-- The significand and the exponent that are nearest to a rational. The significand is as long as
it can be, and of two it is the even one. -/
structure Nearest (exact : ℚ) (significand : Nat) (exponent : Int) : Prop extends
    Holds significand exponent where
  full : 2 ^ 23 ≤ significand ∨ exponent = -149
  closest : ∀ {other : Nat} {power : Int}, Holds other power →
    |significand * 2 ^ exponent - exact| ≤ |other * 2 ^ power - exact|
  even : ∀ {other : Nat} {power : Int}, Holds other power →
    (other * 2 ^ power : ℚ) ≠ significand * 2 ^ exponent →
    |other * 2 ^ power - exact| ≤ |significand * 2 ^ exponent - exact| → Even significand

/-!
## What the dropped bits leave behind
-/

inductive Dropped : Accuracy → ℚ → Prop where
  | nothing {part : ℚ} (none : part = 0) : Dropped .exact part
  | less {part : ℚ} (some : 0 < part) (less : part < 1 / 2) : Dropped (.inexact .lt) part
  | half {part : ℚ} (half : part = 1 / 2) : Dropped (.inexact .eq) part
  | more {part : ℚ} (more : 1 / 2 < part) (less : part < 1) : Dropped (.inexact .gt) part

/-- A significand whose dropped bits account for the rest of a number. -/
def Represents (extended : ExtendedMantissa) (number : ℚ) : Prop :=
  Dropped extended.accuracy (number - extended.mantissa)

private theorem Dropped.nonneg {accuracy : Accuracy} {part : ℚ} (dropped : Dropped accuracy part) :
    0 ≤ part := by
  cases dropped <;> linarith

theorem mantissa_ofMantissaAndAccuracy (mantissa : Nat) (accuracy : Accuracy) :
    (ExtendedMantissa.ofMantissaAndAccuracy mantissa accuracy).mantissa = mantissa := by
  unfold ExtendedMantissa.ofMantissaAndAccuracy
  split <;> rfl

private theorem ofMantissaAndAccuracy_represents {accuracy : Accuracy} {part : ℚ} (mantissa : Nat)
    (dropped : Dropped accuracy part) :
    Represents (.ofMantissaAndAccuracy mantissa accuracy) (mantissa + part) := by
  have same : (ExtendedMantissa.ofMantissaAndAccuracy mantissa accuracy).accuracy = accuracy := by
    cases dropped <;> rfl
  rw [Represents, same, mantissa_ofMantissaAndAccuracy, add_sub_cancel_left]
  exact dropped

private theorem Dropped.halved {mantissa : Nat} {roundBit stickyBit : Bool} {part : ℚ}
    (dropped : Dropped (ExtendedMantissa.mk mantissa roundBit stickyBit).accuracy part) :
    Dropped (ExtendedMantissa.mk mantissa roundBit stickyBit).shiftRightOne.accuracy
      ((part + (mantissa % 2 : Nat)) / 2) := by
  unfold ExtendedMantissa.shiftRightOne
  rcases Nat.mod_two_eq_zero_or_one mantissa with last | last <;> rw [last]
  · rw [Nat.cast_zero, add_zero]
    cases roundBit <;> cases stickyBit <;> cases dropped
    · exact .nothing (by linarith)
    all_goals exact .less (by linarith) (by linarith)
  · rw [Nat.cast_one]
    cases roundBit <;> cases stickyBit <;> cases dropped
    · exact .half (by linarith)
    all_goals exact .more (by linarith) (by linarith)

private theorem Represents.shiftRightOne {extended : ExtendedMantissa} {number : ℚ}
    (represents : Represents extended number) :
    Represents extended.shiftRightOne (number / 2) := by
  have halved := Dropped.halved represents
  have whole : ((extended.mantissa % 2 : Nat) : ℚ) + 2 * (extended.mantissa / 2 : Nat) =
      extended.mantissa := by
    exact_mod_cast Nat.mod_add_div extended.mantissa 2
  have rest : number / 2 - (extended.mantissa / 2 : Nat) =
      (number - extended.mantissa + (extended.mantissa % 2 : Nat)) / 2 := by
    linarith
  unfold Represents
  rw [show extended.shiftRightOne.mantissa = extended.mantissa / 2 from rfl, rest]
  exact halved

private theorem Represents.shiftRight {extended : ExtendedMantissa} {number : ℚ}
    (represents : Represents extended number) (places : Nat) :
    Represents (extended >>> places) (number / 2 ^ places) := by
  induction places with
  | zero => rwa [pow_zero, div_one]
  | succ places ih =>
      rw [pow_succ, ← div_div]
      exact ih.shiftRightOne

/-!
## Whole numbers
-/

/-- A whole number that is no more than a half away, and an even one if there are two. -/
structure NearestWhole (number : ℚ) (whole : Nat) : Prop where
  close : |whole - number| ≤ 1 / 2
  even : |whole - number| = 1 / 2 → Even whole

private theorem Represents.nearestWhole {extended : ExtendedMantissa} {number : ℚ}
    (represents : Represents extended number) :
    NearestWhole number extended.roundedMantissa := by
  unfold Represents at represents
  unfold ExtendedMantissa.roundedMantissa
  generalize extended.accuracy = accuracy at *
  generalize extended.mantissa = mantissa at *
  cases represents with
  | nothing none =>
      have exact : (mantissa : ℚ) - number = 0 := by linarith
      rw [Accuracy.roundToNearestEven]
      exact ⟨by rw [exact]; norm_num, fun half => by norm_num [exact] at half⟩
  | less some less =>
      have close : |(mantissa : ℚ) - number| < 1 / 2 := abs_lt.mpr ⟨by linarith, by linarith⟩
      exact ⟨close.le, fun half => absurd half close.ne⟩
  | half half =>
      have even : Even (mantissa + mantissa % 2) := by
        rw [Nat.even_iff]
        omega
      have apart : |((mantissa + mantissa % 2 : Nat) : ℚ) - number| = 1 / 2 := by
        rcases Nat.mod_two_eq_zero_or_one mantissa with last | last <;> rw [last] <;> push_cast
        · rw [abs_of_neg] <;> linarith
        · rw [abs_of_pos] <;> linarith
      exact ⟨apart.le, fun _ => even⟩
  | more more less =>
      have close : |((mantissa + 1 : Nat) : ℚ) - number| < 1 / 2 := by
        push_cast
        exact abs_lt.mpr ⟨by linarith, by linarith⟩
      exact ⟨close.le, fun half => absurd half close.ne⟩

section NearestWhole

variable {number : ℚ} {whole : Nat}

/-- Every other whole number is at least a half away. -/
theorem NearestWhole.half_le (nearest : NearestWhole number whole) {other : Nat}
    (different : other ≠ whole) : 1 / 2 ≤ |other - number| := by
  have apart : (1 : ℚ) ≤ |(other : ℚ) - whole| := by
    have distinct : (other : Int) - whole ≠ 0 := sub_ne_zero.mpr (by exact_mod_cast different)
    exact_mod_cast Int.one_le_abs distinct
  have detour := abs_sub_le (other : ℚ) number whole
  rw [abs_sub_comm number] at detour
  linarith [nearest.close]

theorem NearestWhole.closest (nearest : NearestWhole number whole) (other : Nat) :
    |whole - number| ≤ |other - number| := by
  by_cases same : other = whole
  · rw [same]
  · exact nearest.close.trans (nearest.half_le same)

private theorem NearestWhole.even_of_tie (nearest : NearestWhole number whole) {other : Nat}
    (different : other ≠ whole) (tie : |other - number| ≤ |whole - number|) : Even whole :=
  nearest.even (le_antisymm nearest.close ((nearest.half_le different).trans tie))

variable {exponent : Int}

theorem abs_scaled (first second : ℚ) (exponent : Int) :
    |first * 2 ^ exponent - second * 2 ^ exponent| = |first - second| * 2 ^ exponent := by
  rw [← sub_mul, abs_mul, abs_of_pos (zpow_pos (two_pos : (0 : ℚ) < 2) exponent)]

theorem Holds.lt_of_lower {other : Nat} {power : Int} (holds : Holds other power)
    (below : power < exponent) : (other : ℚ) * 2 ^ power < 2 ^ 23 * 2 ^ exponent :=
  calc (other : ℚ) * 2 ^ power < 2 ^ 24 * 2 ^ power := by
        gcongr
        exact_mod_cast holds.short
    _ ≤ 2 ^ 24 * 2 ^ (exponent - 1) := by
        gcongr
        · exact one_le_two
        · omega
    _ = 2 ^ 23 * 2 ^ exponent := by
        rw [zpow_sub_one₀ two_ne_zero]
        ring

private theorem NearestWhole.lower (nearest : NearestWhole number whole) (full : 2 ^ 23 ≤ number)
    {other : Nat} {power : Int} (holds : Holds other power) (below : power < exponent) :
    |whole * 2 ^ exponent - number * 2 ^ exponent| <
      |other * 2 ^ power - number * 2 ^ exponent| := by
  have least : |whole - number| ≤ number - 2 ^ 23 := by
    refine (nearest.closest (2 ^ 23)).trans_eq ?_
    rw [Nat.cast_pow, Nat.cast_ofNat, abs_sub_comm, abs_of_nonneg (sub_nonneg.mpr full)]
  rw [abs_scaled]
  calc |whole - number| * 2 ^ exponent ≤ (number - 2 ^ 23) * 2 ^ exponent := by gcongr
    _ = number * 2 ^ exponent - 2 ^ 23 * 2 ^ exponent := sub_mul _ _ _
    _ < number * 2 ^ exponent - other * 2 ^ power :=
        sub_lt_sub_left (holds.lt_of_lower below) _
    _ ≤ |other * 2 ^ power - number * 2 ^ exponent| := by
        rw [abs_sub_comm]
        exact le_abs_self _

private theorem exists_steps (other : Nat) {power : Int} (above : exponent ≤ power) :
    ∃ steps : Nat, (other : ℚ) * 2 ^ power = steps * 2 ^ exponent :=
  ⟨_, (shiftLeft_value other above).symm⟩

private theorem NearestWhole.scaled (nearest : NearestWhole number whole)
    (full : 2 ^ 23 ≤ number ∨ exponent = -149) {other : Nat} {power : Int}
    (holds : Holds other power) :
    |whole * 2 ^ exponent - number * 2 ^ exponent| ≤ |other * 2 ^ power - number * 2 ^ exponent| ∧
      ((other * 2 ^ power : ℚ) ≠ whole * 2 ^ exponent →
        |other * 2 ^ power - number * 2 ^ exponent| ≤
            |whole * 2 ^ exponent - number * 2 ^ exponent| →
          Even whole) := by
  have step : (0 : ℚ) < 2 ^ exponent := by positivity
  by_cases above : exponent ≤ power
  · obtain ⟨steps, same⟩ := exists_steps other above
    rw [same, abs_scaled, abs_scaled]
    refine ⟨mul_le_mul_of_nonneg_right (nearest.closest steps) step.le, fun different tie => ?_⟩
    refine nearest.even_of_tie (fun equal => different ?_) (le_of_mul_le_mul_right tie step)
    rw [equal]
  · have lowest := holds.lowest
    have farther := nearest.lower (full.resolve_right (by omega)) holds (not_le.mp above)
    exact ⟨farther.le, fun _ tie => absurd tie farther.not_ge⟩

end NearestWhole

/-!
## There is only one
-/

section Unique

variable {exact : ℚ} {significand significand' : Nat} {exponent exponent' : Int}

theorem eq_mul_of_same_value (le : exponent ≤ exponent')
    (same : (significand : ℚ) * 2 ^ exponent = significand' * 2 ^ exponent') :
    significand = significand' * 2 ^ (exponent' - exponent).toNat := by
  rwa [← shiftLeft_value significand' le,
    mul_left_inj' (zpow_ne_zero exponent (two_ne_zero : (2 : ℚ) ≠ 0)), Nat.cast_inj,
    Nat.shiftLeft_eq] at same

private theorem Nearest.eq_of_le (nearest : Nearest exact significand exponent)
    (nearest' : Nearest exact significand' exponent') (le : exponent ≤ exponent')
    (same : (significand : ℚ) * 2 ^ exponent = significand' * 2 ^ exponent') :
    significand = significand' ∧ exponent = exponent' := by
  have longer := eq_mul_of_same_value le same
  obtain equal | less := Int.le_iff_eq_or_lt.mp le
  · subst equal
    rw [sub_self, Int.toNat_zero, pow_zero, mul_one] at longer
    exact ⟨longer, rfl⟩
  · have lowest := nearest.lowest
    have long : 2 ^ 23 ≤ significand' := nearest'.full.resolve_right (by omega)
    have double : 2 ^ 1 ≤ 2 ^ (exponent' - exponent).toNat :=
      Nat.pow_le_pow_right (by norm_num) (by omega)
    have short := nearest.short
    have := Nat.mul_le_mul long double
    omega

/-- Two that are equally near would both be even, with one in between that is nearer. -/
theorem Nearest.not_less (nearest : Nearest exact significand exponent)
    (nearest' : Nearest exact significand' exponent') :
    ¬(significand : ℚ) * 2 ^ exponent < significand' * 2 ^ exponent' := by
  intro less
  have step : (0 : ℚ) < 2 ^ exponent := by positivity
  have apart := nearest.closest nearest'.toHolds
  have apart' := nearest'.closest nearest.toHolds
  have even : Even significand := nearest.even nearest'.toHolds less.ne' apart'
  have even' : Even significand' := nearest'.even nearest.toHolds less.ne apart
  have le : exponent ≤ exponent' := by
    by_contra below
    rw [not_le] at below
    have lowest := nearest'.lowest
    have long : (2 : ℚ) ^ 23 ≤ significand := by
      exact_mod_cast nearest.full.resolve_right (by omega)
    have lower := nearest'.toHolds.lt_of_lower below
    have := mul_le_mul_of_nonneg_right long step.le
    linarith
  rw [← shiftLeft_value significand' le] at less apart apart'
  set steps := significand' <<< (exponent' - exponent).toNat with stepsEq
  have further : significand + 2 ≤ steps := by
    have evenSteps : Even steps := by
      rw [stepsEq, Nat.shiftLeft_eq]
      exact even'.mul_right _
    have more : significand < steps := by exact_mod_cast lt_of_mul_lt_mul_right less step.le
    obtain ⟨half, rfl⟩ := even
    obtain ⟨half', twice⟩ := evenSteps
    omega
  have between : Holds (significand + 1) exponent := by
    refine ⟨?_, nearest.lowest⟩
    have := nearest.short
    obtain ⟨half, rfl⟩ := even
    omega
  have nearer := nearest.closest between
  have gap : (significand + 2 : ℚ) * 2 ^ exponent ≤ steps * 2 ^ exponent :=
    mul_le_mul_of_nonneg_right (by exact_mod_cast further) step.le
  have middle : (significand : ℚ) * 2 ^ exponent - exact = -(steps * 2 ^ exponent - exact) :=
    (abs_eq_abs.mp (apart.antisymm apart')).resolve_left fun equal => by linarith
  rw [middle, abs_neg, abs_of_pos (by linarith)] at nearer
  push_cast at nearer
  rcases le_abs.mp nearer with right | left <;> linarith

theorem Nearest.unique (nearest : Nearest exact significand exponent)
    (nearest' : Nearest exact significand' exponent') :
    significand = significand' ∧ exponent = exponent' := by
  have same : (significand : ℚ) * 2 ^ exponent = significand' * 2 ^ exponent' :=
    le_antisymm (not_lt.mp (nearest'.not_less nearest)) (not_lt.mp (nearest.not_less nearest'))
  rcases le_total exponent exponent' with le | le
  · exact nearest.eq_of_le nearest' le same
  · obtain ⟨rfl, rfl⟩ := nearest'.eq_of_le nearest le same.symm
    exact ⟨rfl, rfl⟩

end Unique

/-!
## Rounding
-/

def unpacked (significand : Nat) (exponent : Int) : UnpackedFloat :=
  if zero : significand = 0 then .zero .positive
  else .finite .positive significand exponent (Nat.pos_of_ne_zero zero)

private theorem roundWithAccuracy_unpacked (mantissa : Nat) (exponent : Int) (accuracy : Accuracy) :
    roundWithAccuracy .binary32 .positive mantissa exponent accuracy =
      let first := shiftToTargetExponent .binary32 mantissa exponent accuracy
      let last := shiftToTargetExponent .binary32 first.1.roundedMantissa first.2 .exact
      unpacked last.1.mantissa last.2 := rfl

private theorem kept_bits_of_enough {mantissa : Nat} {exponent : Int}
    (enough : exponent ≤ target mantissa exponent) :
    let kept := mantissa / 2 ^ (target mantissa exponent - exponent).toNat
    kept < 2 ^ 24 ∧ (2 ^ 23 ≤ kept ∨ target mantissa exponent = -149) := by
  rcases Nat.eq_zero_or_pos mantissa with rfl | positive
  · rw [Nat.zero_div]
    refine ⟨by positivity, .inr ?_⟩
    simp only [target, Nat.log2_zero] at enough ⊢
    omega
  · exact kept_bits positive enough

private theorem shiftToTargetExponent_represents (mantissa : Nat) (exponent : Int)
    {accuracy : Accuracy} {part : ℚ} (dropped : Dropped accuracy part) :
    let shifted := shiftToTargetExponent .binary32 mantissa exponent accuracy
    let places := (target mantissa exponent - exponent).toNat
    Represents shifted.1 ((mantissa + part) / 2 ^ places) ∧
      shifted.1.mantissa = mantissa / 2 ^ places ∧ shifted.2 = exponent + places := by
  refine ⟨(ofMantissaAndAccuracy_represents mantissa dropped).shiftRight _, ?_, rfl⟩
  refine (shiftRight_mantissa _ _).trans ?_
  rw [mantissa_ofMantissaAndAccuracy]
  rfl

/-- A whole number of steps that is nearest is held as it is, or with one bit less if rounding has
carried into a bit more. -/
theorem NearestWhole.nearest {number : ℚ} {whole : Nat} {exponent : Int}
    (nearest : NearestWhole number whole) (lowest : -149 ≤ exponent) (short : whole ≤ 2 ^ 24)
    (full : 2 ^ 23 ≤ whole ∨ exponent = -149) (fullNumber : 2 ^ 23 ≤ number ∨ exponent = -149) :
    let last := shiftToTargetExponent .binary32 whole exponent .exact
    Nearest (number * 2 ^ exponent) last.1.mantissa last.2 := by
  intro last
  obtain ⟨value, even, holds, long⟩ :
      (last.1.mantissa : ℚ) * 2 ^ last.2 = whole * 2 ^ exponent ∧
        (Even whole → Even last.1.mantissa) ∧ Holds last.1.mantissa last.2 ∧
          (2 ^ 23 ≤ last.1.mantissa ∨ last.2 = -149) := by
    rcases shift_rounded whole exponent lowest short with
      ⟨smaller, mantissa, exponentEq⟩ | ⟨carried, mantissa, exponentEq⟩
    · rw [mantissa, exponentEq]
      exact ⟨rfl, id, ⟨smaller, lowest⟩, full⟩
    · rw [mantissa, exponentEq, carried]
      refine ⟨?_, fun _ => ⟨2 ^ 22, by norm_num⟩, ⟨by norm_num, by omega⟩, .inl le_rfl⟩
      rw [zpow_add_one₀ two_ne_zero]
      push_cast
      ring
  refine ⟨holds, long, fun other => ?_, fun other different tie => ?_⟩
  · rw [value]
    exact (nearest.scaled fullNumber other).1
  · rw [value] at different tie
    exact even ((nearest.scaled fullNumber other).2 different tie)

theorem roundWithAccuracy_nearest {mantissa : Nat} {exponent : Int} {accuracy : Accuracy}
    {part : ℚ} (dropped : Dropped accuracy part) (enough : exponent ≤ target mantissa exponent) :
    ∃ significand reached, Nearest ((mantissa + part) * 2 ^ exponent) significand reached ∧
      roundWithAccuracy .binary32 .positive mantissa exponent accuracy =
        unpacked significand reached := by
  obtain ⟨short, full⟩ := kept_bits_of_enough enough
  obtain ⟨represents, kept, reached⟩ :=
    shiftToTargetExponent_represents mantissa exponent dropped
  rw [roundWithAccuracy_unpacked]
  extract_lets first last
  set places := (target mantissa exponent - exponent).toNat with placesEq
  set number : ℚ := (mantissa + part) / 2 ^ places with numberEq
  replace represents : Represents first.1 number := represents
  replace kept : first.1.mantissa = mantissa / 2 ^ places := kept
  replace reached : first.2 = exponent + places := reached
  have aimed : first.2 = target mantissa exponent := by omega
  have lowest : -149 ≤ target mantissa exponent := le_max_right _ _
  have value : number * 2 ^ first.2 = (mantissa + part) * 2 ^ exponent := by
    rw [numberEq, reached, zpow_add₀ two_ne_zero, zpow_natCast]
    field_simp
  obtain ⟨least, most⟩ := roundedMantissa_bounds first.1
  have above := Dropped.nonneg represents
  rw [← kept, ← aimed] at full
  have fullNumber : 2 ^ 23 ≤ number ∨ first.2 = -149 := by
    refine full.imp_left fun long => ?_
    have cast : (2 : ℚ) ^ 23 ≤ first.1.mantissa := by exact_mod_cast long
    linarith
  refine ⟨last.1.mantissa, last.2, ?_, rfl⟩
  rw [← value]
  exact represents.nearestWhole.nearest (by omega) (by omega) (full.imp_left (Nat.le_trans · least))
    fullNumber

end PagePaint.Binary32
