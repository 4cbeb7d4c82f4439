import PagePaint.Proofs.Number.Conversion
import PagePaint.Proofs.Number.Decimals

set_option autoImplicit false

/-!
# Sums and differences

A sum or a difference that is not negative is rounded to the nearest number. So rounding passes over
no number that single precision holds, and since exact sums are whole numbers of the smallest step,
a sum is off by no more than half a step of what it is rounded to.
-/

namespace PagePaint.Binary32

open Float.Model (Format UnpackedFloat)
open Float.Model.UnpackedFloat

/-- A rational that single precision holds, no matter how large. -/
def Held (value : ℚ) : Prop :=
  ∃ significand exponent, Holds significand exponent ∧ value = significand * 2 ^ exponent

/-- A whole number of the smallest steps there are. -/
def Stepped (value : ℚ) : Prop := ∃ steps : Int, value = steps * 2 ^ (-149 : Int)

def Rounded (exact value : ℚ) : Prop :=
  ∃ significand exponent, Nearest exact significand exponent ∧ value = significand * 2 ^ exponent

/-- The most that rounding adds or takes away, as a share of the result. -/
def roundoff : ℚ := 2 ^ (-24 : Int)

theorem roundoff_pos : 0 < roundoff := by
  unfold roundoff
  positivity

/-!
## Rounding to the nearest
-/

section Rounded

variable {exact value bound : ℚ}

private theorem Rounded.held (rounded : Rounded exact value) : Held value := by
  obtain ⟨significand, exponent, nearest, rfl⟩ := rounded
  exact ⟨significand, exponent, nearest.toHolds, rfl⟩

private theorem Held.nonneg (held : Held value) : 0 ≤ value := by
  obtain ⟨significand, exponent, -, rfl⟩ := held
  positivity

theorem Rounded.closest (rounded : Rounded exact value) (held : Held bound) :
    |value - exact| ≤ |bound - exact| := by
  obtain ⟨significand, exponent, nearest, rfl⟩ := rounded
  obtain ⟨other, power, holds, rfl⟩ := held
  exact nearest.closest holds

private theorem Rounded.le_of_le (rounded : Rounded exact value) (held : Held bound)
    (below : exact ≤ bound) : value ≤ bound := by
  have close := rounded.closest held
  rw [abs_of_nonneg (sub_nonneg.mpr below)] at close
  linarith [le_abs_self (value - exact)]

theorem Rounded.ge_of_ge (rounded : Rounded exact value) (held : Held bound)
    (above : bound ≤ exact) : bound ≤ value := by
  have close := rounded.closest held
  rw [abs_of_nonpos (sub_nonpos.mpr above)] at close
  linarith [neg_abs_le (value - exact)]

private theorem Holds.next {significand : Nat} {exponent : Int}
    (holds : Holds significand exponent) :
    Held ((significand + 1) * 2 ^ exponent) := by
  obtain ⟨short, lowest⟩ := holds
  obtain short | full := Nat.lt_or_eq_of_le (Nat.succ_le_of_lt short)
  · exact ⟨significand + 1, exponent, ⟨short, lowest⟩, by push_cast; rfl⟩
  · refine ⟨2 ^ 23, exponent + 1, ⟨by norm_num, by omega⟩, ?_⟩
    have full : ((significand : ℚ) + 1) = 2 ^ 24 := by exact_mod_cast full
    rw [full, zpow_add_one₀ two_ne_zero]
    push_cast
    ring

private theorem Nearest.close {significand : Nat} {exponent : Int}
    (nearest : Nearest exact significand exponent) (nonneg : 0 ≤ exact) :
    |significand * 2 ^ exponent - exact| ≤ 2 ^ exponent / 2 := by
  have step : (0 : ℚ) < 2 ^ exponent := by positivity
  have rounded : Rounded exact (significand * 2 ^ exponent) := ⟨_, _, nearest, rfl⟩
  -- If it were further away, the number one step above or below would be nearer.
  refine abs_le.mpr ⟨?_, ?_⟩
  · by_contra far
    have close := rounded.closest nearest.toHolds.next
    rw [abs_of_nonpos (by linarith), add_mul, one_mul] at close
    rcases le_abs.mp close with above | below <;> linarith
  · by_contra far
    obtain rfl | some := Nat.eq_zero_or_pos significand
    · rw [Nat.cast_zero, zero_mul] at far
      linarith
    · have before : Holds (significand - 1) exponent :=
        ⟨by have := nearest.short; omega, nearest.lowest⟩
      have close := nearest.closest before
      rw [Nat.cast_pred some, abs_of_nonneg (by linarith), sub_mul, one_mul] at close
      rcases le_abs.mp close with above | below <;> linarith

/-- Rounding is off by half a step of the result. Where steps are the smallest it is not off at all,
since there is nothing between them. -/
theorem Rounded.error (rounded : Rounded exact value) (nonneg : 0 ≤ exact)
    (stepped : Stepped exact) : |value - exact| ≤ roundoff * value := by
  obtain ⟨significand, exponent, nearest, rfl⟩ := rounded
  have close := nearest.close nonneg
  rcases nearest.full with full | lowest
  · refine close.trans ?_
    have full : (2 : ℚ) ^ 23 ≤ significand := by exact_mod_cast full
    calc (2 : ℚ) ^ exponent / 2 = roundoff * (2 ^ 23 * 2 ^ exponent) := by
          unfold roundoff
          norm_num
          ring
      _ ≤ roundoff * (significand * 2 ^ exponent) :=
          mul_le_mul_of_nonneg_left (by gcongr) roundoff_pos.le
  · obtain ⟨steps, rfl⟩ := stepped
    subst lowest
    rw [← sub_mul, abs_mul, abs_of_pos (by positivity : (0 : ℚ) < 2 ^ (-149 : Int)),
      div_eq_inv_mul] at close
    have apart : |((significand : Int) - steps : ℚ)| ≤ 2⁻¹ :=
      le_of_mul_le_mul_right close (by positivity)
    have same : (significand : Int) - steps = 0 := by
      by_contra different
      have far : (1 : ℚ) ≤ |(((significand : Int) - steps : Int) : ℚ)| := by
        exact_mod_cast Int.one_le_abs different
      push_cast at far apart
      linarith
    have same : ((significand : Int) : ℚ) = steps := by exact_mod_cast sub_eq_zero.mp same
    rw [Int.cast_natCast] at same
    rw [same, sub_self, abs_zero, ← same]
    have := roundoff_pos
    positivity

end Rounded

/-!
## Numbers
-/

section Numbers

variable {x y : Float32} {first second : ℚ}

private theorem Denotes.steps {number : UnpackedFloat} {value : ℚ}
    (denotes : Denotes number value) :
    Stepped value := by
  cases denotes with
  | zero => exact ⟨0, by rw [Int.cast_zero, zero_mul]⟩
  | @finite sign significand exponent positive canonical =>
      exact ⟨_, (signed_value sign significand canonical.lowest).symm⟩

theorem Stands.stepped (stands : Stands x first) : Stepped first := Denotes.steps stands

theorem Stepped.add (left : Stepped first) (right : Stepped second) : Stepped (first + second) := by
  obtain ⟨steps, rfl⟩ := left
  obtain ⟨steps', rfl⟩ := right
  exact ⟨steps + steps', by push_cast; ring⟩

private theorem Stepped.neg (stepped : Stepped first) : Stepped (-first) := by
  obtain ⟨steps, rfl⟩ := stepped
  exact ⟨-steps, by push_cast; ring⟩

private theorem Stepped.sub (left : Stepped first) (right : Stepped second) :
    Stepped (first - second) := by
  rw [sub_eq_add_neg]
  exact left.add right.neg

/-- What a number stands for. One that is not finite counts as zero. -/
def value (number : Float32) : ℚ :=
  match read number with
  | .finite negative significand exponent =>
    ((signOf negative).apply significand : Int) * 2 ^ exponent
  | .infinite _ | .nan => 0

theorem Stands.value_eq (stands : Stands x first) : value x = first := by
  obtain ⟨negative, significand, exponent, reading, rfl⟩ := stands.reading
  rw [value, reading]

theorem stands_value (finite : x.isFinite = true) : Stands x (value x) := by
  obtain ⟨first, stands⟩ := exists_stands finite
  rwa [stands.value_eq]

theorem Stands.isFinite (stands : Stands x first) : x.isFinite = true := by
  change x.toModel.unpack.isFinite = true
  unfold Stands at stands
  generalize x.toModel.unpack = number at *
  cases stands <;> rfl

theorem Stands.neg (stands : Stands x first) : Stands (-x) (-first) :=
  (Denotes.neg stands).stands

theorem Stands.zero : Stands 0 0 := Denotes.zero .positive

theorem Stands.one : Stands 1 1 :=
  stands_of_unpack (show (1 : Float32).toModel.unpack =
    .finite .positive 8388608 (-23) (by decide) from rfl) (by norm_num)

theorem Canonical.nearest {significand : Nat} {exponent : Int}
    (canonical : Canonical significand exponent) :
    Nearest (significand * 2 ^ exponent) significand exponent where
  short := canonical.short
  lowest := canonical.lowest
  full := canonical.full
  closest _ := by
    rw [sub_self, abs_zero]
    exact abs_nonneg _
  even _ different tie := by
    rw [sub_self, abs_zero] at tie
    exact absurd (sub_eq_zero.mp (abs_nonpos_iff.mp tie)) different

theorem Stands.exists_canonical (stands : Stands x first) (nonneg : 0 ≤ first) :
    ∃ significand exponent,
      Canonical significand exponent ∧ first = significand * 2 ^ exponent := by
  obtain zero | above := nonneg.eq_or_lt
  · exact ⟨0, -149, ⟨by norm_num, le_rfl, by norm_num, .inr rfl⟩, by simp [← zero]⟩
  · obtain ⟨significand, exponent, -, -, canonical, same⟩ := stands.fields above
    exact ⟨significand, exponent, canonical, same⟩

theorem Stands.held (stands : Stands x first) (nonneg : 0 ≤ first) : Held first := by
  obtain ⟨significand, exponent, canonical, same⟩ := stands.exists_canonical nonneg
  exact ⟨significand, exponent, canonical.nearest.toHolds, same⟩

private theorem Stands.not_large (stands : Stands x first) (nonneg : 0 ≤ first) :
    first < 2 ^ 128 - 2 ^ 103 := by
  obtain ⟨significand, exponent, canonical, rfl⟩ := stands.exists_canonical nonneg
  by_contra large
  have := canonical.nearest.high_of_large (not_lt.mp large)
  have := canonical.highest
  omega

end Numbers

/-!
## Adding and subtracting
-/

section Adding

variable {left right : UnpackedFloat} {first second : ℚ} {x y : Float32}

/-- An unpacked number that a rational is rounded to. One whose exponent no word holds is packed as
infinity. -/
def Packs (number : UnpackedFloat) (exact : ℚ) : Prop :=
  ∃ significand exponent, Nearest exact significand exponent ∧
    (exponent ≤ 104 → Denotes number (significand * 2 ^ exponent)) ∧
    (104 < exponent → Float32.Model.pack number = .pack (.infinity .positive))

private theorem Unpacks.packs {number : UnpackedFloat} {exact : ℚ}
    (unpacks : Unpacks number exact) :
    Packs number exact := by
  obtain ⟨significand, exponent, nearest, rfl⟩ := unpacks
  refine ⟨significand, exponent, nearest, nearest.denotes, fun high => pack_of_high ?_ high⟩
  have := nearest.full
  omega

theorem Denotes.packs {number : UnpackedFloat} {value : ℚ} (denotes : Denotes number value)
    (nonneg : 0 ≤ value) : Packs number value := by
  obtain ⟨significand, exponent, canonical, rfl⟩ := denotes.stands.exists_canonical nonneg
  exact ⟨significand, exponent, canonical.nearest, fun _ => denotes,
    fun high => absurd canonical.highest high.not_ge⟩

private theorem normalize_packs {signed : Int} {exponent : Int}
    (nonneg : 0 ≤ (signed : ℚ) * 2 ^ exponent) :
    Packs (UnpackedFloat.normalize .binary32 signed exponent .positive)
      (signed * 2 ^ exponent) := by
  have nonneg : (0 : ℚ) ≤ signed := nonneg_of_mul_nonneg_left nonneg (by positivity)
  unfold UnpackedFloat.normalize
  obtain rfl | above := (Int.cast_nonneg_iff.mp nonneg).eq_or_lt
  · rw [compare_eq_iff_eq.mpr rfl, Int.cast_zero, zero_mul]
    exact (Denotes.zero .positive).packs le_rfl
  · obtain ⟨magnitude, rfl⟩ : ∃ magnitude : Nat, signed = magnitude := ⟨signed.toNat, by omega⟩
    rw [compare_gt_iff_gt.mpr above, Int.cast_natCast]
    obtain ⟨longer, lower, -, enough, value, rounded⟩ :=
      round_eq .positive (show 0 < magnitude by omega) exponent
    obtain ⟨significand, reached, nearest, result⟩ :=
      roundWithAccuracy_nearest (.nothing rfl) enough
    rw [add_zero, value] at nearest
    exact Unpacks.packs ⟨significand, reached, nearest, rounded.trans result⟩

theorem Denotes.add_packs (leftDenotes : Denotes left first) (rightDenotes : Denotes right second)
    (nonneg : 0 ≤ first + second) : Packs (left.add .binary32 right) (first + second) := by
  cases leftDenotes with
  | zero sign =>
      rw [zero_add] at nonneg ⊢
      cases rightDenotes with
      | zero other => cases sign <;> cases other <;> exact (Denotes.zero _).packs le_rfl
      | finite other positive canonical =>
          exact (Denotes.finite other positive canonical).packs nonneg
  | @finite sign significand exponent positive canonical =>
      cases rightDenotes with
      | zero =>
          rw [add_zero] at nonneg ⊢
          exact (Denotes.finite sign positive canonical).packs nonneg
      | @finite other significand' exponent' =>
          rw [← signed_value sign significand (min_le_left exponent exponent'),
            ← signed_value other significand' (min_le_right exponent exponent'), ← add_mul,
            ← Int.cast_add] at nonneg ⊢
          exact normalize_packs nonneg

theorem Stands.add_rounded (leftStands : Stands x first) (rightStands : Stands y second)
    (nonneg : 0 ≤ first + second) (finite : (x + y).isFinite = true) :
    ∃ sum, Stands (x + y) sum ∧ Rounded (first + second) sum := by
  obtain ⟨significand, exponent, nearest, held, infinite⟩ :=
    Denotes.add_packs leftStands rightStands nonneg
  have low : exponent ≤ 104 := by
    by_contra high
    replace finite : (Float32.Model.pack (x.toModel.unpack.add .binary32 y.toModel.unpack)).isFinite
      = true := finite
    rw [infinite (not_le.mp high)] at finite
    revert finite
    decide
  exact ⟨_, (held low).stands, significand, exponent, nearest, rfl⟩

private theorem Stands.sub_rounded (leftStands : Stands x first) (rightStands : Stands y second)
    (nonneg : 0 ≤ second) (le : second ≤ first) :
    ∃ difference, Stands (x - y) difference ∧ Rounded (first - second) difference := by
  have packs := Denotes.add_packs leftStands (Denotes.neg rightStands) (by linarith)
  rw [← sub_eq_add, ← sub_eq_add_neg] at packs
  obtain ⟨significand, exponent, nearest, held, -⟩ := packs
  have low : exponent ≤ 104 := by
    by_contra high
    have large := nearest.large_of_high (not_le.mp high)
    linarith [leftStands.not_large (nonneg.trans le)]
  exact ⟨_, (held low).stands, significand, exponent, nearest, rfl⟩

theorem Stands.sub_close {bound : ℚ} (leftStands : Stands x first)
    (rightStands : Stands y second) (nonneg : 0 ≤ second) (le : second ≤ first)
    (bounded : first ≤ bound) :
    ∃ difference, Stands (x - y) difference ∧ 0 ≤ difference ∧ difference ≤ first ∧
      |difference - (first - second)| ≤ roundoff * bound := by
  obtain ⟨difference, stands, rounded⟩ := leftStands.sub_rounded rightStands nonneg le
  have below : difference ≤ first :=
    rounded.le_of_le (leftStands.held (nonneg.trans le)) (sub_le_self first nonneg)
  have error : |difference - (first - second)| ≤ roundoff * difference :=
    rounded.error (sub_nonneg.mpr le) (leftStands.stepped.sub rightStands.stepped)
  exact ⟨difference, stands, rounded.held.nonneg, below,
    error.trans (mul_le_mul_of_nonneg_left (below.trans bounded) roundoff_pos.le)⟩

private theorem isFinite_of_pack {number : UnpackedFloat}
    (finite : (Float32.Model.pack number).isFinite = true) : number.isFinite = true := by
  cases number with
  | notANumber => exact absurd finite (by decide)
  | infinity sign => cases sign <;> exact absurd finite (by decide)
  | zero | finite => rfl

private theorem isFinite_of_add_unpacked (finite : (left.add .binary32 right).isFinite = true) :
    left.isFinite = true ∧ right.isFinite = true := by
  cases left with
  | notANumber => exact absurd finite Bool.false_ne_true
  | infinity sign =>
      cases right with
      | infinity other => cases sign <;> cases other <;> exact absurd finite Bool.false_ne_true
      | notANumber | zero | finite => exact absurd finite Bool.false_ne_true
  | zero | finite =>
      cases right with
      | notANumber | infinity => exact absurd finite Bool.false_ne_true
      | zero | finite => exact ⟨rfl, rfl⟩

theorem isFinite_of_add (finite : (x + y).isFinite = true) :
    x.isFinite = true ∧ y.isFinite = true :=
  isFinite_of_add_unpacked (isFinite_of_pack finite)

end Adding

end PagePaint.Binary32
