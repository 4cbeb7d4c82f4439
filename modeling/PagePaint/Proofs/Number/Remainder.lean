import PagePaint.Proofs.Number.Sums

set_option autoImplicit false

/-!
# Remainders and fractions

What is left of a number when a length is taken away as often as it fits is held in single
precision, so it is computed exactly. Of the two exponents the lower one is kept, and the rest is
shorter than the number that had it. The fraction of a number is what is left of a whole one; for a
negative number it is taken from one, which may round it up to one.
-/

namespace PagePaint.Binary32

open Float.Model (Format UnpackedFloat)
open Float.Model.UnpackedFloat

variable {significand : Nat} {exponent : Int}

/-!
## Words from significands
-/

private theorem packComponents_toNat (field : BitVec 8) (fraction : BitVec 23) :
    (packComponents .binary32 .positive field fraction).toNat =
      field.toNat * 2 ^ 23 + fraction.toNat := by
  unfold packComponents
  rw [BitVec.toNat_append, ← Nat.shiftLeft_add_eq_or_of_lt fraction.isLt, BitVec.toNat_append,
    ← Nat.shiftLeft_add_eq_or_of_lt field.isLt]
  simp [Nat.shiftLeft_eq, Sign.toBitVec]

private theorem pack_toNat (positive : 0 < significand)
    (canonical : Canonical significand exponent) :
    (UnpackedFloat.pack .binary32 (.finite .positive significand exponent positive)).toNat =
      (exponent + 149).toNat * leadingBit + significand := by
  obtain ⟨short, lowest, highest, full⟩ := canonical
  unfold leadingBit
  by_cases long : 2 ^ 23 ≤ significand
  · obtain ⟨field, rfl⟩ : ∃ field : Nat, exponent = (field : Int) - 150 :=
      ⟨(exponent + 150).toNat, by omega⟩
    rw [pack_of_full .positive positive long short (by omega), packComponents_toNat,
      BitVec.toNat_ofNat, BitVec.toNat_ofNat]
    omega
  · obtain rfl : exponent = -149 := full.resolve_left long
    rw [pack_of_short .positive positive (not_le.mp long), packComponents_toNat,
      BitVec.toNat_ofNat]
    simp only [BitVec.toNat_ofNat]
    omega

private theorem Canonical.word_stands (canonical : Canonical significand exponent) :
    Stands (.ofBits (.ofNat ((exponent + 149).toNat * leadingBit + significand)))
      (significand * 2 ^ exponent) := by
  obtain rfl | positive := Nat.eq_zero_or_pos significand
  · obtain rfl : exponent = -149 := canonical.full.resolve_left (by norm_num)
    rw [Nat.cast_zero, zero_mul]
    exact Denotes.zero .positive
  · have denotes := Denotes.finite .positive positive canonical
    have packed := pack_toNat positive canonical
    have word : (UInt32.ofNat ((exponent + 149).toNat * leadingBit + significand)).toBitVec =
        UnpackedFloat.pack .binary32 (.finite .positive significand exponent positive) := by
      rw [← packed]
      exact BitVec.ofNat_toNat _ _
    have unpacked := denotes.unpack_pack
    rw [← word] at unpacked
    rw [← unpacked] at denotes
    exact denotes.stands

theorem Holds.nearestWord_stands (holds : Holds significand exponent) (highest : exponent ≤ 104) :
    Stands (.ofBits (.ofNat (nearestWord significand exponent))) (significand * 2 ^ exponent) := by
  obtain ⟨short, lowest⟩ := holds
  unfold nearestWord
  by_cases zero : significand = 0
  · rw [if_pos zero, zero, Nat.cast_zero, zero_mul]
    exact Denotes.zero .positive
  · rw [if_neg zero]
    have bits : significand.log2 ≤ 23 := by
      have := (Nat.log2_lt zero).mpr short
      omega
    extract_lets step scaled
    have below : step ≤ exponent := by omega
    have shifted : scaled = significand <<< (exponent - step).toNat := if_pos below
    have longer := log2_shiftLeft (Nat.pos_of_ne_zero zero) (exponent - step).toNat
    rw [← shifted] at longer
    have some : scaled ≠ 0 := by
      rw [shifted, Nat.shiftLeft_eq]
      positivity
    have canonical : Canonical scaled step := by
      refine ⟨(Nat.log2_lt some).mp (by omega), by omega, by omega, ?_⟩
      by_cases least : step = -149
      · exact .inr least
      · exact .inl ((Nat.le_log2 some).mp (by omega))
    have word := canonical.word_stands
    have short := canonical.short
    rw [min_eq_left (by unfold leadingBit; omega), ← shiftLeft_value significand below, ← shifted]
    exact word

/-!
## Taking away
-/

theorem read_holds {number : Float32} {negative : Bool}
    (reading : read number = .finite negative significand exponent) :
    Holds significand exponent ∧ exponent ≤ 104 := by
  unfold read at reading
  extract_lets word sign field fraction at reading
  have short : fraction < leadingBit := Nat.mod_lt _ (by decide)
  have fields : field < 256 := Nat.mod_lt _ (by decide)
  unfold leadingBit at *
  by_cases ones : field = 255
  · rw [if_pos ones] at reading
    split at reading <;> cases reading
  · rw [if_neg ones] at reading
    split at reading <;> obtain ⟨-, rfl, rfl⟩ := Reading.finite.inj reading <;>
      exact ⟨⟨by omega, by omega⟩, by omega⟩

private theorem rest_of_whole_le_one (significand : Nat) (exponent : Int) :
    ((significand % (1 <<< (-exponent).toNat) : Nat) : ℚ) * 2 ^ exponent ≤ 1 := by
  have places : significand % (1 <<< (-exponent).toNat) < 2 ^ (-exponent).toNat := by
    rw [Nat.one_shiftLeft]
    exact Nat.mod_lt _ (by positivity)
  rcases le_or_gt exponent 0 with small | large
  · have scale : (2 : ℚ) ^ (-exponent).toNat * 2 ^ exponent = 1 := by
      rw [← zpow_natCast, ← zpow_add₀ two_ne_zero, Int.toNat_of_nonneg (by omega),
        neg_add_cancel, zpow_zero]
    rw [← scale]
    gcongr
    exact_mod_cast places.le
  · rw [Int.toNat_of_nonpos (by omega)] at places ⊢
    rw [Nat.lt_one_iff.mp places, Nat.cast_zero, zero_mul]
    exact zero_le_one

theorem fraction_stands (number : Float32) :
    ∃ value, Stands (fraction number) value ∧ 0 ≤ value ∧ value ≤ 1 := by
  unfold fraction
  split
  · rename_i negative significand exponent reading
    obtain ⟨⟨short, lowest⟩, highest⟩ := read_holds reading
    extract_lets part rest
    have held : Holds part exponent := ⟨(Nat.mod_le _ _).trans_lt short, lowest⟩
    have stands : Stands rest (part * 2 ^ exponent) := held.nearestWord_stands highest
    have low : (0 : ℚ) ≤ part * 2 ^ exponent := by positivity
    have high : (part : ℚ) * 2 ^ exponent ≤ 1 := rest_of_whole_le_one significand exponent
    split
    · obtain ⟨value, valueStands, nonneg, below, -⟩ :=
        Stands.one.sub_close stands low high (le_refl 1)
      exact ⟨value, valueStands, nonneg, below⟩
    · exact ⟨_, stands, low, high⟩
  · exact ⟨0, .zero, le_refl 0, zero_le_one⟩
  · exact ⟨0, .zero, le_refl 0, zero_le_one⟩

private theorem Stands.read_positive {number : Float32} {value : ℚ} (stands : Stands number value)
    (above : 0 < value) :
    ∃ significand exponent, read number = .finite false significand exponent ∧
      value = significand * 2 ^ exponent ∧ Holds significand exponent ∧ exponent ≤ 104 := by
  obtain ⟨negative, significand, exponent, reading, rfl⟩ := stands.reading
  have bounds := read_holds reading
  cases negative with
  | false => exact ⟨significand, exponent, reading, rfl, bounds⟩
  | true =>
      have magnitude : (0 : ℚ) ≤ significand * 2 ^ exponent := by positivity
      simp only [signOf, if_true, Sign.apply, Int.cast_neg, Int.cast_natCast, neg_mul] at above
      linarith

/-- The remainder is exact: the number is a whole number of lengths and what is left. -/
theorem Stands.remainder {number length : Float32} {first second : ℚ}
    (numberStands : Stands number first) (lengthStands : Stands length second)
    (above : 0 < first) (above' : 0 < second) :
    ∃ (turns : Nat) (rest : ℚ), Stands (remainder number length) rest ∧ 0 ≤ rest ∧
      rest < second ∧ first = turns * second + rest := by
  obtain ⟨significand, exponent, reading, rfl, holds, highest⟩ := numberStands.read_positive above
  obtain ⟨divisor, scale, reading', rfl, holds', highest'⟩ := lengthStands.read_positive above'
  set unit := min exponent scale with unitEq
  have value := shiftLeft_value significand (min_le_left exponent scale)
  have value' := shiftLeft_value divisor (min_le_right exponent scale)
  rw [← unitEq] at value value'
  rw [← value'] at above'
  set whole := significand <<< (exponent - unit).toNat with wholeEq
  set part := divisor <<< (scale - unit).toNat with partEq
  have step : (0 : ℚ) < 2 ^ unit := by positivity
  have some : 0 < part := by exact_mod_cast pos_of_mul_pos_left above' step.le
  -- The exponent that is kept is the one of a significand that is not shifted.
  have short : whole % part < 2 ^ 24 := by
    rcases min_choice exponent scale with least | least <;> rw [← unitEq] at least
    · rw [least, sub_self, Int.toNat_zero, Nat.shiftLeft_zero] at wholeEq
      exact (Nat.mod_le _ _).trans_lt (wholeEq ▸ holds.short)
    · rw [least, sub_self, Int.toNat_zero, Nat.shiftLeft_zero] at partEq
      exact (Nat.mod_lt _ some).trans (partEq ▸ holds'.short)
  have held : Holds (whole % part) unit := ⟨short, le_min holds.lowest holds'.lowest⟩
  have result : Binary32.remainder number length =
      .ofBits (.ofNat (nearestWord (whole % part) unit)) := by
    simp only [Binary32.remainder, reading, reading']
    exact congrArg (fun word => Float32.ofBits (UInt32.ofNat word)) (Nat.zero_add _)
  have divided : ((part * (whole / part) + whole % part : Nat) : ℚ) = whole := by
    exact_mod_cast Nat.div_add_mod whole part
  refine ⟨whole / part, (whole % part : Nat) * 2 ^ unit, ?_, by positivity, ?_, ?_⟩
  · rw [result]
    exact held.nearestWord_stands (by omega)
  · rw [← value']
    exact mul_lt_mul_of_pos_right (by exact_mod_cast Nat.mod_lt _ some) step
  · rw [← value, ← value', ← divided]
    push_cast
    ring

end PagePaint.Binary32
