import PagePaint.Number.Numeral
import PagePaint.Proofs.Number.Arithmetic
import PagePaint.Proofs.Number.Nearest

set_option autoImplicit false

/-!
# Decimals

A decimal is read as the single-precision number that is nearest to it. There are three ways to get
there: short numbers and small powers of ten are exact, so that one multiplication or division
rounds once; other ones are multiplied or divided as significands of any length; and where the power
of ten alone decides, nothing is computed.
-/

namespace PagePaint.Binary32

open Float.Model (Format UnpackedFloat totalExponent)
open Float.Model.UnpackedFloat

/-- The single-precision number that a rational is rounded to. Infinity begins half a step above the
largest finite number. -/
inductive RoundsTo (exact : ℚ) : Float32 → Prop where
  | finite {significand : Nat} {exponent : Int} (nearest : Nearest exact significand exponent)
      (finite : exponent ≤ 104) :
      RoundsTo exact (.ofModel (.pack (unpacked significand exponent)))
  | infinite (large : 2 ^ 128 - 2 ^ 103 ≤ exact) : RoundsTo exact (.ofBits 0x7F800000)

variable {exact : ℚ} {significand significand' : Nat} {exponent exponent' : Int}

/-!
## Out of range
-/

theorem nearest_of_tiny (nonneg : 0 ≤ exact) (tiny : exact ≤ 2 ^ (-150 : Int)) :
    Nearest exact 0 (-149) := by
  have double : (2 : ℚ) ^ (-149 : Int) = 2 * 2 ^ (-150 : Int) := by
    rw [← zpow_one_add₀ two_ne_zero]
    rfl
  have apart : |((0 : Nat) : ℚ) * 2 ^ (-149 : Int) - exact| = exact := by
    rw [Nat.cast_zero, zero_mul, zero_sub, abs_neg, abs_of_nonneg nonneg]
  refine ⟨⟨by norm_num, le_rfl⟩, .inr rfl, fun {other power} holds => ?_, fun _ _ _ => Even.zero⟩
  rw [apart]
  obtain rfl | some := Nat.eq_zero_or_pos other
  · rw [Nat.cast_zero, zero_mul, zero_sub, abs_neg]
    exact le_abs_self exact
  · have large : (2 : ℚ) ^ (-149 : Int) ≤ other * 2 ^ power :=
      calc (2 : ℚ) ^ (-149 : Int) ≤ 2 ^ power := zpow_le_zpow_right₀ one_le_two holds.lowest
        _ ≤ other * 2 ^ power := le_mul_of_one_le_left (by positivity) (by exact_mod_cast some)
    exact le_trans (by linarith) (le_abs_self _)

theorem largest : ((2 ^ 24 - 1 : Nat) : ℚ) * 2 ^ (104 : Int) = 2 ^ 128 - 2 ^ 104 := by norm_num

theorem next_to_largest : ((2 ^ 23 : Nat) : ℚ) * 2 ^ (105 : Int) = 2 ^ 128 := by norm_num

theorem Nearest.large_of_high (nearest : Nearest exact significand exponent)
    (high : 104 < exponent) : 2 ^ 128 - 2 ^ 103 ≤ exact := by
  have value : (2 : ℚ) ^ 128 ≤ significand * 2 ^ exponent := by
    have long : 2 ^ 23 ≤ significand := nearest.full.resolve_right (by omega)
    rw [← next_to_largest]
    gcongr
    · exact one_le_two
    · omega
  have held : Holds (2 ^ 24 - 1) 104 := ⟨by norm_num, by norm_num⟩
  have closest := nearest.closest held
  rw [largest] at closest
  by_contra small
  rw [not_le] at small
  rw [abs_of_nonneg (by linarith)] at closest
  rcases le_abs.mp closest with above | below <;> linarith

/-- Where infinity begins, a higher exponent is nearer than all that a word holds, or as near and
even. -/
theorem Nearest.high_of_large (nearest : Nearest exact significand exponent)
    (large : 2 ^ 128 - 2 ^ 103 ≤ exact) : 104 < exponent := by
  by_contra low
  rw [not_lt] at low
  have value : (significand : ℚ) * 2 ^ exponent ≤ 2 ^ 128 - 2 ^ 104 := by
    have short : significand ≤ 2 ^ 24 - 1 := Nat.le_sub_one_of_lt nearest.short
    rw [← largest]
    gcongr
    exact one_le_two
  have infinite : Holds (2 ^ 23) 105 := ⟨by norm_num, by norm_num⟩
  have closest := nearest.closest infinite
  rw [next_to_largest, abs_sub_comm, abs_of_nonneg (by linarith)] at closest
  obtain above | below := le_total (2 ^ 128) exact
  · rw [abs_of_nonpos (by linarith)] at closest
    linarith
  · rw [abs_of_nonneg (by linarith)] at closest
    -- Only the middle is left, and the largest finite number is odd.
    have even : Even significand := by
      refine nearest.even infinite ?_ ?_
      · rw [next_to_largest]
        linarith
      · rw [next_to_largest, abs_of_nonneg (by linarith), abs_of_nonpos (by linarith)]
        linarith
    have same : (significand : ℚ) * 2 ^ exponent = (2 ^ 24 - 1 : Nat) * 2 ^ (104 : Int) := by
      rw [largest]
      linarith
    have longer := eq_mul_of_same_value low same
    have short := nearest.short
    obtain none | some := Nat.eq_zero_or_pos (104 - exponent).toNat
    · rw [none, pow_zero, mul_one] at longer
      exact absurd even (by rw [longer]; decide)
    · have double : 2 ^ 1 ≤ 2 ^ (104 - exponent).toNat := Nat.pow_le_pow_right (by norm_num) some
      omega

/-- A decimal is rounded to one number only. -/
theorem RoundsTo.unique {number number' : Float32} (rounds : RoundsTo exact number)
    (rounds' : RoundsTo exact number') : number = number' := by
  cases rounds with
  | finite nearest finite =>
      cases rounds' with
      | finite nearest' =>
          obtain ⟨rfl, rfl⟩ := nearest.unique nearest'
          rfl
      | infinite large =>
          have := nearest.high_of_large large
          omega
  | infinite large =>
      cases rounds' with
      | finite nearest' finite =>
          have := nearest'.high_of_large large
          omega
      | infinite => rfl

/-!
## Words
-/

theorem pack_of_high (positive : 0 < significand) (high : 104 < exponent) :
    Float32.Model.pack (unpacked significand exponent) =
      .pack (.infinity .positive) := by
  have packed : UnpackedFloat.pack .binary32 (unpacked significand exponent) =
      UnpackedFloat.pack .binary32 (.infinity .positive) := by
    rw [unpacked, dif_neg positive.ne']
    have field : 2 ^ Format.exponentBits .binary32 ≤
        (exponent + (Format.exponentBias .binary32 : Int) +
          (Format.mantissaBitsWithoutImplicit .binary32 : Int)).toNat + 1 := by
      change 2 ^ 8 ≤ (exponent + 127 + 23).toNat + 1
      omega
    simp only [UnpackedFloat.pack, if_pos field]
  unfold Float32.Model.pack
  simp only [packed]

theorem Nearest.roundsTo (nearest : Nearest exact significand exponent) :
    RoundsTo exact (.ofModel (.pack (unpacked significand exponent))) := by
  by_cases finite : exponent ≤ 104
  · exact .finite nearest finite
  · rw [not_le] at finite
    have long : 2 ^ 23 ≤ significand := nearest.full.resolve_right (by omega)
    rw [pack_of_high (by omega) finite]
    exact .infinite (nearest.large_of_high finite)

/-!
## Products and quotients
-/

def Unpacks (number : UnpackedFloat) (exact : ℚ) : Prop :=
  ∃ significand exponent,
    Nearest exact significand exponent ∧ number = unpacked significand exponent

theorem Unpacks.roundsTo {number : UnpackedFloat} (unpacks : Unpacks number exact) :
    RoundsTo exact (.ofModel (.pack number)) := by
  obtain ⟨significand, exponent, nearest, rfl⟩ := unpacks
  exact nearest.roundsTo

theorem zero_unpacks : Unpacks (.zero .positive) 0 :=
  ⟨0, -149, nearest_of_tiny le_rfl (by positivity), rfl⟩

theorem mul_unpacks (positive : 0 < significand) (positive' : 0 < significand')
    (exponent exponent' : Int)
    (enough : exponent + exponent' ≤ target (significand * significand') (exponent + exponent')) :
    Unpacks (UnpackedFloat.mul .binary32 (.finite .positive significand exponent positive)
        (.finite .positive significand' exponent' positive'))
      (significand * 2 ^ exponent * (significand' * 2 ^ exponent')) := by
  have nearest := roundWithAccuracy_nearest (.nothing rfl) enough
  have product : (significand : ℚ) * 2 ^ exponent * (significand' * 2 ^ exponent') =
      ((significand * significand' : Nat) + 0) * 2 ^ (exponent + exponent') := by
    rw [zpow_add₀ two_ne_zero]
    push_cast
    ring
  rw [product]
  exact nearest

private theorem accuracyOfFraction_dropped {rest divisor : Nat} (less : rest < divisor) :
    Dropped (accuracyOfFraction rest divisor) (rest / divisor) := by
  have positive : (0 : ℚ) < divisor := by exact_mod_cast Nat.zero_lt_of_lt less
  unfold accuracyOfFraction
  split
  · rename_i none
    exact .nothing (by rw [none, Nat.cast_zero, zero_div])
  · rename_i some
    rcases lt_trichotomy (2 * rest) divisor with below | half | above
    · rw [compare_lt_iff_lt.mpr below]
      refine .less (div_pos (by exact_mod_cast Nat.pos_of_ne_zero some) positive) ?_
      rw [div_lt_div_iff₀ positive two_pos]
      exact_mod_cast (by omega : rest * 2 < 1 * divisor)
    · rw [compare_eq_iff_eq.mpr half]
      refine .half ?_
      rw [div_eq_div_iff positive.ne' two_ne_zero]
      exact_mod_cast (by omega : rest * 2 = 1 * divisor)
    · rw [compare_gt_iff_gt.mpr above]
      refine .more ?_ ((div_lt_one positive).mpr (by exact_mod_cast less))
      rw [div_lt_div_iff₀ two_pos positive]
      exact_mod_cast (by omega : 1 * divisor < rest * 2)

private theorem quotient_log2 {places : Nat} (positive : 0 < significand)
    (positive' : 0 < significand') (long : significand'.log2 + 24 ≤ significand.log2 + places) :
    23 ≤ (significand <<< places / significand').log2 := by
  have enough : 2 ^ 23 ≤ significand <<< places / significand' := by
    refine (Nat.le_div_iff_mul_le positive').mpr ?_
    calc 2 ^ 23 * significand' ≤ 2 ^ 23 * 2 ^ (significand'.log2 + 1) :=
          Nat.mul_le_mul_left _ Nat.lt_log2_self.le
      _ = 2 ^ (significand'.log2 + 24) := by
          rw [← Nat.pow_add]
          congr 1
          omega
      _ ≤ 2 ^ (significand <<< places).log2 := by
          rw [log2_shiftLeft positive]
          exact Nat.pow_le_pow_right (by norm_num) long
      _ ≤ significand <<< places := by
          refine Nat.log2_self_le ?_
          rw [Nat.shiftLeft_eq]
          positivity
  exact (Nat.le_log2 (by omega)).mpr enough

theorem div_unpacks (positive : 0 < significand) (positive' : 0 < significand')
    (exponent exponent' : Int) :
    Unpacks (UnpackedFloat.div .binary32 (.finite .positive significand exponent positive)
        (.finite .positive significand' exponent' positive'))
      (significand * 2 ^ exponent / (significand' * 2 ^ exponent')) := by
  set aimed : Int := min (exponent - exponent')
    (max (totalExponent significand exponent - totalExponent significand' exponent' - 24) (-149))
    with aimedEq
  set places := (exponent - exponent' - aimed).toNat with placesEq
  set scaled := significand <<< places with scaledEq
  have within : aimed ≤ exponent - exponent' := min_le_left _ _
  have enough : aimed ≤ target (scaled / significand') aimed := by
    unfold target
    by_cases low : aimed ≤ -149
    · exact le_max_of_le_right low
    · have bits : 23 ≤ (scaled / significand').log2 := by
        refine quotient_log2 positive positive' ?_
        simp only [totalExponent] at aimedEq
        omega
      exact le_max_of_le_left (by omega)
  have nearest := roundWithAccuracy_nearest
    (accuracyOfFraction_dropped (Nat.mod_lt scaled positive')) enough
  have quotient : (significand : ℚ) * 2 ^ exponent / (significand' * 2 ^ exponent') =
      ((scaled / significand' : Nat) + (scaled % significand' : Nat) / significand') *
        2 ^ aimed := by
    have nonzero : (significand' : ℚ) ≠ 0 := by exact_mod_cast positive'.ne'
    have whole : ((scaled % significand' : Nat) : ℚ) +
        significand' * (scaled / significand' : Nat) = scaled := by
      exact_mod_cast Nat.mod_add_div scaled significand'
    calc (significand : ℚ) * 2 ^ exponent / (significand' * 2 ^ exponent')
        = significand * 2 ^ (exponent - exponent') / significand' := by
          rw [zpow_sub₀ two_ne_zero]
          field_simp
      _ = scaled * 2 ^ aimed / significand' := by rw [← shiftLeft_value significand within]
      _ = _ := by
          rw [← whole]
          field_simp
          ring
  rw [quotient]
  exact nearest

/-!
## Powers of ten
-/

section Powers

variable {number length : Nat} {power : Int}

private theorem decimal_tiny (short : number < 10 ^ length) (low : length + power ≤ -46) :
    (number : ℚ) * 10 ^ power ≤ 2 ^ (-150 : Int) :=
  calc (number : ℚ) * 10 ^ power ≤ 10 ^ (length : Int) * 10 ^ power := by
        gcongr
        rw [zpow_natCast]
        exact_mod_cast short.le
    _ = 10 ^ (length + power) := (zpow_add₀ (by norm_num) _ _).symm
    _ ≤ 10 ^ (-46 : Int) := zpow_le_zpow_right₀ (by norm_num) low
    _ ≤ 2 ^ (-150 : Int) := by norm_num

theorem decimal_large (long : 10 ^ length ≤ number) (high : 39 ≤ length + power) :
    2 ^ 128 - 2 ^ 103 ≤ (number : ℚ) * 10 ^ power :=
  calc (2 ^ 128 - 2 ^ 103 : ℚ) ≤ 10 ^ (39 : Int) := by norm_num
    _ ≤ 10 ^ (length + power) := zpow_le_zpow_right₀ (by norm_num) high
    _ = 10 ^ (length : Int) * 10 ^ power := zpow_add₀ (by norm_num) _ _
    _ ≤ number * 10 ^ power := by
        gcongr
        rw [zpow_natCast]
        exact_mod_cast long

theorem roundsTo_zero (short : number < 10 ^ length) (low : length + power ≤ -46) :
    RoundsTo (number * 10 ^ power) (.ofBits 0) :=
  (nearest_of_tiny (by positivity) (decimal_tiny short low)).roundsTo

end Powers

private theorem multiplied_unpacks {number : Nat} (positive : 0 < number) (places : Nat)
    (longer : 0 < number <<< 24) (power : 0 < 10 ^ places) :
    Unpacks (UnpackedFloat.mul .binary32 (.finite .positive (number <<< 24) (-24) longer)
      (.finite .positive (10 ^ places) 0 power)) (number * 10 ^ (places : Int)) := by
  have bits : 24 ≤ ((number <<< 24) * 10 ^ places).log2 := by
    refine (Nat.le_log2 (Nat.mul_pos longer power).ne').mpr ?_
    rw [Nat.shiftLeft_eq, Nat.mul_right_comm]
    exact Nat.le_mul_of_pos_left _ (Nat.mul_pos positive power)
  have unpacks := mul_unpacks longer power (-24) 0 (by simp only [target]; omega)
  have value := shiftLeft_value number (show (-24 : Int) ≤ 0 by decide)
  rw [show ((0 : Int) - -24).toNat = 24 from rfl, zpow_zero, mul_one] at value
  rwa [value, zpow_zero, mul_one, Nat.cast_pow, Nat.cast_ofNat, ← zpow_natCast] at unpacks

/-- Significands of any length are multiplied or divided. -/
theorem ofScientific_roundsTo (number : Nat) (power : Int) :
    RoundsTo (number * 10 ^ power) (.ofModel (.ofScientific number power)) := by
  have bits : Format.exponentBits .binary32 = 8 := rfl
  unfold Float32.Model.ofScientific UnpackedFloat.ofScientific
  rw [bits]
  split
  · rename_i none
    rw [none, Nat.cast_zero, zero_mul]
    exact zero_unpacks.roundsTo
  rename_i some
  have positive : 0 < number := Nat.pos_of_ne_zero some
  split
  · rename_i high
    exact .infinite (decimal_large (by omega : 10 ^ 0 ≤ number) (by omega))
  split
  · rename_i low
    have short : number < 10 ^ (number.log2 + 1) :=
      Nat.lt_log2_self.trans_le (Nat.pow_le_pow_left (by norm_num) _)
    exact roundsTo_zero short (by push_cast; omega)
  split
  · rename_i whole
    obtain ⟨places, rfl⟩ := Int.eq_ofNat_of_zero_le whole
    exact (multiplied_unpacks positive places _ _).roundsTo
  · rename_i below
    obtain ⟨places, rfl⟩ : ∃ places : Nat, power = -places := ⟨(-power).toNat, by omega⟩
    have unpacks := div_unpacks positive (by positivity : 0 < 10 ^ places) 0 0
    rw [zpow_zero, mul_one, mul_one, Nat.cast_pow, Nat.cast_ofNat, div_eq_mul_inv,
      ← zpow_natCast, ← zpow_neg] at unpacks
    have same : (- -(places : Int)).toNat = places := by omega
    simp only [same]
    exact unpacks.roundsTo

/-!
## Short numbers and small powers
-/

private theorem stands_of_fields (word : UInt32) {value : ℚ} (significand : Nat) (exponent : Int)
    (positive : 0 < significand) (fields : (Float32.ofBits word).toModel.unpack =
      .finite .positive significand exponent positive)
    (exact : (significand : ℚ) * 2 ^ exponent = value) : Stands (.ofBits word) value :=
  stands_of_unpack fields exact

private theorem power_stands : ∀ {places : Nat}
    (inside : places < Float32.exactlyRepresentablePowersOfTen.size),
    Stands (Float32.exactlyRepresentablePowersOfTen[places]) (10 ^ places)
  | 0, _ => stands_of_fields 0x3F800000 8388608 (-23) (by decide) rfl (by norm_num)
  | 1, _ => stands_of_fields 0x41200000 10485760 (-20) (by decide) rfl (by norm_num)
  | 2, _ => stands_of_fields 0x42C80000 13107200 (-17) (by decide) rfl (by norm_num)
  | 3, _ => stands_of_fields 0x447A0000 16384000 (-14) (by decide) rfl (by norm_num)
  | 4, _ => stands_of_fields 0x461C4000 10240000 (-10) (by decide) rfl (by norm_num)
  | 5, _ => stands_of_fields 0x47C35000 12800000 (-7) (by decide) rfl (by norm_num)
  | 6, _ => stands_of_fields 0x49742400 16000000 (-4) (by decide) rfl (by norm_num)
  | 7, _ => stands_of_fields 0x4B189680 10000000 0 (by decide) rfl (by norm_num)
  | 8, _ => stands_of_fields 0x4CBEBC20 12500000 3 (by decide) rfl (by norm_num)
  | 9, _ => stands_of_fields 0x4E6E6B28 15625000 6 (by decide) rfl (by norm_num)
  | 10, _ => stands_of_fields 0x501502F9 9765625 10 (by decide) rfl (by norm_num)

theorem Stands.fields {number : Float32} {value : ℚ} (stands : Stands number value)
    (above : 0 < value) :
    ∃ significand exponent, ∃ positive : 0 < significand,
      number.toModel.unpack = .finite .positive significand exponent positive ∧
        Canonical significand exponent ∧ value = significand * 2 ^ exponent := by
  unfold Stands at stands
  generalize number.toModel.unpack = fields at stands
  cases stands with
  | zero => exact absurd above (lt_irrefl 0)
  | @finite sign significand exponent positive canonical =>
      cases sign with
      | positive => exact ⟨significand, exponent, positive, rfl, canonical, rfl⟩
      | negative =>
          have below : ((Sign.negative.apply significand : Int) : ℚ) * 2 ^ exponent ≤ 0 := by
            rw [Sign.apply, Int.cast_neg, neg_mul]
            exact neg_nonpos.mpr (by positivity)
          exact absurd above below.not_gt

section Operations

variable {left right : Float32} {first second : ℚ}

private theorem Stands.mul_roundsTo (leftStands : Stands left first)
    (rightStands : Stands right second) (above : 0 < first) (above' : 0 < second) :
    RoundsTo (first * second) (left * right) := by
  obtain ⟨significand, exponent, positive, fields, canonical, rfl⟩ := leftStands.fields above
  obtain ⟨significand', exponent', positive', fields', canonical', rfl⟩ :=
    rightStands.fields above'
  have unpacks := mul_unpacks positive positive' exponent exponent'
    (canonical.enough canonical' positive positive')
  rw [← fields, ← fields'] at unpacks
  exact unpacks.roundsTo

private theorem Stands.div_roundsTo (leftStands : Stands left first)
    (rightStands : Stands right second) (above : 0 < first) (above' : 0 < second) :
    RoundsTo (first / second) (left / right) := by
  obtain ⟨significand, exponent, positive, fields, -, rfl⟩ := leftStands.fields above
  obtain ⟨significand', exponent', positive', fields', -, rfl⟩ := rightStands.fields above'
  have unpacks := div_unpacks positive positive' exponent exponent'
  rw [← fields, ← fields'] at unpacks
  exact unpacks.roundsTo

end Operations

private theorem Nearest.eq_of_holds
    (nearest : Nearest (significand' * 2 ^ exponent') significand exponent)
    (holds : Holds significand' exponent') :
    (significand : ℚ) * 2 ^ exponent = significand' * 2 ^ exponent' := by
  have close := nearest.closest holds
  rw [sub_self, abs_zero] at close
  exact sub_eq_zero.mp (abs_nonpos_iff.mp close)

theorem Nearest.denotes (nearest : Nearest exact significand exponent)
    (finite : exponent ≤ 104) :
    Denotes (unpacked significand exponent) (significand * 2 ^ exponent) :=
  denotes_of_significand .positive fun _ =>
    ⟨nearest.short, nearest.lowest, finite, nearest.full⟩

private theorem ofNat_denotes {number : Nat} (short : number < 2 ^ 23) :
    Denotes (.ofNat .binary32 number) number := by
  obtain rfl | positive := Nat.eq_zero_or_pos number
  · exact Denotes.zero .positive
  have above : (number : Int) > 0 := by omega
  change Denotes (.normalize .binary32 (number : Int) 0 .positive) number
  unfold UnpackedFloat.normalize
  rw [compare_gt_iff_gt.mpr above, Int.toNat_natCast]
  obtain ⟨longer, lower, -, enough, value, rounded⟩ := round_eq .positive positive 0
  obtain ⟨significand, exponent, nearest, same⟩ := roundWithAccuracy_nearest (.nothing rfl) enough
  rw [add_zero, value] at nearest
  have exact := nearest.eq_of_holds ⟨by omega, by omega⟩
  rw [zpow_zero, mul_one] at nearest exact
  have finite : exponent ≤ 104 := by
    by_contra high
    have large := nearest.large_of_high (not_le.mp high)
    have small : (number : ℚ) < 2 ^ 23 := by exact_mod_cast short
    linarith
  rw [rounded, same, ← exact]
  exact nearest.denotes finite

private theorem whole_stands {number : Nat} (short : number < 2 ^ 23) :
    Stands number.toUInt64.toFloat32 number := by
  have bits : number.toUInt64.toNat = number := by
    rw [Nat.toUInt64_eq, UInt64.toNat_ofNat']
    omega
  have stands : Stands number.toUInt64.toFloat32 number.toUInt64.toNat :=
    (ofNat_denotes (bits.symm ▸ short)).stands
  rwa [bits] at stands

section Short

variable {number places : Nat}

private theorem short_roundsTo (short : number < 2 ^ 23)
    (inside : places < Float32.exactlyRepresentablePowersOfTen.size) :
    RoundsTo (number * 10 ^ places)
        (number.toUInt64.toFloat32 * Float32.exactlyRepresentablePowersOfTen[places]) ∧
      RoundsTo (number / 10 ^ places)
        (number.toUInt64.toFloat32 / Float32.exactlyRepresentablePowersOfTen[places]) := by
  have power := power_stands inside
  have above : (0 : ℚ) < 10 ^ places := by positivity
  generalize Float32.exactlyRepresentablePowersOfTen[places] = ten at *
  obtain rfl | positive := Nat.eq_zero_or_pos number
  · obtain ⟨significand, exponent, positive, fields, -⟩ := power.fields above
    have zero : (Nat.toUInt64 0).toFloat32.toModel.unpack = .zero .positive := rfl
    rw [Nat.cast_zero, zero_mul, zero_div]
    constructor
    · have product : RoundsTo 0 (.ofModel (.pack (UnpackedFloat.mul .binary32 (.zero .positive)
          (.finite .positive significand exponent positive)))) := zero_unpacks.roundsTo
      rw [← zero, ← fields] at product
      exact product
    · have quotient : RoundsTo 0 (.ofModel (.pack (UnpackedFloat.div .binary32 (.zero .positive)
          (.finite .positive significand exponent positive)))) := zero_unpacks.roundsTo
      rw [← zero, ← fields] at quotient
      exact quotient
  · have whole := whole_stands short
    have some : (0 : ℚ) < number := by exact_mod_cast positive
    exact ⟨whole.mul_roundsTo power some above, whole.div_roundsTo power some above⟩

end Short

/-- A literal is rounded once, whichever way it is computed. -/
theorem literal_roundsTo (number : Nat) (power : Int) :
    RoundsTo (number * 10 ^ power)
      (Float32.ofScientific number (decide (power < 0)) power.natAbs) := by
  unfold Float32.ofScientific
  by_cases below : power < 0
  · obtain ⟨places, rfl⟩ : ∃ places : Nat, power = -places := ⟨(-power).toNat, by omega⟩
    rw [decide_eq_true below, Int.natAbs_neg, Int.natAbs_natCast]
    split
    · rename_i small
      rw [zpow_neg, zpow_natCast, ← div_eq_mul_inv]
      exact (short_roundsTo small.1 _).2
    · simp only [if_true, Int.negOfNat_eq]
      exact ofScientific_roundsTo number (-places)
  · obtain ⟨places, rfl⟩ := Int.eq_ofNat_of_zero_le (not_lt.mp below)
    rw [decide_eq_false below, Int.natAbs_natCast]
    split
    · rename_i small
      rw [zpow_natCast]
      exact (short_roundsTo small.1 _).1
    · exact ofScientific_roundsTo number places

end PagePaint.Binary32

namespace PagePaint.Numeral

/-- A decimal is read as what it is rounded to. Where its leading power of ten alone decides, this
is zero or infinity. -/
theorem nearest_roundsTo (digits : Nat) (exponent : Int) :
    Binary32.RoundsTo (digits * 10 ^ exponent) (nearest digits exponent) := by
  have length {bound : Nat} (some : 0 < bound) :
      (Nat.toDigits 10 digits).length ≤ bound ↔ digits < 10 ^ bound :=
    Nat.length_toDigits_le_iff (by norm_num) some
  have some : 0 < (Nat.toDigits 10 digits).length := Nat.length_toDigits_pos
  unfold nearest
  extract_lets power
  split_ifs with low high
  · rcases low with rfl | low
    · rw [Nat.cast_zero, zero_mul]
      exact Binary32.zero_unpacks.roundsTo
    · exact Binary32.roundsTo_zero ((length some).mp le_rfl) (by omega)
  · have long : 10 ^ ((Nat.toDigits 10 digits).length - 1) ≤ digits := by
      obtain single | more := Nat.eq_zero_or_pos ((Nat.toDigits 10 digits).length - 1)
      · rw [single, pow_zero]
        omega
      · by_contra less
        have := (length more).mpr (not_le.mp less)
        omega
    exact .infinite (Binary32.decimal_large long (by omega))
  · exact Binary32.literal_roundsTo digits exponent

end PagePaint.Numeral
