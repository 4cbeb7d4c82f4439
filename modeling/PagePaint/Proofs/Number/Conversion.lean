import PagePaint.Proofs.Number.Arithmetic
import PagePaint.Proofs.Number.Comparison

set_option autoImplicit false

/-!
# Converting to and from single precision

A whole number is converted with a rounding or two. A word that is taken apart by integer arithmetic
is read as the rational it stands for.
-/

namespace PagePaint.Binary32

open Float.Model (Format UnpackedFloat)
open Float.Model.UnpackedFloat

/-!
## Reading words
-/

private theorem unpackMantissa_toNat (word : UInt32) :
    (@unpackMantissa .binary32 word.toBitVec).toNat = word.toNat % leadingBit := by
  change (word.toBitVec.extractLsb' 0 23).toNat = _
  rw [BitVec.extractLsb'_toNat]
  rfl

private theorem unpackExponent_toNat (word : UInt32) :
    (@unpackExponent .binary32 word.toBitVec).toNat = word.toNat / leadingBit % 256 := by
  change (word.toBitVec.extractLsb' 23 8).toNat = _
  rw [BitVec.extractLsb'_toNat, Nat.shiftRight_eq_div_pow]
  rfl

private theorem unpackSign_toNat (word : UInt32) :
    (@unpackSign .binary32 word.toBitVec).toNat = word.toNat / 0x80000000 := by
  change (word.toBitVec.extractLsb' 31 1).toNat = _
  rw [BitVec.extractLsb'_toNat, Nat.shiftRight_eq_div_pow]
  have := word.toNat_lt
  change word.toNat / 2 ^ 31 % 2 ^ 1 = _
  omega

def signOf (negative : Bool) : Sign := if negative then .negative else .positive

private theorem ofBitVec_unpackSign (word : UInt32) :
    Sign.ofBitVec (@unpackSign .binary32 word.toBitVec) =
      signOf (decide (0x80000000 ≤ word.toNat)) := by
  have field := unpackSign_toNat word
  have := word.toNat_lt
  unfold Sign.ofBitVec signOf
  simp only [decide_eq_true_eq]
  split
  · rename_i zero
    rw [zero] at field
    change 0 = _ at field
    rw [if_neg (by omega)]
  · rename_i set
    have : (@unpackSign .binary32 word.toBitVec).toNat ≠ 0 := fun zero =>
      set (BitVec.eq_of_toNat_eq zero)
    rw [if_pos (by omega)]

def Reading.Finite (reading : Reading) (value : ℚ) : Prop :=
  ∃ negative significand exponent, reading = .finite negative significand exponent ∧
    value = ((signOf negative).apply significand : Int) * 2 ^ exponent

theorem Stands.reading {number : Float32} {value : ℚ} (stands : Stands number value) :
    (read number).Finite value := by
  have fraction := unpackMantissa_toNat number.toBits
  have field := unpackExponent_toNat number.toBits
  have bias : (Format.exponentBias .binary32 : Int) +
      (Format.mantissaBitsWithoutImplicit .binary32 : Nat) = 150 := rfl
  change Denotes (UnpackedFloat.unpack .binary32 number.toBits.toBitVec) value at stands
  simp only [UnpackedFloat.unpack, bias, ofBitVec_unpackSign] at stands
  unfold read
  extract_lets word negative field' fraction'
  -- Both take the word apart by the same two tests of the exponent's field.
  split at stands
  · split at stands <;> cases stands
  rename_i regular
  rw [if_neg fun ones : field' = 255 => regular (BitVec.eq_of_toNat_eq (field.trans ones))]
  split at stands
  · rename_i subnormal
    rw [if_pos (show field' = 0 by rw [← show _ = field' from field, subnormal]; rfl)]
    refine ⟨_, _, _, rfl, ?_⟩
    split at stands
    · rename_i zero
      have zero : fraction' = 0 := by rw [← show _ = fraction' from fraction, zero]; rfl
      cases stands
      rw [zero, cast_apply, Nat.cast_zero, mul_zero, zero_mul]
    · cases stands
      rw [subnormal, fraction]
      rfl
  · rename_i normal
    rw [if_neg fun zero : field' = 0 => normal (BitVec.eq_of_toNat_eq (field.trans zero))]
    refine ⟨_, _, _, rfl, ?_⟩
    cases stands
    rw [leadingBit_append, fraction, field, Nat.add_comm]
    rfl

/-!
## Whole numbers
-/

section Whole

variable {size : Int}

theorem normalize_near (number : Nat) (sized : Sized size) (small : (number : ℚ) < 2 ^ size) :
    Near (.ofModel (.pack (.ofNat .binary32 number))) number (2 ^ (size - 24)) := by
  have rounds : Rounds (.ofNat .binary32 number) (((number : Int) : ℚ) * 2 ^ (0 : Int)) size :=
    normalize_rounds .positive sized (by simpa using small)
  rw [zpow_zero, mul_one, Int.cast_natCast] at rounds
  exact rounds.near

theorem toFloat32_near (number : UInt32) (sized : Sized size)
    (small : (number.toNat : ℚ) < 2 ^ size) :
    Near number.toFloat32 number.toNat (2 ^ (size - 24)) :=
  normalize_near number.toNat sized small

private theorem ofScientific_eq {number : Nat} (positive : 0 < number) :
    UnpackedFloat.ofScientific .binary32 number 0 =
      roundWithAccuracy .binary32 .positive (number <<< 24) (-24) .exact := by
  have bits : Format.exponentBits .binary32 = 8 := rfl
  unfold UnpackedFloat.ofScientific
  rw [dif_neg (by omega), if_neg, if_neg, if_pos le_rfl]
  · simp only [UnpackedFloat.mul, Int.toNat_zero, pow_zero, mul_one, add_zero]
    rfl
  · rw [bits]
    omega
  · rw [bits]
    decide

private theorem ofScientific_near (number : Nat) (positive : 0 < number) (sized : Sized size)
    (small : (number : ℚ) < 2 ^ size) :
    Near (.ofModel (.ofScientific number 0)) number (2 ^ (size - 24)) := by
  have value := shiftLeft_value number (show (-24 : Int) ≤ 0 by decide)
  rw [show ((0 : Int) - -24).toNat = 24 from rfl, zpow_zero, mul_one] at value
  have enough : -24 ≤ target (number <<< 24) (-24) := by
    simp only [target, log2_shiftLeft positive]
    omega
  have rounds := roundWithAccuracy_rounds .positive (number <<< 24) (-24)
    (by rw [Nat.shiftLeft_eq]; positivity) enough sized (by rwa [value])
  rw [← ofScientific_eq positive, cast_apply, mul_assoc, value, Sign.apply,
    Int.cast_one, one_mul] at rounds
  exact rounds.near

private theorem unit_stands : Stands (Float32.exactlyRepresentablePowersOfTen[0]) 1 :=
  stands_of_unpack (show (Float32.exactlyRepresentablePowersOfTen[0]).toModel.unpack =
    .finite .positive 8388608 (-23) (by decide) from rfl) (by norm_num)

/-- A small literal is converted and multiplied by one, each with a rounding. -/
theorem ofNat_near (number : Nat) (sized : Sized size)
    (small : (number : ℚ) + 2 ^ (size - 24) < 2 ^ size) :
    Near (Float32.ofNat number) number (2 * 2 ^ (size - 24)) := by
  have error : (0 : ℚ) < 2 ^ (size - 24) := by positivity
  change Near (Float32.ofScientific number false 0) _ _
  unfold Float32.ofScientific
  by_cases short : number < 2 ^ 23 ∧ 0 ≤ 10
  · rw [dif_pos short]
    have bits : number.toUInt64.toNat = number := by
      rw [Nat.toUInt64_eq, UInt64.toNat_ofNat']
      omega
    have near : Near number.toUInt64.toFloat32 number.toUInt64.toNat (2 ^ (size - 24)) :=
      normalize_near number.toUInt64.toNat sized (by rw [bits]; linarith)
    rw [bits] at near
    have product := near.mul number 1 unit_stands.near (abs_of_nonneg number.cast_nonneg).le
      (by simp) sized (by linarith)
    rw [mul_one, mul_one, mul_zero, add_zero, ← two_mul] at product
    exact product
  · rw [dif_neg short]
    exact (ofScientific_near number (by omega) sized (by linarith)).mono (by linarith)

private theorem Near.neg {number : Float32} {exact error : ℚ} (near : Near number exact error) :
    Near number.neg (-exact) error := by
  obtain ⟨value, stands, close⟩ := near
  refine ⟨-value, (Denotes.neg stands).stands, ?_⟩
  rw [neg_sub_neg, abs_sub_comm]
  exact close

theorem ofInt_near (number : Int) (sized : Sized size)
    (small : |(number : ℚ)| + 2 ^ (size - 24) < 2 ^ size) :
    Near (Float32.ofInt number) number (2 * 2 ^ (size - 24)) := by
  cases number with
  | ofNat number => exact ofNat_near number sized (by simpa using small)
  | negSucc number =>
      rw [Int.cast_negSucc, abs_neg, abs_of_nonneg (Nat.cast_nonneg _)] at small
      rw [Int.cast_negSucc]
      exact (ofNat_near number.succ sized small).neg

end Whole

/-!
## Cutting off
-/

def towardZero (value : ℚ) : Int := if value < 0 then ⌈value⌉ else ⌊value⌋

theorem towardZero_of_nonneg {value : ℚ} (nonneg : 0 ≤ value) : towardZero value = ⌊value⌋ :=
  if_neg (not_lt.mpr nonneg)

private theorem towardZero_neg (value : ℚ) : towardZero (-value) = -towardZero value := by
  unfold towardZero
  rcases lt_trichotomy value 0 with below | rfl | above
  · rw [if_neg (by linarith), if_pos below, Int.floor_neg]
  · simp
  · rw [if_pos (by linarith), if_neg (by linarith), Int.ceil_neg]

theorem towardZero_signed (negative : Bool) (significand : Nat) (exponent : Int) :
    towardZero (((signOf negative).apply significand : Int) * 2 ^ exponent) =
      (signOf negative).apply (significand <<< exponent.toNat >>> (-exponent).toNat : Nat) := by
  have magnitude : towardZero (significand * 2 ^ exponent) =
      (significand <<< exponent.toNat >>> (-exponent).toNat : Nat) := by
    rw [towardZero_of_nonneg (by positivity), Nat.shiftRight_eq_div_pow, ← floor_significand]
    exact (Int.natCast_floor_eq_floor (by positivity)).symm
  cases negative with
  | false => exact magnitude
  | true =>
      change towardZero ((-(significand : Int) : Int) * 2 ^ exponent) = -_
      rw [Int.cast_neg, Int.cast_natCast, neg_mul, towardZero_neg, magnitude]

theorem towardZero_bounds (value : ℚ) :
    value - 1 ≤ towardZero value ∧ towardZero value ≤ value + 1 := by
  unfold towardZero
  split
  · exact ⟨by linarith [Int.le_ceil value], (Int.ceil_lt_add_one value).le⟩
  · exact ⟨(Int.sub_one_lt_floor value).le, by linarith [Int.floor_le value]⟩

/-- A number less than a half away from the middle between two whole ones loses its fraction in
the direction of zero. -/
theorem towardZero_of_near {value : ℚ} {whole : Int} (close : |value - (whole + 1 / 2)| < 1 / 2) :
    towardZero value = if whole < 0 then whole + 1 else whole := by
  obtain ⟨below, above⟩ := abs_lt.mp close
  split
  · rename_i negative
    have negative : ((whole : Int) : ℚ) + 1 ≤ 0 := by exact_mod_cast negative
    rw [towardZero, if_pos (by linarith), Int.ceil_eq_iff]
    push_cast
    constructor <;> linarith
  · rename_i positive
    have positive : (0 : ℚ) ≤ (whole : Int) := by exact_mod_cast not_lt.mp positive
    rw [towardZero_of_nonneg (by linarith), Int.floor_eq_iff]
    constructor <;> linarith

end PagePaint.Binary32
