import Mathlib
import PagePaint.Number.Binary32

set_option autoImplicit false

/-!
# Single-precision numbers as rationals

A finite single-precision number is a signed significand times a power of two. The significand has
24 bits, fewer only at the lowest exponent, so a word holds it without loss and two numbers compare
like their words.
-/

namespace PagePaint.Binary32

open Float.Model (Format UnpackedFloat totalExponent)
open Float.Model.UnpackedFloat (Sign)

/-- A significand and an exponent as a word holds them. -/
structure Canonical (significand : Nat) (exponent : Int) : Prop where
  short : significand < 2 ^ 24
  lowest : -149 ≤ exponent
  highest : exponent ≤ 104
  full : 2 ^ 23 ≤ significand ∨ exponent = -149

inductive Denotes : UnpackedFloat → ℚ → Prop where
  | zero (sign : Sign) : Denotes (.zero sign) 0
  | finite (sign : Sign) {significand : Nat} {exponent : Int} (positive : 0 < significand)
      (canonical : Canonical significand exponent) :
      Denotes (.finite sign significand exponent positive)
        ((sign.apply significand : Int) * 2 ^ exponent)

/-- A single-precision number that is finite and stands for a rational. -/
def Stands (number : Float32) (value : ℚ) : Prop := Denotes number.toModel.unpack value

/-!
## Words
-/

theorem leadingBit_append (fraction : BitVec 23) :
    (1#1 ++ fraction).toNat = 2 ^ 23 + fraction.toNat := by
  rw [BitVec.toNat_append, ← Nat.shiftLeft_add_eq_or_of_lt fraction.isLt]
  rfl

private theorem unpack_of_field (sign : Sign) (field : BitVec 8) (fraction : BitVec 23)
    (nonzero : field ≠ 0#8) (regular : field ≠ -1#8) :
    ∃ positive, UnpackedFloat.unpack .binary32
      (UnpackedFloat.packComponents .binary32 sign field fraction) =
        .finite sign (2 ^ 23 + fraction.toNat) ((field.toNat : Int) - 150) positive := by
  have exponent : (field.toNat : Int) - ((Format.exponentBias .binary32 : Nat) +
      (Format.mantissaBitsWithoutImplicit .binary32 : Nat)) = field.toNat - 150 := rfl
  refine ⟨by positivity, ?_⟩
  simp only [UnpackedFloat.unpack, UnpackedFloat.unpackExponent_packComponents,
    UnpackedFloat.unpackMantissa_packComponents, UnpackedFloat.unpackSign_packComponents,
    Sign.ofBitVec_toBitVec, if_neg nonzero, if_neg regular, leadingBit_append, exponent]

private theorem unpack_of_no_field (sign : Sign) (fraction : BitVec 23)
    (nonzero : fraction ≠ 0#23) :
    ∃ positive, UnpackedFloat.unpack .binary32
      (UnpackedFloat.packComponents .binary32 sign 0#8 fraction) =
        .finite sign fraction.toNat (-149) positive := by
  refine ⟨by simpa [BitVec.toNat_pos, BitVec.pos_iff_ne_zero] using nonzero, ?_⟩
  simp only [UnpackedFloat.unpack, UnpackedFloat.unpackExponent_packComponents,
    UnpackedFloat.unpackMantissa_packComponents, UnpackedFloat.unpackSign_packComponents,
    Sign.ofBitVec_toBitVec, nonzero]
  rfl

theorem pack_of_full (sign : Sign) {significand field : Nat} (positive : 0 < significand)
    (full : 2 ^ 23 ≤ significand) (short : significand < 2 ^ 24) (regular : field < 255) :
    UnpackedFloat.pack .binary32 (.finite sign significand ((field : Int) - 150) positive) =
      UnpackedFloat.packComponents .binary32 sign (BitVec.ofNat 8 field)
        (BitVec.ofNat 23 significand) := by
  have bits : significand.log2 = 23 := (Nat.log2_eq_iff (by omega)).mpr ⟨full, short⟩
  have biased : ((field : Int) - 150 + (Format.exponentBias .binary32 : Nat) +
      (Format.mantissaBitsWithoutImplicit .binary32 : Nat)).toNat = field := by
    change ((field : Int) - 150 + 127 + 23).toNat = field
    omega
  have fits : ¬ 2 ^ Format.exponentBits .binary32 ≤ field + 1 := by
    change ¬ 2 ^ 8 ≤ field + 1
    omega
  simp only [UnpackedFloat.pack, biased, bits, if_neg fits]
  rfl

theorem pack_of_short (sign : Sign) {significand : Nat} (positive : 0 < significand)
    (short : significand < 2 ^ 23) :
    UnpackedFloat.pack .binary32 (.finite sign significand (-149) positive) =
      UnpackedFloat.packComponents .binary32 sign 0#8 (BitVec.ofNat 23 significand) := by
  have bits : significand.log2 + 1 ≠ Format.mantissaBits .binary32 := by
    have := (Nat.log2_lt (by omega)).mpr short
    change significand.log2 + 1 ≠ 24
    omega
  simp only [UnpackedFloat.pack, if_neg bits]
  rfl

theorem Denotes.unpack_pack {number : UnpackedFloat} {value : ℚ} (denotes : Denotes number value) :
    UnpackedFloat.unpack .binary32 (UnpackedFloat.pack .binary32 number) = number := by
  cases denotes with
  | zero sign => cases sign <;> rfl
  | @finite sign significand exponent positive canonical =>
      obtain ⟨short, lowest, highest, full⟩ := canonical
      -- A full significand has a field of its own; all others share the field zero.
      by_cases normal : 2 ^ 23 ≤ significand
      · obtain ⟨field, rfl⟩ : ∃ field : Nat, exponent = (field : Int) - 150 :=
          ⟨(exponent + 150).toNat, by omega⟩
        have fieldEq : (BitVec.ofNat 8 field).toNat = field := by
          rw [BitVec.toNat_ofNat, Nat.mod_eq_of_lt (by omega)]
        obtain ⟨_, unpacked⟩ := unpack_of_field sign (BitVec.ofNat 8 field)
          (BitVec.ofNat 23 significand)
          (by rw [Ne, ← BitVec.toNat_inj, fieldEq]; change ¬ field = 0; omega)
          (by rw [Ne, ← BitVec.toNat_inj, fieldEq]; change ¬ field = 255; omega)
        have whole : 2 ^ 23 + (BitVec.ofNat 23 significand).toNat = significand := by
          rw [BitVec.toNat_ofNat]
          omega
        rw [pack_of_full sign positive normal short (by omega), unpacked]
        simp only [whole, fieldEq]
      · obtain rfl : exponent = -149 := full.resolve_left normal
        have whole : (BitVec.ofNat 23 significand).toNat = significand := by
          rw [BitVec.toNat_ofNat, Nat.mod_eq_of_lt (by omega)]
        obtain ⟨_, unpacked⟩ := unpack_of_no_field sign (BitVec.ofNat 23 significand)
          (by rw [Ne, ← BitVec.toNat_inj, whole]; change ¬ significand = 0; omega)
        rw [pack_of_short sign positive (by omega), unpacked]
        simp only [whole]

theorem Denotes.stands {number : UnpackedFloat} {value : ℚ} (denotes : Denotes number value) :
    Stands (.ofModel (.pack number)) value := by
  change Denotes (UnpackedFloat.unpack .binary32 (UnpackedFloat.pack .binary32 number)) value
  rw [denotes.unpack_pack]
  exact denotes

theorem unpack_canonical {word : BitVec 32} {sign : Sign} {significand : Nat} {exponent : Int}
    {positive : 0 < significand}
    (unpacked : UnpackedFloat.unpack .binary32 word = .finite sign significand exponent positive) :
    Canonical significand exponent := by
  have bias : (Format.exponentBias .binary32 : Int) +
      (Format.mantissaBitsWithoutImplicit .binary32 : Nat) = 150 := rfl
  simp only [UnpackedFloat.unpack, bias] at unpacked
  have short : (@UnpackedFloat.unpackMantissa .binary32 word).toNat < 2 ^ 23 :=
    BitVec.isLt _
  have low : (@UnpackedFloat.unpackExponent .binary32 word).toNat < 2 ^ 8 :=
    BitVec.isLt _
  split at unpacked
  · split at unpacked <;> cases unpacked
  · rename_i regular
    split at unpacked
    · rename_i none
      split at unpacked
      · cases unpacked
      · cases unpacked
        rw [none]
        exact ⟨by omega, by decide, by decide, .inr rfl⟩
    · rename_i some
      cases unpacked
      have least : (@UnpackedFloat.unpackExponent .binary32 word).toNat ≠ 0 :=
        fun zero => some (BitVec.eq_of_toNat_eq zero)
      have most : (@UnpackedFloat.unpackExponent .binary32 word).toNat ≠ 255 :=
        fun ones => regular (BitVec.eq_of_toNat_eq ones)
      rw [leadingBit_append]
      exact ⟨by omega, by omega, by omega, .inl (by omega)⟩

private theorem exists_denotes {word : BitVec 32}
    (finite : (UnpackedFloat.unpack .binary32 word).isFinite = true) :
    ∃ value, Denotes (UnpackedFloat.unpack .binary32 word) value := by
  cases unpacked : UnpackedFloat.unpack .binary32 word with
  | infinity | notANumber =>
      rw [unpacked] at finite
      cases finite
  | zero sign => exact ⟨0, .zero sign⟩
  | finite sign significand exponent positive =>
      exact ⟨_, .finite sign positive (unpack_canonical unpacked)⟩

theorem stands_of_unpack {number : Float32} {significand : Nat} {exponent : Int} {value : ℚ}
    {positive : 0 < significand}
    (unpacked : number.toModel.unpack = .finite .positive significand exponent positive)
    (exact : (significand : ℚ) * 2 ^ exponent = value) : Stands number value := by
  unfold Stands
  rw [unpacked, ← exact]
  exact .finite .positive positive (unpack_canonical unpacked)

theorem exists_stands {number : Float32} (finite : number.isFinite = true) :
    ∃ value, Stands number value :=
  exists_denotes finite

end PagePaint.Binary32
