import PagePaint.Proofs.Number.Arithmetic
import PagePaint.Proofs.Number.Comparison
import PagePaint.Proofs.Number.Sums
import PagePaint.Raster.Blend

set_option autoImplicit false

/-!
# Blending onto opaque pixels

A pixel that is mixed onto an opaque one stays opaque, in integers and in single precision alike,
for every mode, source, opacity and coverage. The rounding of integers is exact there; that of
single precision stays far below half a step of a channel.
-/

namespace PagePaint

open Binary32

namespace Blend

/-!
## Integers
-/

section Alphas

variable {alpha : Nat}

theorem laidOver_full (most : alpha ≤ 255) : laidOver alpha alpha 255 = 255 := by
  simp only [laidOver, divide]
  omega

private theorem multiplied_full (most : alpha ≤ 255) :
    divide (alpha * (255 - 255) + 255 * (255 - alpha) + alpha * 255) = 255 := by
  simp only [divide]
  omega

private theorem screened_full (most : alpha ≤ 255) : alpha + 255 - divide (alpha * 255) = 255 := by
  simp only [divide]
  omega

end Alphas

theorem allChannels_full {mix : Nat → Nat → Nat} {source below : Pixel}
    (full : 255 ≤ mix source.alpha.toNat below.alpha.toNat) :
    (allChannels mix source below).alpha = 255 := by
  change UInt8.ofNat (min (mix source.alpha.toNat below.alpha.toNat) 255) = 255
  rw [Nat.min_eq_right full]
  rfl

private theorem colorChannels_full (mix : Nat → Nat → Nat) (source : Pixel) {below : Pixel}
    (full : below.alpha.toNat = 255) : (colorChannels mix source below).alpha = 255 := by
  change UInt8.ofNat (min (laidOver source.alpha.toNat source.alpha.toNat below.alpha.toNat) 255) =
    255
  rw [full, laidOver_full (Nat.le_of_lt_succ source.alpha.toNat_lt)]
  rfl

private theorem laidOn_full (coverage : Nat) {mixed below : Pixel}
    (mixedFull : mixed.alpha.toNat = 255) (full : below.alpha.toNat = 255) :
    (laidOn coverage mixed below).alpha = 255 := by
  refine allChannels_full ?_
  rw [mixedFull, full]
  simp only [divide]
  omega

/-!
## Fractions
-/

/-- Fractions of the full value, with room for what rounding does to them. -/
structure Fractional (value : ℚ) : Prop where
  low : -(1 / 4) ≤ value
  high : value ≤ 5 / 4

theorem Fractional.zero : Fractional 0 := ⟨by norm_num, by norm_num⟩

theorem Fractional.one : Fractional 1 := ⟨by norm_num, by norm_num⟩

theorem Fractional.rest {value : ℚ} (fractional : Fractional value) : Fractional (1 - value) :=
  ⟨by linarith [fractional.high], by linarith [fractional.low]⟩

theorem Fractional.bounded {value : ℚ} (fractional : Fractional value) : |value| ≤ 5 / 4 :=
  abs_le.mpr ⟨by linarith [fractional.low], fractional.high⟩

def step : ℚ := 2 ^ (2 - 24 : Int)

private theorem full_stands : Stands 255 255 :=
  stands_of_unpack (show (255 : Float32).toModel.unpack =
    .finite .positive 16711680 (-16) (by decide) from rfl) (by norm_num)

private theorem almostFull_stands : Stands (254 : UInt8).toFloat32 254 :=
  stands_of_unpack (show (254 : UInt8).toFloat32.toModel.unpack =
    .finite .positive 16646144 (-16) (by decide) from rfl) (by norm_num)

theorem half_stands : Stands 0.5 (1 / 2) :=
  stands_of_unpack (show (0.5 : Float32).toModel.unpack =
    .finite .positive 8388608 (-24) (by decide) from rfl) (by norm_num)

section Errors

variable {x y : Float32} {first second error error' : ℚ}

theorem sized_two : Sized 2 := ⟨by decide, by decide⟩

private theorem sized_eight : Sized 8 := ⟨by decide, by decide⟩

theorem near_rest (near : Near x first error) (fractional : Fractional first) (small : error ≤ 1) :
    Near (1 - x) (1 - first) (error + step) := by
  refine (Stands.one.near.sub near sized_two ?_).mono ?_
  · have := fractional.rest.bounded
    norm_num
    linarith
  · rw [zero_add]
    rfl

theorem near_product (left : Near x first error) (right : Near y second error')
    (leftFractional : Fractional first) (rightFractional : Fractional second)
    (leftSmall : error ≤ 1 / 12) (rightSmall : error' ≤ 1 / 12) :
    Near (x * y) (first * second) (2 * (error + error') + step) := by
  have := left.nonneg
  have := right.nonneg
  refine (left.mul (5 / 4) (4 / 3) right leftFractional.bounded ?_ sized_two ?_).mono ?_
  · linarith [rightFractional.bounded]
  · norm_num
    linarith
  · change _ ≤ _ + (2 : ℚ) ^ (2 - 24 : Int)
    linarith

theorem near_sum (left : Near x first error) (right : Near y second error')
    (leftFractional : Fractional first) (rightFractional : Fractional second)
    (small : error + error' ≤ 1) : Near (x + y) (first + second) (error + error' + step) := by
  refine left.add right sized_two ?_
  have := abs_add_le first second
  have := leftFractional.bounded
  have := rightFractional.bounded
  norm_num
  linarith

end Errors

private theorem remainder_near {scaled whole : Float32} {share value : ℚ}
    (stands : Stands scaled share) (wholeStands : Stands whole value) (low : value ≤ share)
    (high : share ≤ value + 1) :
    Near (scaled - whole) (share - value) step := by
  refine (stands.near.sub wholeStands.near sized_two ?_).mono ?_
  · rw [abs_of_nonneg (sub_nonneg.mpr low)]
    norm_num
    linarith
  · rw [zero_add, zero_add]
    rfl

/-- A fraction next to the full value is rounded to it: its scaled value is cut off to the last
channel or to the one before, and then rounded up. -/
theorem roundChannel_full {value : Float32} (near : Near value 1 (1 / 1024)) :
    Fractions.roundChannel value = 255 := by
  have bounded : Near (if value < 0 then 0 else if 1 < value then 1 else value) 1 (1 / 1024) := by
    obtain ⟨share, stands, close⟩ := near
    have nonneg : ¬ value < 0 := by
      rw [stands.lt_iff Stands.zero]
      linarith [(abs_le.mp close).1]
    rw [if_neg nonneg]
    split
    · exact Stands.one.near.mono (by norm_num)
    · exact ⟨share, stands, close⟩
  obtain ⟨share, stands, close⟩ :=
    bounded.mul 1 255 full_stands.near (by norm_num) (by norm_num) sized_eight (by norm_num)
  obtain ⟨low, high⟩ := abs_le.mp close
  norm_num at low high
  simp only [Fractions.roundChannel]
  generalize (if value < 0 then 0 else if 1 < value then 1 else value) * 255 = scaled at stands ⊢
  by_cases under : share < 255
  · have whole : scaled.toUInt8 = 254 := by
      apply stands.toUInt8_eq
      · change ((254 : Nat) : ℚ) ≤ share
        norm_num
        linarith
      · change share < ((254 : Nat) : ℚ) + 1
        norm_num
        exact under
    obtain ⟨rest, restStands, close⟩ :=
      remainder_near stands almostFull_stands (by linarith) (by linarith)
    have most : 1 / 2 < rest := by
      have := (abs_le.mp close).1
      norm_num [step] at this
      linarith
    have above : ¬ scaled - (254 : UInt8).toFloat32 < 0.5 := by
      rw [restStands.lt_iff half_stands]
      exact most.not_gt
    have apart : ¬ (scaled - (254 : UInt8).toFloat32 == 0.5) = true := by
      rw [restStands.beq_iff half_stands]
      exact most.ne'
    rw [whole, if_neg above, if_neg apart]
    rfl
  · have whole : scaled.toUInt8 = 255 := by
      apply stands.toUInt8_eq
      · change ((255 : Nat) : ℚ) ≤ share
        exact not_lt.mp under
      · change share < ((255 : Nat) : ℚ) + 1
        norm_num
        linarith
    obtain ⟨rest, restStands, close⟩ :=
      remainder_near stands full_stands (not_lt.mp under) (by linarith)
    have below : scaled - (255 : UInt8).toFloat32 < 0.5 := by
      refine (restStands.lt_iff half_stands).mpr ?_
      have := (abs_le.mp close).2
      norm_num [step] at this
      linarith
    rw [whole, if_pos below]

section Mixes

variable {a b : Float32} {source below : Fractions} {share : ℚ}

theorem kept_near (upper : Stands a share) (fractional : Fractional share) (lower : Stands b 1) :
    Near (b * (1 - a)) (1 - share) (3 * step) := by
  have rest := near_rest upper.near fractional zero_le_one
  have kept := near_product lower.near rest .one fractional.rest (by norm_num) (by norm_num [step])
  rw [one_mul] at kept
  exact kept.mono (by linarith)

private theorem covered_near (upper : Stands a share) (fractional : Fractional share)
    (lower : Stands b 1) :
    Near (a * (1 - b)) 0 (3 * step) := by
  have rest := near_rest lower.near .one zero_le_one
  rw [sub_self] at rest
  have covered :=
    near_product upper.near rest fractional .zero (by norm_num) (by norm_num [step])
  rw [mul_zero] at covered
  exact covered.mono (by linarith)

theorem both_near (upper : Stands a share) (fractional : Fractional share) (lower : Stands b 1) :
    Near (a * b) share step := by
  have both := near_product upper.near lower.near fractional .one (by norm_num) (by norm_num)
  rw [mul_one] at both
  exact both.mono (by linarith)

private theorem laid_near (upper : Stands a share) (fractional : Fractional share)
    (lower : Stands b 1) :
    Near (b * (1 - a) + a) 1 (1 / 1024) := by
  have laid := near_sum (kept_near upper fractional lower) upper.near fractional.rest fractional
    (by norm_num [step])
  rw [sub_add_cancel] at laid
  exact laid.mono (by norm_num [step])

private theorem multiplied_near (upper : Stands a share) (fractional : Fractional share)
    (lower : Stands b 1) : Near (a * (1 - b) + b * (1 - a) + a * b) 1 (1 / 1024) := by
  have outside := near_sum (covered_near upper fractional lower)
    (kept_near upper fractional lower) .zero fractional.rest (by norm_num [step])
  rw [zero_add] at outside
  have all := near_sum outside (both_near upper fractional lower) fractional.rest fractional
    (by norm_num [step])
  rw [sub_add_cancel] at all
  exact all.mono (by norm_num [step])

private theorem screened_near (upper : Stands a share) (fractional : Fractional share)
    (lower : Stands b 1) : Near (a + b - a * b) 1 (1 / 1024) := by
  have sum := near_sum upper.near lower.near fractional .one (by norm_num)
  have screened := sum.sub (both_near upper fractional lower) sized_two (by
    rw [add_sub_cancel_left]
    norm_num [step])
  rw [add_sub_cancel_left] at screened
  exact screened.mono (by norm_num [step])

private theorem mixFractions_near (mode : BlendMode) (upper : Stands source.alpha share)
    (fractional : Fractional share) (lower : Stands below.alpha 1) :
    Near (mixFractions mode source below).alpha 1 (1 / 1024) := by
  cases mode with
  | multiply => exact multiplied_near upper fractional lower
  | screen => exact screened_near upper fractional lower
  | normal | overlay | darken | lighten | colorDodge | colorBurn | hardLight | softLight
  | difference | exclusion => exact laid_near upper fractional lower

theorem mixFractions_full (mode : BlendMode) (upper : Stands source.alpha share)
    (fractional : Fractional share) {pixel : Pixel} (full : pixel.alpha = 255) :
    (mixFractions mode source (.ofPixel pixel)).toPixel.alpha = 255 := by
  have unit : pixel.alpha.toFloat32 * (1 / 255) = 1 := by
    rw [full]
    decide +kernel
  have lower : Stands (Fractions.ofPixel pixel).alpha 1 := by
    change Stands (pixel.alpha.toFloat32 * (1 / 255)) 1
    rw [unit]
    exact Stands.one
  exact roundChannel_full (mixFractions_near mode upper fractional lower)

end Mixes

/-!
## Sources
-/

def Share (number : Float32) : Prop :=
  number.isFinite = true ∧ ¬ number < 0 ∧ ¬ 1 < number

instance (number : Float32) : Decidable (Share number) :=
  inferInstanceAs (Decidable (_ ∧ _))

theorem Share.stands {number : Float32} (share : Share number) :
    ∃ value, Stands number value ∧ 0 ≤ value ∧ value ≤ 1 := by
  obtain ⟨finite, low, high⟩ := share
  obtain ⟨value, stands⟩ := exists_stands finite
  rw [stands.lt_iff Stands.zero, not_lt] at low
  rw [Stands.one.lt_iff stands, not_lt] at high
  exact ⟨value, stands, low, high⟩

theorem forall_channel (property : UInt8 → Prop)
    (all : ∀ value : Fin 256, property (UInt8.ofNat value)) (channel : UInt8) :
    property channel := by
  have holds := all ⟨channel.toNat, channel.toNat_lt⟩
  rwa [UInt8.ofNat_toNat] at holds

private theorem channel_share (channel : UInt8) : Share (channel.toFloat32 * (1 / 255)) :=
  forall_channel (fun channel => Share (channel.toFloat32 * (1 / 255))) (by decide +kernel) channel

private theorem fraction_share (channel : UInt8) : Share (Pixel.fraction channel) :=
  forall_channel (fun channel => Share (Pixel.fraction channel)) (by decide +kernel) channel

/-- A number next to a share, with half the room of a fraction. -/
def NearShare (number : Float32) : Prop :=
  ∃ value, Stands number value ∧ -(1 / 8) ≤ value ∧ value ≤ 9 / 8

theorem Share.nearShare {number : Float32} (share : Share number) : NearShare number := by
  obtain ⟨value, stands, low, high⟩ := share.stands
  exact ⟨value, stands, by linarith, by linarith⟩

theorem ofPixel_share (source : Pixel) : Share (Fractions.ofPixel source).alpha :=
  channel_share source.alpha

private theorem faded_fractional (opacity : UInt8) {source : Fractions}
    (shown : NearShare source.alpha) :
    ∃ share, Stands
      (if opacity = 255 then source else source.scale (Pixel.fraction opacity)).alpha share ∧
      Fractional share := by
  obtain ⟨share, stands, low, high⟩ := shown
  split
  · exact ⟨share, stands, by linarith, by linarith⟩
  · obtain ⟨factor, factorStands, factorLow, factorHigh⟩ := (fraction_share opacity).stands
    have above : -(1 / 8) ≤ share * factor := by nlinarith
    have below : share * factor ≤ 9 / 8 := by nlinarith
    obtain ⟨product, productStands, close⟩ := stands.mul factorStands sized_two (by
      rw [abs_lt]
      norm_num
      constructor <;> linarith)
    obtain ⟨close, close'⟩ := abs_le.mp close
    norm_num at close close'
    exact ⟨product, productStands, by linarith, by linarith⟩

/-!
## Pixels
-/

theorem sampled_full (mode : BlendMode) (opacity : UInt8) {source : Fractions}
    (shown : NearShare source.alpha) {below : Pixel} (full : below.alpha = 255) :
    (sampled mode opacity source below).alpha = 255 := by
  obtain ⟨share, stands, fractional⟩ := faded_fractional opacity shown
  exact mixFractions_full mode stands fractional full

theorem alpha_toNat {pixel : Pixel} (full : pixel.alpha = 255) : pixel.alpha.toNat = 255 := by
  rw [full]
  rfl

private theorem solid_full (mode : BlendMode) (source : Pixel) {below : Pixel}
    (full : below.alpha = 255) : (solid mode source below).alpha = 255 := by
  have most : source.alpha.toNat ≤ 255 := Nat.le_of_lt_succ source.alpha.toNat_lt
  have belowFull := alpha_toNat full
  obtain ⟨share, stands, low, high⟩ := (ofPixel_share source).stands
  cases mode with
  | normal =>
      by_cases sourceFull : source.alpha = 255
      · simpa only [solid, if_pos sourceFull] using sourceFull
      · simp only [solid, if_neg sourceFull]
        refine allChannels_full ?_
        rw [belowFull, laidOver_full most]
  | multiply =>
      refine allChannels_full ?_
      rw [belowFull, multiplied_full most]
  | screen =>
      refine allChannels_full ?_
      rw [belowFull, screened_full most]
  | darken | lighten | difference | exclusion | overlay | hardLight =>
      exact colorChannels_full _ source belowFull
  | softLight | colorDodge | colorBurn =>
      simp only [solid]
      exact mixFractions_full _ stands ⟨by linarith, by linarith⟩ full

theorem covering_full (mode : BlendMode) (seeThrough : Bool) (coverage : Nat) (source : Pixel)
    {below : Pixel} (full : below.alpha = 255) :
    (covering mode seeThrough coverage source below).alpha = 255 := by
  unfold covering
  split
  · exact solid_full mode source full
  · split
    · exact solid_full mode _ full
    · exact laidOn_full coverage (alpha_toNat (solid_full mode source full)) (alpha_toNat full)

end Blend

end PagePaint
