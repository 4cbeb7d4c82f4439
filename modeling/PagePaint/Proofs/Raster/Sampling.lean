import PagePaint.Proofs.Number.Remainder
import PagePaint.Proofs.Raster.Opacity
import PagePaint.Raster.Brush

set_option autoImplicit false

/-!
# What an image shows

An image that is drawn smoothly shows a sum of its pixels under four weights, which are products of
two fractions and what they leave of one. Their sum is one, so the alpha of the sum is that of a
pixel, up to rounding.
-/

namespace PagePaint

open Binary32

namespace Blend

section Weights

variable {x y : Float32} {first second weight error : ℚ}

private theorem near_weight (left : Near x first step) (right : Near y second step)
    (leftFractional : Fractional first) (rightFractional : Fractional second) :
    Near (x * y) (first * second) (5 * step) := by
  have small : step ≤ 1 / 12 := by norm_num [step]
  exact (near_product left right leftFractional rightFractional small small).mono (by linarith)

/-- A number next to a sum of shares under weights of which this much was given out. -/
private def Weighs (number : Float32) (weight error : ℚ) : Prop :=
  ∃ total, Near number total error ∧ 0 ≤ total ∧ total ≤ weight

private theorem Weighs.plus {sum added : Fractions} (weighs : Weighs sum.alpha weight error)
    (near : Near x first (5 * step)) (nonneg : 0 ≤ first) (most : first + weight ≤ 1)
    (small : error ≤ 1 / 2) (shown : Share added.alpha) :
    Weighs (sum.plus x added).alpha (first + weight) (error + 12 * step) := by
  obtain ⟨total, totalNear, low, high⟩ := weighs
  obtain ⟨share, stands, shareLow, shareHigh⟩ := shown.stands
  have above : 0 ≤ first * share := mul_nonneg nonneg shareLow
  have below : first * share ≤ first := mul_le_of_le_one_right nonneg shareHigh
  have product := near_product near stands.near ⟨by linarith, by linarith⟩
    ⟨by linarith, by linarith⟩ (by norm_num [step]) (by norm_num)
  have added := near_sum product totalNear ⟨by linarith, by linarith⟩
    ⟨by linarith, by linarith⟩ (by norm_num [step] at small ⊢; linarith)
  exact ⟨first * share + total, added.mono (by linarith), by linarith, by linarith⟩

private theorem Weighs.nearShare (weighs : Weighs x weight error) (most : weight ≤ 1)
    (small : error ≤ 1 / 8) : NearShare x := by
  obtain ⟨total, ⟨value, stands, close⟩, low, high⟩ := weighs
  obtain ⟨below, above⟩ := abs_le.mp close
  exact ⟨value, stands, by linarith, by linarith⟩

/-- Four pixels under weights that share out one add up to a pixel. -/
private theorem weighted_nearShare (leftTop rightTop leftLow rightLow : Pixel)
    (across : Stands x first) (down : Stands y second) (low : 0 ≤ first) (high : first ≤ 1)
    (low' : 0 ≤ second) (high' : second ≤ 1) :
    NearShare ((((Fractions.zero.plus ((1 - x) * (1 - y)) (.ofPixel leftTop)).plus
      (x * (1 - y)) (.ofPixel rightTop)).plus ((1 - x) * y) (.ofPixel leftLow)).plus
      (x * y) (.ofPixel rightLow)).alpha := by
  have acrossPart : Fractional first := ⟨by linarith, by linarith⟩
  have downPart : Fractional second := ⟨by linarith, by linarith⟩
  have positive : (0 : ℚ) ≤ step := by norm_num [step]
  have acrossNear := across.near.mono positive
  have downNear := down.near.mono positive
  have acrossRest := (near_rest across.near acrossPart zero_le_one).mono (zero_add step).le
  have downRest := (near_rest down.near downPart zero_le_one).mono (zero_add step).le
  have leftTopNonneg := mul_nonneg (sub_nonneg.mpr high) (sub_nonneg.mpr high')
  have rightTopNonneg := mul_nonneg low (sub_nonneg.mpr high')
  have leftLowNonneg := mul_nonneg (sub_nonneg.mpr high) low'
  have rightLowNonneg := mul_nonneg low low'
  have whole : (1 - first) * (1 - second) + first * (1 - second) + (1 - first) * second +
      first * second = 1 := by ring
  have start : Weighs Fractions.zero.alpha 0 0 := ⟨0, Stands.zero.near, le_refl 0, le_refl 0⟩
  have withLeftTop := start.plus (near_weight acrossRest downRest acrossPart.rest downPart.rest)
    leftTopNonneg (by linarith) (by norm_num) (ofPixel_share leftTop)
  have withRightTop := withLeftTop.plus (near_weight acrossNear downRest acrossPart downPart.rest)
    rightTopNonneg (by linarith) (by norm_num [step]) (ofPixel_share rightTop)
  have withLeftLow := withRightTop.plus (near_weight acrossRest downNear acrossPart.rest downPart)
    leftLowNonneg (by linarith) (by norm_num [step]) (ofPixel_share leftLow)
  have withAll := withLeftLow.plus (near_weight acrossNear downNear acrossPart downPart)
    rightLowNonneg (by linarith) (by norm_num [step]) (ofPixel_share rightLow)
  exact withAll.nearShare (by linarith) (by norm_num [step])

end Weights

end Blend

namespace Pixmap

open Blend

private theorem surroundings_nearShare (pixmap : Pixmap) (point : Point Float32) :
    NearShare (pixmap.surroundings point).alpha := by
  obtain ⟨across, acrossStands, low, high⟩ := fraction_stands (point.x + 0.5)
  obtain ⟨down, downStands, low', high'⟩ := fraction_stands (point.y + 0.5)
  exact weighted_nearShare _ _ _ _ acrossStands downStands low high low' high'

theorem shownAt_nearShare (pixmap : Pixmap) (smooth : Bool) (point : Point Float32) :
    NearShare (pixmap.shownAt smooth point).alpha := by
  unfold shownAt
  split
  · exact pixmap.surroundings_nearShare point
  · exact (ofPixel_share _).nearShare

end Pixmap

end PagePaint
