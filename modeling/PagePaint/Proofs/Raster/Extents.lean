import PagePaint.Proofs.Number.Conversion
import PagePaint.Proofs.Raster.Opacity
import PagePaint.Raster.Rectangle

set_option autoImplicit false

/-!
# Where the edges of rectangles come to lie

The edges of a rectangle of whole pixels go through single precision. Near the origin the errors
stay below half a pixel and cutting off the fraction takes them away. Further out the errors grow to
some thousand pixels, which no target without tiles can tell: both edges are outside of it.
-/

namespace PagePaint

open Binary32

theorem Binary32.Near.half {coordinate : Float32} {exact error : ℚ} {size : Int}
    (near : Near coordinate exact error) (sized : Sized size)
    (small : |exact| + error + 1 / 2 < 2 ^ size) :
    Near (coordinate + 0.5) (exact + 1 / 2) (error + 2 ^ (size - 24)) := by
  have sum := near.add Blend.half_stands.near sized ?_
  · rwa [add_zero] at sum
  · have := abs_add_le exact (1 / 2)
    rw [abs_of_pos (by norm_num : (0 : ℚ) < 1 / 2)] at this
    linarith

namespace Target

/-!
## Pixels of coordinates
-/

def bounded (whole : Int) : Int := max (-2147483520) (min 2147483520 whole)

/-- The pixel that a whole coordinate gets: numbers below zero move up by one. -/
def moved (whole : Int) : Int := if whole < 0 then whole + 1 else whole

theorem nearestPixel_eq {coordinate : Float32} {value : ℚ}
    (stands : Stands (coordinate + 0.5) value) :
    nearestPixel coordinate = bounded (towardZero value) := by
  obtain ⟨negative, significand, exponent, reading, rfl⟩ := stands.reading
  rw [towardZero_signed]
  unfold nearestPixel bounded
  rw [reading]
  dsimp only
  generalize significand <<< exponent.toNat >>> (-exponent).toNat = magnitude
  cases negative with
  | false =>
      change ((min magnitude 2147483520 : Nat) : Int) =
        max (-2147483520) (min 2147483520 (magnitude : Int))
      omega
  | true =>
      change -((min magnitude 2147483520 : Nat) : Int) =
        max (-2147483520) (min 2147483520 (-(magnitude : Int)))
      omega

section Coordinates

variable {coordinate : Float32} {whole : Int} {error : ℚ}

theorem nearestPixel_of_close (near : Near (coordinate + 0.5) (whole + 1 / 2) error)
    (close : error < 1 / 2) (low : -2147483520 ≤ whole) (high : whole ≤ 2147483520) :
    nearestPixel coordinate = moved whole := by
  obtain ⟨value, stands, apart⟩ := near
  rw [nearestPixel_eq stands, towardZero_of_near (apart.trans_lt close)]
  unfold bounded moved
  split <;> omega

theorem nearestPixel_bounds {margin : Int} (near : Near (coordinate + 0.5) (whole + 1 / 2) error)
    (enough : error + 3 / 2 ≤ margin) :
    bounded (whole - margin) ≤ nearestPixel coordinate ∧
      nearestPixel coordinate ≤ bounded (whole + margin) := by
  obtain ⟨value, stands, apart⟩ := near
  obtain ⟨below, above⟩ := abs_le.mp apart
  obtain ⟨least, most⟩ := towardZero_bounds value
  have lower : whole - margin ≤ towardZero value := by
    have : ((whole - margin : Int) : ℚ) ≤ towardZero value := by
      push_cast
      linarith
    exact_mod_cast this
  have upper : towardZero value ≤ whole + margin := by
    have : (towardZero value : ℚ) ≤ ((whole + margin : Int) : ℚ) := by
      push_cast
      linarith
    exact_mod_cast this
  rw [nearestPixel_eq stands]
  unfold bounded
  omega

end Coordinates

/-!
## Extents
-/

def firstPixel (first : Int32) : Int := nearestPixel (Float32.ofInt first.toInt)

def pixelCount (first : Int32) (length : UInt32) : Int :=
  max 1 (nearestPixel
    (length.toFloat32 + Float32.ofInt first.toInt - Float32.ofInt first.toInt))

private theorem pixelExtent?_eq (first : Int32) (length : UInt32) :
    pixelExtent? first length =
      if firstPixel first + pixelCount first length ≤ 2147483647 then
        some ⟨firstPixel first, pixelCount first length⟩
      else none := rfl

section Errors

variable {size : Int}

theorem start_near (first : Int32) (sized : Sized size)
    (small : |(first.toInt : ℚ)| + 2 * 2 ^ (size - 24) + 1 < 2 ^ size) :
    Near (Float32.ofInt first.toInt + 0.5) (first.toInt + 1 / 2) (3 * 2 ^ (size - 24)) := by
  have error : (0 : ℚ) < 2 ^ (size - 24) := by positivity
  have low := ofInt_near first.toInt sized (by linarith)
  exact (low.half sized (by linarith)).mono (by linarith)

theorem extent_near (first : Int32) (length : UInt32) (sized : Sized size)
    (small : |(first.toInt : ℚ)| + length.toNat + 8 * 2 ^ (size - 24) + 1 < 2 ^ size) :
    Near (length.toFloat32 + Float32.ofInt first.toInt - Float32.ofInt first.toInt + 0.5)
      ((length.toNat : Int) + 1 / 2) (8 * 2 ^ (size - 24)) := by
  have error : (0 : ℚ) < 2 ^ (size - 24) := by positivity
  have nonneg : (0 : ℚ) ≤ length.toNat := Nat.cast_nonneg _
  have magnitude := abs_of_nonneg nonneg
  have nonneg' := abs_nonneg (first.toInt : ℚ)
  have low := ofInt_near first.toInt sized (by linarith)
  have total := toFloat32_near length sized (by linarith)
  have sum := total.add low sized (by linarith [abs_add_le (length.toNat : ℚ) first.toInt])
  have back := sum.sub low sized (by rw [add_sub_cancel_right]; linarith)
  rw [add_sub_cancel_right] at back
  rw [Int.cast_natCast]
  exact (back.half sized (by linarith)).mono (by linarith)

end Errors

theorem sized_near : Sized 19 := ⟨by decide, by decide⟩

theorem sized_far : Sized 33 := ⟨by decide, by decide⟩

theorem abs_near {first : Int} (low : -131072 ≤ first) (high : first ≤ 131072) :
    |(first : ℚ)| ≤ 131072 := by
  rw [abs_le]
  constructor <;> assumption_mod_cast

theorem abs_far (first : Int32) : |(first.toInt : ℚ)| ≤ 2147483648 := by
  rw [abs_le]
  constructor
  · exact_mod_cast first.le_toInt
  · exact_mod_cast first.toInt_lt.le

section Positions

variable {first : Int32} {length : UInt32}

private theorem firstPixel_eq (low : -131072 ≤ first.toInt) (high : first.toInt ≤ 131072) :
    firstPixel first = moved first.toInt := by
  have magnitude := abs_near low high
  have near := start_near first sized_near (by norm_num; linarith)
  exact nearestPixel_of_close near (by norm_num) (by omega) (by omega)

private theorem pixelCount_eq (low : -131072 ≤ first.toInt) (high : first.toInt ≤ 131072)
    (short : length.toNat ≤ 262144) : pixelCount first length = max 1 (length.toNat : Int) := by
  have magnitude := abs_near low high
  have short' : (length.toNat : ℚ) ≤ 262144 := by exact_mod_cast short
  have near := extent_near first length sized_near (by norm_num; linarith)
  unfold pixelCount
  rw [nearestPixel_of_close near (by norm_num) (by omega) (by omega)]
  unfold moved
  omega

private theorem firstPixel_bounds (first : Int32) :
    first.toInt - 1538 ≤ firstPixel first ∧ firstPixel first ≤ first.toInt + 1538 := by
  have low := first.le_toInt
  have high := first.toInt_lt
  have magnitude := abs_far first
  have near := start_near first sized_far (by norm_num; linarith)
  obtain ⟨least, most⟩ := nearestPixel_bounds near (show _ ≤ ((1538 : Int) : ℚ) by norm_num)
  unfold bounded at least most
  unfold firstPixel
  omega

private theorem pixelCount_bounds (first : Int32) (length : UInt32) :
    1 ≤ pixelCount first length ∧
      min (length.toNat : Int) 2147483520 - 4098 ≤ pixelCount first length ∧
      pixelCount first length ≤ length.toNat + 4098 ∧
      pixelCount first length ≤ 2147483520 := by
  have magnitude := abs_far first
  have short : (length.toNat : ℚ) ≤ 4294967296 := by exact_mod_cast length.toNat_lt.le
  have near := extent_near first length sized_far (by norm_num; linarith)
  obtain ⟨least, most⟩ := nearestPixel_bounds near (show _ ≤ ((4098 : Int) : ℚ) by norm_num)
  unfold bounded at least most
  unfold pixelCount
  omega

/-!
## Positions that are painted
-/

def held (extent? : Option PixelExtent) (position : Nat) : Bool :=
  extent?.any fun extent =>
    decide (extent.first ≤ (position : Int) ∧ (position : Int) < extent.first + extent.count)

private theorem held_pixelExtent?_iff {position : Nat} :
    held (pixelExtent? first length) position = true ↔
      firstPixel first + pixelCount first length ≤ 2147483647 ∧
        firstPixel first ≤ position ∧
        (position : Int) < firstPixel first + pixelCount first length := by
  rw [pixelExtent?_eq]
  unfold held
  split
  · rename_i inside
    simp only [Option.any_some, decide_eq_true_eq, inside, true_and]
  · rename_i outside
    simp only [Option.any_none, Bool.false_eq_true, outside, false_and]

/-- The positions that one dimension of a rectangle paints: from the moved edge on, and at least
one. -/
def Paints (first : Int) (length position : Nat) : Prop :=
  moved first ≤ position ∧ (position : Int) < moved first + max 1 (length : Int)

instance (first : Int) (length position : Nat) : Decidable (Paints first length position) :=
  inferInstanceAs (Decidable (_ ∧ _))

/-- Dimensions whose rounding does not show. Far before the origin the far edge has to keep some
thousand pixels away from the target, on either side; behind the first pixels of the target it has
to stay within the range of coordinates. -/
structure Ordinary (size : Nat) (first : Int) (length : Nat) : Prop where
  near : -131072 ≤ first ∨ first + length ≤ -8192 ∨
    16384 ≤ first + min (length : Int) 2147483520
  fits : first < 128 ∨ size ≤ first ∨ first + length ≤ 2147475456

theorem Ordinary.held_iff {size position : Nat}
    (ordinary : Ordinary size first.toInt length.toNat) (inside : position < size)
    (short : size ≤ Tile.longest) :
    held (pixelExtent? first length) position = true ↔
      Paints first.toInt length.toNat position := by
  obtain ⟨near, fits⟩ := ordinary
  change size ≤ 8191 at short
  have starts := firstPixel_bounds first
  have counts := pixelCount_bounds first length
  rw [held_pixelExtent?_iff]
  unfold Paints
  rcases lt_or_ge first.toInt (-131072) with left | low
  · unfold moved
    omega
  rcases lt_or_ge 131072 first.toInt with right | high
  · unfold moved
    omega
  -- The near edge is exact here. The far one is too, unless it is beyond every target.
  rw [firstPixel_eq low high]
  by_cases narrow : length.toNat ≤ 262144
  · rw [pixelCount_eq low high narrow]
    unfold moved
    omega
  · unfold moved
    omega

end Positions

end Target

end PagePaint
