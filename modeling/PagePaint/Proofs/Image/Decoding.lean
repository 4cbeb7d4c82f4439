import Mathlib
import PagePaint.Proofs.Image.Accounting

set_option autoImplicit false

/-!
# What decoding accepts

The bytes of an image are counted in 64 bits, so a size can ask for fewer bytes than it has. Only
a size that could be allocated is decoded, and no such size is large enough for that. A channel is
then multiplied by its alpha and rounded once.
-/

namespace PagePaint

variable {α : Type}

/-!
## Channels
-/

def StoresChannel (straight alpha stored : UInt8) : Prop :=
  if alpha = 255 then stored = straight
  else |(stored.toNat : ℚ) - straight.toNat * alpha.toNat / 255| < 1 / 2

/-- Rounding a product of two bytes over 255 needs no division by 255. -/
theorem rounded_product {product : Nat} (small : product ≤ 255 * 255) :
    let rounded := (product + 128 + (product + 128) / 256) / 256
    2 * (255 * rounded) < 2 * product + 255 ∧ 2 * product < 2 * (255 * rounded) + 255 := by
  intro rounded
  omega

private theorem scaleChannel_toNat (channel alpha : UInt8) :
    (Pixel.scaleChannel channel alpha).toNat =
      (channel.toNat * alpha.toNat + 128 + (channel.toNat * alpha.toNat + 128) / 256) / 256 := by
  have small : channel.toNat * alpha.toNat ≤ 255 * 255 :=
    Nat.mul_le_mul (Nat.le_of_lt_succ channel.toNat_lt) (Nat.le_of_lt_succ alpha.toNat_lt)
  simp only [Pixel.scaleChannel, UInt8.toNat_ofNat']
  omega

private theorem scaleChannel_stores {alpha : UInt8} (partly : alpha ≠ 255) (channel : UInt8) :
    StoresChannel channel alpha (Pixel.scaleChannel channel alpha) := by
  rw [StoresChannel, if_neg partly, scaleChannel_toNat]
  have small : channel.toNat * alpha.toNat ≤ 255 * 255 :=
    Nat.mul_le_mul (Nat.le_of_lt_succ channel.toNat_lt) (Nat.le_of_lt_succ alpha.toNat_lt)
  obtain ⟨high, low⟩ := rounded_product small
  rw [← Nat.cast_mul]
  generalize channel.toNat * alpha.toNat = product at small high low ⊢
  generalize (product + 128 + (product + 128) / 256) / 256 = rounded at high low ⊢
  have high : 2 * (255 * (rounded : ℚ)) < 2 * product + 255 := by exact_mod_cast high
  have low : 2 * (product : ℚ) < 2 * (255 * rounded) + 255 := by exact_mod_cast low
  rw [abs_lt]
  constructor <;> linarith

private theorem StoresChannel.le_alpha {straight alpha stored : UInt8}
    (stores : StoresChannel straight alpha stored) : stored ≤ alpha := by
  rw [UInt8.le_iff_toNat_le]
  by_cases full : alpha = 255
  · rw [full]
    exact Nat.le_of_lt_succ stored.toNat_lt
  · rw [StoresChannel, if_neg full, abs_lt] at stores
    have share : (straight.toNat : ℚ) * alpha.toNat ≤ 255 * alpha.toNat := by
      gcongr
      exact_mod_cast Nat.le_of_lt_succ straight.toNat_lt
    have below : (stored.toNat : ℚ) < alpha.toNat + 1 := by linarith [stores.2]
    exact Nat.le_of_lt_succ (by exact_mod_cast below)

structure Pixel.Premultiplies (pixel : Pixel) (red green blue alpha : UInt8) : Prop where
  share : pixel.alpha = alpha
  red : StoresChannel red alpha pixel.red
  green : StoresChannel green alpha pixel.green
  blue : StoresChannel blue alpha pixel.blue

private theorem Pixel.ofStraight_premultiplies (red green blue alpha : UInt8) :
    (Pixel.ofStraight red green blue alpha).Premultiplies red green blue alpha := by
  unfold Pixel.ofStraight
  split
  next full =>
    have kept (channel : UInt8) : StoresChannel channel alpha channel := by
      rw [StoresChannel, if_pos full]
    exact ⟨rfl, kept red, kept green, kept blue⟩
  next partly =>
    exact ⟨rfl, scaleChannel_stores partly red, scaleChannel_stores partly green,
      scaleChannel_stores partly blue⟩

def Pixel.Bounded (pixel : Pixel) : Prop :=
  pixel.red ≤ pixel.alpha ∧ pixel.green ≤ pixel.alpha ∧ pixel.blue ≤ pixel.alpha

private theorem Pixel.Premultiplies.bounded {pixel : Pixel} {red green blue alpha : UInt8}
    (premultiplies : pixel.Premultiplies red green blue alpha) : pixel.Bounded := by
  obtain ⟨rfl, red, green, blue⟩ := premultiplies
  exact ⟨red.le_alpha, green.le_alpha, blue.le_alpha⟩

/-!
## Images
-/

namespace ImageObject

/-- The size has pixels, could be allocated and is the one the bytes are for. -/
structure WellSized (image : ImageObject α) : Prop where
  wide : 0 < image.width.toNat
  high : 0 < image.height.toNat
  countable : image.width.toNat * 4 ≤ 2147483647
  carried : image.bytes.size = image.fullLength

/-- A pixmap of the image's size that stores its bytes, four for each pixel. -/
structure StoredAs (image : ImageObject α) (pixmap : Pixmap) : Prop where
  width : pixmap.width = image.width
  height : pixmap.height = image.height
  size : pixmap.pixels.size = image.width.toNat * image.height.toNat
  pixels : ∀ index < image.width.toNat * image.height.toNat, ∃ pixel red green blue alpha,
    pixmap.pixels[index]? = some pixel ∧ image.bytes[4 * index]? = some red ∧
      image.bytes[4 * index + 1]? = some green ∧ image.bytes[4 * index + 2]? = some blue ∧
      image.bytes[4 * index + 3]? = some alpha ∧ pixel.Premultiplies red green blue alpha

private theorem StoredAs.bounded {image : ImageObject α} {pixmap : Pixmap}
    (stored : image.StoredAs pixmap) : ∀ pixel ∈ pixmap.pixels, pixel.Bounded := by
  intro pixel member
  obtain ⟨index, inside, found⟩ := Array.mem_iff_getElem.mp member
  obtain ⟨_, _, _, _, _, placed, -, -, -, -, premultiplies⟩ :=
    stored.pixels index (stored.size ▸ inside)
  rw [Array.getElem?_eq_getElem inside, found, Option.some.injEq] at placed
  exact placed ▸ premultiplies.bounded

private theorem pixelAt_premultiplies {image : ImageObject α} {index : Nat}
    (inside : 4 * index + 3 < image.bytes.size) :
    ∃ red green blue alpha, image.bytes[4 * index]? = some red ∧
      image.bytes[4 * index + 1]? = some green ∧ image.bytes[4 * index + 2]? = some blue ∧
      image.bytes[4 * index + 3]? = some alpha ∧
      (image.pixelAt index).Premultiplies red green blue alpha := by
  have byte (offset : Nat) (small : offset < 4) :
      image.bytes[4 * index + offset]? = some ((image.bytes[4 * index + offset]?).getD 0) := by
    rw [Array.getElem?_eq_getElem (by omega)]
    rfl
  exact ⟨_, _, _, _, byte 0 (by decide), byte 1 (by decide), byte 2 (by decide),
    byte 3 (by decide), Pixel.ofStraight_premultiplies _ _ _ _⟩

theorem decode_of_wellSized {image : ImageObject α} (sized : image.WellSized) :
    ∃ pixmap, image.decode = .ok pixmap ∧ image.StoredAs pixmap := by
  obtain ⟨wide, high, countable, carried⟩ := sized
  have counted : ¬ image.bytes.size ≠ image.byteLength.toNat := by
    rw [byteLength_of_countable countable, carried]
    exact not_not_intro rfl
  rw [decode, if_neg counted, if_pos (Pixmap.allocatable_iff.mpr ⟨wide, high, countable⟩)]
  refine ⟨_, rfl, rfl, rfl, Array.size_ofFn, fun index inside => ?_⟩
  have brought : 4 * index + 3 < image.bytes.size := by
    rw [carried, fullLength]
    omega
  refine ⟨image.pixelAt index, ?_⟩
  obtain ⟨red, green, blue, alpha, first, second, third, fourth, premultiplies⟩ :=
    pixelAt_premultiplies brought
  exact ⟨red, green, blue, alpha, by simp [inside], first, second, third, fourth, premultiplies⟩

theorem decode_of_not_wellSized {image : ImageObject α} (illSized : ¬ image.WellSized) :
    image.decode =
        .error (.imageSize image.id image.width image.height image.bytes.size
          image.byteLength) ∨
      image.decode = .error (.unallocatableImage image.id image.width image.height) := by
  by_cases carried : image.bytes.size ≠ image.byteLength.toNat
  · left
    rw [decode, if_pos carried]
  · right
    have unallocatable : ¬ Pixmap.allocatable image.width image.height = true := by
      rw [Pixmap.allocatable_iff]
      rintro ⟨wide, high, countable⟩
      rw [not_not, byteLength_of_countable countable] at carried
      exact illSized ⟨wide, high, countable, carried⟩
    rw [decode, if_neg carried, if_neg unallocatable]

/-- An image is decoded exactly if its size has pixels, can be allocated and asks for the bytes it
brings, counted without a bound. It is then stored pixel by pixel, no channel above its alpha. Any
other image is refused, for its size or for the lack of room. -/
theorem decode_accepts_wellSized (image : ImageObject α) :
    ((∃ pixmap, image.decode = .ok pixmap) ↔ image.WellSized) ∧
      (∀ pixmap, image.decode = .ok pixmap →
        image.StoredAs pixmap ∧ ∀ pixel ∈ pixmap.pixels, pixel.Bounded) ∧
      (¬ image.WellSized →
        image.decode =
            .error (.imageSize image.id image.width image.height image.bytes.size
              image.byteLength) ∨
          image.decode = .error (.unallocatableImage image.id image.width image.height)) := by
  have sized_of_decode {pixmap : Pixmap} (decoded : image.decode = .ok pixmap) :
      image.WellSized := by
    by_contra illSized
    rcases decode_of_not_wellSized illSized with refused | refused <;>
      · rw [refused] at decoded
        cases decoded
  refine ⟨⟨fun ⟨_, decoded⟩ => sized_of_decode decoded, fun sized => ?_⟩, ?_,
    decode_of_not_wellSized⟩
  · obtain ⟨pixmap, decoded, -⟩ := decode_of_wellSized sized
    exact ⟨pixmap, decoded⟩
  · intro pixmap decoded
    obtain ⟨stored, again, storedAs⟩ := decode_of_wellSized (sized_of_decode decoded)
    cases decoded.symm.trans again
    exact ⟨storedAs, storedAs.bounded⟩

/-- A translucent pixel is stored with rounded channels; a square with sides of 2 to the power of
31, whose bytes would be counted as none, is refused. -/
theorem decode_accepts_wellSized_small :
    let drop : ImageObject ℚ := ⟨1, 1, 1, #[200, 100, 50, 128], .identity, 255, .normal⟩
    let vast : ImageObject ℚ := ⟨2, 0x80000000, 0x80000000, #[], .identity, 255, .normal⟩
    (∃ pixmap, drop.decode = .ok pixmap ∧ pixmap.pixels = #[⟨100, 50, 25, 128⟩] ∧
        drop.StoredAs pixmap) ∧
      ¬ vast.WellSized ∧ vast.byteLength = 0 ∧
      vast.decode = .error (.unallocatableImage 2 0x80000000 0x80000000) := by
  intro drop vast
  obtain ⟨-, contents, -⟩ := decode_accepts_wellSized drop
  obtain ⟨-, -, refused⟩ := decode_accepts_wellSized vast
  have illSized : ¬ vast.WellSized := fun sized => absurd sized.countable (by decide +kernel)
  refine ⟨⟨_, rfl, by decide +kernel, (contents _ rfl).1⟩, illSized, by decide +kernel, ?_⟩
  rcases refused illSized with sized | unallocatable
  · exact absurd sized (by decide +kernel)
  · exact unallocatable

end ImageObject

end PagePaint
