import PagePaint.Paint.Renderer
import PagePaint.Proofs.Backend.PainterFaults
import PagePaint.Proofs.Image.Decoding

set_option autoImplicit false

/-!
# The sizes of images that are painted

A renderer passes on every image that has pixels, however many. The bytes it should bring are
counted in 64 bits before anything bounds its size, so an image of 2 to the power of 62 pixels or
more is not counted as what it is: the count stops a program that checks for overflow, and any
other reports a size that is not the image's.
-/

namespace PagePaint

/-- A product, unless it leaves 64 bits. -/
def checkedProduct? (left right : Nat) : Option Nat :=
  if left * right < 2 ^ 64 then some (left * right) else none

private theorem checkedProduct?_of_lt {left right : Nat} (fits : left * right < 2 ^ 64) :
    checkedProduct? left right = some (left * right) :=
  if_pos fits

namespace ImageObject

variable {α : Type}

/-- The number of bytes of an image's size, where overflow ends the program. -/
def checkedLength? (image : ImageObject α) : Option Nat :=
  (checkedProduct? image.width.toNat image.height.toNat).bind (checkedProduct? · 4)

private theorem byteLength_exact_iff {image : ImageObject α} :
    image.byteLength.toNat = image.fullLength ↔
      image.width.toNat * image.height.toNat < 2 ^ 62 := by
  rw [byteLength_eq_fullLength_iff, fullLength, UInt64.size]
  omega

private theorem checkedLength?_of_lt {image : ImageObject α}
    (fits : image.width.toNat * image.height.toNat < 2 ^ 62) :
    image.checkedLength? = some image.fullLength := by
  rw [checkedLength?, checkedProduct?_of_lt (by omega), Option.bind_some,
    checkedProduct?_of_lt (by omega), fullLength, Nat.mul_comm]

inductive Reported (image : ImageObject α) : BackendFault → Prop where
  | size {expected : UInt64} (exact : expected.toNat = image.fullLength) :
      image.Reported (.imageSize image.id image.width image.height image.bytes.size expected)
  | room : image.Reported (.unallocatableImage image.id image.width image.height)

/-- The bytes of an image are counted as what they are, with overflow checked or not, and it is
painted, or refused with a fault that tells the truth. -/
structure Accountable (image : ImageObject α) (failure : Option Error) : Prop where
  counted : image.byteLength.toNat = image.fullLength
  checked : image.checkedLength? = some image.fullLength
  reported : failure = none ∨
    ∃ fault, failure = some (.backend none fault) ∧ image.Reported fault

private theorem reported_of_decode {image : ImageObject α} {fault : BackendFault}
    (counted : image.byteLength.toNat = image.fullLength)
    (failed : image.decode = .error fault) : image.Reported fault := by
  have illSized : ¬ image.WellSized := fun sized => by
    obtain ⟨pixmap, decoded, -⟩ := decode_of_wellSized sized
    rw [failed] at decoded
    cases decoded
  rcases decode_of_not_wellSized illSized with sized | unallocatable
  · cases failed.symm.trans sized
    exact .size counted
  · cases failed.symm.trans unallocatable
    exact .room

end ImageObject

namespace Renderer

variable {α : Type} [Scalar α] {renderer : Renderer α} {image : ImageObject α} {blend : BlendMode}
  {call : PaintCall α}

private theorem call_of_forwarded (forwarded : (renderer.imageScript image blend).calls = [call]) :
    call = .image image blend renderer.smoothImages (renderer.imageTransform image) := by
  unfold imageScript at forwarded
  split at forwarded <;> cases forwarded
  rfl

end Renderer

namespace Backend

variable {renderer : Renderer Float32} {image : ImageObject Float32} {blend : BlendMode}
  {call : PaintCall Float32}

/-- An image that a renderer passes on to the painting backend is accounted for exactly if it has
fewer than 2 to the power of 62 pixels, whatever bytes it brings and whatever is cached. -/
theorem forwarded_image_accountable_iff (cache : ImageCache) (target : Target)
    (forwarded : (renderer.imageScript image blend).calls = [call])
    (whole : ¬ (renderer.imageTransform image).Broken) :
    image.Accountable (painter.paint call ⟨cache, target⟩).failure ↔
      image.width.toNat * image.height.toNat < 2 ^ 62 := by
  refine ⟨fun accountable => ImageObject.byteLength_exact_iff.mp accountable.counted,
    fun fits => ?_⟩
  have counted := ImageObject.byteLength_exact_iff.mpr fits
  refine ⟨counted, ImageObject.checkedLength?_of_lt fits, ?_⟩
  cases failure : (painter.paint call ⟨cache, target⟩).failure with
  | none => exact .inl rfl
  | some error =>
      right
      obtain ⟨fault, rfl, refuses⟩ := painter_failure_iff.mp failure
      cases Renderer.call_of_forwarded forwarded
      cases refuses with
      | image broken => exact absurd broken whole
      | decoding _ _ failed => exact ⟨fault, rfl, ImageObject.reported_of_decode counted failed⟩

theorem forwarded_image_accountable_iff_short :
    let renderer : Renderer Float32 := ⟨.identity, .native, .empty⟩
    let image : ImageObject Float32 := ⟨7, 1, 1, #[0, 0, 0], .identity, 255, .normal⟩
    let call := .image image .normal renderer.smoothImages (renderer.imageTransform image)
    ((renderer.imageScript image .normal).calls = [call] ∧
        ¬ (renderer.imageTransform image).Broken) ∧
      image.Accountable (painter.paint call ⟨.unlimited, ⟨.filled 2 2 .clear, true⟩⟩).failure := by
  intro renderer image call
  have forwarded : (renderer.imageScript image .normal).calls = [call] := rfl
  have whole : ¬ (renderer.imageTransform image).Broken := by
    rw [Transform.broken_iff]
    decide +kernel
  exact ⟨⟨forwarded, whole⟩,
    (forwarded_image_accountable_iff .unlimited _ forwarded whole).mpr (by decide)⟩

/-- The bytes of an image with the longest sides are not counted: the product leaves 64 bits, and
the fault that is reported states another size. -/
theorem forwarded_vast_image_miscounted :
    let renderer : Renderer Float32 := ⟨.identity, .native, .empty⟩
    let image : ImageObject Float32 :=
      ⟨1, 0xFFFFFFFF, 0xFFFFFFFF, #[], .identity, 255, .normal⟩
    let call := .image image .normal renderer.smoothImages (renderer.imageTransform image)
    let failure := (painter.paint call ⟨.unlimited, ⟨.filled 2 2 .clear, true⟩⟩).failure
    (renderer.imageScript image .normal).calls = [call] ∧
      ¬ (renderer.imageTransform image).Broken ∧ image.checkedLength? = none ∧
      image.fullLength = 73786976260478468100 ∧
      failure = some (.backend none
        (.imageSize 1 0xFFFFFFFF 0xFFFFFFFF 0 18446744039349813252)) ∧
      ¬ image.Accountable failure := by
  intro renderer image call failure
  refine ⟨rfl, ?_, by decide, by decide, by decide +kernel, fun accountable => ?_⟩
  · rw [Transform.broken_iff]
    decide +kernel
  · exact absurd accountable.counted (by decide)

end Backend

end PagePaint
