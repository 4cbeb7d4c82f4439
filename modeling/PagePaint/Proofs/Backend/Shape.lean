import PagePaint.Backend.Recorder
import PagePaint.Proofs.Backend.Passage
import PagePaint.Proofs.Backend.Preservation

set_option autoImplicit false

/-!
# The shape of a target

A backend paints into the target it is handed, and may as well put another one in its place. The
ones of this library leave its size and its alpha channel alone, whether a call fails or not.
-/

namespace PagePaint

variable {α σ : Type}

structure Target.SameShape (left right : Target) : Prop where
  width : left.width = right.width
  height : left.height = right.height
  hasAlpha : left.hasAlpha = right.hasAlpha

/-- A backend whose calls leave the shape of the target alone. -/
def Backend.KeepsShape (backend : Backend α σ) : Prop :=
  ∀ call canvas, (backend.paint call canvas).canvas.target.SameShape canvas.target

namespace Target.SameShape

theorem refl (target : Target) : target.SameShape target := ⟨rfl, rfl, rfl⟩

private theorem trans {first second third : Target} (left : first.SameShape second)
    (right : second.SameShape third) : first.SameShape third :=
  ⟨left.width.trans right.width, left.height.trans right.height,
    left.hasAlpha.trans right.hasAlpha⟩

end Target.SameShape

theorem Backend.KeepsShape.carryOut {backend : Backend α σ} (keeps : backend.KeepsShape)
    (calls : List (PaintCall α)) (canvas : Canvas σ) :
    (backend.carryOut calls canvas).canvas.target.SameShape canvas.target := by
  induction calls generalizing canvas with
  | nil => exact .refl _
  | cons call rest ih =>
      cases painted : (backend.paint call canvas).failure with
      | some error =>
          rw [backend.carryOut_cons_failed rest painted]
          exact keeps call canvas
      | none =>
          rw [backend.carryOut_cons_painted rest painted]
          exact (ih _).trans (keeps call canvas)

/-!
## Wrappers
-/

namespace Backend

private theorem recorder_keepsShape : (recorder (α := α)).KeepsShape := by
  intro call canvas
  cases call with
  | clear | fill | stroke | shade | image => exact ⟨rfl, rfl, rfl⟩

private theorem KeepsShape.watching {backend : Backend α σ} (keeps : backend.KeepsShape) :
    backend.watching.KeepsShape :=
  fun call canvas => keeps call ⟨canvas.state.state, canvas.target⟩

private theorem KeepsShape.failing {backend : Backend α σ} (keeps : backend.KeepsShape)
    (plan : FaultPlan) : (Backend.failing plan backend).KeepsShape := by
  intro call canvas
  cases fails : plan.fails canvas.state.made with
  | true =>
      simp only [Backend.failing, fails, if_true]
      exact .refl _
  | false =>
      simp only [Backend.failing, fails, Bool.false_eq_true, if_false]
      exact keeps call ⟨canvas.state.state, canvas.target⟩

end Backend

/-!
## The painter
-/

namespace Pixmap

structure SameSize (left right : Pixmap) : Prop where
  width : left.width = right.width
  height : left.height = right.height

private theorem keep_sameSize (pixmap : Pixmap) : Brush.Keep (·.SameSize pixmap) := by
  intro mode brush mix painted changed index coverage column row same
  exact ⟨same.width, same.height⟩

end Pixmap

private theorem Target.PaintedOver.sameShape {target painted : Target}
    (covered : target.PaintedOver painted) : painted.SameShape target := by
  have same := covered.keeps (·.SameSize target.pixmap) target.pixmap.keep_sameSize ⟨rfl, rfl⟩
  exact ⟨same.width, same.height, covered.hasAlpha⟩

namespace Backend

private theorem painter_keepsShape : painter.KeepsShape := by
  intro call canvas
  rcases Painter.effect_target canvas.state canvas.target call with ⟨color, rfl, -⟩ | covered
  · exact ⟨rfl, rfl, rfl⟩
  · exact covered.sameShape

/-- The backends of this library: the painter, the recorder, and either of them with calls that fail
as planned or under watch. -/
inductive Provided : {σ : Type} → Backend Float32 σ → Prop where
  | painter : Provided Backend.painter
  | recorder : Provided Backend.recorder
  | failing {σ : Type} {backend : Backend Float32 σ} (provided : Provided backend)
      (plan : FaultPlan) : Provided (Backend.failing plan backend)
  | watching {σ : Type} {backend : Backend Float32 σ} (provided : Provided backend) :
      Provided backend.watching

theorem Provided.keepsShape {backend : Backend Float32 σ} (provided : backend.Provided) :
    backend.KeepsShape := by
  induction provided with
  | painter => exact painter_keepsShape
  | recorder => exact recorder_keepsShape
  | failing _ plan ih => exact ih.failing plan
  | watching _ ih => exact ih.watching

end Backend

end PagePaint
