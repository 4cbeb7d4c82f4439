import PagePaint.Backend.Recorder
import PagePaint.Proofs.Backend.PainterFaults
import PagePaint.Proofs.Backend.Preservation
import PagePaint.Proofs.Paint.Order
import PagePaint.Proofs.Raster.Sampling

set_option autoImplicit false

/-!
# Targets without an alpha channel

A target without an alpha channel has no pixel that is see-through, once it was filled. Nothing that
writes its pixels changes that: neither another fill, nor a rectangle, nor a call of a backend.
-/

namespace PagePaint

def Pixmap.Full (pixmap : Pixmap) : Prop := ∀ pixel ∈ pixmap.pixels, pixel.alpha = 255

/-- A target without an alpha channel that shows nothing through. -/
structure Target.Backed (target : Target) : Prop where
  flat : target.hasAlpha = false
  full : target.pixmap.Full

/-!
## Pixels
-/

private theorem Brush.mix?_full {brush : Brush} {mode : BlendMode} {mix : Mix}
    (found : brush.mix? mode = some mix) (coverage column row : Nat) {below : Pixel}
    (full : below.alpha = 255) : (mix coverage column row below).alpha = 255 := by
  cases brush with
  | plain pixel =>
      cases found
      exact Blend.covering_full _ _ _ _ full
  | gradient colors placement =>
      obtain ⟨inverse, -, rfl⟩ := Option.map_eq_some_iff.mp found
      exact Blend.covering_full _ _ _ _ full
  | image pixmap smooth opacity placement =>
      obtain ⟨inverse, -, rfl⟩ := Option.map_eq_some_iff.mp found
      exact Blend.sampled_full _ _ (pixmap.shownAt_nearShare _ _) full

theorem Mix.keeps_full {mix : Mix}
    (keeps : ∀ coverage column row below, below.alpha = 255 →
      (mix coverage column row below).alpha = 255) : mix.Keeps Pixmap.Full := by
  intro pixmap index coverage column row full pixel member
  obtain ⟨position, bound, rfl⟩ := Array.mem_iff_getElem.mp member
  simp only [Pixmap.modify] at bound ⊢
  rw [Array.getElem_modify]
  split
  · exact keeps _ _ _ _ (full _ (Array.getElem_mem _))
  · exact full _ (Array.getElem_mem _)

private theorem Brush.keep_full : Brush.Keep Pixmap.Full := by
  intro mode brush mix found
  exact Mix.keeps_full fun _ _ _ _ => mix?_full found _ _ _

namespace Target

variable {target painted : Target}

theorem storedPixel_full (flat : target.hasAlpha = false) (color : Argb) :
    (target.storedPixel color).alpha = 255 := by
  have stored : Pixel.ofFraction (Pixel.fraction 255) = 255 := by decide +kernel
  have full : (target.storable color).alpha = 255 := by
    rw [storable, flat]
    exact Argb.alpha_ofChannels _ _ _ _
  change Pixel.ofFraction (Pixel.fraction (target.storable color).alpha) = 255
  rw [full, stored]

theorem fill_backed (flat : target.hasAlpha = false) (color : Argb) :
    (target.fill color).Backed := by
  refine ⟨flat, fun pixel member => ?_⟩
  obtain ⟨-, rfl⟩ := Array.mem_replicate.mp member
  exact storedPixel_full flat color

theorem Backed.fillRect (backed : target.Backed) (left top : Int32) (width height : UInt32)
    (color : Argb) : (target.fillRect left top width height color).Backed := by
  have stored := storedPixel_full backed.flat color
  unfold Target.fillRect
  dsimp only
  split
  · refine ⟨backed.flat, Pixmap.fillOutline_keeps ?_ backed.full _ _ _ _ _⟩
    intro brush mix found
    cases found
    exact Mix.keeps_full fun _ _ _ _ _ => stored
  · split
    · refine ⟨backed.flat, fun pixel member => ?_⟩
      obtain ⟨index, bound, rfl⟩ := Array.mem_mapIdx.mp member
      dsimp only
      split
      · exact stored
      · exact backed.full _ (Array.getElem_mem _)
    · exact backed

private theorem PaintedOver.backed (covered : target.PaintedOver painted) (backed : target.Backed) :
    painted.Backed :=
  ⟨covered.hasAlpha.trans backed.flat, covered.keeps _ Brush.keep_full backed.full⟩

end Target

/-!
## Backends
-/

namespace Backend

variable {α σ : Type}

/-- A backend that fills the target when it clears, leaves it alone when it fails, and otherwise
keeps it backed. -/
structure Backs (backend : Backend α σ) : Prop where
  cleared : ∀ {canvas color}, (backend.paint (.clear color) canvas).failure = none →
    (backend.paint (.clear color) canvas).canvas.target = canvas.target.fill color
  stopped : ∀ {canvas call error}, (backend.paint call canvas).failure = some error →
    (backend.paint call canvas).canvas.target = canvas.target
  painted : ∀ {canvas call}, canvas.target.Backed →
    (backend.paint call canvas).canvas.target.Backed

theorem painter_backs : painter.Backs where
  cleared _ := rfl
  stopped := by
    intro canvas call error failed
    obtain ⟨fault, -, refuses⟩ := painter_failure_iff.mp failed
    exact congrArg (·.canvas.target) (painter_paint_of_refuses refuses canvas.target)
  painted := by
    intro canvas call backed
    rcases Painter.effect_target canvas.state canvas.target call with ⟨color, rfl, -⟩ | covered
    · exact Target.fill_backed backed.flat color
    · exact covered.backed backed

theorem recorder_backs : (recorder : Backend α (Record α)).Backs where
  cleared _ := rfl
  stopped failed := nomatch failed
  painted := by
    intro canvas call backed
    cases call with
    | clear color => exact Target.fill_backed backed.flat color
    | fill | stroke | shade | image => exact backed

theorem Backs.failing {backend : Backend α σ} (backs : backend.Backs) (plan : FaultPlan) :
    (Backend.failing plan backend).Backs where
  cleared := by
    intro canvas color smooth
    cases fails : plan.fails canvas.state.made with
    | true =>
        simp only [Backend.failing, fails, if_true] at smooth
        cases smooth
    | false =>
        simp only [Backend.failing, fails, Bool.false_eq_true, if_false] at smooth ⊢
        exact backs.cleared smooth
  stopped := by
    intro canvas call error failed
    cases fails : plan.fails canvas.state.made with
    | true => simp only [Backend.failing, fails, if_true]
    | false =>
        simp only [Backend.failing, fails, Bool.false_eq_true, if_false] at failed ⊢
        exact backs.stopped failed
  painted := by
    intro canvas call backed
    cases fails : plan.fails canvas.state.made with
    | true =>
        simp only [Backend.failing, fails, if_true]
        exact backed
    | false =>
        simp only [Backend.failing, fails, Bool.false_eq_true, if_false]
        exact backs.painted backed

theorem Backs.watching {backend : Backend α σ} (backs : backend.Backs) :
    backend.watching.Backs where
  cleared smooth := backs.cleared smooth
  stopped failed := backs.stopped failed
  painted backed := backs.painted backed

end Backend

end PagePaint
