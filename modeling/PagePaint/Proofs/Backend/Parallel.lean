import Mathlib.Data.List.Forall2
import PagePaint.Proofs.Backend.Passage

set_option autoImplicit false

/-!
# Backends side by side

Two backends are given calls that correspond one to one. If each pair of calls does the same to the
target, fails alike and keeps the states of the backends related, so does a row of such pairs.
-/

namespace PagePaint

variable {α σ τ : Type}

/-- What two backends do with corresponding calls on the same target, as long as their states are
related. -/
structure Backend.Parallel (left : Backend α σ) (right : Backend α τ)
    (calls : PaintCall α → PaintCall α → Prop) (states : σ → τ → Prop) : Prop where
  target : ∀ {made made' state state'} (target : Target), calls made made' → states state state' →
    (left.paint made ⟨state, target⟩).canvas.target =
      (right.paint made' ⟨state', target⟩).canvas.target
  failure : ∀ {made made' state state'} (target : Target), calls made made' → states state state' →
    (left.paint made ⟨state, target⟩).failure = (right.paint made' ⟨state', target⟩).failure
  state : ∀ {made made' state state'} (target : Target), calls made made' → states state state' →
    states (left.paint made ⟨state, target⟩).canvas.state
      (right.paint made' ⟨state', target⟩).canvas.state

structure Passage.Alike (states : σ → τ → Prop) (left : Passage σ) (right : Passage τ) : Prop where
  target : left.canvas.target = right.canvas.target
  failure : left.failure = right.failure
  carried : left.carried = right.carried
  state : states left.canvas.state right.canvas.state

namespace Backend.Parallel

variable {left : Backend α σ} {right : Backend α τ} {calls : PaintCall α → PaintCall α → Prop}
  {states : σ → τ → Prop}

theorem carryOut (parallel : left.Parallel right calls states) {made made' : List (PaintCall α)}
    (paired : List.Forall₂ calls made made') {state : σ} {state' : τ}
    (related : states state state') (target : Target) :
    (left.carryOut made ⟨state, target⟩).Alike states
      (right.carryOut made' ⟨state', target⟩) := by
  -- The induction is on the pairs of calls; both passages end with the same one.
  induction paired generalizing state state' target with
  | nil => exact ⟨rfl, rfl, rfl, related⟩
  | @cons call call' rest rest' pair paired ih =>
      have sameTarget := parallel.target target pair related
      have sameFailure := parallel.failure target pair related
      have next := parallel.state target pair related
      cases failure : (left.paint call ⟨state, target⟩).failure with
      | some error =>
          rw [left.carryOut_cons_failed rest failure,
            right.carryOut_cons_failed rest' (sameFailure.symm.trans failure)]
          exact ⟨sameTarget, rfl, rfl, next⟩
      | none =>
          rw [left.carryOut_cons_painted rest failure,
            right.carryOut_cons_painted rest' (sameFailure.symm.trans failure)]
          have canvas : (right.paint call' ⟨state', target⟩).canvas =
              ⟨(right.paint call' ⟨state', target⟩).canvas.state,
                (left.paint call ⟨state, target⟩).canvas.target⟩ := by
            rw [sameTarget]
          have more := ih next (left.paint call ⟨state, target⟩).canvas.target
          rw [← canvas] at more
          exact ⟨more.target, more.failure, congrArg (1 + ·) more.carried, more.state⟩

end Backend.Parallel

end PagePaint
