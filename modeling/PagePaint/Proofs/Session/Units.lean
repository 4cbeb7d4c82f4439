import PagePaint.Proofs.Backend.Passage
import PagePaint.Session.Job

set_option autoImplicit false

/-!
# Units of work

A row of units makes the calls of the units one after the other. Every call belongs to one unit, and
an error stops the row at the unit whose call failed.
-/

namespace PagePaint

variable {α σ : Type}

def WorkUnit.calls [Scalar α] (renderer : Renderer α) (unit : WorkUnit α) : List (PaintCall α) :=
  (unit.body renderer).calls

def unitCalls [Scalar α] (renderer : Renderer α) (units : List (WorkUnit α)) :
    List (PaintCall α) :=
  units.flatMap (WorkUnit.calls renderer)

@[simp] theorem unitCalls_cons [Scalar α] (renderer : Renderer α) (unit : WorkUnit α)
    (rest : List (WorkUnit α)) :
    unitCalls renderer (unit :: rest) = unit.calls renderer ++ unitCalls renderer rest := rfl

@[simp] theorem unitCalls_append [Scalar α] (renderer : Renderer α)
    (left right : List (WorkUnit α)) :
    unitCalls renderer (left ++ right) = unitCalls renderer left ++ unitCalls renderer right := by
  simp [unitCalls]

/-- Among the calls of a row of units, the one of a number is made by the unit at a position. Units
without calls make none. -/
structure IssuedAt [Scalar α] (renderer : Renderer α) (units : List (WorkUnit α))
    (number position : Nat) : Prop where
  reached : (unitCalls renderer (units.take position)).length ≤ number
  within : number < (unitCalls renderer (units.take (position + 1))).length

theorem unitCalls_take_length_le [Scalar α] (renderer : Renderer α) (units : List (WorkUnit α))
    {first second : Nat} (ordered : first ≤ second) :
    (unitCalls renderer (units.take first)).length ≤
      (unitCalls renderer (units.take second)).length := by
  obtain ⟨more, rfl⟩ := Nat.le.dest ordered
  rw [List.take_add, unitCalls_append, List.length_append]
  exact Nat.le_add_right _ _

namespace IssuedAt

variable [Scalar α] {renderer : Renderer α} {units : List (WorkUnit α)} {number position : Nat}

theorem position_lt (issued : IssuedAt renderer units number position) :
    position < units.length := by
  refine Nat.lt_of_not_le fun outside => ?_
  have reached := issued.reached
  have within := issued.within
  rw [List.take_of_length_le outside] at reached
  rw [List.take_of_length_le (Nat.le_succ_of_le outside)] at within
  omega

theorem unique {other : Nat} (first : IssuedAt renderer units number position)
    (second : IssuedAt renderer units number other) : position = other := by
  rcases Nat.lt_trichotomy position other with before | same | behind
  · have covered :=
      Nat.lt_of_lt_of_le first.within (unitCalls_take_length_le renderer units before)
    exact absurd covered (Nat.not_lt_of_le second.reached)
  · exact same
  · have covered :=
      Nat.lt_of_lt_of_le second.within (unitCalls_take_length_le renderer units behind)
    exact absurd covered (Nat.not_lt_of_le first.reached)

private theorem cons (unit : WorkUnit α) (issued : IssuedAt renderer units number position) :
    IssuedAt renderer (unit :: units) ((unit.calls renderer).length + number) (position + 1) where
  reached := by
    rw [List.take_succ_cons, unitCalls_cons, List.length_append]
    exact Nat.add_le_add_left issued.reached _
  within := by
    rw [List.take_succ_cons, unitCalls_cons, List.length_append]
    exact Nat.add_lt_add_left issued.within _

/-- A call of some units from the middle of a row, counted over the whole row. -/
theorem ofSlice {start size : Nat}
    (issued : IssuedAt renderer ((units.drop start).take size) number position) :
    IssuedAt renderer units ((unitCalls renderer (units.take start)).length + number)
      (start + position) := by
  have inside := issued.position_lt
  rw [List.length_take] at inside
  have reached := issued.reached
  have within := issued.within
  rw [List.take_take, Nat.min_eq_left (by omega)] at reached within
  constructor
  · rw [List.take_add, unitCalls_append, List.length_append]
    exact Nat.add_le_add_left reached _
  · rw [Nat.add_assoc, List.take_add, unitCalls_append, List.length_append]
    exact Nat.add_lt_add_left within _

end IssuedAt

section Painting

variable [Scalar α] (backend : Backend α σ)

theorem paintUnits_cons (renderer : Renderer α) (cursor : Nat) (unit : WorkUnit α)
    (rest : List (WorkUnit α)) (canvas : Canvas σ) :
    let passage := backend.carryOut (unit.calls renderer) canvas
    let painted := paintUnits backend renderer cursor (unit :: rest) canvas
    (∀ raised, passage.failure = some raised →
      painted.cursor = cursor ∧ painted.outcome.canvas = passage.canvas ∧
        painted.outcome.failure = some (raised.atWorkUnit cursor)) ∧
    (passage.failure = none →
      let more := paintUnits backend renderer (cursor + 1) rest passage.canvas
      painted.cursor = more.cursor ∧ painted.outcome.canvas = more.outcome.canvas ∧
        painted.outcome.failure = more.outcome.failure) := by
  have ran : (backend.run (unit.script renderer cursor) canvas).canvas =
        (backend.carryOut (unit.calls renderer) canvas).canvas ∧
      (backend.run (unit.script renderer cursor) canvas).failure =
        (backend.carryOut (unit.calls renderer) canvas).failure :=
    backend.run_eq_carryOut (unit.script renderer cursor) canvas
  intro passage painted
  constructor
  · intro raised failed
    have stopped := ran.2.trans failed
    simp only [painted, paintUnits, stopped]
    exact ⟨trivial, ran.1, trivial⟩
  · intro smooth
    have finished := ran.2.trans smooth
    simp only [painted, paintUnits, finished, ran.1]
    exact ⟨rfl, rfl, rfl⟩

theorem paintUnits_smooth (renderer : Renderer α) (cursor : Nat) (units : List (WorkUnit α))
    (canvas : Canvas σ)
    (smooth : (backend.carryOut (unitCalls renderer units) canvas).failure = none) :
    let painted := paintUnits backend renderer cursor units canvas
    painted.cursor = cursor + units.length ∧
      painted.outcome.canvas = (backend.carryOut (unitCalls renderer units) canvas).canvas ∧
      painted.outcome.failure = none := by
  induction units generalizing cursor canvas with
  | nil => exact ⟨rfl, rfl, rfl⟩
  | cons unit rest ih =>
      rw [unitCalls_cons] at smooth ⊢
      have first := backend.carryOut_smooth_of_append smooth
      rw [backend.carryOut_append_of_smooth _ first] at smooth ⊢
      obtain ⟨-, step⟩ := paintUnits_cons backend renderer cursor unit rest canvas
      obtain ⟨sameCursor, sameCanvas, sameFailure⟩ := step first
      obtain ⟨cursorEq, canvasEq, failureEq⟩ := ih (cursor + 1) _ smooth
      refine ⟨?_, sameCanvas.trans canvasEq, sameFailure.trans failureEq⟩
      rw [sameCursor, cursorEq, List.length_cons]
      omega

/-- An error stops at the unit that raised it, wherever in the row that is. -/
theorem paintUnits_failed (renderer : Renderer α) (cursor : Nat) (units : List (WorkUnit α))
    (canvas : Canvas σ) {raised : Error}
    (failed : (backend.carryOut (unitCalls renderer units) canvas).failure = some raised) :
    let painted := paintUnits backend renderer cursor units canvas
    let passage := backend.carryOut (unitCalls renderer units) canvas
    ∃ position, IssuedAt renderer units passage.carried position ∧
      painted.cursor = cursor + position ∧ painted.outcome.canvas = passage.canvas ∧
      painted.outcome.failure = some (raised.atWorkUnit (cursor + position)) := by
  induction units generalizing cursor canvas with
  | nil => cases failed
  | cons unit rest ih =>
      obtain ⟨stop, step⟩ := paintUnits_cons backend renderer cursor unit rest canvas
      rw [unitCalls_cons] at failed ⊢
      cases first : (backend.carryOut (unit.calls renderer) canvas).failure with
      | some error =>
          have whole := backend.carryOut_append_of_failed (unitCalls renderer rest) first
          rw [whole] at failed ⊢
          cases first.symm.trans failed
          obtain ⟨sameCursor, sameCanvas, sameFailure⟩ := stop _ first
          refine ⟨0, ⟨Nat.zero_le _, ?_⟩, sameCursor, sameCanvas, sameFailure⟩
          simpa [unitCalls] using backend.carried_lt_length first
      | none =>
          rw [backend.carryOut_append_of_smooth _ first] at failed ⊢
          obtain ⟨sameCursor, sameCanvas, sameFailure⟩ := step first
          obtain ⟨position, issued, cursorEq, canvasEq, failureEq⟩ := ih (cursor + 1) _ failed
          have shifted : cursor + 1 + position = cursor + (position + 1) := by omega
          rw [shifted] at cursorEq failureEq
          exact ⟨position + 1, issued.cons unit, sameCursor.trans cursorEq,
            sameCanvas.trans canvasEq, sameFailure.trans failureEq⟩

end Painting

end PagePaint
