import PagePaint.Backend.Recorder
import PagePaint.Proofs.Backend.Passage

set_option autoImplicit false

/-!
# Watched and failing backends

What the two wrappers do to a row of calls that would succeed without them: the one notes the calls
down, the other cuts the row at the first planned fault.
-/

namespace PagePaint

variable {α σ : Type}

structure Backend.FaultPlan.FirstAt (plan : FaultPlan) (number : Nat) : Prop where
  fails : plan.fails number = true
  least : ∀ earlier, earlier < number → plan.fails earlier = false

namespace Backend

/-- Calls that succeed under watch are the calls that were seen, and the backend itself does the
same without it. -/
theorem watching_carryOut (backend : Backend α σ) {calls : List (PaintCall α)}
    {seen : Array (PaintCall α)} {state : σ} {target : Target}
    (smooth : (backend.watching.carryOut calls ⟨⟨seen, state⟩, target⟩).failure = none) :
    (backend.carryOut calls ⟨state, target⟩).failure = none ∧
      (backend.watching.carryOut calls ⟨⟨seen, state⟩, target⟩).canvas =
        ⟨⟨seen ++ calls, (backend.carryOut calls ⟨state, target⟩).canvas.state⟩,
          (backend.carryOut calls ⟨state, target⟩).canvas.target⟩ := by
  induction calls generalizing seen state target with
  | nil => exact ⟨rfl, rfl⟩
  | cons made rest ih =>
      cases painted : (backend.paint made ⟨state, target⟩).failure with
      | some error =>
          have watched : (backend.watching.paint made ⟨⟨seen, state⟩, target⟩).failure =
              some error := painted
          rw [carryOut_cons_failed _ rest watched] at smooth
          cases smooth
      | none =>
          have watched : (backend.watching.paint made ⟨⟨seen, state⟩, target⟩).failure = none :=
            painted
          rw [carryOut_cons_painted _ rest watched] at smooth ⊢
          rw [carryOut_cons_painted _ rest painted]
          obtain ⟨plain, canvasEq⟩ := ih smooth
          refine ⟨plain, canvasEq.trans ?_⟩
          simp

private theorem failing_carryOut_of_calm (plan : FaultPlan) (backend : Backend α σ)
    {calls : List (PaintCall α)} {made : Nat} {state : σ} {target : Target}
    (calm : ∀ number, number < made + calls.length → plan.fails number = false)
    (smooth : (backend.carryOut calls ⟨state, target⟩).failure = none) :
    ((failing plan backend).carryOut calls ⟨⟨made, state⟩, target⟩).failure = none ∧
      ((failing plan backend).carryOut calls ⟨⟨made, state⟩, target⟩).canvas =
        ⟨⟨made + calls.length, (backend.carryOut calls ⟨state, target⟩).canvas.state⟩,
          (backend.carryOut calls ⟨state, target⟩).canvas.target⟩ := by
  induction calls generalizing made state target with
  | nil => exact ⟨rfl, rfl⟩
  | cons call rest ih =>
      have unplanned : plan.fails made = false := calm made (by simp)
      cases painted : (backend.paint call ⟨state, target⟩).failure with
      | some error =>
          rw [carryOut_cons_failed _ rest painted] at smooth
          cases smooth
      | none =>
          have allowed : (failing plan backend).paint call ⟨⟨made, state⟩, target⟩ =
              { backend.paint call ⟨state, target⟩ with
                canvas := ⟨⟨made + 1, (backend.paint call ⟨state, target⟩).canvas.state⟩,
                  (backend.paint call ⟨state, target⟩).canvas.target⟩ } := by
            simp [failing, unplanned]
          have counted : ((failing plan backend).paint call ⟨⟨made, state⟩, target⟩).failure =
              none := by
            rw [allowed]
            exact painted
          rw [carryOut_cons_painted _ rest painted] at smooth ⊢
          rw [carryOut_cons_painted _ rest counted, allowed]
          have later : ∀ number, number < made + 1 + rest.length → plan.fails number = false := by
            intro number within
            refine calm number ?_
            rw [List.length_cons]
            omega
          obtain ⟨still, canvasEq⟩ := ih later smooth
          refine ⟨still, canvasEq.trans ?_⟩
          rw [List.length_cons, Nat.add_assoc, Nat.add_comm 1]
          rfl

/-- The first planned fault cuts the row: the calls before it are carried out, it has no effect
itself, and nothing follows. -/
theorem failing_carryOut_of_fault (plan : FaultPlan) (backend : Backend α σ)
    {calls : List (PaintCall α)} {made offset : Nat} {state : σ} {target : Target}
    (first : plan.FirstAt (made + offset)) (within : offset < calls.length)
    (smooth : (backend.carryOut calls ⟨state, target⟩).failure = none) :
    let before := (backend.carryOut (calls.take offset) ⟨state, target⟩).canvas
    (failing plan backend).carryOut calls ⟨⟨made, state⟩, target⟩ =
      ⟨⟨⟨made + offset + 1, before.state⟩, before.target⟩, offset,
        some (plan.error (made + offset))⟩ := by
  intro before
  have length : (calls.take offset).length = offset := by
    rw [List.length_take]
    omega
  have taken : (backend.carryOut (calls.take offset) ⟨state, target⟩).failure = none := by
    rw [← List.take_append_drop offset calls] at smooth
    exact backend.carryOut_smooth_of_append smooth
  have calm : ∀ number, number < made + (calls.take offset).length →
      plan.fails number = false := by
    rw [length]
    exact first.least
  obtain ⟨still, canvasEq⟩ := failing_carryOut_of_calm plan backend calm taken
  obtain ⟨call, rest, next⟩ : ∃ call rest, calls.drop offset = call :: rest :=
    ⟨calls[offset], calls.drop (offset + 1), List.drop_eq_getElem_cons within⟩
  have fault : (failing plan backend).paint call ⟨⟨made + offset, before.state⟩, before.target⟩ =
      ⟨⟨⟨made + offset + 1, before.state⟩, before.target⟩, [],
        some (plan.error (made + offset))⟩ := by
    simp [failing, first.fails]
  have stopped := congrArg Outcome.failure fault
  have cut := carryOut_append_of_smooth _ (calls.drop offset) still
  rw [List.take_append_drop] at cut
  rw [cut, canvasEq, length, next, carryOut_cons_failed _ rest stopped, fault]
  rfl

theorem failing_watching_carryOut (plan : FaultPlan) (backend : Backend α σ)
    {calls : List (PaintCall α)} {number : Nat} {state : σ} {target : Target}
    (first : plan.FirstAt number) (within : number < calls.length)
    (smooth : (backend.watching.carryOut calls ⟨⟨#[], state⟩, target⟩).failure = none) :
    let before := (backend.carryOut (calls.take number) ⟨state, target⟩).canvas
    (failing plan backend.watching).carryOut calls ⟨⟨0, ⟨#[], state⟩⟩, target⟩ =
      ⟨⟨⟨number + 1, ⟨(calls.take number).toArray, before.state⟩⟩, before.target⟩, number,
        some (plan.error number)⟩ := by
  intro before
  have start : plan.FirstAt (0 + number) := (Nat.zero_add number).symm ▸ first
  have cut := failing_carryOut_of_fault plan backend.watching start within smooth
  rw [← List.take_append_drop number calls] at smooth
  obtain ⟨-, seen⟩ :=
    backend.watching_carryOut (backend.watching.carryOut_smooth_of_append smooth)
  rw [seen, Nat.zero_add] at cut
  simpa using cut

end Backend

end PagePaint
