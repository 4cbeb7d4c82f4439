import PagePaint.Session.Pause

set_option autoImplicit false

/-!
# What controllers answer

A controller that is handed from call to call is asked one question after the other. What it answers
depends on the number of the question alone, not on the call that asks. A counting controller says
yes at the multiples of its interval.
-/

namespace PagePaint

namespace PauseController

def afterAsked (controller : PauseController) (number : Nat) : PauseController :=
  (controller.askMany number).2

def answerAt (controller : PauseController) (number : Nat) : Bool :=
  (controller.afterAsked number).ask.1

theorem afterAsked_succ (controller : PauseController) (number : Nat) :
    controller.afterAsked (number + 1) = (controller.afterAsked number).ask.2 := by
  induction number generalizing controller with
  | zero => rfl
  | succ number ih => exact ih controller.ask.2

theorem askMany_afterAsked (controller : PauseController) (number count : Nat) :
    (controller.afterAsked number).askMany count =
      ((List.range' number count).map controller.answerAt,
        controller.afterAsked (number + count)) := by
  induction count generalizing number with
  | zero => rfl
  | succ count ih =>
      have later := ih (number + 1)
      rw [afterAsked_succ, Nat.add_right_comm] at later
      simp only [askMany, later]
      rfl

private theorem afterAsked_every (interval asked number : Nat) :
    (every interval asked).afterAsked number = every interval (asked + number) := by
  induction number with
  | zero => rfl
  | succ number ih =>
      rw [afterAsked_succ, ih]
      rfl

theorem afterAsked_of_constant {controller : PauseController}
    (constant : controller.ask.2 = controller) (number : Nat) :
    controller.afterAsked number = controller := by
  induction number with
  | zero => rfl
  | succ number ih => rw [afterAsked_succ, ih, constant]

private theorem answerAt_never (number : Nat) : never.answerAt number = false := by
  rw [answerAt, afterAsked_of_constant rfl]
  rfl

private theorem answerAt_always (number : Nat) : always.answerAt number = true := by
  rw [answerAt, afterAsked_of_constant rfl]
  rfl

private theorem answerAt_ofInterval (interval number : Nat) :
    (ofInterval interval).answerAt number = ((number + 1) % max interval 1 == 0) := by
  rw [answerAt, ofInterval, afterAsked_every, Nat.zero_add]
  rfl

/-!
## The questions that are answered with a pause
-/

/-- The first so many questions that a controller answers with a pause. -/
def pausesWithin (controller : PauseController) (asked : Nat) : List Nat :=
  (List.range asked).filter controller.answerAt

theorem pausesWithin_never (asked : Nat) : never.pausesWithin asked = [] := by
  rw [pausesWithin, List.filter_eq_nil_iff]
  intro number _
  rw [answerAt_never]
  exact Bool.false_ne_true

theorem pausesWithin_always (asked : Nat) : always.pausesWithin asked = List.range asked := by
  rw [pausesWithin, List.filter_eq_self]
  intro number _
  exact answerAt_always number

theorem pausesWithin_ofInterval (interval asked : Nat) :
    (ofInterval interval).pausesWithin asked =
      (List.range (asked / max interval 1)).map fun turn => (turn + 1) * max interval 1 - 1 := by
  have positive : 0 < max interval 1 := by omega
  induction asked with
  | zero => rw [Nat.zero_div]; rfl
  | succ asked ih =>
      rw [pausesWithin] at ih
      rw [pausesWithin, List.range_succ, List.filter_append, ih, Nat.succ_div]
      by_cases multiple : max interval 1 ∣ asked + 1
      · have pauses : (ofInterval interval).answerAt asked = true := by
          rw [answerAt_ofInterval, beq_iff_eq]
          exact Nat.mod_eq_zero_of_dvd multiple
        have last : (asked / max interval 1 + 1) * max interval 1 - 1 = asked := by
          have completed := Nat.succ_div_of_dvd multiple
          rw [← completed, Nat.div_mul_cancel multiple, Nat.add_sub_cancel]
        simp only [multiple, if_true, List.range_succ, List.map_append, List.map_cons,
          List.map_nil, last, List.filter_cons, pauses, List.filter_nil]
      · have goesOn : (ofInterval interval).answerAt asked = false := by
          rw [answerAt_ofInterval, beq_eq_false_iff_ne]
          exact fun whole => multiple (Nat.dvd_of_mod_eq_zero whole)
        simp only [multiple, if_false, Nat.add_zero, List.filter_cons, goesOn, Bool.false_eq_true,
          List.filter_nil, List.append_nil]

end PauseController

end PagePaint
