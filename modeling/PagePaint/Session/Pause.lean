set_option autoImplicit false

/-!
# Pause controllers

A session asks its controller after every batch but the last whether to pause. A controller only
answers; it never sees the session.
-/

namespace PagePaint

/-- Who decides about pauses. Counting controllers remember how often they were asked; `answering`
gives the answers of any supply, one for each time it is asked. -/
inductive PauseController where
  | never
  | always
  | every (interval asked : Nat)
  | answering (answers : Nat → Bool) (asked : Nat)

namespace PauseController

/-- Pauses at every multiple of an interval. Zero counts as one. -/
def ofInterval (interval : Nat) : PauseController := every (max interval 1) 0

/-- Repeats a list of answers. An empty list never pauses. -/
def ofPattern (pattern : List Bool) : PauseController :=
  answering (fun asked => (pattern[asked % pattern.length]?).getD false) 0

/-- Asks once: the answer, and the controller afterwards. -/
def ask : PauseController → Bool × PauseController
  | never => (false, never)
  | always => (true, always)
  | every interval asked => ((asked + 1) % interval == 0, every interval (asked + 1))
  | answering answers asked => (answers asked, answering answers (asked + 1))

def asked? : PauseController → Option Nat
  | every _ asked => some asked
  | _ => none

def askMany : Nat → PauseController → List Bool × PauseController
  | 0, controller => ([], controller)
  | count + 1, controller =>
    let (answer, next) := controller.ask
    let (answers, last) := askMany count next
    (answer :: answers, last)

end PauseController

end PagePaint
