import PagePaint.Session.Session

set_option autoImplicit false

/-!
# Driving a session to its end

A paused session is resumed until it is done or has failed. Every resumption paints at least one
batch, so the batches that are left bound their number.
-/

namespace PagePaint

variable {α σ : Type}

/-- What became of a session that was driven on: the positions at which it was paused, in order, and
the error that ended it, if one did. -/
structure DriveOutcome (α σ : Type) where
  session : Session α σ
  pauses : List Continuation
  failure : Option Error
  log : List LogLine
  polls : Nat
  pause : Option PauseController

namespace Session

def batchesLeft (session : Session α σ) : Nat :=
  (session.job?.map fun job => job.batches.length).getD 0

/-- Resumes a session for as long as it is paused, at most so many times. -/
def resumeAll [Scalar α] (backend : Backend α σ) :
    Nat → Session α σ → Option PauseController → DriveOutcome α σ
  | 0, session, pause => ⟨session, [], none, [], 0, pause⟩
  | fuel + 1, session, pause =>
    match session.stage with
    | .inProgress job =>
      let response := session.resume backend pause
      match response.result with
      | .error error =>
        ⟨response.session, [job.continuation], some error, response.log, response.polls,
          response.pause⟩
      | .ok _ =>
        let rest := resumeAll backend fuel response.session response.pause
        { rest with
          pauses := job.continuation :: rest.pauses
          log := response.log ++ rest.log
          polls := response.polls + rest.polls }
    | _ => ⟨session, [], none, [], 0, pause⟩

def drive [Scalar α] (backend : Backend α σ) (session : Session α σ)
    (pause : Option PauseController) : DriveOutcome α σ :=
  resumeAll backend session.batchesLeft session pause

end Session

end PagePaint
