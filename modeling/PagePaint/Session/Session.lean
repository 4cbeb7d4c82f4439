import PagePaint.Paint.Overlay
import PagePaint.Session.Job

set_option autoImplicit false

/-!
# Render sessions

A session paints one page into one target. It owns the target from the accepted start to the close
and hands it back exactly once. Each operation is allowed in some phases only; a refused operation
changes nothing.
-/

namespace PagePaint

variable {α σ : Type}

/-- A phase of a session together with what the session owns in it. -/
inductive Stage (α : Type) where
  | notStarted
  | inProgress (job : Job α)
  | done (job : Job α)
  | failed (job : Job α)
  | closed

namespace Stage

def phase : Stage α → Phase
  | notStarted => .notStarted
  | inProgress _ => .inProgress
  | done _ => .done
  | failed _ => .failed
  | closed => .closed

def job? : Stage α → Option (Job α)
  | notStarted | closed => none
  | inProgress job | done job | failed job => some job

end Stage

structure Session (α σ : Type) where
  backend : σ
  stage : Stage α

/-- Why a start failed, and the target if the session did not take it. -/
structure StartError where
  error : Error
  target : Option Target

/-- What an operation did to a session, what it answers, the log lines it wrote, how often it asked
the controller, and the controller afterwards. -/
structure Response (α σ ε ρ : Type) where
  session : Session α σ
  result : Except ε ρ
  log : List LogLine
  polls : Nat
  pause : Option PauseController

namespace Session

def fresh (backend : σ) : Session α σ := ⟨backend, .notStarted⟩

def phase (session : Session α σ) : Phase := session.stage.phase

def job? (session : Session α σ) : Option (Job α) := session.stage.job?

def continuation? (session : Session α σ) : Option Continuation :=
  session.job?.map Job.continuation

def config? (session : Session α σ) : Option Config := session.job?.map Job.config

def target? (session : Session α σ) : Option Target := session.job?.map Job.target

/-- Leaves the session as it is and answers with an error. -/
def refuse {ε ρ : Type} (session : Session α σ) (error : ε) (pause : Option PauseController) :
    Response α σ ε ρ :=
  ⟨session, .error error, [], 0, pause⟩

def refuseOperation {ρ : Type} (session : Session α σ) (operation : Operation)
    (pause : Option PauseController) : Response α σ Error ρ :=
  session.refuse (.invalidState operation session.phase) pause

/-- Why a page cannot be painted into a target. The first of three checks that fails decides: the
page has a size, the device rectangle has pixels, and the target is as large as the rectangle. -/
def argumentFault? [Scalar α] (target : Target) (page : Page α) (config : Config) :
    Option ArgumentFault :=
  match page.sizeFault? with
  | some fault => some fault
  | none =>
    let device := config.rect
    if device.isEmpty then some (.emptyDevice device.width device.height)
    else if target.width ≠ device.width ∨ target.height ≠ device.height then
      some (.sizeMismatch target.width target.height device.width device.height)
    else none

def afterRun (outcome : RunOutcome α σ) : Session α σ :=
  let stage := match outcome.result with
    | .ok .done => .done outcome.job
    | .ok .toBeContinued => .inProgress outcome.job
    | .error _ => .failed outcome.job
  ⟨outcome.state, stage⟩

def resumeJob [Scalar α] (backend : Backend α σ) (job : Job α) (state : σ)
    (pause : Option PauseController) : Response α σ Error RenderStatus :=
  let outcome := runBatches backend job.batches job state pause
  ⟨afterRun outcome, outcome.result, outcome.log, outcome.polls, outcome.pause⟩

def startNote (job : Job α) : LogLine :=
  let config := job.config
  .debug ("starting render: " ++ toString job.target.width ++ "x" ++ toString job.target.height ++
    " target, " ++ toString job.work.length ++ " work units, rotation " ++
    config.rotation.name ++ ", flags " ++ config.flags.listing ++ ", scheme " ++
    (if config.scheme.isSome then "forced" else "native"))

/-- Starts painting a page into a target. A refused start hands the target back; once the session
has taken it, a failure of the backend does not. -/
def start [Scalar α] (backend : Backend α σ) (session : Session α σ) (target : Target)
    (page : Page α) (config : Config) (pause : Option PauseController) :
    Response α σ StartError RenderStatus :=
  match session.stage with
  | .notStarted =>
    match argumentFault? target page config with
    | some fault => session.refuse ⟨.invalidArgument fault, some target⟩ pause
    | none =>
      let job := Job.start target page config
      let (state, prepared) := backend.prepare config session.backend
      let response := resumeJob backend job state pause
      { response with
        result := response.result.mapError fun error => ⟨error, none⟩
        log := skippedNotes page config ++ startNote job :: prepared ++ response.log }
  | _ => session.refuse ⟨.invalidState .start session.phase, some target⟩ pause

def resume [Scalar α] (backend : Backend α σ) (session : Session α σ)
    (pause : Option PauseController) : Response α σ Error RenderStatus :=
  match session.stage with
  | .inProgress job => resumeJob backend job session.backend pause
  | _ => session.refuseOperation .resume pause

/-- Paints a form layer over a finished page. That is done at most once. -/
def drawOverlay [Scalar α] (backend : Backend α σ) (session : Session α σ)
    (layer : FormLayer α) : Response α σ Error Unit :=
  match session.stage with
  | .done job =>
    if job.overlayDrawn then session.refuseOperation .drawOverlayAgain none
    else
      let painted :=
        backend.run (Overlay.script layer job.page job.config) ⟨session.backend, job.target⟩
      let job := { job with target := painted.canvas.target }
      match painted.failure with
      | some error =>
        ⟨⟨painted.canvas.state, .failed job⟩, .error error,
          painted.log ++ [.warn ("form overlay failed: " ++ error.message)], 0, none⟩
      | none =>
        let drawn := Overlay.drawnCount layer job.page job.config
        ⟨⟨painted.canvas.state, .done { job with overlayDrawn := true }⟩, .ok (),
          painted.log ++ [.debug ("form overlay drew " ++ toString drawn ++ " widgets")], 0, none⟩
  | _ => session.refuseOperation .drawOverlay none

/-- Ends a session that is done or has failed and hands the target back. -/
def close (session : Session α σ) : Response α σ Error Target :=
  match session.stage with
  | .done job | .failed job =>
    ⟨⟨session.backend, .closed⟩, .ok job.target,
      [.debug ("closing render session after " ++ toString job.continuation.batches ++
        " batches (" ++ session.phase.text ++ ")")], 0, none⟩
  | _ => session.refuseOperation .close none

end Session

end PagePaint
