import PagePaint.Backend.Backend
import PagePaint.Session.Pause
import PagePaint.Session.Work

set_option autoImplicit false

/-!
# Jobs

A job is a base pass under way: what a started session owns. It is done in batches. The background
is a batch of its own; every other batch is the next units of the work list, as many as the step
limit allows. Between two batches, and nowhere else, the controller may ask for a pause.
-/

namespace PagePaint

variable {α σ β : Type}

/-- Cuts a list into pieces of a size, the last one possibly shorter. Every piece has an entry, so
a size of zero counts as one. -/
def chunks (size : Nat) : List β → List (List β)
  | [] => []
  | first :: rest => (first :: rest.take (size - 1)) :: chunks size (rest.drop (size - 1))
termination_by list => list.length
decreasing_by simp only [List.length_drop, List.length_cons]; omega

/-- What a session owns from the accepted start to the close. -/
structure Job (α : Type) where
  target : Target
  page : Page α
  config : Config
  work : List (WorkUnit α)
  continuation : Continuation
  overlayDrawn : Bool

/-- What is painted between two questions to the controller. -/
inductive Batch (α : Type) where
  | background
  | units (units : List (WorkUnit α))
deriving DecidableEq, Repr

/-- What became of a batch: the job and the backend afterwards. A failing batch leaves the cursor at
the unit that failed. -/
structure BatchOutcome (α σ : Type) where
  job : Job α
  state : σ
  log : List LogLine
  failure : Option Error

/-- What became of a row of units: the position after the last one painted. -/
structure UnitsOutcome (σ : Type) where
  cursor : Nat
  outcome : Outcome σ

/-- Paints units, the first of them at a position of the work list, up to the first failure. -/
def paintUnits [Scalar α] (backend : Backend α σ) (renderer : Renderer α) :
    Nat → List (WorkUnit α) → Canvas σ → UnitsOutcome σ
  | cursor, [], canvas => ⟨cursor, .ok canvas⟩
  | cursor, unit :: rest, canvas =>
    let painted := backend.run (unit.script renderer cursor) canvas
    match painted.failure with
    | some error => ⟨cursor, { painted with failure := some (error.atWorkUnit cursor) }⟩
    | none =>
      let more := paintUnits backend renderer (cursor + 1) rest painted.canvas
      { more with outcome := more.outcome.after painted.log }

namespace Job

def start (target : Target) (page : Page α) (config : Config) : Job α :=
  let work := workList page config
  { target, page, config, work
    continuation := .start work.length
    overlayDrawn := false }

def background (job : Job α) : Argb :=
  job.config.background.getD job.target.defaultBackground

def batches (job : Job α) : List (Batch α) :=
  (if job.continuation.backgroundDone then [] else [.background]) ++
    (chunks job.config.stepLimit (job.work.drop job.continuation.cursor)).map .units

variable [Scalar α]

def renderer (job : Job α) : Renderer α := .ofConfig job.page job.config

omit [Scalar α] in
def countBatch (job : Job α) : Job α :=
  { job with
    continuation := { job.continuation with batches := job.continuation.batches + 1 } }

def paintBackground (job : Job α) (backend : Backend α σ) (state : σ) : BatchOutcome α σ :=
  let color := job.background
  let painted :=
    backend.run [.note (.trace ("painting background " ++ color.listing)), .call (.clear color)]
      ⟨state, job.target⟩
  let job := { job with target := painted.canvas.target }
  match painted.failure with
  | some error => ⟨job, painted.canvas.state, painted.log, some error⟩
  | none =>
    let job := { job with continuation := { job.continuation with backgroundDone := true } }
    ⟨job.countBatch, painted.canvas.state, painted.log, none⟩

def paintBatch (job : Job α) (backend : Backend α σ) (state : σ) :
    Batch α → BatchOutcome α σ
  | .background => job.paintBackground backend state
  | .units units =>
    let painted :=
      paintUnits backend job.renderer job.continuation.cursor units ⟨state, job.target⟩
    let canvas := painted.outcome.canvas
    let job :=
      { job with
        target := canvas.target
        continuation := { job.continuation with cursor := painted.cursor } }
    match painted.outcome.failure with
    | some error => ⟨job, canvas.state, painted.outcome.log, some error⟩
    | none => ⟨job.countBatch, canvas.state, painted.outcome.log, none⟩

end Job

inductive RenderStatus where
  | done
  | toBeContinued
deriving DecidableEq, Repr, Inhabited

namespace RenderStatus

def name : RenderStatus → String
  | done => "Done"
  | toBeContinued => "ToBeContinued"

def all : List RenderStatus := [done, toBeContinued]

end RenderStatus

/-- What became of a row of batches. The number of polls counts the questions to the controller,
which is handed back as they left it. -/
structure RunOutcome (α σ : Type) where
  job : Job α
  state : σ
  result : Except Error RenderStatus
  log : List LogLine
  polls : Nat
  pause : Option PauseController

namespace RunOutcome

/-- Puts what an earlier batch reported before what the later ones did. -/
def after (outcome : RunOutcome α σ) (lines : List LogLine) (polls : Nat) :
    RunOutcome α σ :=
  { outcome with log := lines ++ outcome.log, polls := polls + outcome.polls }

end RunOutcome

/-- Asks a controller, if there is one. Nobody to ask means no pause. -/
def pollPause : Option PauseController → Bool × Nat × Option PauseController
  | none => (false, 0, none)
  | some controller =>
    let (answer, next) := controller.ask
    (answer, 1, some next)

private def doneNote (continuation : Continuation) : LogLine :=
  .debug ("render done: " ++ toString continuation.total ++ " work units in " ++
    toString continuation.batches ++ " batches")

private def pausedNote (continuation : Continuation) : LogLine :=
  .debug ("render paused at work unit " ++ toString continuation.cursor ++ "/" ++
    toString continuation.total)

/-- Paints batches until none is left, one fails, or the controller asks for a pause. The
controller is not asked after the last batch. -/
def runBatches [Scalar α] (backend : Backend α σ) :
    List (Batch α) → Job α → σ → Option PauseController → RunOutcome α σ
  | [], job, state, pause => ⟨job, state, .ok .done, [], 0, pause⟩
  | batch :: rest, job, state, pause =>
    let painted := job.paintBatch backend state batch
    match painted.failure with
    | some error =>
      ⟨painted.job, painted.state, .error error,
        painted.log ++ [.warn ("render failed: " ++ error.message)], 0, pause⟩
    | none =>
      match rest with
      | [] =>
        ⟨painted.job, painted.state, .ok .done,
          painted.log ++ [doneNote painted.job.continuation], 0, pause⟩
      | _ :: _ =>
        let (pauseNow, polls, next) := pollPause pause
        if pauseNow then
          ⟨painted.job, painted.state, .ok .toBeContinued,
            painted.log ++ [pausedNote painted.job.continuation], polls, next⟩
        else (runBatches backend rest painted.job painted.state next).after painted.log polls

end PagePaint
