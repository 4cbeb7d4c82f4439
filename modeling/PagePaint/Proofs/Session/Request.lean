import PagePaint.Proofs.Session.Batches
import PagePaint.Session.Session

set_option autoImplicit false

/-!
# Requests to a session

Everything a caller can ask of a session, in any order. A step lists what one request can do to a
session; what every step keeps holds of every session that requests can reach.
-/

namespace PagePaint

variable {α σ : Type}

/-- A call of a session's interface with its arguments. -/
inductive Request (α : Type) where
  | start (target : Target) (page : Page α) (config : Config) (pause : Option PauseController)
  | startWithScheme (target : Target) (page : Page α) (config : Config) (scheme : ColorScheme)
      (pause : Option PauseController)
  | resume (pause : Option PauseController)
  | drawOverlay (layer : FormLayer α)
  | close

/-- What a request to start wants painted. A scheme given with it replaces that of the
configuration. -/
def Request.opening? : Request α → Option (Target × Page α × Config)
  | .start target page config _ => some (target, page, config)
  | .startWithScheme target page config scheme _ => some (target, page, config.withScheme scheme)
  | .resume _ | .drawOverlay _ | .close => none

def Request.pause? : Request α → Option PauseController
  | .start _ _ _ pause | .startWithScheme _ _ _ _ pause | .resume pause => pause
  | .drawOverlay _ | .close => none

inductive Reply where
  | started (result : Except StartError RenderStatus)
  | resumed (result : Except Error RenderStatus)
  | overlaid (result : Except Error Unit)
  | closed (result : Except Error Target)

structure Served (α σ : Type) where
  session : Session α σ
  reply : Reply
  polls : Nat

namespace Session

variable [Scalar α] (backend : Backend α σ)

def perform (session : Session α σ) : Request α → Served α σ
  | .start target page config pause =>
    let response := session.start backend target page config pause
    ⟨response.session, .started response.result, response.polls⟩
  | .startWithScheme target page config scheme pause =>
    let response := session.start backend target page (config.withScheme scheme) pause
    ⟨response.session, .started response.result, response.polls⟩
  | .resume pause =>
    let response := session.resume backend pause
    ⟨response.session, .resumed response.result, response.polls⟩
  | .drawOverlay layer =>
    let response := session.drawOverlay backend layer
    ⟨response.session, .overlaid response.result, response.polls⟩
  | .close =>
    let response := session.close
    ⟨response.session, .closed response.result, response.polls⟩

def performAll (session : Session α σ) : List (Request α) → Session α σ
  | [] => session
  | request :: rest => performAll (session.perform backend request).session rest

def overlayPassage (layer : FormLayer α) (job : Job α) (state : σ) : Passage σ :=
  backend.carryOut (Overlay.script layer job.page job.config).calls ⟨state, job.target⟩

/-- What a session answers to a request that it refuses. The phase is looked at before the
arguments, and a refused start hands the target back. -/
inductive Refusal (session : Session α σ) : Request α → Reply → Prop where
  | started {request : Request α} {target : Target} {page : Page α} {config : Config}
      (opening : request.opening? = some (target, page, config))
      (begun : session.phase ≠ .notStarted) :
      Refusal session request
        (.started (.error ⟨.invalidState .start session.phase, some target⟩))
  | argument {request : Request α} {target : Target} {page : Page α} {config : Config}
      {fault : ArgumentFault} (opening : request.opening? = some (target, page, config))
      (idle : session.phase = .notStarted)
      (found : argumentFault? target page config = some fault) :
      Refusal session request (.started (.error ⟨.invalidArgument fault, some target⟩))
  | resumed (pause : Option PauseController) (unpaused : session.phase ≠ .inProgress) :
      Refusal session (.resume pause) (.resumed (.error (.invalidState .resume session.phase)))
  | overlaid (layer : FormLayer α) (unfinished : session.phase ≠ .done) :
      Refusal session (.drawOverlay layer)
        (.overlaid (.error (.invalidState .drawOverlay session.phase)))
  | overlaidAgain {job : Job α} (layer : FormLayer α) (finished : session.stage = .done job)
      (drawn : job.overlayDrawn = true) :
      Refusal session (.drawOverlay layer)
        (.overlaid (.error (.invalidState .drawOverlayAgain .done)))
  | closed (unfinished : session.phase ≠ .done) (unfailed : session.phase ≠ .failed) :
      Refusal session .close (.closed (.error (.invalidState .close session.phase)))

/-- Everything a request does that is not refused: the session before it, the request, and what
serving it gives. -/
inductive Effect : Session α σ → Request α → Served α σ → Prop where
  | opened {request : Request α} {target : Target} {page : Page α} {config : Config}
      (opening : request.opening? = some (target, page, config))
      (accepted : argumentFault? target page config = none) (state : σ)
      {resumed : Response α σ Error RenderStatus}
      (ran : resumeJob backend (.start target page config) (backend.prepare config state).1
        request.pause? = resumed) :
      Effect ⟨state, .notStarted⟩ request
        ⟨resumed.session, .started (resumed.result.mapError fun error => ⟨error, none⟩),
          resumed.polls⟩
  | resumed (state : σ) (job : Job α) (pause : Option PauseController)
      {resumed : Response α σ Error RenderStatus}
      (ran : resumeJob backend job state pause = resumed) :
      Effect ⟨state, .inProgress job⟩ (.resume pause)
        ⟨resumed.session, .resumed resumed.result, resumed.polls⟩
  | overlaid {state : σ} {job : Job α} {layer : FormLayer α} {canvas : Canvas σ}
      (missing : job.overlayDrawn = false)
      (painted : (overlayPassage backend layer job state).canvas = canvas)
      (smooth : (overlayPassage backend layer job state).failure = none) :
      Effect ⟨state, .done job⟩ (.drawOverlay layer)
        ⟨⟨canvas.state, .done { job with target := canvas.target, overlayDrawn := true }⟩,
          .overlaid (.ok ()), 0⟩
  | overlayFailed {state : σ} {job : Job α} {layer : FormLayer α} {canvas : Canvas σ}
      {error : Error} (missing : job.overlayDrawn = false)
      (painted : (overlayPassage backend layer job state).canvas = canvas)
      (failed : (overlayPassage backend layer job state).failure = some error) :
      Effect ⟨state, .done job⟩ (.drawOverlay layer)
        ⟨⟨canvas.state, .failed { job with target := canvas.target }⟩, .overlaid (.error error),
          0⟩
  | closedDone (state : σ) (job : Job α) :
      Effect ⟨state, .done job⟩ .close ⟨⟨state, .closed⟩, .closed (.ok job.target), 0⟩
  | closedFailed (state : σ) (job : Job α) :
      Effect ⟨state, .failed job⟩ .close ⟨⟨state, .closed⟩, .closed (.ok job.target), 0⟩

inductive Step : Session α σ → Session α σ → Prop where
  | refused (session : Session α σ) : Step session session
  | started {state : σ} {target : Target} {page : Page α} {config : Config}
      (accepted : argumentFault? target page config = none) (pause : Option PauseController) :
      Step ⟨state, .notStarted⟩
        (resumeJob backend (.start target page config) (backend.prepare config state).1
          pause).session
  | resumed (state : σ) (job : Job α) (pause : Option PauseController) :
      Step ⟨state, .inProgress job⟩ (resumeJob backend job state pause).session
  | overlaid {state : σ} {job : Job α} {layer : FormLayer α} {canvas : Canvas σ}
      (missing : job.overlayDrawn = false)
      (painted : (overlayPassage backend layer job state).canvas = canvas)
      (smooth : (overlayPassage backend layer job state).failure = none) :
      Step ⟨state, .done job⟩
        ⟨canvas.state, .done { job with target := canvas.target, overlayDrawn := true }⟩
  | overlayFailed {state : σ} {job : Job α} {layer : FormLayer α} {canvas : Canvas σ}
      {error : Error} (missing : job.overlayDrawn = false)
      (painted : (overlayPassage backend layer job state).canvas = canvas)
      (failed : (overlayPassage backend layer job state).failure = some error) :
      Step ⟨state, .done job⟩ ⟨canvas.state, .failed { job with target := canvas.target }⟩
  | closedDone (state : σ) (job : Job α) : Step ⟨state, .done job⟩ ⟨state, .closed⟩
  | closedFailed (state : σ) (job : Job α) : Step ⟨state, .failed job⟩ ⟨state, .closed⟩

/-!
## One operation at a time
-/

/-- An accepted start is a job of which nothing is done, resumed. -/
theorem start_accepted {target : Target} {page : Page α} {config : Config}
    (accepted : argumentFault? target page config = none) (state : σ)
    (pause : Option PauseController) :
    let response := (fresh state).start backend target page config pause
    let resumed :=
      resumeJob backend (.start target page config) (backend.prepare config state).1 pause
    response.session = resumed.session ∧
      response.result = resumed.result.mapError fun error => ⟨error, none⟩ := by
  simp only [start, fresh, accepted]
  exact ⟨trivial, trivial⟩

theorem drawOverlay_done {job : Job α} (missing : job.overlayDrawn = false) (state : σ)
    (layer : FormLayer α) :
    let passage := overlayPassage backend layer job state
    let response := (⟨state, .done job⟩ : Session α σ).drawOverlay backend layer
    (passage.failure = none →
      response.result = .ok () ∧
        response.session = ⟨passage.canvas.state,
          .done { job with target := passage.canvas.target, overlayDrawn := true }⟩) ∧
    (∀ error, passage.failure = some error →
      response.result = .error error ∧
        response.session =
          ⟨passage.canvas.state, .failed { job with target := passage.canvas.target }⟩) := by
  obtain ⟨canvasEq, failureEq⟩ :=
    backend.run_eq_carryOut (Overlay.script layer job.page job.config) ⟨state, job.target⟩
  intro passage response
  constructor
  · intro smooth
    have finished := failureEq.trans smooth
    simp only [response, drawOverlay, missing, finished, canvasEq, Bool.false_eq_true, if_false]
    exact ⟨trivial, rfl⟩
  · intro error failed
    have stopped := failureEq.trans failed
    simp only [response, drawOverlay, missing, stopped, canvasEq, Bool.false_eq_true, if_false]
    exact ⟨trivial, rfl⟩

/-!
## Every request is refused or has its effect
-/

theorem perform_of_opening {request : Request α} {target : Target} {page : Page α}
    {config : Config} (opening : request.opening? = some (target, page, config))
    (session : Session α σ) :
    let response := session.start backend target page config request.pause?
    session.perform backend request =
      ⟨response.session, .started response.result, response.polls⟩ := by
  cases request with
  | start | startWithScheme =>
      cases opening
      rfl
  | resume | drawOverlay | close => cases opening

private theorem opening_cases {request : Request α} {target : Target} {page : Page α}
    {config : Config} (opening : request.opening? = some (target, page, config))
    (session : Session α σ) :
    Effect backend session request (session.perform backend request) ∨
      ∃ reply, session.perform backend request = ⟨session, reply, 0⟩ ∧
        Refusal session request reply := by
  rw [perform_of_opening backend opening]
  obtain ⟨state, stage⟩ := session
  cases stage with
  | notStarted =>
      cases fault : argumentFault? target page config with
      | some found =>
          refine .inr ⟨_, ?_, .argument opening rfl fault⟩
          simp only [start, fault, refuse]
      | none =>
          left
          simp only [start, fault]
          exact .opened opening fault state rfl
  | inProgress job | done job | failed job | closed =>
      exact .inr ⟨_, rfl, .started opening nofun⟩

private theorem resume_cases (session : Session α σ) (pause : Option PauseController) :
    Effect backend session (.resume pause) (session.perform backend (.resume pause)) ∨
      ∃ reply, session.perform backend (.resume pause) = ⟨session, reply, 0⟩ ∧
        Refusal session (.resume pause) reply := by
  obtain ⟨state, stage⟩ := session
  cases stage with
  | inProgress job => exact .inl (.resumed state job pause rfl)
  | notStarted | done job | failed job | closed => exact .inr ⟨_, rfl, .resumed pause nofun⟩

theorem perform_drawOverlay (job : Job α) (missing : job.overlayDrawn = false) (state : σ)
    (layer : FormLayer α) :
    let passage := overlayPassage backend layer job state
    let served := (⟨state, .done job⟩ : Session α σ).perform backend (.drawOverlay layer)
    (passage.failure = none →
      served = ⟨⟨passage.canvas.state,
        .done { job with target := passage.canvas.target, overlayDrawn := true }⟩,
        .overlaid (.ok ()), 0⟩) ∧
    (∀ error, passage.failure = some error →
      served = ⟨⟨passage.canvas.state, .failed { job with target := passage.canvas.target }⟩,
        .overlaid (.error error), 0⟩) := by
  obtain ⟨finish, stop⟩ := drawOverlay_done backend missing state layer
  have polls : ((⟨state, .done job⟩ : Session α σ).drawOverlay backend layer).polls = 0 := by
    simp only [drawOverlay, missing, Bool.false_eq_true, if_false]
    split <;> rfl
  intro passage served
  simp only [served, perform, polls]
  constructor
  · intro smooth
    rw [(finish smooth).1, (finish smooth).2]
  · intro error failed
    rw [(stop error failed).1, (stop error failed).2]

private theorem drawOverlay_cases (session : Session α σ) (layer : FormLayer α) :
    Effect backend session (.drawOverlay layer) (session.perform backend (.drawOverlay layer)) ∨
      ∃ reply, session.perform backend (.drawOverlay layer) = ⟨session, reply, 0⟩ ∧
        Refusal session (.drawOverlay layer) reply := by
  obtain ⟨state, stage⟩ := session
  cases stage with
  | notStarted | inProgress job | failed job | closed =>
      exact .inr ⟨_, rfl, .overlaid layer nofun⟩
  | done job =>
      cases drawn : job.overlayDrawn with
      | true =>
          refine .inr ⟨_, ?_, .overlaidAgain layer rfl drawn⟩
          simp only [perform, drawOverlay, drawn, if_true, refuseOperation, refuse]
          rfl
      | false =>
          left
          obtain ⟨finish, stop⟩ := perform_drawOverlay backend job drawn state layer
          cases outcome : (overlayPassage backend layer job state).failure with
          | none =>
              rw [finish outcome]
              exact .overlaid drawn rfl outcome
          | some error =>
              rw [stop error outcome]
              exact .overlayFailed drawn rfl outcome

private theorem close_cases (session : Session α σ) :
    Effect backend session .close (session.perform backend .close) ∨
      ∃ reply, session.perform backend .close = ⟨session, reply, 0⟩ ∧
        Refusal session .close reply := by
  obtain ⟨state, stage⟩ := session
  cases stage with
  | done job => exact .inl (.closedDone state job)
  | failed job => exact .inl (.closedFailed state job)
  | notStarted | inProgress job | closed => exact .inr ⟨_, rfl, .closed nofun nofun⟩

theorem perform_cases (session : Session α σ) (request : Request α) :
    Effect backend session request (session.perform backend request) ∨
      ∃ reply, session.perform backend request = ⟨session, reply, 0⟩ ∧
        Refusal session request reply := by
  cases request with
  | start | startWithScheme => exact opening_cases backend rfl session
  | resume pause => exact resume_cases backend session pause
  | drawOverlay layer => exact drawOverlay_cases backend session layer
  | close => exact close_cases backend session

private theorem Effect.step {backend : Backend α σ} {session : Session α σ} {request : Request α}
    {served : Served α σ} (effect : Effect backend session request served) :
    Step backend session served.session := by
  cases effect with
  | opened opening accepted state ran =>
      subst ran
      exact .started accepted request.pause?
  | resumed state job pause ran =>
      subst ran
      exact .resumed state job pause
  | overlaid missing painted smooth => exact .overlaid missing painted smooth
  | overlayFailed missing painted failed => exact .overlayFailed missing painted failed
  | closedDone state job => exact .closedDone state job
  | closedFailed state job => exact .closedFailed state job

theorem perform_step (session : Session α σ) (request : Request α) :
    Step backend session (session.perform backend request).session := by
  rcases perform_cases backend session request with effect | ⟨reply, refused, -⟩
  · exact effect.step
  · rw [refused]
    exact .refused session

/-- What every step keeps holds after any requests. -/
theorem performAll_keeps {holds : Session α σ → Prop}
    (keep : ∀ {before after : Session α σ}, Step backend before after → holds before →
      holds after)
    {session : Session α σ} (start : holds session) (requests : List (Request α)) :
    holds (session.performAll backend requests) := by
  induction requests generalizing session with
  | nil => exact start
  | cons request rest ih => exact ih (keep (perform_step backend session request) start)

theorem performAll_append (session : Session α σ) (first second : List (Request α)) :
    session.performAll backend (first ++ second) =
      (session.performAll backend first).performAll backend second := by
  induction first generalizing session with
  | nil => rfl
  | cons request rest ih => exact ih _

/-!
## Where a row of batches leads
-/

/-- A session after its job was resumed, in terms of what holds of the job between batches, of what
a batch leaves and of what a failing batch leaves. -/
def Settled (kept left : Job α → σ → Prop) (broken : Job α → σ → Error → Prop)
    (session : Session α σ) (result : Except Error RenderStatus) : Prop :=
  (∃ job, session.stage = .done job ∧ result = .ok .done ∧ kept job session.backend ∧
      job.batches = []) ∨
    (∃ job, session.stage = .inProgress job ∧ result = .ok .toBeContinued ∧
      left job session.backend ∧ job.batches ≠ []) ∨
    ∃ job error, session.stage = .failed job ∧ result = .error error ∧
      broken job session.backend error

theorem resumeJob_settled {kept left : Job α → σ → Prop} {broken : Job α → σ → Error → Prop}
    (invariant : BatchInvariant backend kept left broken) {job : Job α} (state : σ)
    (start : kept job state) (pause : Option PauseController) :
    (resumeJob backend job state pause).session.Settled kept left broken
      (resumeJob backend job state pause).result := by
  have ends := invariant.ends start pause
  simp only [resumeJob, afterRun, Settled]
  cases result : (runBatches backend job.batches job state pause).result with
  | error error =>
      simp only [RunOutcome.Ends, result] at ends
      exact .inr (.inr ⟨_, error, rfl, rfl, ends⟩)
  | ok status =>
      cases status with
      | done =>
          simp only [RunOutcome.Ends, result] at ends
          exact .inl ⟨_, rfl, rfl, ends⟩
      | toBeContinued =>
          simp only [RunOutcome.Ends, result] at ends
          exact .inr (.inl ⟨_, rfl, rfl, ends⟩)

theorem resumeJob_answers (job : Job α) (state : σ) (pause : Option PauseController) :
    let resumed := resumeJob backend job state pause
    (∃ finished, resumed.session.stage = .done finished ∧ resumed.result = .ok .done) ∨
      (∃ paused, resumed.session.stage = .inProgress paused ∧
        resumed.result = .ok .toBeContinued) ∨
      ∃ stopped error, resumed.session.stage = .failed stopped ∧
        resumed.result = .error error := by
  simp only [resumeJob, afterRun]
  cases (runBatches backend job.batches job state pause).result with
  | error error => exact .inr (.inr ⟨_, error, rfl, rfl⟩)
  | ok status =>
      cases status with
      | done => exact .inl ⟨_, rfl, rfl⟩
      | toBeContinued => exact .inr (.inl ⟨_, rfl, rfl⟩)

theorem resumeJob_started (job : Job α) (state : σ) (pause : Option PauseController) :
    (resumeJob backend job state pause).session.stage ≠ .notStarted := by
  simp only [resumeJob, afterRun]
  split <;> simp

/-!
## Before the start and after the close
-/

theorem perform_opening {request : Request α} {target : Target} {page : Page α} {config : Config}
    (opening : request.opening? = some (target, page, config))
    (accepted : argumentFault? target page config = none) (state : σ) :
    ∃ pause, ((fresh state).perform backend request).session =
      (resumeJob backend (.start target page config) (backend.prepare config state).1
        pause).session := by
  cases request with
  | start _ _ _ pause =>
      cases opening
      exact ⟨pause, (start_accepted backend accepted state pause).1⟩
  | startWithScheme _ _ _ scheme pause =>
      cases opening
      exact ⟨pause, (start_accepted backend accepted state pause).1⟩
  | resume _ | drawOverlay _ | close => cases opening

theorem step_started {before after : Session α σ} (step : Step backend before after)
    (started : before.stage ≠ .notStarted) : after.stage ≠ .notStarted := by
  cases step with
  | refused => exact started
  | started => exact absurd rfl started
  | resumed => exact resumeJob_started backend _ _ _
  | overlaid | overlayFailed | closedDone | closedFailed => exact nofun

theorem performAll_notStarted {state : σ} {requests : List (Request α)}
    (untouched : ((fresh state : Session α σ).performAll backend requests).stage = .notStarted) :
    (fresh state).performAll backend requests = fresh state := by
  have keep : ∀ {before after : Session α σ}, Step backend before after →
      (before = fresh state ∨ before.stage ≠ .notStarted) →
      after = fresh state ∨ after.stage ≠ .notStarted := by
    intro before after step held
    cases step with
    | refused => exact held
    | started | resumed => exact .inr (resumeJob_started backend _ _ _)
    | overlaid | overlayFailed | closedDone | closedFailed => exact .inr nofun
  have kept := performAll_keeps backend keep (.inl rfl) requests
  exact kept.resolve_right fun started => started untouched

/-- A closed session stays as it is. -/
theorem performAll_closed (state : σ) (requests : List (Request α)) :
    (⟨state, .closed⟩ : Session α σ).performAll backend requests = ⟨state, .closed⟩ := by
  have keep : ∀ {before after : Session α σ}, Step backend before after →
      before = ⟨state, .closed⟩ → after = ⟨state, .closed⟩ := by
    rintro before after step rfl
    cases step
    rfl
  exact performAll_keeps backend keep rfl requests

theorem performAll_close {session : Session α σ}
    (ended : session.phase = .done ∨ session.phase = .failed) (requests : List (Request α)) :
    session.performAll backend (.close :: requests) = ⟨session.backend, .closed⟩ := by
  obtain ⟨state, stage⟩ := session
  cases stage with
  | notStarted | inProgress job | closed => rcases ended with done | failed <;> contradiction
  | done job | failed job => exact performAll_closed backend state requests

end Session

/-!
## A small page

Two squares and a form field, over the rationals, so that sessions with it can be evaluated.
-/

def smallSquare : PathObject Rat :=
  { PathObject.ofOutline ⟨[.move ⟨0, 0⟩, .line ⟨1, 0⟩, .line ⟨1, 1⟩, .close]⟩ with
    fill := some ⟨.black, .nonZero⟩
    stroke := some .white }

def smallPage : Page Rat :=
  { width := 2
    height := 2
    objects := [.path smallSquare, .path smallSquare]
    annots := [.ofAppearance .widget ⟨0, 0, 1, 1⟩ [.path smallSquare]] }

def smallTarget : Target := ⟨.filled 2 2 .clear, true⟩

end PagePaint
