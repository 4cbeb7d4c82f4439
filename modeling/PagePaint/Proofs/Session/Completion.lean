import PagePaint.Proofs.Session.History
import PagePaint.Session.Drive

set_option autoImplicit false

/-!
# Driving a session to its end, one controller for each call

A caller who starts a session and resumes it for as long as it is paused may bring another
controller each time, or none. Every resumption paints a batch, so this comes to an end: the
session is done or has failed.
-/

namespace PagePaint

variable {α σ : Type}

/-- What became of a session that was driven on: the error that ended it, if one did. -/
structure Driven (α σ : Type) where
  session : Session α σ
  failure : Option Error

namespace Session

def startFailure : Except StartError RenderStatus → Option Error
  | .ok _ => none
  | .error refused => some refused.error

variable [Scalar α] (backend : Backend α σ)

/-- Resumes a session until it no longer answers that it is to be continued, at most so many times.
Each call gets the next controller. -/
def resumeEach : Nat → (Nat → Option PauseController) → Session α σ → Driven α σ
  | 0, _, session => ⟨session, none⟩
  | fuel + 1, controllers, session =>
    let response := session.resume backend (controllers 0)
    match response.result with
    | .ok .toBeContinued =>
      resumeEach fuel (fun call => controllers (call + 1)) response.session
    | .ok .done => ⟨response.session, none⟩
    | .error error => ⟨response.session, some error⟩

/-- Starts a session and resumes it to its end. The first controller goes to the start. -/
def complete (session : Session α σ) (target : Target) (page : Page α) (config : Config)
    (controllers : Nat → Option PauseController) : Driven α σ :=
  let response := session.start backend target page config (controllers 0)
  match response.result with
  | .ok .toBeContinued =>
    resumeEach backend response.session.batchesLeft (fun call => controllers (call + 1))
      response.session
  | result => ⟨response.session, startFailure result⟩

/-- A session that was driven to its end, in terms of what holds of its job between batches and of
what a failing batch leaves. -/
def Ended (kept : Job α → σ → Prop) (broken : Job α → σ → Error → Prop)
    (session : Session α σ) (failure : Option Error) : Prop :=
  (∃ job, session.stage = .done job ∧ failure = none ∧ kept job session.backend ∧
      job.batches = []) ∨
    ∃ job error, session.stage = .failed job ∧ failure = some error ∧
      broken job session.backend error

variable {backend} {kept left : Job α → σ → Prop} {broken : Job α → σ → Error → Prop}

private theorem resumeEach_ended (invariant : BatchInvariant backend kept left broken) {fuel : Nat}
    (controllers : Nat → Option PauseController) {session : Session α σ} {job : Job α}
    (paused : session.stage = .inProgress job) (held : left job session.backend)
    (filled : job.batches ≠ []) (enough : job.batches.length ≤ fuel) :
    let driven := session.resumeEach backend fuel controllers
    driven.session.Ended kept broken driven.failure := by
  induction fuel generalizing controllers session job with
  | zero => exact absurd (List.length_eq_zero_iff.mp (Nat.le_zero.mp enough)) filled
  | succ fuel ih =>
      obtain ⟨state, stage⟩ := session
      obtain rfl : stage = .inProgress job := paused
      -- A pause comes after a batch, so the fuel of the rest is enough.
      have settled := resumeJob_settled backend (invariant.shorten job.batches.length) state
        ⟨invariant.weaken held, Nat.le_refl _⟩ (controllers 0)
      rcases settled with ⟨finished, stage, result, ⟨held, -⟩, none⟩ |
        ⟨next, stage, result, ⟨held, shorter⟩, more⟩ | ⟨stopped, error, stage, result, held⟩
      · simp only [resumeEach, resume, result]
        exact .inl ⟨finished, stage, rfl, held, none⟩
      · simp only [resumeEach, resume, result]
        exact ih (fun call => controllers (call + 1)) stage held more (by omega)
      · simp only [resumeEach, resume, result]
        exact .inr ⟨stopped, error, stage, rfl, held⟩

/-- Whatever controllers are brought, an accepted session ends, and what batches keep holds then. -/
theorem complete_ended (invariant : BatchInvariant backend kept left broken) {target : Target}
    {page : Page α} {config : Config} {state : σ}
    (accepted : argumentFault? target page config = none)
    (held : kept (.start target page config) (backend.prepare config state).1)
    (controllers : Nat → Option PauseController) :
    let driven := (fresh state).complete backend target page config controllers
    driven.session.Ended kept broken driven.failure := by
  obtain ⟨sessionEq, resultEq⟩ := start_accepted backend accepted state (controllers 0)
  have settled := resumeJob_settled backend invariant (backend.prepare config state).1 held
    (controllers 0)
  rw [← sessionEq] at settled
  rcases settled with ⟨finished, stage, result, held, none⟩ | ⟨next, stage, result, held, more⟩ |
    ⟨stopped, error, stage, result, held⟩
  · rw [result] at resultEq
    change _ = Except.ok RenderStatus.done at resultEq
    simp only [complete, resultEq]
    exact .inl ⟨finished, stage, rfl, held, none⟩
  · rw [result] at resultEq
    change _ = Except.ok RenderStatus.toBeContinued at resultEq
    simp only [complete, resultEq]
    refine resumeEach_ended invariant _ stage held more (Nat.le_of_eq ?_)
    simp only [batchesLeft, job?, stage, Stage.job?, Option.map_some, Option.getD_some]
  · rw [result] at resultEq
    change _ = Except.error (StartError.mk error none) at resultEq
    simp only [complete, resultEq]
    exact .inr ⟨stopped, error, stage, rfl, held⟩

theorem complete_follows (backend : Backend α σ) {target : Target} {page : Page α}
    {config : Config} (accepted : argumentFault? target page config = none) (state : σ)
    (controllers : Nat → Option PauseController) :
    let opened := Job.start target page config
    let origin := (backend.prepare config state).1
    let driven := (fresh state).complete backend target page config controllers
    driven.session.Ended (Job.Follows backend opened origin) (Job.Broken backend opened origin)
      driven.failure :=
  complete_ended (Job.follows_invariant backend _ _) accepted
    (Job.follows_start backend target page config _) controllers

theorem complete_of_smooth (backend : Backend α σ) {target : Target} {page : Page α}
    {config : Config} (accepted : argumentFault? target page config = none) (state : σ)
    (controllers : Nat → Option PauseController) :
    let opened := Job.start target page config
    let origin := (backend.prepare config state).1
    let passage := backend.carryOut opened.allCalls ⟨origin, target⟩
    passage.failure = none →
      ∃ job : Job α,
        (fresh state).complete backend target page config controllers =
          ⟨⟨passage.canvas.state, .done job⟩, none⟩ ∧
        job.target = passage.canvas.target ∧ opened.Precedes job ∧ job.overlayDrawn = false ∧
        job.continuation.cursor = opened.work.length := by
  intro opened origin passage smooth
  have ended := complete_follows backend accepted state controllers
  generalize (fresh state).complete backend target page config controllers = driven at ended ⊢
  obtain ⟨⟨last, stage⟩, failure⟩ := driven
  rcases ended with ⟨job, rfl, rfl, follows, finished⟩ | ⟨job, error, -, -, broken⟩
  · have canvas : passage.canvas = ⟨last, job.target⟩ := (follows.carryOut_of_finished finished).2
    rw [canvas]
    exact ⟨job, rfl, rfl, follows.precedes, follows.overlay, follows.cursor_of_finished finished⟩
  · obtain ⟨raised, issuer, failed, -⟩ := broken.issuer
    cases smooth.symm.trans failed

theorem complete_of_failed (backend : Backend α σ) {target : Target} {page : Page α}
    {config : Config} (accepted : argumentFault? target page config = none) (state : σ)
    (controllers : Nat → Option PauseController) :
    let opened := Job.start target page config
    let origin := (backend.prepare config state).1
    let passage := backend.carryOut opened.allCalls ⟨origin, target⟩
    ∀ raised, passage.failure = some raised →
      ∃ (job : Job α) (issuer : Issuer),
        (fresh state).complete backend target page config controllers =
          ⟨⟨passage.canvas.state, .failed job⟩, some (issuer.report raised)⟩ ∧
        job.target = passage.canvas.target ∧
        Issues opened.renderer opened.work passage.carried issuer ∧
        job.continuation.cursor = issuer.cursor opened.work.length := by
  intro opened origin passage raised failed
  have ended := complete_follows backend accepted state controllers
  generalize (fresh state).complete backend target page config controllers = driven at ended ⊢
  obtain ⟨⟨last, stage⟩, failure⟩ := driven
  rcases ended with ⟨job, -, -, follows, finished⟩ | ⟨job, error, rfl, rfl, broken⟩
  · cases failed.symm.trans (follows.carryOut_of_finished finished).1
  · have canvas : passage.canvas = ⟨last, job.target⟩ := broken.canvas
    have total : job.continuation.total = opened.work.length := broken.precedes.total
    obtain ⟨raised', issuer, failed', issues, rfl, cursor, -⟩ := broken.issuer
    obtain rfl : raised = raised' := Option.some.inj (failed.symm.trans failed')
    rw [canvas]
    exact ⟨job, issuer, rfl, rfl, issues, total ▸ cursor⟩

private theorem start_without_controller (backend : Backend α σ) (session : Session α σ)
    (target : Target) (page : Page α) (config : Config) :
    (session.start backend target page config none).result ≠ .ok .toBeContinued := by
  obtain ⟨state, stage⟩ := session
  cases stage with
  | inProgress job | done job | failed job | closed => simp [start, refuse]
  | notStarted =>
      cases fault : argumentFault? target page config with
      | some found => simp [start, fault, refuse]
      | none =>
          obtain ⟨-, resultEq⟩ := start_accepted backend fault state none
          simp only [fresh, resumeJob] at resultEq
          rw [resultEq]
          have finished := runBatches_without_controller backend
            (Job.start target page config).batches (.start target page config)
            (backend.prepare config state).1
          cases result : (runBatches backend (Job.start target page config).batches
              (.start target page config) (backend.prepare config state).1 none).result with
          | error error =>
              intro same
              cases same
          | ok status =>
              rw [result] at finished
              intro same
              cases same
              exact finished rfl

theorem complete_without_controllers (session : Session α σ) (target : Target) (page : Page α)
    (config : Config) :
    let response := session.start backend target page config none
    session.complete backend target page config (fun _ => none) =
      ⟨response.session, startFailure response.result⟩ := by
  intro response
  have finished := start_without_controller backend session target page config
  simp only [complete]
  cases result : (session.start backend target page config none).result with
  | error refused => simp only [response, startFailure]
  | ok status =>
      cases status with
      | done => simp only [response, startFailure]
      | toBeContinued => exact absurd result finished

end Session

end PagePaint
