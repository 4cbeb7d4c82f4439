import PagePaint.Proofs.Session.Request
import PagePaint.Session.Holding

set_option autoImplicit false

/-!
# Sessions in one field and in two

Serving requests to a session that keeps its phase and its job apart is serving them to one that
keeps the job in the phase. So the two fields always agree: there is a job in exactly the phases
that need one, and the operations never look for a job in vain.
-/

namespace PagePaint

variable {α σ : Type}

def Phase.Owns (phase : Phase) : Prop := phase = .inProgress ∨ phase = .done ∨ phase = .failed

def Session.holding (session : Session α σ) : Holding α σ :=
  ⟨session.backend, session.phase, session.job?⟩

def Response.answer {ε ρ : Type} (response : Response α σ ε ρ) : Holding.Answer α σ ε ρ :=
  ⟨response.session.holding, response.result, response.log, response.polls, response.pause⟩

namespace Holding

structure Served (α σ : Type) where
  holding : Holding α σ
  reply : Reply
  polls : Nat

/-- The requests that would find the phase they need without the job. -/
inductive LooksInVain (holding : Holding α σ) : Request α → Prop where
  | resume (pause : Option PauseController) (paused : holding.phase = .inProgress)
      (missing : holding.job? = none) : LooksInVain holding (.resume pause)
  | drawOverlay (layer : FormLayer α) (finished : holding.phase = .done)
      (missing : holding.job? = none) : LooksInVain holding (.drawOverlay layer)
  | close (ended : holding.phase = .done ∨ holding.phase = .failed)
      (missing : holding.job? = none) : LooksInVain holding .close

variable [Scalar α] (backend : Backend α σ)

def perform (holding : Holding α σ) : Request α → Served α σ
  | .start target page config pause =>
    let answer := holding.start backend target page config pause
    ⟨answer.holding, .started answer.result, answer.polls⟩
  | .startWithScheme target page config scheme pause =>
    let answer := holding.start backend target page (config.withScheme scheme) pause
    ⟨answer.holding, .started answer.result, answer.polls⟩
  | .resume pause =>
    let answer := holding.resume backend pause
    ⟨answer.holding, .resumed answer.result, answer.polls⟩
  | .drawOverlay layer =>
    let answer := holding.drawOverlay backend layer
    ⟨answer.holding, .overlaid answer.result, answer.polls⟩
  | .close =>
    let answer := holding.close
    ⟨answer.holding, .closed answer.result, answer.polls⟩

def performAll (holding : Holding α σ) : List (Request α) → Holding α σ
  | [] => holding
  | request :: rest => performAll (holding.perform backend request).holding rest

end Holding

def Served.holding (served : Served α σ) : Holding.Served α σ :=
  ⟨served.session.holding, served.reply, served.polls⟩

namespace Session

private theorem holding_fresh (state : σ) :
    (fresh state : Session α σ).holding = .fresh state := rfl

theorem job?_isSome_iff (session : Session α σ) :
    session.job?.isSome ↔ session.phase.Owns := by
  obtain ⟨state, stage⟩ := session
  cases stage <;> simp [job?, Stage.job?, Phase.Owns, phase, Stage.phase]

variable [Scalar α] (backend : Backend α σ)

theorem resumeJob_answer (job : Job α) (state : σ) (pause : Option PauseController) :
    (resumeJob backend job state pause).answer =
      (⟨state, .inProgress, some job⟩ : Holding α σ).render backend pause := by
  simp only [resumeJob, afterRun, Holding.render, Response.answer, holding, phase, job?]
  cases (runBatches backend job.batches job state pause).result with
  | error error => rfl
  | ok status => cases status <;> rfl

private theorem start_answer (session : Session α σ) (target : Target) (page : Page α)
    (config : Config) (pause : Option PauseController) :
    (session.start backend target page config pause).answer =
      session.holding.start backend target page config pause := by
  obtain ⟨state, stage⟩ := session
  cases stage with
  | inProgress | done | failed | closed => rfl
  | notStarted =>
      simp only [start, Holding.start]
      cases argumentFault? target page config with
      | some fault => rfl
      | none =>
          have rendered := resumeJob_answer backend (.start target page config)
            (backend.prepare config state).1 pause
          exact congrArg (fun answer => Holding.Answer.mk answer.holding
            (answer.result.mapError fun error => StartError.mk error none) (_ ++ answer.log)
            answer.polls answer.pause) rendered

private theorem resume_answer (session : Session α σ) (pause : Option PauseController) :
    (session.resume backend pause).answer = session.holding.resume backend pause := by
  obtain ⟨state, stage⟩ := session
  cases stage with
  | inProgress job => exact resumeJob_answer backend job state pause
  | notStarted | done | failed | closed => rfl

private theorem drawOverlay_answer (session : Session α σ) (layer : FormLayer α) :
    (session.drawOverlay backend layer).answer = session.holding.drawOverlay backend layer := by
  obtain ⟨state, stage⟩ := session
  cases stage with
  | notStarted | inProgress | failed | closed => rfl
  | done job =>
      change (drawOverlay backend ⟨state, .done job⟩ layer).answer =
        Holding.drawOverlay backend ⟨state, .done, some job⟩ layer
      unfold drawOverlay Holding.drawOverlay
      cases drawn : job.overlayDrawn with
      | true =>
          simp only [drawn]
          rfl
      | false =>
          simp only [drawn]
          cases failed : (backend.run (Overlay.script layer job.page job.config)
              ⟨state, job.target⟩).failure with
          | some error => rfl
          | none => rfl

omit [Scalar α] in
private theorem close_answer (session : Session α σ) :
    session.close.answer = session.holding.close := by
  obtain ⟨state, stage⟩ := session
  cases stage with
  | notStarted | inProgress | done | failed | closed => rfl

/-- One request is served alike in both forms. -/
theorem perform_holding (session : Session α σ) (request : Request α) :
    session.holding.perform backend request = (session.perform backend request).holding := by
  cases request with
  | start | startWithScheme =>
      simp only [Holding.perform, ← start_answer]
      rfl
  | resume =>
      simp only [Holding.perform, ← resume_answer]
      rfl
  | drawOverlay =>
      simp only [Holding.perform, ← drawOverlay_answer]
      rfl
  | close =>
      simp only [Holding.perform, ← close_answer]
      rfl

/-- Every row of requests is. -/
theorem performAll_holding (session : Session α σ) (requests : List (Request α)) :
    session.holding.performAll backend requests =
      (session.performAll backend requests).holding := by
  induction requests generalizing session with
  | nil => rfl
  | cons request rest ih =>
      change ((session.holding.perform backend request).holding.performAll backend rest) = _
      rw [perform_holding]
      exact ih _

end Session

namespace Holding

private theorem not_looksInVain {holding : Holding α σ}
    (owned : holding.job?.isSome ↔ holding.phase.Owns) (request : Request α) :
    ¬ holding.LooksInVain request := by
  intro vain
  have present : holding.phase.Owns ∧ holding.job? = none := by
    cases vain with
    | resume pause paused missing => exact ⟨.inl paused, missing⟩
    | drawOverlay layer finished missing => exact ⟨.inr (.inl finished), missing⟩
    | close ended missing => exact ⟨.inr ended, missing⟩
  have some := owned.mpr present.1
  rw [present.2] at some
  cases some

variable [Scalar α] (backend : Backend α σ)

/-- A session in two fields that is a session in one: it has a job in exactly the phases that need
one, never looks for it in vain, and serves every request like the other. -/
structure Mirrors (holding : Holding α σ) (session : Session α σ) : Prop where
  same : holding = session.holding
  owned : holding.job?.isSome ↔ holding.phase.Owns
  found : ∀ request, ¬ holding.LooksInVain request
  served : ∀ request,
    holding.perform backend request = (session.perform backend request).holding

theorem performAll_mirrors (state : σ) (requests : List (Request α)) :
    ((fresh state : Holding α σ).performAll backend requests).Mirrors backend
      ((Session.fresh state).performAll backend requests) := by
  have same := Session.performAll_holding backend (.fresh state) requests
  rw [Session.holding_fresh] at same
  rw [same]
  have owned := Session.job?_isSome_iff ((Session.fresh state).performAll backend requests)
  exact ⟨rfl, owned, not_looksInVain owned, Session.perform_holding backend _⟩

end Holding

end PagePaint
