import PagePaint.Proofs.Session.Consistency
import PagePaint.Proofs.Session.Script

set_option autoImplicit false

/-!
# Legal requests

Which requests a session accepts, and that it does nothing at all about the others. Legality is read
off the phase, the arguments and the replies so far. An accepted request is seen from what it
changes; a refused one changes nothing, so it can be left out of a script.
-/

namespace PagePaint

variable {α σ : Type}

/-- The page has a size, the device rectangle has pixels, and the target is as large as the
rectangle. -/
structure Fits [Scalar α] (target : Target) (page : Page α) (config : Config) : Prop where
  finiteWidth : Scalar.finite page.width = true
  finiteHeight : Scalar.finite page.height = true
  positiveWidth : Scalar.less Scalar.zero page.width = true
  positiveHeight : Scalar.less Scalar.zero page.height = true
  columns : config.rect.width ≠ 0
  rows : config.rect.height ≠ 0
  width : target.width = config.rect.width
  height : target.height = config.rect.height

def Request.Legal [Scalar α] (replies : List Reply) (phase : Phase) : Request α → Prop
  | .start target page config _ => phase = .notStarted ∧ Fits target page config
  | .startWithScheme target page config _ _ => phase = .notStarted ∧ Fits target page config
  | .resume _ => phase = .inProgress
  | .drawOverlay _ => phase = .done ∧ .overlaid (.ok ()) ∉ replies
  | .close => phase = .done ∨ phase = .failed

/-- A request that is accepted leaves another phase, another position or the mark of an overlay. -/
def Event.Accepted (event : Event α σ) : Prop :=
  event.after.phase ≠ event.before.phase ∨
    event.after.continuation? ≠ event.before.continuation? ∨
    event.after.job?.map Job.overlayDrawn ≠ event.before.job?.map Job.overlayDrawn

instance (event : Event α σ) : Decidable event.Accepted :=
  inferInstanceAs (Decidable (_ ∨ _ ∨ _))

/-!
## Arguments
-/

private theorem Page.hasSize_iff [Scalar α] (page : Page α) :
    page.hasSize = true ↔
      (Scalar.finite page.width = true ∧ Scalar.finite page.height = true) ∧
        Scalar.less Scalar.zero page.width = true ∧
        Scalar.less Scalar.zero page.height = true := by
  simp only [Page.hasSize, Bool.and_eq_true, and_assoc]

theorem argumentFault?_eq_none_iff [Scalar α] {target : Target} {page : Page α}
    {config : Config} :
    Session.argumentFault? target page config = none ↔ Fits target page config := by
  constructor
  · intro accepted
    cases size : page.hasSize with
    | false => simp [Session.argumentFault?, Page.sizeFault?, size] at accepted
    | true =>
        obtain ⟨⟨width, height⟩, wide, high⟩ := page.hasSize_iff.mp size
        simp only [Session.argumentFault?, Page.sizeFault?, size, if_true] at accepted
        by_cases empty : config.rect.isEmpty = true
        · simp [empty] at accepted
        · rw [if_neg empty] at accepted
          obtain ⟨columns, rows⟩ : config.rect.width ≠ 0 ∧ config.rect.height ≠ 0 := by
            simpa [DeviceRect.isEmpty] using empty
          obtain ⟨sameWidth, sameHeight⟩ :
              target.width = config.rect.width ∧ target.height = config.rect.height := by
            simpa using accepted
          exact ⟨width, height, wide, high, columns, rows, sameWidth, sameHeight⟩
  · intro fits
    have size : page.hasSize = true := page.hasSize_iff.mpr
      ⟨⟨fits.finiteWidth, fits.finiteHeight⟩, fits.positiveWidth, fits.positiveHeight⟩
    have filled : config.rect.isEmpty = false := by
      simp [DeviceRect.isEmpty, fits.columns, fits.rows]
    simp [Session.argumentFault?, Page.sizeFault?, size, filled, fits.width, fits.height]

/-- A scheme has no say in whether a start is accepted. -/
theorem Request.legal_of_opening [Scalar α] {request : Request α} {target : Target}
    {page : Page α} {config : Config} (opening : request.opening? = some (target, page, config))
    {replies : List Reply} {phase : Phase} :
    request.Legal replies phase ↔ phase = .notStarted ∧ Fits target page config := by
  cases request with
  | start =>
      cases opening
      exact .rfl
  | startWithScheme =>
      cases opening
      refine and_congr_right fun _ => ⟨fun fits => ?_, fun fits => ?_⟩
      · exact { fits with }
      · exact { fits with }
  | resume | drawOverlay | close => cases opening

namespace Job

variable [Scalar α] (backend : Backend α σ)

/-!
## What batches do to the counters and to the mark
-/

theorem batches_invariant (earlier : Nat) :
    BatchInvariant backend (fun job _ => earlier ≤ job.continuation.batches)
      (fun job _ => earlier < job.continuation.batches) (fun _ _ _ => True) where
  weaken := Nat.le_of_lt
  advance := by
    intro job state batch rest split held painted
    obtain ⟨-, -, moved⟩ := job.paintBatch_smooth backend state batch painted
    have counted : (batch.advance job.continuation).batches = job.continuation.batches + 1 := by
      cases batch <;> rfl
    rw [moved]
    change earlier < (batch.advance job.continuation).batches
    omega
  stop := fun _ _ _ => trivial

private theorem paintBatch_overlayDrawn (job : Job α) (state : σ) (batch : Batch α) :
    (job.paintBatch backend state batch).job.overlayDrawn = job.overlayDrawn := by
  cases outcome : (job.paintBatch backend state batch).failure with
  | none =>
      obtain ⟨-, -, moved⟩ := job.paintBatch_smooth backend state batch outcome
      rw [moved]
      rfl
  | some error =>
      obtain ⟨raised, -, -, stop⟩ := job.paintBatch_failed backend state batch outcome
      rcases stop with ⟨-, -, moved⟩ | ⟨row, position, -, -, -, moved⟩
      · rw [moved]
        rfl
      · rw [moved]
        rfl

private theorem overlayDrawn_invariant (drawn : Bool) :
    BatchInvariant backend (fun job _ => job.overlayDrawn = drawn)
      (fun job _ => job.overlayDrawn = drawn) (fun job _ _ => job.overlayDrawn = drawn) where
  weaken := id
  advance := fun _ held _ => (paintBatch_overlayDrawn backend _ _ _).trans held
  stop := fun _ held _ => (paintBatch_overlayDrawn backend _ _ _).trans held

end Job

namespace Session

variable [Scalar α] {backend : Backend α σ}

/-!
## Accepted means not refused
-/

/-- A session that is still paused has painted a batch. -/
theorem resumeJob_continuation_ne (backend : Backend α σ) (job : Job α) (state : σ)
    (pause : Option PauseController) :
    (resumeJob backend job state pause).session.phase ≠ .inProgress ∨
      (resumeJob backend job state pause).session.continuation? ≠ some job.continuation := by
  have settled := resumeJob_settled backend
    (Job.batches_invariant backend job.continuation.batches) state (Nat.le_refl _) pause
  rcases settled with ⟨finished, stage, -⟩ | ⟨paused, stage, -, more, -⟩ |
    ⟨stopped, error, stage, -⟩
  · left
    simp [phase, stage, Stage.phase]
  · right
    simp only [continuation?, job?, stage, Stage.job?, Option.map_some]
    intro same
    rw [Option.some.inj same] at more
    exact absurd more (Nat.lt_irrefl _)
  · left
    simp [phase, stage, Stage.phase]

private theorem resumeJob_phase_ne (job : Job α) (state : σ) (pause : Option PauseController) :
    (resumeJob backend job state pause).session.phase ≠ .notStarted := by
  have started := resumeJob_started backend job state pause
  cases stage : (resumeJob backend job state pause).session.stage with
  | notStarted => exact absurd stage started
  | inProgress | done | failed | closed => simp [phase, stage, Stage.phase]

theorem Effect.accepted {session : Session α σ} {request : Request α} {served : Served α σ}
    (effect : Effect backend session request served) :
    Event.Accepted ⟨session, request, served⟩ := by
  cases effect with
  | opened opening accepted state ran =>
      left
      rw [← ran]
      exact resumeJob_phase_ne _ _ _
  | resumed state job pause ran =>
      rw [← ran]
      rcases resumeJob_continuation_ne backend job state pause with phase | position
      · exact .inl phase
      · exact .inr (.inl position)
  | overlaid missing painted smooth =>
      right; right
      simp [Event.after, job?, Stage.job?, missing]
  | overlayFailed | closedDone | closedFailed =>
      left
      simp [Event.after, phase, Stage.phase]

omit [Scalar α] in
theorem not_accepted_of_unchanged (session : Session α σ) (request : Request α) (reply : Reply) :
    ¬Event.Accepted ⟨session, request, ⟨session, reply, 0⟩⟩ := by
  simp [Event.Accepted, Event.after]

/-!
## What the replies tell about the overlay
-/

def Noted (replies : List Reply) (session : Session α σ) : Prop :=
  match session.stage with
  | .notStarted => .overlaid (.ok ()) ∉ replies
  | .inProgress job => job.overlayDrawn = false ∧ .overlaid (.ok ()) ∉ replies
  | .done job => job.overlayDrawn = true ↔ .overlaid (.ok ()) ∈ replies
  | .failed _ | .closed => True

private theorem resumeJob_noted {job : Job α} (missing : job.overlayDrawn = false)
    {replies : List Reply} (silent : .overlaid (.ok ()) ∉ replies) (state : σ)
    (pause : Option PauseController) :
    (resumeJob backend job state pause).session.Noted replies := by
  have settled := resumeJob_settled backend (Job.overlayDrawn_invariant backend false) state
    missing pause
  rcases settled with ⟨finished, stage, -, held, -⟩ | ⟨paused, stage, -, held, -⟩ |
    ⟨stopped, error, stage, -⟩
  · simp [Noted, stage, held, silent]
  · simp [Noted, stage, held, silent]
  · simp [Noted, stage]

private theorem Effect.noted {replies : List Reply} {session : Session α σ} {request : Request α}
    {served : Served α σ} (noted : session.Noted replies)
    (effect : Effect backend session request served) :
    served.session.Noted (replies ++ [served.reply]) := by
  cases effect with
  | opened opening accepted state ran =>
      rw [← ran]
      exact resumeJob_noted rfl (by simpa [Noted] using noted) _ _
  | resumed state job pause ran =>
      rw [← ran]
      exact resumeJob_noted noted.1 (by simpa using noted.2) _ _
  | overlaid => simp [Noted]
  | overlayFailed | closedDone | closedFailed => trivial

private theorem Refusal.reply_ne {session : Session α σ} {request : Request α} {reply : Reply}
    (refusal : Refusal session request reply) : reply ≠ .overlaid (.ok ()) := by
  cases refusal <;> simp

private theorem noted_perform (backend : Backend α σ) {replies : List Reply} {session : Session α σ}
    (noted : session.Noted replies) (request : Request α) :
    (session.perform backend request).session.Noted
      (replies ++ [(session.perform backend request).reply]) := by
  rcases perform_cases backend session request with effect | ⟨reply, refused, refusal⟩
  · exact effect.noted noted
  · rw [refused]
    simpa [Noted, refusal.reply_ne.symm] using noted

private theorem noted_performAll (backend : Backend α σ) {replies : List Reply}
    {session : Session α σ} (noted : session.Noted replies) (script : List (Request α)) :
    (session.performAll backend script).Noted
      (replies ++ (session.history backend script).map Event.reply) := by
  induction script generalizing session replies with
  | nil => simpa [performAll] using noted
  | cons request rest ih =>
      have next := ih (noted_perform backend noted request)
      rw [List.append_assoc] at next
      exact next

private theorem Effect.legal {session : Session α σ} {request : Request α} {served : Served α σ}
    {replies : List Reply} (noted : session.Noted replies)
    (effect : Effect backend session request served) : request.Legal replies session.phase := by
  cases effect with
  | opened opening accepted state ran =>
      exact (Request.legal_of_opening opening).mpr ⟨rfl, argumentFault?_eq_none_iff.mp accepted⟩
  | resumed => rfl
  | overlaid missing | overlayFailed missing =>
      refine ⟨rfl, fun said => ?_⟩
      have drawn := (show _ ↔ _ from noted).mpr said
      rw [missing] at drawn
      cases drawn
  | closedDone => exact .inl rfl
  | closedFailed => exact .inr rfl

private theorem Refusal.illegal {session : Session α σ} {request : Request α} {reply : Reply}
    {replies : List Reply} (noted : session.Noted replies)
    (refusal : Refusal session request reply) : ¬request.Legal replies session.phase := by
  intro legal
  cases refusal with
  | started opening begun => exact begun ((Request.legal_of_opening opening).mp legal).1
  | argument opening idle found =>
      have fits := ((Request.legal_of_opening opening).mp legal).2
      rw [argumentFault?_eq_none_iff.mpr fits] at found
      cases found
  | resumed pause unpaused => exact unpaused legal
  | overlaid layer unfinished => exact unfinished legal.1
  | overlaidAgain layer finished drawn =>
      simp only [Noted, finished] at noted
      exact legal.2 (noted.mp drawn)
  | closed unfinished unfailed => exact legal.elim unfinished unfailed

/-!
## Scripts without their refused requests
-/

/-- Without the requests that it refuses, a script has the remaining events and the same end. -/
theorem history_filter_accepted (session : Session α σ) (script : List (Request α)) :
    let accepted := (session.history backend script).filter fun event => event.Accepted
    session.history backend (accepted.map Event.request) = accepted ∧
      session.performAll backend (accepted.map Event.request) =
        session.performAll backend script := by
  induction script generalizing session with
  | nil => exact ⟨rfl, rfl⟩
  | cons request rest ih =>
      rcases perform_cases backend session request with effect | ⟨reply, refused, -⟩
      · obtain ⟨events, final⟩ := ih (session.perform backend request).session
        have kept : Event.Accepted ⟨session, request, session.perform backend request⟩ :=
          effect.accepted
        simp only [history_cons, List.filter_cons, kept, decide_true, if_true, List.map_cons,
          performAll_cons]
        exact ⟨congrArg (List.cons _) events, final⟩
      · -- What is left of the script meets the same session with and without the refused request.
        obtain ⟨events, final⟩ := ih session
        have dropped := not_accepted_of_unchanged session request reply
        simp only [history_cons, performAll_cons, refused, List.filter_cons, dropped,
          decide_false, Bool.false_eq_true, if_false]
        exact ⟨events, final⟩

/-- In every session that requests can lead to, a request is accepted exactly if it is legal. Any
other is answered with the refusal that is due, is served without a question to a controller, and
leaves the session as it was: its phase, what it owns, and whatever the backend keeps. So the
refused requests of a script can be deleted, and the events of the others stay the same. -/
theorem history_legality (backend : Backend α σ) (state : σ) (script : List (Request α)) :
    let events := (fresh state : Session α σ).history backend script
    let accepted := events.filter fun event => event.Accepted
    (∀ earlier event later, events = earlier ++ event :: later →
      (event.Accepted ↔ event.request.Legal (earlier.map Event.reply) event.before.phase) ∧
      (¬event.Accepted →
        event.after = event.before ∧ event.served.polls = 0 ∧
          Refusal event.before event.request event.reply)) ∧
      (fresh state).history backend (accepted.map Event.request) = accepted ∧
      (fresh state).performAll backend (accepted.map Event.request) =
        (fresh state).performAll backend script := by
  intro events accepted
  refine ⟨fun earlier event later split => ?_, history_filter_accepted _ script⟩
  obtain ⟨earlierEq, before, served, -⟩ := history_split backend split
  have noted : event.before.Noted (earlier.map Event.reply) := by
    have start : (fresh state : Session α σ).Noted [] := List.not_mem_nil
    have known := noted_performAll backend start (earlier.map Event.request)
    rw [List.nil_append, ← earlierEq, ← before] at known
    exact known
  obtain ⟨session, request, result⟩ := event
  obtain rfl : result = session.perform backend request := served
  rcases perform_cases backend session request with effect | ⟨reply, refused, refusal⟩
  · have yes := effect.accepted
    exact ⟨iff_of_true yes (effect.legal noted), fun no => absurd yes no⟩
  · rw [refused]
    have no := not_accepted_of_unchanged session request reply
    exact ⟨iff_of_false no (refusal.illegal noted), fun _ => ⟨rfl, rfl, refusal⟩⟩

end Session

end PagePaint
