import PagePaint.Proofs.Session.History
import PagePaint.Proofs.Session.Script

set_option autoImplicit false

/-!
# Rounds

A call that paints batches goes round in a loop: it paints the batch that is next and then, unless
that failed or left nothing to paint, asks its controller. The rounds of a call show what the call
itself does not tell: where each batch ended, and behind which of them the controller was asked.
-/

namespace PagePaint

variable {α σ : Type}

/-- One round of a call that paints batches: the job before it, what became of the batch, and what
the controller answered behind the batch, if it was asked. -/
structure Round (α σ : Type) where
  before : Job α
  painted : BatchOutcome α σ
  answer? : Option Bool

namespace Round

def position (round : Round α σ) : Continuation := round.painted.job.continuation

/-- The position at which the batch ended. A batch that failed did not end. -/
def end? (round : Round α σ) : Option Continuation :=
  match round.painted.failure with
  | none => some round.position
  | some _ => none

theorem end?_of_smooth {round : Round α σ} (smooth : round.painted.failure = none) :
    round.end? = some round.position := by
  rw [end?, smooth]

theorem end?_of_failed {round : Round α σ} {error : Error}
    (failed : round.painted.failure = some error) : round.end? = none := by
  rw [end?, failed]

theorem end?_eq_some_iff {round : Round α σ} {position : Continuation} :
    round.end? = some position ↔ round.painted.failure = none ∧ round.position = position := by
  cases failure : round.painted.failure with
  | none => simp [end?_of_smooth failure]
  | some error => simp [end?_of_failed failure]

end Round

def batchRounds [Scalar α] (backend : Backend α σ) :
    List (Batch α) → Job α → σ → Option PauseController → List (Round α σ)
  | [], _, _, _ => []
  | batch :: rest, job, state, pause =>
    let painted := job.paintBatch backend state batch
    match painted.failure, rest with
    | some _, _ => [⟨job, painted, none⟩]
    | none, [] => [⟨job, painted, none⟩]
    | none, _ :: _ =>
      let (pauseNow, _, next) := pollPause pause
      ⟨job, painted, pause.map fun controller => controller.ask.1⟩ ::
        if pauseNow then [] else batchRounds backend rest painted.job painted.state next

/-- The loop of a call that paints batches: from a job, a state of the backend and a controller
through some rounds to an outcome. A failure ends it, and so does a batch that leaves nothing to
paint. Otherwise the controller, if there is one, is asked once, and a pause ends the loop. -/
inductive Loop [Scalar α] (backend : Backend α σ) :
    Job α → σ → Option PauseController → List (Round α σ) → RunOutcome α σ → Prop where
  | failed {job : Job α} {state : σ} {batch : Batch α} {rest : List (Batch α)}
      {painted : BatchOutcome α σ} {error : Error} (next : job.batches = batch :: rest)
      (paints : job.paintBatch backend state batch = painted)
      (failure : painted.failure = some error) (log : List LogLine)
      (pause : Option PauseController) :
      Loop backend job state pause [⟨job, painted, none⟩]
        ⟨painted.job, painted.state, .error error, log, 0, pause⟩
  | finished {job : Job α} {state : σ} {batch : Batch α} {rest : List (Batch α)}
      {painted : BatchOutcome α σ} (next : job.batches = batch :: rest)
      (paints : job.paintBatch backend state batch = painted) (smooth : painted.failure = none)
      (finished : painted.job.continuation.isFinished = true) (log : List LogLine)
      (pause : Option PauseController) :
      Loop backend job state pause [⟨job, painted, none⟩]
        ⟨painted.job, painted.state, .ok .done, log, 0, pause⟩
  | paused {job : Job α} {state : σ} {batch : Batch α} {rest : List (Batch α)}
      {painted : BatchOutcome α σ} {controller asked : PauseController}
      (next : job.batches = batch :: rest)
      (paints : job.paintBatch backend state batch = painted) (smooth : painted.failure = none)
      (unfinished : painted.job.continuation.isFinished = false)
      (answer : controller.ask = (true, asked)) (log : List LogLine) :
      Loop backend job state (some controller) [⟨job, painted, some true⟩]
        ⟨painted.job, painted.state, .ok .toBeContinued, log, 1, some asked⟩
  | asked {job : Job α} {state : σ} {batch : Batch α} {rest : List (Batch α)}
      {painted : BatchOutcome α σ} {controller asked : PauseController}
      {later : List (Round α σ)} {outcome : RunOutcome α σ} (next : job.batches = batch :: rest)
      (paints : job.paintBatch backend state batch = painted) (smooth : painted.failure = none)
      (unfinished : painted.job.continuation.isFinished = false)
      (answer : controller.ask = (false, asked))
      (loop : Loop backend painted.job painted.state (some asked) later outcome)
      (log : List LogLine) :
      Loop backend job state (some controller) (⟨job, painted, some false⟩ :: later)
        (outcome.after log 1)
  | unasked {job : Job α} {state : σ} {batch : Batch α} {rest : List (Batch α)}
      {painted : BatchOutcome α σ} {later : List (Round α σ)} {outcome : RunOutcome α σ}
      (next : job.batches = batch :: rest)
      (paints : job.paintBatch backend state batch = painted) (smooth : painted.failure = none)
      (unfinished : painted.job.continuation.isFinished = false)
      (loop : Loop backend painted.job painted.state none later outcome) (log : List LogLine) :
      Loop backend job state none (⟨job, painted, none⟩ :: later) (outcome.after log 0)

section Runs

variable [Scalar α] {backend : Backend α σ}

omit [Scalar α] in
theorem Job.Sound.isFinished_iff {job : Job α} (sound : job.Sound) :
    job.continuation.isFinished = true ↔ job.batches = [] := by
  rw [Job.batches_eq_nil_iff, Continuation.isFinished, Bool.and_eq_true, decide_eq_true_iff,
    sound.total]

/-- A row of batches is painted in a loop. -/
theorem loop_runBatches {job : Job α} (steady : job.Steady) (left : job.batches ≠ []) (state : σ)
    (pause : Option PauseController) :
    Loop backend job state pause (batchRounds backend job.batches job state pause)
      (runBatches backend job.batches job state pause) := by
  -- The induction is on the batches that are left, as for any row of batches.
  suffices general : ∀ (batches : List (Batch α)) (job : Job α) (state : σ)
      (pause : Option PauseController), job.batches = batches → job.Steady → batches ≠ [] →
      Loop backend job state pause (batchRounds backend batches job state pause)
        (runBatches backend batches job state pause) from
    general _ job state pause rfl steady left
  intro batches
  induction batches with
  | nil =>
      intro job state pause next steady left
      exact absurd rfl left
  | cons batch rest ih =>
      intro job state pause next steady left
      cases failure : (job.paintBatch backend state batch).failure with
      | some error =>
          simp only [batchRounds, runBatches, failure]
          exact .failed next rfl failure _ pause
      | none =>
          have kept := Job.paintBatch_steady backend next steady failure
          have others := batches_paintBatch next failure
          cases rest with
          | nil =>
              simp only [batchRounds, runBatches, failure]
              exact .finished next rfl failure (kept.sound.isFinished_iff.mpr others) _ pause
          | cons second more =>
              have unfinished :
                  (job.paintBatch backend state batch).job.continuation.isFinished = false := by
                rw [← Bool.not_eq_true, kept.sound.isFinished_iff, others]
                simp
              simp only [batchRounds, runBatches, failure]
              cases pause with
              | none =>
                  have loop := ih _ (job.paintBatch backend state batch).state none others kept
                    (List.cons_ne_nil _ _)
                  exact .unasked next rfl failure unfinished loop _
              | some controller =>
                  obtain ⟨answer, asked, reply⟩ : ∃ answer asked, controller.ask = (answer, asked) :=
                    ⟨_, _, rfl⟩
                  simp only [pollPause, reply, Option.map_some]
                  cases answer with
                  | true =>
                      simp only [if_true]
                      exact .paused next rfl failure unfinished reply _
                  | false =>
                      have loop := ih _ (job.paintBatch backend state batch).state (some asked)
                        others kept (List.cons_ne_nil _ _)
                      simp only [Bool.false_eq_true, if_false]
                      exact .asked next rfl failure unfinished reply loop _

/-!
## What the rounds tell of the outcome
-/

variable {job : Job α} {state : σ} {pause : Option PauseController} {row : List (Round α σ)}
  {outcome : RunOutcome α σ}

/-- A round behind which the loop goes on: the batch is painted, something is left, and the
controller does not want to pause, if there is one to be asked. -/
structure Round.GoesOn (controlled : Bool) (round : Round α σ) : Prop where
  smooth : round.painted.failure = none
  unfinished : round.position.isFinished = false
  answer : round.answer? = if controlled then some false else none

def Round.Ends (controlled : Bool) (round : Round α σ) : Except Error RenderStatus → Prop
  | .ok .done =>
    round.painted.failure = none ∧ round.position.isFinished = true ∧ round.answer? = none
  | .ok .toBeContinued =>
    round.painted.failure = none ∧ round.position.isFinished = false ∧ controlled = true ∧
      round.answer? = some true
  | .error error => round.painted.failure = some error ∧ round.answer? = none

namespace Loop

/-- A loop goes on behind every round but the last, which decides the outcome. -/
theorem last (loop : Loop backend job state pause row outcome) :
    ∃ earlier last, row = earlier ++ [last] ∧
      (∀ round ∈ earlier, round.GoesOn pause.isSome) ∧ outcome.job = last.painted.job ∧
      outcome.state = last.painted.state ∧ last.Ends pause.isSome outcome.result := by
  induction loop with
  | failed next paints failure log pause =>
      exact ⟨[], _, rfl, List.forall_mem_nil _, rfl, rfl, failure, rfl⟩
  | finished next paints smooth finished log pause =>
      exact ⟨[], _, rfl, List.forall_mem_nil _, rfl, rfl, smooth, finished, rfl⟩
  | paused next paints smooth unfinished answer log =>
      exact ⟨[], _, rfl, List.forall_mem_nil _, rfl, rfl, smooth, unfinished, rfl, rfl⟩
  | asked next paints smooth unfinished answer loop log ih
  | unasked next paints smooth unfinished loop log ih =>
      obtain ⟨earlier, last, rfl, goesOn, ends⟩ := ih
      exact ⟨_ :: earlier, last, rfl,
        List.forall_mem_cons.mpr ⟨⟨smooth, unfinished, rfl⟩, goesOn⟩, ends⟩

theorem answer?_isSome_iff (loop : Loop backend job state pause row outcome) {round : Round α σ}
    (member : round ∈ row) :
    round.answer?.isSome = true ↔
      pause.isSome = true ∧ ∃ position, round.end? = some position ∧
        position.isFinished = false := by
  obtain ⟨earlier, last, rfl, goesOn, -, -, ends⟩ := loop.last
  simp only [Round.end?_eq_some_iff]
  rcases List.mem_append.mp member with before | final
  · obtain ⟨smooth, unfinished, answer⟩ := goesOn round before
    rw [answer]
    cases pause.isSome <;> simp [smooth, unfinished]
  · cases List.mem_singleton.mp final
    cases result : outcome.result with
    | error error =>
        rw [result] at ends
        simp [ends.1, ends.2]
    | ok status =>
        rw [result] at ends
        cases status with
        | done => simp [ends.1, ends.2.1, ends.2.2]
        | toBeContinued => simp [ends.1, ends.2.1, ends.2.2.1, ends.2.2.2]

theorem answers (loop : Loop backend job state pause row outcome) :
    outcome.polls = (row.filterMap Round.answer?).length ∧
      ∀ controller, pause = some controller → ∃ left, outcome.pause = some left ∧
        controller.askMany outcome.polls = (row.filterMap Round.answer?, left) := by
  induction loop with
  | failed next paints failure log pause
  | finished next paints smooth finished log pause =>
      exact ⟨rfl, fun controller same => ⟨controller, same, rfl⟩⟩
  | @paused _ _ _ _ _ controller asked next paints smooth unfinished answer log =>
      refine ⟨rfl, fun _ same => ⟨asked, rfl, ?_⟩⟩
      cases same
      simp [PauseController.askMany, answer]
  | @asked _ _ _ _ _ controller asked later outcome next paints smooth unfinished answer loop log
      ih =>
      obtain ⟨polls, given⟩ := ih
      obtain ⟨left, pauseEq, asks⟩ := given asked rfl
      have counted : (outcome.after log 1).polls = outcome.polls + 1 := Nat.add_comm _ _
      refine ⟨?_, fun _ same => ⟨left, pauseEq, ?_⟩⟩
      · rw [counted, polls]
        rfl
      · cases same
        simp only [counted, PauseController.askMany, answer, asks]
        rfl
  | unasked next paints smooth unfinished loop log ih =>
      refine ⟨?_, nofun⟩
      change 0 + _ = _
      rw [Nat.zero_add]
      exact ih.1

/-- A controller wants to go on until it wants to pause, which ends the loop. -/
theorem answers_eq (loop : Loop backend job state pause row outcome) :
    ∃ count, row.filterMap Round.answer? =
      List.replicate count false ++
        if outcome.result.toOption = some .toBeContinued then [true] else [] := by
  induction loop with
  | failed | finished | paused => exact ⟨0, rfl⟩
  | asked next paints smooth unfinished answer loop log ih =>
      obtain ⟨count, answers⟩ := ih
      exact ⟨count + 1, congrArg (false :: ·) answers⟩
  | unasked next paints smooth unfinished loop log ih =>
      obtain ⟨count, answers⟩ := ih
      exact ⟨count, answers⟩

theorem polls_add_eq (loop : Loop backend job state pause row outcome)
    (controlled : pause.isSome = true) :
    outcome.polls + (if outcome.result.toOption = some .done then 1 else 0) =
      (row.filterMap Round.end?).length := by
  induction loop with
  | failed next paints failure log pause =>
      rw [List.filterMap_cons_none (Round.end?_of_failed failure)]
      rfl
  | finished next paints smooth finished log pause
  | paused next paints smooth unfinished answer log =>
      rw [List.filterMap_cons_some (Round.end?_of_smooth smooth)]
      rfl
  | @asked _ _ _ _ _ _ _ _ outcome next paints smooth unfinished answer loop log ih =>
      rw [List.filterMap_cons_some (Round.end?_of_smooth smooth), List.length_cons, ← ih rfl]
      exact (congrArg (· + _) (Nat.add_comm 1 outcome.polls)).trans (Nat.add_right_comm _ _ _)
  | unasked => cases controlled

theorem each {kept left : Job α → σ → Prop} {broken : Job α → σ → Error → Prop}
    (invariant : BatchInvariant backend kept left broken)
    (loop : Loop backend job state pause row outcome) (start : kept job state) :
    ∀ round ∈ row, ∃ state batch rest, round.before.batches = batch :: rest ∧
      round.before.paintBatch backend state batch = round.painted ∧ kept round.before state := by
  induction loop with
  | failed next paints _ log _ | finished next paints _ _ log _ | paused next paints _ _ _ log =>
      exact List.forall_mem_singleton.mpr ⟨_, _, _, next, paints, start⟩
  | asked next paints smooth _ _ loop log ih | unasked next paints smooth _ loop log ih =>
      subst paints
      have held := invariant.weaken (invariant.advance next start smooth)
      exact List.forall_mem_cons.mpr ⟨⟨_, _, _, next, rfl, start⟩, ih held⟩

theorem leaves {kept left : Job α → σ → Prop} {broken : Job α → σ → Error → Prop}
    (invariant : BatchInvariant backend kept left broken)
    (loop : Loop backend job state pause row outcome) (start : kept job state) {round : Round α σ}
    (member : round ∈ row) (smooth : round.painted.failure = none) :
    left round.painted.job round.painted.state := by
  obtain ⟨state, batch, rest, next, paints, held⟩ := loop.each invariant start round member
  rw [← paints] at smooth ⊢
  exact invariant.advance next held smooth

end Loop

end Runs

/-!
## The rounds of a request
-/

def Reply.status? : Reply → Option RenderStatus
  | .started (.ok status) | .resumed (.ok status) => some status
  | .started (.error _) | .resumed (.error _) | .overlaid _ | .closed _ => none

private theorem Reply.status?_started (result : Except Error RenderStatus)
    (target : Option Target) :
    (started (result.mapError fun error => ⟨error, target⟩)).status? = result.toOption := by
  cases result <;> rfl

private theorem Reply.status?_resumed (result : Except Error RenderStatus) :
    (resumed result).status? = result.toOption := by
  cases result <;> rfl

theorem ok_of_toOption {result : Except Error RenderStatus} {status : RenderStatus}
    (answered : result.toOption = some status) : result = .ok status := by
  cases result with
  | error error => cases answered
  | ok given =>
      cases answered
      rfl

namespace Session

variable [Scalar α] (backend : Backend α σ)

/-- The job that a request makes a session paint, with the state of the backend before it: those of
an accepted start, or those of a paused session that is resumed. -/
def painting? (session : Session α σ) (request : Request α) : Option (Job α × σ) :=
  match session.stage, request, request.opening? with
  | .notStarted, _, some (target, page, config) =>
    if argumentFault? target page config = none then
      some (.start target page config, (backend.prepare config session.backend).1)
    else none
  | .inProgress job, .resume _, _ => some (job, session.backend)
  | _, _, _ => none

def rounds (session : Session α σ) (request : Request α) : List (Round α σ) :=
  match session.painting? backend request with
  | some (job, state) => batchRounds backend job.batches job state request.pause?
  | none => []

/-- What serving a request is if nothing is painted for it but an overlay: nobody is asked, and no
status is answered. -/
structure Idle (session : Session α σ) (request : Request α) : Prop where
  painting : session.painting? backend request = none
  polls : (session.perform backend request).polls = 0
  status : (session.perform backend request).reply.status? = none

structure Paints (session : Session α σ) (request : Request α) (job : Job α) (state : σ) :
    Prop where
  painting : session.painting? backend request = some (job, state)
  leads : (session.perform backend request).session =
    (resumeJob backend job state request.pause?).session
  polls : (session.perform backend request).polls =
    (resumeJob backend job state request.pause?).polls
  status : (session.perform backend request).reply.status? =
    (resumeJob backend job state request.pause?).result.toOption

variable {backend}

private theorem Effect.idle_or_paints {session : Session α σ} {request : Request α}
    {served : Served α σ} (effect : Effect backend session request served)
    (serves : session.perform backend request = served) :
    session.Idle backend request ∨ ∃ job state, session.Paints backend request job state := by
  cases effect with
  | opened opening accepted state ran =>
      subst ran
      refine .inr ⟨_, _, ?_, by rw [serves], by rw [serves], ?_⟩
      · simp [painting?, opening, accepted]
      · rw [serves]
        exact Reply.status?_started _ _
  | resumed state job pause ran =>
      subst ran
      refine .inr ⟨job, state, rfl, by rw [serves]; rfl, by rw [serves]; rfl, ?_⟩
      rw [serves]
      exact Reply.status?_resumed _
  | overlaid | overlayFailed | closedDone | closedFailed =>
      exact .inl ⟨rfl, by rw [serves], by rw [serves]; rfl⟩

theorem Refusal.painting? {session : Session α σ} {request : Request α} {reply : Reply}
    (refusal : Refusal session request reply) : session.painting? backend request = none := by
  obtain ⟨state, stage⟩ := session
  cases refusal with
  | started opening begun =>
      cases stage with
      | notStarted => exact absurd rfl begun
      | inProgress job =>
          cases request with
          | start | startWithScheme => rfl
          | resume | drawOverlay | close => cases opening
      | done | failed | closed => rfl
  | argument opening idle found =>
      cases stage with
      | notStarted => simp [Session.painting?, opening, found]
      | inProgress | done | failed | closed => cases idle
  | resumed pause unpaused =>
      cases stage with
      | inProgress job => exact absurd rfl unpaused
      | notStarted | done | failed | closed => rfl
  | overlaid | overlaidAgain | closed => cases stage <;> rfl

private theorem Refusal.status? {session : Session α σ} {request : Request α} {reply : Reply}
    (refusal : Refusal session request reply) : reply.status? = none := by
  cases refusal <;> rfl

theorem idle_or_paints (backend : Backend α σ) (session : Session α σ) (request : Request α) :
    session.Idle backend request ∨ ∃ job state, session.Paints backend request job state := by
  rcases perform_cases backend session request with effect | ⟨reply, refused, refusal⟩
  · exact effect.idle_or_paints rfl
  · exact .inl ⟨refusal.painting?, by rw [refused], by rw [refused]; exact refusal.status?⟩

theorem painting?_cases {session : Session α σ} {request : Request α} {job : Job α} {state : σ}
    (painting : session.painting? backend request = some (job, state)) :
    (session.stage = .notStarted ∧ ∃ target page config,
        request.opening? = some (target, page, config) ∧
        argumentFault? target page config = none ∧ job = .start target page config ∧
        state = (backend.prepare config session.backend).1) ∨
      session.stage = .inProgress job ∧ session.backend = state ∧
        ∃ pause, request = .resume pause := by
  obtain ⟨origin, stage⟩ := session
  cases stage with
  | notStarted =>
      cases opening : request.opening? with
      | none => simp [painting?, opening] at painting
      | some opened =>
          obtain ⟨target, page, config⟩ := opened
          obtain ⟨accepted, rfl, rfl⟩ : argumentFault? target page config = none ∧
              Job.start target page config = job ∧ (backend.prepare config origin).1 = state := by
            simpa [painting?, opening] using painting
          exact .inl ⟨rfl, target, page, config, rfl, accepted, rfl, rfl⟩
  | inProgress own =>
      cases request with
      | resume pause =>
          cases painting
          exact .inr ⟨rfl, rfl, pause, rfl⟩
      | start | startWithScheme | drawOverlay | close => cases painting
  | done | failed | closed => cases painting

theorem painting?_steady {session : Session α σ} (consistent : session.Consistent)
    {request : Request α} {job : Job α} {state : σ}
    (painting : session.painting? backend request = some (job, state)) :
    job.Steady ∧ job.batches ≠ [] := by
  rcases painting?_cases painting with ⟨-, target, page, config, -, -, rfl, -⟩ | ⟨stage, -, -⟩
  · refine ⟨Job.start_steady target page config, ?_⟩
    rw [Job.batches_of_background_missing rfl]
    exact List.cons_ne_nil _ _
  · simp only [Consistent, stage] at consistent
    obtain ⟨sound, overlay, underway⟩ := consistent
    refine ⟨⟨sound, overlay, .underway underway⟩, fun none => ?_⟩
    have finished := (Job.batches_eq_nil_iff.mp none).2
    rw [← sound.total] at finished
    exact absurd underway.cursor_lt (Nat.not_lt_of_le finished)

theorem resumeJob_job? (job : Job α) (state : σ) (pause : Option PauseController) :
    (resumeJob backend job state pause).session.job? =
      some (runBatches backend job.batches job state pause).job := by
  simp only [resumeJob, afterRun, job?]
  split <;> rfl

theorem Paints.loop {session : Session α σ} {request : Request α} {job : Job α} {state : σ}
    (paints : session.Paints backend request job state) (consistent : session.Consistent) :
    Loop backend job state request.pause? (session.rounds backend request)
      (runBatches backend job.batches job state request.pause?) := by
  obtain ⟨steady, left⟩ := painting?_steady consistent paints.painting
  rw [rounds, paints.painting]
  exact loop_runBatches steady left state request.pause?

theorem Idle.rounds {session : Session α σ} {request : Request α}
    (idle : session.Idle backend request) : session.rounds backend request = [] := by
  rw [Session.rounds, idle.painting]

end Session

def Event.rounds [Scalar α] (backend : Backend α σ) (event : Event α σ) : List (Round α σ) :=
  event.before.rounds backend event.request

end PagePaint
