import PagePaint.Proofs.Session.Legality
import PagePaint.Proofs.Session.PaintingRecord
import PagePaint.Proofs.Session.Rounds

set_option autoImplicit false

/-!
# The batch schedule

Where the batches of a session end depends on the step limit and on the number of units alone: first
behind the background, then behind one more limit of units each time, until all are painted. So do
the positions at which a controller is asked. What it answers only decides which call comes to paint
the next batch.
-/

namespace PagePaint

variable {α σ : Type}

namespace Continuation

/-- The position at which the batch of a number ends, counted from zero: behind the background, or
behind as many whole limits of units as that number, the last of which may be cut short. -/
def scheduled (limit total number : Nat) : Continuation :=
  ⟨true, min (number * limit) total, total, number + 1⟩

theorem le_limits_mul {limit : Nat} (positive : 0 < limit) (units : Nat) :
    units ≤ (units + limit - 1) / limit * limit := by
  have within := Nat.lt_div_mul_add (a := units + limit - 1) positive
  omega

private theorem Complete.cursor_eq {limit : Nat} (positive : 0 < limit)
    {continuation : Continuation} (complete : continuation.Complete limit) :
    continuation.cursor = min ((continuation.batches - 1) * limit) continuation.total := by
  have covered := le_limits_mul positive continuation.total
  rw [complete.batches, Nat.add_sub_cancel_left, complete.cursor, Nat.min_eq_right covered]

/-- Between batches the position is determined by the number of batches so far. -/
theorem Counted.eq_scheduled {limit : Nat} (positive : 0 < limit) {continuation : Continuation}
    (counted : continuation.Counted limit) (background : continuation.backgroundDone = true) :
    continuation = scheduled limit continuation.total (continuation.batches - 1) := by
  obtain ⟨cursor, batches⟩ : continuation.cursor =
      min ((continuation.batches - 1) * limit) continuation.total ∧
        continuation.batches = continuation.batches - 1 + 1 := by
    cases counted with
    | untouched untouched => cases untouched.background.symm.trans background
    | underway underway =>
        have started := underway.batches_pos
        rw [← underway.cursor_eq, Nat.min_eq_left (Nat.le_of_lt underway.cursor_lt)]
        exact ⟨rfl, by omega⟩
    | complete complete =>
        refine ⟨complete.cursor_eq positive, ?_⟩
        rw [complete.batches, Nat.add_sub_cancel_left, Nat.add_comm]
  rw [scheduled, ← cursor, ← batches, ← background]

theorem isFinished_eq_false_iff {continuation : Continuation}
    (background : continuation.backgroundDone = true) :
    continuation.isFinished = false ↔ continuation.cursor < continuation.total := by
  simp [isFinished, background]

end Continuation

section Batches

variable [Scalar α] {backend : Backend α σ} {job : Job α} {state : σ} {batch : Batch α}
  {rest : List (Batch α)}

theorem batches_of_painted (painted : (job.paintBatch backend state batch).failure = none) :
    (job.paintBatch backend state batch).job.continuation.batches =
      job.continuation.batches + 1 := by
  obtain ⟨-, -, moved⟩ := job.paintBatch_smooth backend state batch painted
  rw [moved]
  cases batch <;> rfl

private theorem batches_of_failed {error : Error}
    (failed : (job.paintBatch backend state batch).failure = some error) :
    (job.paintBatch backend state batch).job.continuation.batches = job.continuation.batches := by
  obtain ⟨raised, -, -, stop⟩ := job.paintBatch_failed backend state batch failed
  rcases stop with ⟨-, -, moved⟩ | ⟨row, position, -, -, -, moved⟩
  · rw [moved]
    rfl
  · rw [moved]
    rfl

private theorem position_of_painted (steady : job.Steady) (next : job.batches = batch :: rest)
    (painted : (job.paintBatch backend state batch).failure = none) :
    (job.paintBatch backend state batch).job.continuation =
      .scheduled job.config.stepLimit job.continuation.total job.continuation.batches := by
  have kept := Job.paintBatch_steady backend next steady painted
  have precedes := job.precedes_paintBatch backend state batch
  have scheduled := kept.counted.eq_scheduled
    (job.paintBatch backend state batch).job.config.stepLimit_pos
    (background_of_painted next painted)
  rw [precedes.config, precedes.total, batches_of_painted painted, Nat.add_sub_cancel] at scheduled
  exact scheduled

private theorem ends_cons (steady : job.Steady) (next : job.batches = batch :: rest)
    (painted : (job.paintBatch backend state batch).failure = none) (answer? : Option Bool)
    {later : List (Round α σ)} {count : Nat} (ends : later.filterMap Round.end? =
      (List.range' (job.continuation.batches + 1) count).map
        (.scheduled job.config.stepLimit job.continuation.total)) :
    (⟨job, job.paintBatch backend state batch, answer?⟩ :: later).filterMap Round.end? =
      (List.range' job.continuation.batches (count + 1)).map
        (.scheduled job.config.stepLimit job.continuation.total) := by
  rw [List.filterMap_cons_some (Round.end?_of_smooth painted), ends, List.range'_succ,
    List.map_cons]
  exact congrArg (· :: _) (position_of_painted steady next painted)

/-- The batches of a loop end where the schedule has them, one after the other. -/
theorem Loop.ends {pause : Option PauseController} {row : List (Round α σ)}
    {outcome : RunOutcome α σ} (loop : Loop backend job state pause row outcome)
    (steady : job.Steady) :
    ∃ count,
      row.filterMap Round.end? = (List.range' job.continuation.batches count).map
        (.scheduled job.config.stepLimit job.continuation.total) ∧
      outcome.job.continuation.batches = job.continuation.batches + count := by
  induction loop with
  | failed next paints failure log pause =>
      subst paints
      refine ⟨0, ?_, batches_of_failed failure⟩
      rw [List.filterMap_cons_none (Round.end?_of_failed failure)]
      rfl
  | finished next paints smooth _ log _ | paused next paints smooth _ _ log =>
      subst paints
      exact ⟨1, ends_cons steady next smooth _ rfl, batches_of_painted smooth⟩
  | @asked job state batch _ _ _ _ _ _ next paints smooth _ _ loop log ih
  | @unasked job state batch _ _ _ _ next paints smooth _ loop log ih =>
      subst paints
      obtain ⟨count, ends, counted⟩ := ih (Job.paintBatch_steady backend next steady smooth)
      have precedes := job.precedes_paintBatch backend state batch
      rw [precedes.config, precedes.total, batches_of_painted smooth] at ends
      refine ⟨count + 1, ends_cons steady next smooth _ ends, ?_⟩
      rw [batches_of_painted smooth, Nat.add_right_comm, Nat.add_assoc] at counted
      exact counted

/-- Every batch of a loop that is painted to its end leaves whole limits of units behind, or all
units. -/
theorem Loop.end_counted {pause : Option PauseController} {row : List (Round α σ)}
    {outcome : RunOutcome α σ} (loop : Loop backend job state pause row outcome)
    (steady : job.Steady) {round : Round α σ} (member : round ∈ row) {position : Continuation}
    (ended : round.end? = some position) :
    position.Counted job.config.stepLimit ∧ position.backgroundDone = true ∧
      position.total = job.continuation.total := by
  obtain ⟨smooth, rfl⟩ := Round.end?_eq_some_iff.mp ended
  obtain ⟨kept, background⟩ :=
    loop.leaves (Job.steady_invariant backend) steady member smooth
  have precedes := loop.leaves (Job.precedes_invariant backend job) (.refl job) member smooth
  have counted := kept.counted
  rw [precedes.config] at counted
  exact ⟨counted, background, precedes.total⟩

private theorem Loop.done_iff {pause : Option PauseController} {row : List (Round α σ)}
    {outcome : RunOutcome α σ} (loop : Loop backend job state pause row outcome)
    (steady : job.Steady) {status : RenderStatus} (result : outcome.result = .ok status) :
    status = .done ↔ outcome.job.continuation.cursor = job.continuation.total := by
  obtain ⟨earlier, last, rfl, -, jobEq, -, ends⟩ := loop.last
  have member : last ∈ earlier ++ [last] := List.mem_append_right _ List.mem_cons_self
  rw [result] at ends
  rw [jobEq]
  cases status with
  | done =>
      obtain ⟨smooth, finished, -⟩ := ends
      obtain ⟨counted, background, total⟩ :=
        loop.end_counted steady member (Round.end?_of_smooth smooth)
      simp only [Continuation.isFinished, Bool.and_eq_true, decide_eq_true_iff] at finished
      have complete := counted.complete_of_finished background finished.2
      exact iff_of_true rfl (complete.cursor.trans total)
  | toBeContinued =>
      obtain ⟨smooth, unfinished, -⟩ := ends
      obtain ⟨-, background, total⟩ :=
        loop.end_counted steady member (Round.end?_of_smooth smooth)
      have left := (Continuation.isFinished_eq_false_iff background).mp unfinished
      exact iff_of_false RenderStatus.noConfusion (total ▸ Nat.ne_of_lt left)

end Batches

namespace Session

variable [Scalar α] (backend : Backend α σ)

def answers (session : Session α σ) (request : Request α) : List Bool :=
  (session.rounds backend request).filterMap Round.answer?

/-- How serving a request goes with its batches and its controller, for a step limit and a number
of units. The controller is asked once behind every batch that leaves units, with the cursor at whole
limits, and at no other time. A pause is its last answer and the only one of its kind. -/
structure Paced (limit total : Nat) (session : Session α σ) (request : Request α) : Prop where
  polls : (session.perform backend request).polls = (session.answers backend request).length
  answers : ∀ controller, request.pause? = some controller →
    session.answers backend request =
      (controller.askMany (session.perform backend request).polls).1
  asked : ∀ round ∈ session.rounds backend request,
    round.answer?.isSome = true ↔
      request.pause?.isSome = true ∧
        ∃ position, round.end? = some position ∧ position.cursor < total
  aligned : ∀ round ∈ session.rounds backend request, round.answer?.isSome = true →
    limit ∣ round.position.cursor
  paused : (session.perform backend request).reply.status? = some .toBeContinued ↔
    (session.answers backend request).getLast? = some true
  onlyLast : true ∉ (session.answers backend request).dropLast
  done : ∀ status, (session.perform backend request).reply.status? = some status →
    (status = .done ↔
      (session.perform backend request).session.continuation?.map Continuation.cursor =
        some total)
  leads : ∀ round ∈ (session.rounds backend request).getLast?,
    (session.perform backend request).session.job? = some round.painted.job ∧
      (session.perform backend request).session.backend = round.painted.state
  counted : request.pause?.isSome = true →
    (session.perform backend request).polls +
        (if (session.perform backend request).reply.status? = some .done then 1 else 0) =
      ((session.rounds backend request).filterMap Round.end?).length

variable {backend} {session : Session α σ} {request : Request α}

private theorem Idle.paced (idle : session.Idle backend request) (limit total : Nat) :
    session.Paced backend limit total request := by
  have silent : session.answers backend request = [] := by rw [answers, idle.rounds]; rfl
  constructor
  case polls => rw [silent, idle.polls]; rfl
  case answers =>
    intro controller given
    rw [silent, idle.polls]
    rfl
  case asked => rw [idle.rounds]; exact List.forall_mem_nil _
  case aligned => rw [idle.rounds]; exact List.forall_mem_nil _
  case paused => simp [silent, idle.status]
  case onlyLast => simp [silent]
  case done => rw [idle.status]; exact nofun
  case leads => simp [idle.rounds]
  case counted => simp [idle.rounds, idle.polls, idle.status]

theorem Paints.paced {job : Job α} {state : σ} (paints : session.Paints backend request job state)
    (consistent : session.Consistent) :
    session.Paced backend job.config.stepLimit job.continuation.total request := by
  obtain ⟨steady, -⟩ := painting?_steady consistent paints.painting
  have loop := paints.loop consistent
  obtain ⟨polls, asks⟩ := loop.answers
  obtain ⟨count, answers⟩ := loop.answers_eq
  have asked : ∀ round ∈ session.rounds backend request, round.answer?.isSome = true ↔
      request.pause?.isSome = true ∧
        ∃ position, round.end? = some position ∧ position.cursor < job.continuation.total := by
    intro round member
    rw [loop.answer?_isSome_iff member]
    refine and_congr_right fun _ => exists_congr fun position => and_congr_right fun ended => ?_
    obtain ⟨-, background, total⟩ := loop.end_counted steady member ended
    rw [Continuation.isFinished_eq_false_iff background, total]
  constructor
  case polls => rw [paints.polls]; exact polls
  case answers =>
    intro controller given
    obtain ⟨left, -, answers⟩ := asks controller given
    rw [paints.polls]
    exact (congrArg Prod.fst answers).symm
  case asked => exact asked
  case aligned =>
    intro round member answered
    obtain ⟨-, position, ended, before⟩ := (asked round member).mp answered
    obtain ⟨counted, background, total⟩ := loop.end_counted steady member ended
    obtain ⟨-, rfl⟩ := Round.end?_eq_some_iff.mp ended
    have underway := counted.underway_of_left background (total ▸ before)
    exact ⟨_, underway.cursor_eq.trans (Nat.mul_comm _ _)⟩
  case paused =>
    rw [paints.status, Session.answers, answers]
    change (runBatches backend job.batches job state request.pause?).result.toOption = _ ↔ _
    split <;> simp [*, List.getLast?_replicate]
  case onlyLast =>
    rw [Session.answers, answers]
    split <;> simp [List.dropLast_append_of_ne_nil]
  case done =>
    intro status answered
    rw [paints.status] at answered
    have result : (runBatches backend job.batches job state request.pause?).result = .ok status :=
      ok_of_toOption answered
    rw [loop.done_iff steady result, paints.leads, continuation?, resumeJob_job?]
    exact Option.some_inj.symm
  case leads =>
    obtain ⟨earlier, last, split, -, jobEq, stateEq, -⟩ := loop.last
    rw [split, List.getLast?_concat, paints.leads, resumeJob_job?, jobEq]
    rintro _ ⟨⟩
    exact ⟨rfl, stateEq⟩
  case counted =>
    rw [paints.polls, paints.status]
    exact loop.polls_add_eq

/-!
## The schedule of a session
-/

def Reached (limit total number : Nat) (session : Session α σ) : Prop :=
  ∀ job, session.job? = some job →
    job.config.stepLimit = limit ∧ job.continuation.total = total ∧
      job.continuation.batches = number

private theorem reached_of_idle (idle : session.Idle backend request) {limit total number : Nat}
    (reached : session.Reached limit total number) :
    (session.perform backend request).session.Reached limit total number := by
  rcases perform_cases backend session request with effect | ⟨reply, refused, -⟩
  · have painting := idle.painting
    generalize session.perform backend request = served at effect
    cases effect with
    | opened opening accepted => simp [painting?, opening, accepted] at painting
    | resumed => cases painting
    | @overlaid state job =>
        intro own owned
        cases owned
        exact reached job rfl
    | @overlayFailed state job =>
        intro own owned
        cases owned
        exact reached job rfl
    | closedDone | closedFailed =>
        intro own owned
        cases owned
  · rw [refused]
    exact reached

omit [Scalar α] in
private theorem Reached.number_of_done {limit total number : Nat}
    (reached : session.Reached limit total number) (consistent : session.Consistent)
    (done : session.phase = .done) : number = 1 + (total + limit - 1) / limit := by
  obtain ⟨state, stage⟩ := session
  cases stage with
  | done job =>
      obtain ⟨rfl, rfl, rfl⟩ := reached job rfl
      exact consistent.2.batches
  | notStarted | inProgress | failed | closed => cases done

/-- The batches of a call that paints end where the schedule has them. -/
theorem Paints.reached {job : Job α} {state : σ} (paints : session.Paints backend request job state)
    (consistent : session.Consistent) :
    ∃ count,
      (session.rounds backend request).filterMap Round.end? =
        (List.range' job.continuation.batches count).map
          (.scheduled job.config.stepLimit job.continuation.total) ∧
      (session.perform backend request).session.Reached job.config.stepLimit
        job.continuation.total (job.continuation.batches + count) := by
  obtain ⟨steady, -⟩ := painting?_steady consistent paints.painting
  have loop := paints.loop consistent
  obtain ⟨count, ends, counted⟩ := loop.ends steady
  refine ⟨count, ends, fun own owned => ?_⟩
  rw [paints.leads, resumeJob_job?] at owned
  cases owned
  obtain ⟨earlier, last, split, -, jobEq, -⟩ := loop.last
  obtain ⟨origin, batch, rest, -, paints, precedes⟩ :=
    loop.each (Job.precedes_invariant backend job) (.refl job) last
      (split ▸ List.mem_append_right _ List.mem_cons_self)
  have later := precedes.trans (last.before.precedes_paintBatch backend origin batch)
  rw [paints, ← jobEq] at later
  exact ⟨congrArg Config.stepLimit later.config, later.total, counted⟩

private theorem history_ends (backend : Backend α σ) {session : Session α σ}
    (started : session.stage ≠ .notStarted) (consistent : session.Consistent)
    {limit total number : Nat} (reached : session.Reached limit total number)
    (later : List (Request α)) :
    ∃ count,
      ((session.history backend later).flatMap (Event.rounds backend)).filterMap Round.end? =
        (List.range' number count).map (.scheduled limit total) ∧
      (session.performAll backend later).Reached limit total (number + count) := by
  induction later generalizing session number with
  | nil => exact ⟨0, rfl, reached⟩
  | cons request rest ih =>
      have step := perform_step backend session request
      have next (count : Nat) := @ih _ (step_started backend step started)
        (step_consistent backend step consistent) (number + count)
      rcases idle_or_paints backend session request with idle | ⟨job, state, paints⟩
      · obtain ⟨count, ends, counted⟩ := next 0 (reached_of_idle idle reached)
        refine ⟨count, ?_, counted⟩
        rw [history_cons, List.flatMap_cons, Event.rounds, idle.rounds]
        exact ends
      · rcases painting?_cases paints.painting with ⟨untouched, -⟩ | ⟨stage, -⟩
        · exact absurd untouched started
        · obtain ⟨rfl, rfl, rfl⟩ := reached job (by rw [job?, stage]; rfl)
          obtain ⟨first, ends, advanced⟩ := paints.reached consistent
          obtain ⟨second, endsLater, counted⟩ := next _ advanced
          refine ⟨first + second, ?_, Nat.add_assoc _ _ _ ▸ counted⟩
          rw [history_cons, List.flatMap_cons, List.filterMap_append, Event.rounds, ends,
            endsLater, ← List.map_append, List.range'_append_1]

theorem painting?_of_untouched {state : σ} {requests : List (Request α)}
    (untouched : ((fresh state : Session α σ).performAll backend requests).stage = .notStarted) :
    ∀ event ∈ (fresh state).history backend requests,
      event.before = fresh state ∧ event.before.painting? backend event.request = none := by
  induction requests with
  | nil => exact List.forall_mem_nil _
  | cons request rest ih =>
      rcases perform_cases backend (fresh state) request with effect | ⟨reply, refused, refusal⟩
      · have started : ((fresh state).perform backend request).session.stage ≠ .notStarted := by
          generalize (fresh state : Session α σ).perform backend request = served at effect
          cases effect with
          | opened opening accepted _ ran =>
              rw [← ran]
              exact resumeJob_started backend _ _ _
        exact absurd untouched (performAll_keeps backend (step_started backend) started rest)
      · rw [performAll_cons, refused] at untouched
        rw [history_cons, refused]
        exact List.forall_mem_cons.mpr ⟨⟨rfl, refusal.painting?⟩, ih untouched⟩

/-- A request to a session that was opened, or that opens it: what is painted for it, if anything,
comes next in the opened job. -/
structure OnTrack (backend : Backend α σ) (opened : Job α) (origin : σ) (session : Session α σ)
    (request : Request α) : Prop where
  consistent : session.Consistent
  follows : ∀ job state, session.painting? backend request = some (job, state) →
    opened.Follows backend origin job state

private theorem Traced.onTrack {opened : Job α} {origin : σ}
    (traced : session.Traced backend opened origin) (consistent : session.Consistent)
    (request : Request α) : session.OnTrack backend opened origin request := by
  refine ⟨consistent, fun job state painting => ?_⟩
  rcases painting?_cases painting with ⟨stage, -⟩ | ⟨stage, rfl, -⟩
  · simp only [Traced, stage] at traced
  · simp only [Traced, stage] at traced
    exact traced.1

private theorem OnTrack.paced {opened : Job α} {origin : σ}
    (onTrack : session.OnTrack backend opened origin request) :
    session.Paced backend opened.config.stepLimit opened.continuation.total request := by
  rcases idle_or_paints backend session request with idle | ⟨job, state, paints⟩
  · exact idle.paced _ _
  · have precedes := (onTrack.follows job state paints.painting).precedes
    rw [← precedes.config, ← precedes.total]
    exact paints.paced onTrack.consistent

/-- Where a batch ends, the calls up to there have been carried out, and no others. -/
theorem OnTrack.drawn {opened : Job α} {origin : σ}
    (onTrack : session.OnTrack backend opened origin request) {round : Round α σ}
    (member : round ∈ session.rounds backend request) {position : Continuation}
    (ended : round.end? = some position) :
    position.backgroundDone = true ∧
      (backend.carryOut (opened.doneCalls position) ⟨origin, opened.target⟩).failure = none ∧
      (backend.carryOut (opened.doneCalls position) ⟨origin, opened.target⟩).canvas =
        ⟨round.painted.state, round.painted.job.target⟩ := by
  rcases idle_or_paints backend session request with idle | ⟨job, state, paints⟩
  · rw [idle.rounds] at member
    cases member
  · obtain ⟨smooth, rfl⟩ := Round.end?_eq_some_iff.mp ended
    have follows := onTrack.follows job state paints.painting
    obtain ⟨held, background⟩ := (paints.loop onTrack.consistent).leaves
      (Job.follows_invariant backend opened origin) follows member smooth
    exact ⟨background, held.smooth, held.canvas⟩

private theorem rounds_of_quiet (session : Session α σ) (request : Request α)
    (quiet : ¬Event.Accepted ⟨session, request, session.perform backend request⟩ ∨
      request = .close ∨ ∃ layer, request = .drawOverlay layer) :
    session.rounds backend request = [] := by
  have painting : session.painting? backend request = none := by
    rcases quiet with refused | rfl | ⟨layer, rfl⟩
    · rcases perform_cases backend session request with effect | ⟨reply, -, refusal⟩
      · exact absurd effect.accepted refused
      · exact refusal.painting?
    · cases stage : session.stage <;> simp [painting?, stage, Request.opening?]
    · cases stage : session.stage <;> simp [painting?, stage, Request.opening?]
  rw [rounds, painting]

theorem paints_of_painting {job : Job α} {state : σ}
    (painting : session.painting? backend request = some (job, state)) :
    session.Paints backend request job state := by
  rcases idle_or_paints backend session request with idle | ⟨own, kept, paints⟩
  · rw [idle.painting] at painting
    cases painting
  · rw [paints.painting] at painting
    cases painting
    exact paints

private theorem history_onTrack {opened : Job α} {origin : σ}
    (traced : session.Traced backend opened origin) (consistent : session.Consistent)
    (later : List (Request α)) :
    ∀ event ∈ session.history backend later,
      event.before.OnTrack backend opened origin event.request := by
  intro event member
  obtain ⟨earlier, rest, split⟩ := List.append_of_mem member
  obtain ⟨-, before, -⟩ := history_split backend split
  rw [before]
  exact (performAll_keeps backend (step_traced backend) traced _).onTrack
    (performAll_keeps backend (step_consistent backend) consistent _) event.request

theorem opened_paints (backend : Backend α σ) {request : Request α} {target : Target}
    {page : Page α} {config : Config} (opening : request.opening? = some (target, page, config))
    (accepted : argumentFault? target page config = none) (state : σ) :
    (fresh state : Session α σ).Paints backend request (.start target page config)
      (backend.prepare config state).1 :=
  paints_of_painting (by simp [painting?, fresh, opening, accepted])

theorem opened_traced (backend : Backend α σ) {request : Request α} {target : Target}
    {page : Page α} {config : Config} (opening : request.opening? = some (target, page, config))
    (accepted : argumentFault? target page config = none) (state : σ) :
    ((fresh state).perform backend request).session.Traced backend (.start target page config)
      (backend.prepare config state).1 := by
  rw [(opened_paints backend opening accepted state).leads]
  exact resumeJob_traced backend (Job.follows_start backend target page config _) request.pause?

theorem history_of_untouched {state : σ} {earlier : List (Request α)}
    (untouched : ((fresh state : Session α σ).performAll backend earlier).stage = .notStarted)
    (request : Request α) (later : List (Request α)) :
    (fresh state).history backend (earlier ++ request :: later) =
      (fresh state).history backend earlier ++
        ⟨fresh state, request, (fresh state).perform backend request⟩ ::
          ((fresh state).perform backend request).session.history backend later := by
  rw [history_append, performAll_notStarted backend untouched, history_cons]

theorem opened_onTrack (backend : Backend α σ) {state : σ} {target : Target} {page : Page α}
    {config : Config} {earlier : List (Request α)} {request : Request α}
    (untouched : ((fresh state : Session α σ).performAll backend earlier).stage = .notStarted)
    (opening : request.opening? = some (target, page, config))
    (accepted : argumentFault? target page config = none) (later : List (Request α)) :
    ∀ event ∈ (fresh state).history backend (earlier ++ request :: later),
      event.before.OnTrack backend (.start target page config) (backend.prepare config state).1
        event.request := by
  have paints := opened_paints backend opening accepted state
  rw [history_of_untouched untouched, List.forall_mem_append, List.forall_mem_cons]
  refine ⟨fun event member => ?_, ⟨fresh_consistent state, fun job own painting => ?_⟩,
    history_onTrack (opened_traced backend opening accepted state) ?_ later⟩
  · obtain ⟨before, painting⟩ := painting?_of_untouched untouched event member
    refine ⟨before ▸ fresh_consistent state, fun job own painted => ?_⟩
    rw [painting] at painted
    cases painted
  · rw [paints.painting] at painting
    cases painting
    exact Job.follows_start backend target page config _
  · exact step_consistent backend (perform_step backend _ request) (fresh_consistent state)

private theorem Paints.without_units {job : Job α} {state : σ}
    (paints : session.Paints backend request job state) (consistent : session.Consistent)
    (empty : job.continuation.total = 0) :
    (session.perform backend request).polls = 0 ∧
      ((session.perform backend request).reply.status? = some .done ∨
        (session.perform backend request).session.phase = .failed) := by
  have paced := paints.paced consistent
  have silent : session.answers backend request = [] := by
    refine List.filterMap_eq_nil_iff.mpr fun round member => ?_
    cases answer : round.answer? with
    | none => rfl
    | some given =>
        obtain ⟨-, position, -, before⟩ := (paced.asked round member).mp (by rw [answer]; rfl)
        rw [empty] at before
        exact absurd before (Nat.not_lt_zero _)
  refine ⟨by rw [paced.polls, silent]; rfl, ?_⟩
  rcases resumeJob_answers backend job state request.pause? with
    ⟨finished, stage, result⟩ | ⟨paused, stage, result⟩ | ⟨stopped, error, stage, result⟩
  · left
    rw [paints.status, result]
    rfl
  · have pausing := paced.paused.mp (by rw [paints.status, result]; rfl)
    rw [silent] at pausing
    cases pausing
  · right
    rw [paints.leads, phase, stage]
    rfl

/-- The batches of a session end behind the background and then behind one more limit of units each
time, the last of which may be cut short, whatever controllers the calls were given. At each end
exactly the calls up to there have been carried out. A controller is asked once behind every batch
that leaves units, if the call that paints the batch was given one, and at no other time. Its last
answer decides whether the call is to be continued, and any other was to go on. -/
theorem history_on_schedule (backend : Backend α σ) {state : σ} {target : Target} {page : Page α}
    {config : Config} {earlier : List (Request α)} {request : Request α}
    (untouched : ((fresh state : Session α σ).performAll backend earlier).stage = .notStarted)
    (opening : request.opening? = some (target, page, config))
    (accepted : argumentFault? target page config = none) (later : List (Request α)) :
    let events := (fresh state : Session α σ).history backend (earlier ++ request :: later)
    let session := (fresh state : Session α σ).performAll backend (earlier ++ request :: later)
    let limit := config.stepLimit
    let total := (workList page config).length
    let calls (cursor : Nat) : List (PaintCall α) :=
      .clear (config.background.getD target.defaultBackground) ::
        ((PaintingOrder.units page config).take cursor).flatten
    (∃ count,
      (events.flatMap (Event.rounds backend)).filterMap Round.end? =
        (List.range count).map (.scheduled limit total) ∧
      session.Reached limit total count ∧
      (session.phase = .done → count = 1 + (total + limit - 1) / limit)) ∧
    (∀ event ∈ events,
      event.before.Paced backend limit total event.request ∧
      (¬event.Accepted ∨ event.request = .close ∨ (∃ layer, event.request = .drawOverlay layer) →
        event.rounds backend = [] ∧ event.served.polls = 0) ∧
      ∀ round ∈ event.rounds backend, ∀ position, round.end? = some position →
        let passage :=
          backend.carryOut (calls position.cursor) ⟨(backend.prepare config state).1, target⟩
        passage.failure = none ∧
          passage.canvas = ⟨round.painted.state, round.painted.job.target⟩) ∧
    (total = 0 →
      let opened := (fresh state : Session α σ).perform backend request
      opened.polls = 0 ∧ (opened.reply.status? = some .done ∨ opened.session.phase = .failed)) := by
  intro events session limit total calls
  have paints := opened_paints backend opening accepted state
  have onTrack := opened_onTrack backend untouched opening accepted later
  refine ⟨?_, ?_, paints.without_units (fresh_consistent state)⟩
  · have consistent := step_consistent backend (perform_step backend (fresh state) request)
      (fresh_consistent state)
    obtain ⟨first, ends, reached⟩ := paints.reached (fresh_consistent state)
    obtain ⟨second, endsLater, counted⟩ := history_ends backend
      (by rw [paints.leads]; exact resumeJob_started backend _ _ _) consistent reached later
    have whole : session.Reached limit total (first + second) := by
      simp only [session, performAll_append, performAll_notStarted backend untouched]
      rw [← Nat.zero_add (first + second), ← Nat.add_assoc]
      exact counted
    have final : session.Consistent :=
      performAll_keeps backend (step_consistent backend) (fresh_consistent state) _
    refine ⟨first + second, ?_, whole, whole.number_of_done final⟩
    have before : ((fresh state).history backend earlier).flatMap (Event.rounds backend) = [] := by
      refine List.flatMap_eq_nil_iff.mpr fun event member => ?_
      rw [Event.rounds, rounds, (painting?_of_untouched untouched event member).2]
    simp only [events]
    rw [history_of_untouched untouched, List.flatMap_append, before, List.nil_append,
      List.flatMap_cons, List.filterMap_append, Event.rounds, ends, endsLater, ← List.map_append,
      List.range'_append_1, List.range_eq_range']
    rfl
  · intro event member
    have served := served_of_mem backend member
    have paced := (onTrack event member).paced
    refine ⟨paced, ?_, ?_⟩
    · intro silent
      obtain ⟨before, asked, result⟩ := event
      obtain rfl : result = before.perform backend asked := served
      have none := rounds_of_quiet before asked silent
      refine ⟨none, ?_⟩
      rw [paced.polls, answers, none]
      rfl
    · intro round inside position ended
      obtain ⟨background, drawn⟩ := (onTrack event member).drawn inside ended
      rw [Job.doneCalls_start target page config background] at drawn
      exact drawn

theorem history_on_schedule_small :
    let backend := Backend.recorder (α := Rat)
    let config := (Config.ofSize 2 2).withStepLimit 1
    let request : Request Rat := .start smallTarget smallPage config (some (.ofInterval 2))
    let idle := (fresh #[]).performAll backend [.resume none]
    let events := (fresh #[]).history backend [.resume none, request, .resume none]
    let session := (fresh #[]).performAll backend [.resume none, request, .resume none]
    idle.stage = .notStarted ∧ request.opening? = some (smallTarget, smallPage, config) ∧
      argumentFault? smallTarget smallPage config = none ∧ session.phase = .done ∧
      events.map (fun event => event.served.polls) = [0, 2, 0] ∧
      (events.flatMap (Event.rounds backend)).filterMap Round.end? =
        [⟨true, 0, 2, 1⟩, ⟨true, 1, 2, 2⟩, ⟨true, 2, 2, 3⟩] ∧
      ∀ event ∈ events, event.before.Paced backend 1 2 event.request := by
  intro backend config request idle events session
  have untouched : idle.stage = .notStarted := rfl
  have opening : request.opening? = some (smallTarget, smallPage, config) := rfl
  have accepted : argumentFault? smallTarget smallPage config = none := by decide +kernel
  have finished : session.phase = .done := by decide +kernel
  have polls : events.map (fun event => event.served.polls) = [0, 2, 0] := by decide +kernel
  have limit : config.stepLimit = 1 := rfl
  have total : (workList smallPage config).length = 2 := by decide +kernel
  have schedule := history_on_schedule backend untouched opening accepted [.resume none]
  simp only [limit, total] at schedule
  obtain ⟨⟨count, ends, -, counted⟩, paced, -⟩ := schedule
  obtain rfl : count = 3 := counted finished
  exact ⟨untouched, opening, accepted, finished, polls, ends,
    fun event member => (paced event member).1⟩

end Session

end PagePaint
