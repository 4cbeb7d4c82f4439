import PagePaint.Proofs.Session.Schedule

set_option autoImplicit false

/-!
# Progress

Why driving a session comes to an end. The loop of a call has no bound of its own: it goes round
until a batch fails, leaves nothing to paint, or is followed by a pause. What brings it to an end is
that every batch takes something off what is left. For the same reason a session cannot be paused
for ever, however often its controllers ask for it.
-/

namespace PagePaint

variable {α σ β : Type}

private theorem chunks_length {size : Nat} (positive : 0 < size) (list : List β) :
    (chunks size list).length = (list.length + size - 1) / size := by
  induction list using chunks.induct size with
  | case1 => rw [chunks_nil, List.length_nil, List.length_nil, Nat.div_eq_of_lt (by omega)]
  | case2 first rest ih =>
      rw [chunks, List.length_cons, ih, List.length_drop, List.length_cons]
      rcases Nat.le_total rest.length (size - 1) with short | long
      · rw [Nat.sub_eq_zero_of_le short, Nat.div_eq_of_lt (by omega)]
        exact (Nat.div_eq_of_lt_le (by omega) (by omega)).symm
      · rw [← Nat.add_div_right _ positive]
        congr 1
        omega

namespace Job

/-- How many batches are left: the background, if it is not painted yet, and then one for each
limit of units that is begun. -/
theorem batches_length (job : Job α) :
    job.batches.length = (if job.continuation.backgroundDone then 0 else 1) +
      (job.work.length - job.continuation.cursor + job.config.stepLimit - 1) /
        job.config.stepLimit := by
  rw [batches, List.length_append, List.length_map, chunks_length job.config.stepLimit_pos,
    List.length_drop]
  cases job.continuation.backgroundDone <;> rfl

def nextBatch (job : Job α) : Batch α :=
  if job.continuation.backgroundDone then
    .units ((job.work.drop job.continuation.cursor).take job.config.stepLimit)
  else .background

private theorem nextBatch_eq {job : Job α} {batch : Batch α} {rest : List (Batch α)}
    (next : job.batches = batch :: rest) : job.nextBatch = batch := by
  rcases first_batch next with ⟨missing, rfl⟩ | ⟨done, -, rfl⟩
  · simp [nextBatch, missing]
  · simp [nextBatch, done]

private theorem Sound.remaining_lt {job : Job α} (sound : job.Sound) {batch : Batch α}
    {rest : List (Batch α)} (next : job.batches = batch :: rest) :
    job.continuation.isFinished = false ∧
      (batch.advance job.continuation).remaining < job.continuation.remaining := by
  constructor
  · rw [← Bool.not_eq_true, sound.isFinished_iff, next]
    exact List.cons_ne_nil _ _
  · rcases first_batch next with ⟨missing, rfl⟩ | ⟨done, inside, rfl⟩
    · simp [Batch.advance, Continuation.remaining, missing]
    · have positive := job.config.stepLimit_pos
      simp only [Batch.advance, Continuation.remaining, done, sound.batch_length, if_true,
        Nat.add_zero]
      rw [← sound.total] at inside
      omega

end Job

section Loops

variable [Scalar α] (backend : Backend α σ)

/-- The loop of a call as it stands: paint the batch that is next, and go round again until a
failure, the end or a pause. There is no outcome if none of these comes within a number of rounds. -/
def loopFor : Nat → Job α → σ → Option PauseController → Option (RunOutcome α σ)
  | 0, _, _, _ => none
  | bound + 1, job, state, pause =>
    let painted := job.paintBatch backend state job.nextBatch
    match painted.failure with
    | some error => some ⟨painted.job, painted.state, .error error, [], 0, pause⟩
    | none =>
      if painted.job.continuation.isFinished then
        some ⟨painted.job, painted.state, .ok .done, [], 0, pause⟩
      else
        let (pauseNow, polls, next) := pollPause pause
        if pauseNow then some ⟨painted.job, painted.state, .ok .toBeContinued, [], polls, next⟩
        else (loopFor bound painted.job painted.state next).map fun outcome =>
          outcome.after [] polls

variable {backend} {job : Job α} {state : σ} {pause : Option PauseController}
  {row : List (Round α σ)} {outcome : RunOutcome α σ}

/-- The loop has its outcome after as many rounds as there are batches painted in it, and not
before. -/
theorem Loop.loopFor_eq (loop : Loop backend job state pause row outcome) (bound : Nat) :
    loopFor backend bound job state pause =
      if row.length ≤ bound then some { outcome with log := [] } else none := by
  induction loop generalizing bound with
  | failed next paints failure log pause =>
      cases bound with
      | zero => rfl
      | succ bound =>
          subst paints
          simp [loopFor, Job.nextBatch_eq next, failure]
  | finished next paints smooth finished log pause =>
      cases bound with
      | zero => rfl
      | succ bound =>
          subst paints
          simp [loopFor, Job.nextBatch_eq next, smooth, finished]
  | paused next paints smooth unfinished answer log =>
      cases bound with
      | zero => rfl
      | succ bound =>
          subst paints
          simp [loopFor, Job.nextBatch_eq next, smooth, unfinished, pollPause, answer]
  | @asked _ _ _ _ _ _ _ later _ next paints smooth unfinished answer loop log ih =>
      cases bound with
      | zero => rfl
      | succ bound =>
          subst paints
          simp only [loopFor, Job.nextBatch_eq next, smooth, unfinished, pollPause, answer, ih]
          by_cases enough : later.length ≤ bound <;> simp [enough, RunOutcome.after]
  | @unasked _ _ _ _ _ later _ next paints smooth unfinished loop log ih =>
      cases bound with
      | zero => rfl
      | succ bound =>
          subst paints
          simp only [loopFor, Job.nextBatch_eq next, smooth, unfinished, pollPause, ih]
          by_cases enough : later.length ≤ bound <;> simp [enough, RunOutcome.after]

private theorem Loop.length_le (loop : Loop backend job state pause row outcome) :
    row.length ≤ job.batches.length := by
  induction loop with
  | failed next | finished next | paused next =>
      rw [next]
      exact Nat.succ_le_succ (Nat.zero_le _)
  | asked next paints smooth _ _ loop log ih | unasked next paints smooth _ loop log ih =>
      subst paints
      rw [batches_paintBatch next smooth] at ih
      rw [next]
      exact Nat.succ_le_succ ih

private theorem Loop.progress (loop : Loop backend job state pause row outcome)
    (steady : job.Steady) :
    ∀ round ∈ row, round.before.continuation.isFinished = false ∧
      (round.painted.failure = none →
        round.position.remaining < round.before.continuation.remaining) := by
  intro round member
  obtain ⟨own, batch, rest, next, paints, held⟩ :=
    loop.each (Job.steady_invariant backend) steady round member
  obtain ⟨unfinished, shorter⟩ := held.sound.remaining_lt next
  refine ⟨unfinished, fun smooth => ?_⟩
  rw [← paints] at smooth
  obtain ⟨-, -, moved⟩ := round.before.paintBatch_smooth backend own batch smooth
  rw [Round.position, ← paints, moved]
  exact shorter

end Loops

private theorem Continuation.Underway.bound_pos {limit : Nat} {continuation : Continuation}
    (underway : continuation.Underway limit) {bound : Nat}
    (within : continuation.total ≤ continuation.cursor + bound * limit) : 0 < bound := by
  have left := underway.cursor_lt
  refine Nat.pos_of_ne_zero ?_
  rintro rfl
  omega

def Request.isResume : Request α → Bool
  | .resume _ => true
  | .start .. | .startWithScheme .. | .drawOverlay _ | .close => false

namespace Session

variable [Scalar α] {backend : Backend α σ}

/-- A job that is paused once more is whole limits further. -/
theorem resumeJob_advances {job later : Job α} (steady : job.Steady)
    (underway : job.continuation.Underway job.config.stepLimit) {state : σ}
    {pause : Option PauseController}
    (stage : (resumeJob backend job state pause).session.stage = .inProgress later) :
    later.config = job.config ∧ later.continuation.total = job.continuation.total ∧
      ∃ count, 0 < count ∧
        later.continuation.cursor = job.continuation.cursor + count * job.config.stepLimit := by
  have consistent := resumeJob_consistent backend steady state pause
  have continues := resumeJob_continues backend (.refl job) state pause
  simp only [Consistent, Continues, stage] at consistent continues
  have counted : job.continuation.batches < later.continuation.batches := by
    rcases resumeJob_settled backend (Job.batches_invariant backend job.continuation.batches)
      state (Nat.le_refl _) pause with ⟨own, other, -⟩ | ⟨own, same, -, more, -⟩ | ⟨own, _, other, -⟩
    · cases other.symm.trans stage
    · cases same.symm.trans stage
      exact more
    · cases other.symm.trans stage
  obtain ⟨-, -, ahead⟩ := consistent
  have started := underway.batches_pos
  refine ⟨continues.config, continues.total, later.continuation.batches - job.continuation.batches,
    by omega, ?_⟩
  rw [ahead.cursor_eq, underway.cursor_eq, continues.config, ← Nat.add_mul]
  congr 1
  omega

private theorem paused_cases (backend : Backend α σ) (state : σ) (job : Job α)
    (request : Request α) :
    (∃ pause, request = .resume pause ∧
        ((⟨state, .inProgress job⟩ : Session α σ).perform backend request).session =
          (resumeJob backend job state pause).session) ∨
      request.isResume = false ∧
        ((⟨state, .inProgress job⟩ : Session α σ).perform backend request).session =
          ⟨state, .inProgress job⟩ := by
  cases request with
  | resume pause => exact .inl ⟨pause, rfl, rfl⟩
  | start | startWithScheme | drawOverlay | close => exact .inr ⟨rfl, rfl⟩

/-- Being resumed ends a session or brings it forward by a limit of units. -/
theorem resumeJob_ends_or_advances {job : Job α} (steady : job.Steady)
    (underway : job.continuation.Underway job.config.stepLimit) (state : σ)
    (pause : Option PauseController) {bound : Nat}
    (within : job.continuation.total ≤
      job.continuation.cursor + (bound + 1) * job.config.stepLimit) :
    let resumed := (resumeJob backend job state pause).session
    (resumed.phase = .done ∨ resumed.phase = .failed) ∨
      ∃ later, resumed.stage = .inProgress later ∧
        later.continuation.total ≤ later.continuation.cursor + bound * later.config.stepLimit := by
  intro resumed
  rcases resumeJob_answers backend job state pause with
    ⟨finished, stage, -⟩ | ⟨later, stage, -⟩ | ⟨stopped, error, stage, -⟩
  · exact .inl (.inl (by rw [phase, stage]; rfl))
  · obtain ⟨config, total, count, some, ahead⟩ := resumeJob_advances steady underway stage
    have whole : (bound + 1) * job.config.stepLimit ≤
        count * job.config.stepLimit + bound * job.config.stepLimit := by
      rw [← Nat.add_mul]
      exact Nat.mul_le_mul_right _ (by omega)
    refine .inr ⟨later, stage, ?_⟩
    rw [total, config, ahead]
    omega
  · exact .inl (.inr (by rw [phase, stage]; rfl))

/-- A session that is paused is Done or Failed after as many resumes as limits of units are left, the
last of which may be cut short. Other requests in between change nothing. -/
theorem paused_ends {session : Session α σ} (consistent : session.Consistent) {job : Job α}
    (stage : session.stage = .inProgress job) {bound : Nat}
    (within : job.continuation.total ≤ job.continuation.cursor + bound * job.config.stepLimit)
    (more : List (Request α)) :
    (more.countP Request.isResume < bound ∧
        (session.performAll backend more).phase = .inProgress) ∨
      ∃ first rest, more = first ++ rest ∧ first.countP Request.isResume ≤ bound ∧
        ((session.performAll backend first).phase = .done ∨
          (session.performAll backend first).phase = .failed) := by
  induction more generalizing session job bound with
  | nil =>
      simp only [Consistent, stage] at consistent
      exact .inl ⟨consistent.2.2.bound_pos within, by rw [performAll, phase, stage]; rfl⟩
  | cons request rest ih =>
      obtain ⟨state, own⟩ := session
      obtain rfl : own = .inProgress job := stage
      have next := step_consistent backend (perform_step backend _ request) consistent
      rcases paused_cases backend state job request with
        ⟨pause, rfl, resumed⟩ | ⟨other, refused⟩
      · rw [resumed] at next
        obtain ⟨sound, overlay, underway⟩ := consistent
        obtain ⟨bound, rfl⟩ : ∃ smaller, bound = smaller + 1 :=
          Nat.exists_eq_add_one.mpr (underway.bound_pos within)
        rcases resumeJob_ends_or_advances ⟨sound, overlay, .underway underway⟩ underway state
          pause within with ended | ⟨later, paused, closer⟩
        · refine .inr ⟨[.resume pause], rest, rfl, Nat.succ_le_succ (Nat.zero_le _), ?_⟩
          rw [performAll_cons, resumed]
          exact ended
        · rcases ih next paused closer with ⟨fewer, still⟩ | ⟨first, last, split, fewer, ends⟩
          · rw [performAll_cons, resumed, List.countP_cons_of_pos rfl]
            exact .inl ⟨Nat.succ_lt_succ fewer, still⟩
          · refine .inr ⟨.resume pause :: first, last, congrArg _ split, ?_, ?_⟩
            · rw [List.countP_cons_of_pos rfl]
              exact Nat.succ_le_succ fewer
            · rw [performAll_cons, resumed]
              exact ends
      · rw [refused] at next
        rcases ih next rfl within with ⟨fewer, still⟩ | ⟨first, last, split, fewer, ends⟩
        · rw [performAll_cons, refused]
          exact .inl ⟨by simpa [other] using fewer, still⟩
        · refine .inr ⟨request :: first, last, congrArg _ split, by simpa [other] using fewer, ?_⟩
          rw [performAll_cons, refused]
          exact ends

variable {session : Session α σ} {request : Request α} {opened : Job α} {origin : σ}

/-- The loop of a call that paints has the outcome of the call as soon as all its rounds fit, and
they fit into the background and the limits of units that the page has. -/
theorem OnTrack.ends (onTrack : session.OnTrack backend opened origin request) {job : Job α}
    {state : σ} (painting : session.painting? backend request = some (job, state)) :
    ∃ outcome,
      (∀ bound, loopFor backend bound job state request.pause? =
        if (session.rounds backend request).length ≤ bound then some outcome else none) ∧
      (session.rounds backend request).length ≤
        1 + (opened.work.length + opened.config.stepLimit - 1) / opened.config.stepLimit ∧
      (session.perform backend request).session = afterRun outcome ∧
      (session.perform backend request).polls = outcome.polls ∧
      (session.perform backend request).reply.status? = outcome.result.toOption := by
  have paints := paints_of_painting painting
  have loop := paints.loop onTrack.consistent
  refine ⟨_, loop.loopFor_eq, ?_, paints.leads, paints.polls, paints.status⟩
  have precedes := (onTrack.follows job state painting).precedes
  have short := loop.length_le
  rw [job.batches_length, precedes.config, precedes.work] at short
  refine Nat.le_trans short (Nat.add_le_add ?_ (Nat.div_le_div_right (by omega)))
  split <;> simp

private theorem OnTrack.progress (onTrack : session.OnTrack backend opened origin request) :
    ∀ round ∈ session.rounds backend request, round.before.continuation.isFinished = false ∧
      (round.painted.failure = none →
        round.position.remaining < round.before.continuation.remaining) := by
  rcases idle_or_paints backend session request with idle | ⟨job, state, paints⟩
  · rw [idle.rounds]
    exact List.forall_mem_nil _
  · obtain ⟨steady, -⟩ := painting?_steady onTrack.consistent paints.painting
    exact (paints.loop onTrack.consistent).progress steady

private theorem OnTrack.advances {pause : Option PauseController}
    (onTrack : session.OnTrack backend opened origin (.resume pause))
    (again : (session.perform backend (.resume pause)).reply.status? = some .toBeContinued) :
    ∃ before after count, session.continuation? = some before ∧
      (session.perform backend (.resume pause)).session.continuation? = some after ∧ 0 < count ∧
      after.cursor = before.cursor + count * opened.config.stepLimit := by
  rcases idle_or_paints backend session (.resume pause) with
    idle | ⟨job, state, paints⟩
  · rw [idle.status] at again
    cases again
  · have precedes := (onTrack.follows job state paints.painting).precedes
    have consistent := onTrack.consistent
    rcases painting?_cases paints.painting with ⟨_, _, _, _, opening, _⟩ | ⟨stage, -, -⟩
    · cases opening
    · simp only [Consistent, stage] at consistent
      obtain ⟨sound, overlay, underway⟩ := consistent
      rw [paints.status] at again
      rcases resumeJob_answers backend job state (Request.resume pause : Request α).pause? with
        ⟨_, _, result⟩ | ⟨paused, later, _⟩ | ⟨_, _, _, result⟩
      · rw [result] at again
        cases again
      · obtain ⟨-, -, count, some, ahead⟩ :=
          resumeJob_advances ⟨sound, overlay, .underway underway⟩ underway later
        refine ⟨job.continuation, paused.continuation, count, ?_, ?_, some, ?_⟩
        · rw [continuation?, job?, stage]
          rfl
        · rw [paints.leads, continuation?, job?, later]
          rfl
        · rw [ahead, precedes.config]
      · rw [result] at again
        cases again

/-- Driving a session comes to an end, whatever the controllers answer. The loop of a call, which has
no bound of its own, goes round at most once for the background and once for each limit of units;
each time something is left, and less of it afterwards. A session that is resumed and paused again
is whole limits further, at least one. A paused session is Done or Failed after at most as many
resumes as limits of units are left. -/
theorem drive_terminates (backend : Backend α σ) {state : σ} {target : Target} {page : Page α}
    {base : Config} {requested : Nat} {earlier : List (Request α)} {request : Request α}
    (untouched : ((fresh state : Session α σ).performAll backend earlier).stage = .notStarted)
    (opening : request.opening? = some (target, page, base.withStepLimit requested))
    (accepted : argumentFault? target page (base.withStepLimit requested) = none)
    (later : List (Request α)) :
    let events := (fresh state : Session α σ).history backend (earlier ++ request :: later)
    let session := (fresh state : Session α σ).performAll backend (earlier ++ request :: later)
    let limit := max requested 1
    let total := (workList page base).length
    (∀ event ∈ events, ∀ job own,
      event.before.painting? backend event.request = some (job, own) →
      ∃ outcome,
        (∀ bound, loopFor backend bound job own event.request.pause? =
          if (event.rounds backend).length ≤ bound then some outcome else none) ∧
        (event.rounds backend).length ≤ 1 + (total + limit - 1) / limit ∧
        event.after = afterRun outcome ∧ event.served.polls = outcome.polls ∧
        event.reply.status? = outcome.result.toOption) ∧
    (∀ event ∈ events, ∀ round ∈ event.rounds backend,
      round.before.continuation.isFinished = false ∧
        (round.painted.failure = none →
          round.position.remaining < round.before.continuation.remaining)) ∧
    (∀ event ∈ events, ∀ pause, event.request = .resume pause →
      event.reply.status? = some .toBeContinued →
      ∃ before after count, event.before.continuation? = some before ∧
        event.after.continuation? = some after ∧ 0 < count ∧
        after.cursor = before.cursor + count * limit) ∧
    ∀ job, session.stage = .inProgress job → ∀ more : List (Request α),
      let bound := (total - job.continuation.cursor + limit - 1) / limit
      (more.countP Request.isResume < bound ∧
          (session.performAll backend more).phase = .inProgress) ∨
        ∃ first rest, more = first ++ rest ∧ first.countP Request.isResume ≤ bound ∧
          ((session.performAll backend first).phase = .done ∨
            (session.performAll backend first).phase = .failed) := by
  intro events session limit total
  have onTrack := opened_onTrack backend untouched opening accepted later
  have serves : ∀ event ∈ events, event.served = event.before.perform backend event.request :=
    fun event => served_of_mem backend
  refine ⟨?_, fun event member => (onTrack event member).progress, ?_, ?_⟩
  · intro event member job own painting
    rw [Event.after, Event.reply, serves event member]
    exact (onTrack event member).ends painting
  · intro event member pause resumes
    have track := onTrack event member
    rw [resumes] at track
    rw [Event.after, Event.reply, serves event member, resumes]
    exact track.advances
  · intro job stage more bound
    have started := opened_traced backend opening accepted state
    have traced : session.Traced backend (.start target page (base.withStepLimit requested))
        (backend.prepare (base.withStepLimit requested) state).1 := by
      simp only [session, performAll_append, performAll_notStarted backend untouched]
      exact performAll_keeps backend (step_traced backend) started later
    have consistent : session.Consistent :=
      performAll_keeps backend (step_consistent backend) (fresh_consistent state) _
    simp only [Traced, stage] at traced
    have config := traced.1.precedes.config
    have whole : job.continuation.total = total := traced.1.precedes.total
    refine paused_ends consistent stage ?_ more
    have positive : 0 < limit := by omega
    have covered := Continuation.le_limits_mul positive (total - job.continuation.cursor)
    rw [whole, config]
    exact Nat.sub_le_iff_le_add'.mp covered

theorem drive_terminates_small :
    let backend := Backend.recorder (α := Rat)
    let config := (Config.ofSize 2 2).withStepLimit 0
    let request : Request Rat := .start smallTarget smallPage config (some .always)
    let idle := (fresh #[]).performAll backend [.resume none]
    let session := (fresh #[]).performAll backend [.resume none, request]
    let more : List (Request Rat) := [.close, .resume (some .always), .resume (some .always)]
    idle.stage = .notStarted ∧ request.opening? = some (smallTarget, smallPage, config) ∧
      argumentFault? smallTarget smallPage config = none ∧
      session.continuation? = some ⟨true, 0, 2, 1⟩ ∧
      ∃ first rest, more = first ++ rest ∧ first.countP Request.isResume ≤ 2 ∧
        ((session.performAll backend first).phase = .done ∨
          (session.performAll backend first).phase = .failed) := by
  intro backend config request idle session more
  have untouched : idle.stage = .notStarted := rfl
  have opening : request.opening? = some (smallTarget, smallPage, config) := rfl
  have accepted : argumentFault? smallTarget smallPage config = none := by decide +kernel
  have paused : session.phase = .inProgress := by decide +kernel
  have position : session.continuation? = some ⟨true, 0, 2, 1⟩ := by decide +kernel
  have total : (workList smallPage (Config.ofSize 2 2)).length = 2 := by decide +kernel
  obtain ⟨job, stage⟩ := stage_of_inProgress paused
  have cursor : job.continuation.cursor = 0 := by
    rw [continuation?, job?, stage] at position
    exact congrArg Continuation.cursor (Option.some.inj position)
  obtain ⟨-, -, -, ends⟩ := drive_terminates backend untouched opening accepted []
  have ended := ends job stage more
  rw [cursor, total] at ended
  refine ⟨untouched, opening, accepted, position, ended.resolve_left fun still => ?_⟩
  exact absurd still.1 (by decide)

end Session

end PagePaint
