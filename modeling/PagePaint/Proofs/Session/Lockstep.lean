import PagePaint.Proofs.Backend.Parallel
import PagePaint.Proofs.Paint.Overlay
import PagePaint.Proofs.Session.Script

set_option autoImplicit false

/-!
# Sessions in lockstep

Two sessions whose work makes calls that correspond one to one, over backends that treat
corresponding calls alike, stay at the same position with the same pixels for as long as they get
the same requests. They give the same replies and ask their controllers equally often.
-/

namespace PagePaint

variable {α σ τ β γ : Type}

private theorem forall₂_chunks {related : β → γ → Prop} (size : Nat) {left : List β}
    {right : List γ} (paired : List.Forall₂ related left right) :
    List.Forall₂ (List.Forall₂ related) (chunks size left) (chunks size right) := by
  fun_induction chunks size left generalizing right with
  | case1 =>
      cases paired
      rw [chunks_nil]
      exact .nil
  | case2 first rest ih =>
      cases paired with
      | @cons _ first' _ rest' pair paired =>
          rw [chunks]
          refine .cons (.cons pair ?_) (ih (List.forall₂_drop _ paired))
          exact List.forall₂_take _ paired

def UnitsAgree [Scalar α] (calls : PaintCall α → PaintCall α → Prop)
    (renderer renderer' : Renderer α) : List (WorkUnit α) → List (WorkUnit α) → Prop :=
  List.Forall₂ fun unit unit' =>
    List.Forall₂ calls (unit.calls renderer) (unit'.calls renderer')

structure Job.Agrees [Scalar α] (calls : PaintCall α → PaintCall α → Prop)
    (layers : FormLayer α → Prop) (left right : Job α) : Prop where
  limit : left.config.stepLimit = right.config.stepLimit
  background : ∀ target : Target,
    calls (.clear (left.config.background.getD target.defaultBackground))
      (.clear (right.config.background.getD target.defaultBackground))
  work : UnitsAgree calls left.renderer right.renderer left.work right.work
  overlay : ∀ layer, layers layer →
    List.Forall₂ calls (Overlay.script layer left.page left.config).calls
      (Overlay.script layer right.page right.config).calls

/-- Openings agree if their painting orders and those of the form layers do. -/
theorem Job.Agrees.of_order [Scalar α] {calls : PaintCall α → PaintCall α → Prop}
    {layers : FormLayer α → Prop} (target : Target) {page page' : Page α}
    {config config' : Config} (limit : config.stepLimit = config'.stepLimit)
    (background : ∀ target : Target,
      calls (.clear (config.background.getD target.defaultBackground))
        (.clear (config'.background.getD target.defaultBackground)))
    (units : List.Forall₂ (List.Forall₂ calls) (PaintingOrder.units page config)
      (PaintingOrder.units page' config'))
    (overlay : ∀ layer, layers layer →
      List.Forall₂ calls (PaintingOrder.overlay layer page config)
        (PaintingOrder.overlay layer page' config')) :
    (Job.start target page config).Agrees calls layers (.start target page' config') where
  limit := limit
  background := background
  work := by
    rw [← PaintingOrder.workList_calls, ← PaintingOrder.workList_calls,
      List.forall₂_map_left_iff, List.forall₂_map_right_iff] at units
    exact units
  overlay := by
    intro layer allowed
    change List.Forall₂ calls (Overlay.script layer page config).calls
      (Overlay.script layer page' config').calls
    rw [PaintingOrder.overlayScript_calls, PaintingOrder.overlayScript_calls]
    exact overlay layer allowed

def Job.reached (opened : Job α) (target : Target) (position : Continuation) (drawn : Bool) :
    Job α :=
  { opened with target, continuation := position, overlayDrawn := drawn }

/-- Two jobs that were carried on alike from two openings. -/
inductive Job.Carried (left right : Job α) : Job α → Job α → Prop where
  | reached (target : Target) (position : Continuation) (drawn : Bool) :
      Carried left right (left.reached target position drawn)
        (right.reached target position drawn)

inductive Batch.Agrees [Scalar α] (calls : PaintCall α → PaintCall α → Prop)
    (renderer renderer' : Renderer α) : Batch α → Batch α → Prop where
  | background : Agrees calls renderer renderer' .background .background
  | units {row row' : List (WorkUnit α)} (rows : UnitsAgree calls renderer renderer' row row') :
      Agrees calls renderer renderer' (.units row) (.units row')

structure UnitsOutcome.Alike (states : σ → τ → Prop) (painted : UnitsOutcome σ)
    (painted' : UnitsOutcome τ) : Prop where
  cursor : painted.cursor = painted'.cursor
  target : painted.outcome.canvas.target = painted'.outcome.canvas.target
  failure : painted.outcome.failure = painted'.outcome.failure
  state : states painted.outcome.canvas.state painted'.outcome.canvas.state

structure BatchOutcome.Alike (states : σ → τ → Prop) (left right : Job α)
    (outcome : BatchOutcome α σ) (outcome' : BatchOutcome α τ) : Prop where
  jobs : left.Carried right outcome.job outcome'.job
  failure : outcome.failure = outcome'.failure
  state : states outcome.state outcome'.state

structure RunOutcome.Alike (states : σ → τ → Prop) (left right : Job α)
    (outcome : RunOutcome α σ) (outcome' : RunOutcome α τ) : Prop where
  jobs : left.Carried right outcome.job outcome'.job
  result : outcome.result = outcome'.result
  polls : outcome.polls = outcome'.polls
  pause : outcome.pause = outcome'.pause
  state : states outcome.state outcome'.state

private theorem RunOutcome.Alike.after {states : σ → τ → Prop} {left right : Job α}
    {outcome : RunOutcome α σ} {outcome' : RunOutcome α τ}
    (alike : outcome.Alike states left right outcome') (lines lines' : List LogLine)
    (polls : Nat) :
    (outcome.after lines polls).Alike states left right (outcome'.after lines' polls) :=
  { alike with polls := congrArg (polls + ·) alike.polls }

section Batches

variable [Scalar α] {backend : Backend α σ} {backend' : Backend α τ}
  {calls : PaintCall α → PaintCall α → Prop} {states : σ → τ → Prop}

private theorem paintUnits_agree (parallel : backend.Parallel backend' calls states)
    {renderer renderer' : Renderer α} {row row' : List (WorkUnit α)}
    (rows : UnitsAgree calls renderer renderer' row row') {state : σ} {state' : τ}
    (related : states state state') (cursor : Nat) (target : Target) :
    (paintUnits backend renderer cursor row ⟨state, target⟩).Alike states
      (paintUnits backend' renderer' cursor row' ⟨state', target⟩) := by
  induction rows generalizing state state' cursor target with
  | nil => exact ⟨rfl, rfl, rfl, related⟩
  | @cons unit unit' rest rest' paired rows ih =>
      have alike := parallel.carryOut paired related target
      obtain ⟨stop, step⟩ := paintUnits_cons backend renderer cursor unit rest ⟨state, target⟩
      obtain ⟨stop', step'⟩ :=
        paintUnits_cons backend' renderer' cursor unit' rest' ⟨state', target⟩
      generalize backend.carryOut (unit.calls renderer) ⟨state, target⟩ = passage at *
      generalize backend'.carryOut (unit'.calls renderer') ⟨state', target⟩ = passage' at *
      obtain ⟨⟨state₁, target₁⟩, carried, failure⟩ := passage
      obtain ⟨⟨state₁', target₁'⟩, carried', failure'⟩ := passage'
      obtain ⟨rfl, rfl, -, next⟩ := alike
      cases failure with
      | some raised =>
          obtain ⟨cursorEq, canvasEq, failureEq⟩ := stop raised rfl
          obtain ⟨cursorEq', canvasEq', failureEq'⟩ := stop' raised rfl
          refine ⟨cursorEq.trans cursorEq'.symm, ?_, failureEq.trans failureEq'.symm, ?_⟩
          · rw [canvasEq, canvasEq']
          · rw [canvasEq, canvasEq']
            exact next
      | none =>
          obtain ⟨cursorEq, canvasEq, failureEq⟩ := step rfl
          obtain ⟨cursorEq', canvasEq', failureEq'⟩ := step' rfl
          have more := ih next (cursor + 1) target₁
          refine ⟨?_, ?_, ?_, ?_⟩
          · rw [cursorEq, cursorEq', more.cursor]
          · rw [canvasEq, canvasEq', more.target]
          · rw [failureEq, failureEq', more.failure]
          · rw [canvasEq, canvasEq']
            exact more.state

variable {layers : FormLayer α → Prop} {left right : Job α}

private theorem paintBackground_agree (parallel : backend.Parallel backend' calls states)
    (agrees : left.Agrees calls layers right) {job job' : Job α}
    (jobs : left.Carried right job job') {state : σ} {state' : τ}
    (related : states state state') :
    (job.paintBackground backend state).Alike states left right
      (job'.paintBackground backend' state') := by
  cases jobs with
  | reached target position drawn =>
      have alike := parallel.carryOut (.cons (agrees.background target) .nil) related target
      obtain ⟨stop, step⟩ := (left.reached target position drawn).paintBackground_eq backend state
      obtain ⟨stop', step'⟩ :=
        (right.reached target position drawn).paintBackground_eq backend' state'
      cases outcome : (backend.carryOut [.clear (left.config.background.getD
          target.defaultBackground)] ⟨state, target⟩).failure with
      | some raised =>
          obtain ⟨stateEq, failureEq, jobEq⟩ := stop raised outcome
          obtain ⟨stateEq', failureEq', jobEq'⟩ :=
            stop' raised (alike.failure.symm.trans outcome)
          refine ⟨?_, failureEq.trans failureEq'.symm, ?_⟩
          · rw [jobEq, jobEq']
            exact alike.target ▸ .reached _ position drawn
          · rw [stateEq, stateEq']
            exact alike.state
      | none =>
          obtain ⟨stateEq, failureEq, jobEq⟩ := step outcome
          obtain ⟨stateEq', failureEq', jobEq'⟩ := step' (alike.failure.symm.trans outcome)
          refine ⟨?_, failureEq.trans failureEq'.symm, ?_⟩
          · rw [jobEq, jobEq']
            exact alike.target ▸ .reached _ _ drawn
          · rw [stateEq, stateEq']
            exact alike.state

private theorem paintBatch_agree (parallel : backend.Parallel backend' calls states)
    (agrees : left.Agrees calls layers right) {job job' : Job α}
    (jobs : left.Carried right job job') {batch batch' : Batch α}
    (pair : batch.Agrees calls left.renderer right.renderer batch') {state : σ} {state' : τ}
    (related : states state state') :
    (job.paintBatch backend state batch).Alike states left right
      (job'.paintBatch backend' state' batch') := by
  cases pair with
  | background => exact paintBackground_agree parallel agrees jobs related
  | @units row row' rows =>
      cases jobs with
      | reached target position drawn =>
          have alike := paintUnits_agree parallel rows related position.cursor target
          change (paintUnits backend (left.reached target position drawn).renderer
              position.cursor row ⟨state, target⟩).Alike states
            (paintUnits backend' (right.reached target position drawn).renderer
              position.cursor row' ⟨state', target⟩) at alike
          simp only [Job.paintBatch, Job.reached] at alike ⊢
          generalize paintUnits backend _ _ row _ = painted at alike ⊢
          generalize paintUnits backend' _ _ row' _ = painted' at alike ⊢
          obtain ⟨cursor, ⟨⟨state₁, target₁⟩, log, failure⟩⟩ := painted
          obtain ⟨cursor', ⟨⟨state₁', target₁'⟩, log', failure'⟩⟩ := painted'
          obtain ⟨rfl, rfl, rfl, next⟩ := alike
          cases failure with
          | some error => exact ⟨.reached _ _ drawn, rfl, next⟩
          | none => exact ⟨.reached _ _ drawn, rfl, next⟩

private theorem batches_agree (agrees : left.Agrees calls layers right) {job job' : Job α}
    (jobs : left.Carried right job job') :
    List.Forall₂ (Batch.Agrees calls left.renderer right.renderer) job.batches job'.batches := by
  cases jobs with
  | reached target position drawn =>
      have rest := List.forall₂_drop position.cursor agrees.work
      have rows := forall₂_chunks left.config.stepLimit rest
      have units : List.Forall₂ (Batch.Agrees calls left.renderer right.renderer)
          ((chunks left.config.stepLimit (left.work.drop position.cursor)).map .units)
          ((chunks right.config.stepLimit (right.work.drop position.cursor)).map .units) := by
        rw [← agrees.limit, List.forall₂_map_left_iff, List.forall₂_map_right_iff]
        exact rows.imp fun _ _ => .units
      cases done : position.backgroundDone with
      | true =>
          rw [Job.batches_of_background_done done, Job.batches_of_background_done done]
          exact units
      | false =>
          rw [Job.batches_of_background_missing done, Job.batches_of_background_missing done]
          exact .cons .background units

private theorem runBatches_agree (parallel : backend.Parallel backend' calls states)
    (agrees : left.Agrees calls layers right) {batches batches' : List (Batch α)}
    (paired : List.Forall₂ (Batch.Agrees calls left.renderer right.renderer) batches batches')
    {job job' : Job α} (jobs : left.Carried right job job') {state : σ} {state' : τ}
    (related : states state state') (pause : Option PauseController) :
    (runBatches backend batches job state pause).Alike states left right
      (runBatches backend' batches' job' state' pause) := by
  -- The controllers are asked behind the same batches, so they stay the same.
  induction paired generalizing job job' state state' pause with
  | nil => exact ⟨jobs, rfl, rfl, rfl, related⟩
  | @cons batch batch' rest rest' pair paired ih =>
      have alike := paintBatch_agree parallel agrees jobs pair related
      cases outcome : (job.paintBatch backend state batch).failure with
      | some error =>
          have outcome' := alike.failure.symm.trans outcome
          simp only [runBatches, outcome, outcome']
          exact ⟨alike.jobs, rfl, rfl, rfl, alike.state⟩
      | none =>
          have outcome' := alike.failure.symm.trans outcome
          cases paired with
          | nil =>
              simp only [runBatches, outcome, outcome']
              exact ⟨alike.jobs, rfl, rfl, rfl, alike.state⟩
          | cons pair' paired =>
              simp only [runBatches, outcome, outcome']
              split
              · exact ⟨alike.jobs, rfl, rfl, rfl, alike.state⟩
              · exact (ih alike.jobs alike.state _).after _ _ _

end Batches

/-!
## Sessions
-/

inductive Stage.Lockstep (left right : Job α) : Stage α → Stage α → Prop where
  | inProgress {job job' : Job α} (jobs : left.Carried right job job') :
      Lockstep left right (.inProgress job) (.inProgress job')
  | done {job job' : Job α} (jobs : left.Carried right job job') :
      Lockstep left right (.done job) (.done job')
  | failed {job job' : Job α} (jobs : left.Carried right job job') :
      Lockstep left right (.failed job) (.failed job')
  | closed : Lockstep left right .closed .closed

namespace Session

/-- Two started sessions that have got to the same point. -/
structure Lockstep (states : σ → τ → Prop) (left right : Job α) (session : Session α σ)
    (session' : Session α τ) : Prop where
  backend : states session.backend session'.backend
  stage : session.stage.Lockstep left right session'.stage

private theorem Lockstep.shown_eq {states : σ → τ → Prop} {left right : Job α}
    {session : Session α σ} {session' : Session α τ}
    (lockstep : session.Lockstep states left right session') :
    session.phase = session'.phase ∧ session.continuation? = session'.continuation? ∧
      session.target? = session'.target? := by
  obtain ⟨state, stage⟩ := session
  obtain ⟨state', stage'⟩ := session'
  obtain ⟨-, stages⟩ := lockstep
  cases stages with
  | inProgress jobs | done jobs | failed jobs =>
      cases jobs
      exact ⟨rfl, rfl, rfl⟩
  | closed => exact ⟨rfl, rfl, rfl⟩

end Session

/-- Requests that were served alike: the same answer after as many questions, and sessions that
have got to the same point. -/
structure Served.Alike (states : σ → τ → Prop) (left right : Job α) (served : Served α σ)
    (served' : Served α τ) : Prop where
  session : served.session.Lockstep states left right served'.session
  reply : served.reply = served'.reply
  polls : served.polls = served'.polls

theorem Served.Alike.view_eq {states : σ → τ → Prop} {left right : Job α}
    {served : Served α σ} {served' : Served α τ}
    (alike : served.Alike states left right served') (before : Session α σ)
    (before' : Session α τ) (request request' : Request α) :
    Event.view ⟨before, request, served⟩ = Event.view ⟨before', request', served'⟩ := by
  obtain ⟨phase, position, target⟩ := alike.session.shown_eq
  simp only [Event.view, Event.after, Event.reply, alike.reply, alike.polls, phase, position,
    target]

namespace Session

variable [Scalar α] {backend : Backend α σ} {backend' : Backend α τ}
  {calls : PaintCall α → PaintCall α → Prop} {states : σ → τ → Prop}
  {layers : FormLayer α → Prop} {left right : Job α}

theorem resumeJob_agree (parallel : backend.Parallel backend' calls states)
    (agrees : left.Agrees calls layers right) {job job' : Job α}
    (jobs : left.Carried right job job') {state : σ} {state' : τ}
    (related : states state state') (pause : Option PauseController) :
    (resumeJob backend job state pause).session.Lockstep states left right
        (resumeJob backend' job' state' pause).session ∧
      (resumeJob backend job state pause).result = (resumeJob backend' job' state' pause).result ∧
      (resumeJob backend job state pause).polls =
        (resumeJob backend' job' state' pause).polls := by
  have alike :=
    runBatches_agree parallel agrees (batches_agree agrees jobs) jobs related pause
  refine ⟨⟨alike.state, ?_⟩, alike.result, alike.polls⟩
  simp only [resumeJob, afterRun, ← alike.result]
  split
  · exact .done alike.jobs
  · exact .inProgress alike.jobs
  · exact .failed alike.jobs

/-- Sessions of which one is started with one opening and the other with another one. -/
theorem opened_lockstep (parallel : backend.Parallel backend' calls states)
    {request request' : Request α} (pause : request.pause? = request'.pause?) {target : Target}
    {page page' : Page α} {config config' : Config}
    (opening : request.opening? = some (target, page, config))
    (opening' : request'.opening? = some (target, page', config'))
    (accepted : argumentFault? target page config = none)
    (accepted' : argumentFault? target page' config' = none)
    (agrees : (Job.start target page config).Agrees calls layers (.start target page' config'))
    {state : σ} {state' : τ}
    (prepared : states (backend.prepare config state).1 (backend'.prepare config' state').1) :
    ((fresh state).perform backend request).Alike states (.start target page config)
      (.start target page' config') ((fresh state').perform backend' request') := by
  have jobs : (Job.start target page config).Carried (.start target page' config')
      (.start target page config) (.start target page' config') := by
    -- The totals are taken from two work lists, which are equally long.
    have total : (workList page config).length = (workList page' config').length :=
      agrees.work.length_eq
    have begun : Job.start target page' config' =
        (Job.start target page' config').reached target
          (.start (workList page config).length) false := by
      rw [total]
      rfl
    rw [begun]
    exact .reached target _ false
  obtain ⟨lockstep, result, polls⟩ :=
    resumeJob_agree parallel agrees jobs prepared request.pause?
  rw [perform_of_opening backend opening, perform_of_opening backend' opening', ← pause]
  simp only [start, fresh, accepted, accepted']
  exact ⟨lockstep, by rw [result], polls⟩

theorem openings_agree {session : Session α σ} {session' : Session α τ}
    (lockstep : session.Lockstep states left right session') {request request' : Request α}
    {target : Target} {page page' : Page α} {config config' : Config}
    (opening : request.opening? = some (target, page, config))
    (opening' : request'.opening? = some (target, page', config')) :
    (session.perform backend request).Alike states left right
      (session'.perform backend' request') := by
  rw [perform_of_opening backend opening, perform_of_opening backend' opening']
  obtain ⟨state, stage⟩ := session
  obtain ⟨state', stage'⟩ := session'
  have stages := lockstep.stage
  cases stages with
  | inProgress | done | failed | closed => exact ⟨lockstep, rfl, rfl⟩

private theorem resume_agree (parallel : backend.Parallel backend' calls states)
    (agrees : left.Agrees calls layers right) {session : Session α σ} {session' : Session α τ}
    (lockstep : session.Lockstep states left right session') (pause : Option PauseController) :
    (session.perform backend (.resume pause)).Alike states left right
      (session'.perform backend' (.resume pause)) := by
  obtain ⟨state, stage⟩ := session
  obtain ⟨state', stage'⟩ := session'
  have stages := lockstep.stage
  cases stages with
  | inProgress jobs =>
      obtain ⟨next, result, polls⟩ := resumeJob_agree parallel agrees jobs lockstep.backend pause
      exact ⟨next, congrArg Reply.resumed result, polls⟩
  | done | failed | closed => exact ⟨lockstep, rfl, rfl⟩

private theorem drawOverlay_agree (parallel : backend.Parallel backend' calls states)
    (agrees : left.Agrees calls layers right) {session : Session α σ} {session' : Session α τ}
    (lockstep : session.Lockstep states left right session') {layer : FormLayer α}
    (allowed : layers layer) :
    (session.perform backend (.drawOverlay layer)).Alike states left right
      (session'.perform backend' (.drawOverlay layer)) := by
  obtain ⟨state, stage⟩ := session
  obtain ⟨state', stage'⟩ := session'
  have stages := lockstep.stage
  cases stages with
  | inProgress | failed | closed => exact ⟨lockstep, rfl, rfl⟩
  | done jobs =>
      cases jobs with
      | reached target position drawn =>
          cases drawn with
          | true => exact ⟨lockstep, rfl, rfl⟩
          | false =>
              have alike := parallel.carryOut (agrees.overlay layer allowed) lockstep.backend target
              change (overlayPassage backend layer (left.reached target position false)
                state).Alike states (overlayPassage backend' layer
                  (right.reached target position false) state') at alike
              obtain ⟨finish, stop⟩ := perform_drawOverlay backend
                (left.reached target position false) rfl state layer
              obtain ⟨finish', stop'⟩ := perform_drawOverlay backend'
                (right.reached target position false) rfl state' layer
              cases outcome : (overlayPassage backend layer (left.reached target position false)
                  state).failure with
              | none =>
                  rw [finish outcome, finish' (alike.failure.symm.trans outcome), ← alike.target]
                  exact ⟨⟨alike.state, .done (.reached _ position true)⟩, rfl, rfl⟩
              | some error =>
                  rw [stop error outcome, stop' error (alike.failure.symm.trans outcome),
                    ← alike.target]
                  exact ⟨⟨alike.state, .failed (.reached _ position false)⟩, rfl, rfl⟩

private theorem close_agree {session : Session α σ} {session' : Session α τ}
    (lockstep : session.Lockstep states left right session') :
    (session.perform backend .close).Alike states left right
      (session'.perform backend' .close) := by
  obtain ⟨state, stage⟩ := session
  obtain ⟨state', stage'⟩ := session'
  have stages := lockstep.stage
  cases stages with
  | inProgress | closed => exact ⟨lockstep, rfl, rfl⟩
  | done jobs | failed jobs =>
      cases jobs
      exact ⟨⟨lockstep.backend, .closed⟩, rfl, rfl⟩

theorem perform_agree (parallel : backend.Parallel backend' calls states)
    (agrees : left.Agrees calls layers right) {session : Session α σ} {session' : Session α τ}
    (lockstep : session.Lockstep states left right session') (request : Request α)
    (allowed : ∀ layer, request = .drawOverlay layer → layers layer) :
    (session.perform backend request).Alike states left right
      (session'.perform backend' request) := by
  cases request with
  | start | startWithScheme => exact openings_agree lockstep rfl rfl
  | resume pause => exact resume_agree parallel agrees lockstep pause
  | drawOverlay layer => exact drawOverlay_agree parallel agrees lockstep (allowed layer rfl)
  | close => exact close_agree lockstep

/-- What a script shows of the second session it shows of the first, up to the same point. -/
theorem history_agree (parallel : backend.Parallel backend' calls states)
    (agrees : left.Agrees calls layers right) {session : Session α σ} {session' : Session α τ}
    (lockstep : session.Lockstep states left right session') {script : List (Request α)}
    (allowed : ∀ layer, .drawOverlay layer ∈ script → layers layer) :
    (session.history backend script).map Event.view =
        (session'.history backend' script).map Event.view ∧
      (session.performAll backend script).Lockstep states left right
        (session'.performAll backend' script) := by
  induction script generalizing session session' with
  | nil => exact ⟨rfl, lockstep⟩
  | cons request rest ih =>
      have alike := perform_agree parallel agrees lockstep request
        fun layer same => allowed layer (same ▸ List.mem_cons_self)
      obtain ⟨views, final⟩ := ih alike.session fun layer member =>
        allowed layer (List.mem_cons_of_mem request member)
      exact ⟨congrArg₂ List.cons (alike.view_eq _ _ _ _) views, final⟩

/-- One backend in one state, given openings that agree: either both starts are refused and the
sessions stay the same, or the sessions go on in lockstep. -/
theorem history_agree_of_opening {backend : Backend α σ} {states : σ → σ → Prop}
    (parallel : backend.Parallel backend calls states) {request request' : Request α}
    (pause : request.pause? = request'.pause?) {target : Target} {page page' : Page α}
    {config config' : Config} (opening : request.opening? = some (target, page, config))
    (opening' : request'.opening? = some (target, page', config'))
    (faults : argumentFault? target page config = argumentFault? target page' config')
    (agrees : (Job.start target page config).Agrees calls layers (.start target page' config'))
    (state : σ)
    (prepared : states (backend.prepare config state).1 (backend.prepare config' state).1)
    (later : List (Request α)) (allowed : ∀ layer, .drawOverlay layer ∈ later → layers layer) :
    ((fresh state).history backend (request :: later)).map Event.view =
        ((fresh state).history backend (request' :: later)).map Event.view ∧
      ((fresh state).performAll backend (request :: later) =
          (fresh state).performAll backend (request' :: later) ∨
        ((fresh state).performAll backend (request :: later)).Lockstep states
          (.start target page config) (.start target page' config')
          ((fresh state).performAll backend (request' :: later))) := by
  simp only [history_cons, performAll_cons, List.map_cons]
  cases fault : argumentFault? target page config with
  | some found =>
      have served : (fresh state).perform backend request =
          (fresh state).perform backend request' := by
        rw [perform_of_opening backend opening, perform_of_opening backend opening']
        simp only [start, fresh, fault, ← faults]
        rfl
      rw [served]
      exact ⟨rfl, .inl rfl⟩
  | none =>
      have alike := opened_lockstep parallel pause opening opening' fault (faults ▸ fault) agrees
        prepared
      obtain ⟨views, lockstep⟩ := history_agree parallel agrees alike.session allowed
      exact ⟨congrArg₂ List.cons (alike.view_eq _ _ _ _) views, .inr lockstep⟩

end Session

end PagePaint
