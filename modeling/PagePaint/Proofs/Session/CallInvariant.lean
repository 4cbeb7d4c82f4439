import PagePaint.Proofs.Session.Request

set_option autoImplicit false

/-!
# From calls to sessions

A session touches a canvas by calls only: a clear first, and then calls of its page and of form
layers. What a clear brings about, and every other call keeps, therefore holds of a session from its
background on, however it is driven.
-/

namespace PagePaint

variable {α σ : Type}

/-- What the calls of a backend keep: one fact until the background is painted, whether that fails
or not, and another one from then on. -/
structure Backend.Upholds (backend : Backend α σ) (allowed : PaintCall α → Prop)
    (early late : Canvas σ → Prop) : Prop where
  cleared : ∀ {canvas color}, early canvas →
    (backend.paint (.clear color) canvas).failure = none →
    late (backend.paint (.clear color) canvas).canvas
  stopped : ∀ {canvas color error}, early canvas →
    (backend.paint (.clear color) canvas).failure = some error →
    early (backend.paint (.clear color) canvas).canvas
  painted : ∀ {canvas call}, allowed call → late canvas → late (backend.paint call canvas).canvas

/-- A job whose calls, the clear aside, are allowed, and so are those of the form layers that may be
drawn over it. -/
structure Job.Asks [Scalar α] (allowed : PaintCall α → Prop) (layers : FormLayer α → Prop)
    (job : Job α) : Prop where
  work : ∀ unit ∈ job.work, ∀ call ∈ unit.calls job.renderer, allowed call
  overlay : ∀ layer, layers layer →
    ∀ call ∈ (Overlay.script layer job.page job.config).calls, allowed call

structure Job.Holds (early late : Canvas σ → Prop) (job : Job α) (state : σ) : Prop where
  early : job.continuation.backgroundDone = false → early ⟨state, job.target⟩
  late : job.continuation.backgroundDone = true → late ⟨state, job.target⟩

namespace Backend

variable {backend : Backend α σ} {allowed : PaintCall α → Prop} {early late : Canvas σ → Prop}

theorem Upholds.carryOut (upholds : backend.Upholds allowed early late)
    {calls : List (PaintCall α)} (fine : ∀ call ∈ calls, allowed call) {canvas : Canvas σ}
    (holds : late canvas) : late (backend.carryOut calls canvas).canvas := by
  induction calls generalizing canvas with
  | nil => exact holds
  | cons call rest ih =>
      obtain ⟨first, others⟩ := List.forall_mem_cons.mp fine
      have painted := upholds.painted first holds
      cases outcome : (backend.paint call canvas).failure with
      | some error =>
          rw [carryOut_cons_failed _ rest outcome]
          exact painted
      | none =>
          rw [carryOut_cons_painted _ rest outcome]
          exact ih others painted

private theorem carryOut_singleton (backend : Backend α σ) (call : PaintCall α)
    (canvas : Canvas σ) :
    (backend.carryOut [call] canvas).canvas = (backend.paint call canvas).canvas ∧
      (backend.carryOut [call] canvas).failure = (backend.paint call canvas).failure := by
  cases outcome : (backend.paint call canvas).failure with
  | some error =>
      rw [carryOut_cons_failed _ [] outcome]
      exact ⟨rfl, rfl⟩
  | none =>
      rw [carryOut_cons_painted _ [] outcome]
      exact ⟨rfl, rfl⟩

end Backend

section Batches

variable [Scalar α] {backend : Backend α σ} {allowed : PaintCall α → Prop}
  {layers : FormLayer α → Prop} {early late : Canvas σ → Prop}

private theorem Job.Asks.moved {job : Job α} (asks : job.Asks allowed layers) (target : Target)
    (continuation : Continuation) : (job.moved target continuation).Asks allowed layers :=
  ⟨asks.work, asks.overlay⟩

private theorem Job.Asks.row {job : Job α} (asks : job.Asks allowed layers) (start count : Nat) :
    ∀ call ∈ unitCalls job.renderer ((job.work.drop start).take count), allowed call := by
  intro call made
  obtain ⟨unit, member, made⟩ := List.mem_flatMap.mp made
  exact asks.work unit (List.mem_of_mem_drop (List.mem_of_mem_take member)) call made

private theorem Backend.Upholds.invariant (upholds : backend.Upholds allowed early late) :
    BatchInvariant backend (fun job state => job.Asks allowed layers ∧ job.Holds early late state)
      (fun job state => job.Asks allowed layers ∧ job.Holds early late state)
      (fun job state _ => job.Asks allowed layers ∧ job.Holds early late state) where
  weaken := id
  advance := by
    rintro job state batch rest split ⟨asks, holds⟩ painted
    obtain ⟨smooth, stateEq, moved⟩ := job.paintBatch_smooth backend state batch painted
    rw [moved, stateEq]
    refine ⟨asks.moved _ _, ?_⟩
    -- The background is a batch by itself, and every other batch comes after it.
    rcases Job.first_batch split with ⟨missing, rfl⟩ | ⟨done, -, rfl⟩
    · obtain ⟨canvas, failure⟩ :=
        backend.carryOut_singleton (.clear job.background) ⟨state, job.target⟩
      refine ⟨nofun, fun _ => ?_⟩
      change late (backend.carryOut [.clear job.background] ⟨state, job.target⟩).canvas
      rw [canvas]
      exact upholds.cleared (holds.early missing) (failure.symm.trans smooth)
    · refine ⟨fun missing => ?_, fun _ => upholds.carryOut (asks.row _ _) (holds.late done)⟩
      cases done.symm.trans missing
  stop := by
    rintro job state batch rest error split ⟨asks, holds⟩ failed
    obtain ⟨raised, stopped, stateEq, stop⟩ := job.paintBatch_failed backend state batch failed
    rw [stateEq]
    rcases stop with ⟨rfl, rfl, moved⟩ | ⟨row, position, rfl, -, -, moved⟩
    · obtain ⟨canvas, failure⟩ :=
        backend.carryOut_singleton (.clear job.background) ⟨state, job.target⟩
      rw [moved]
      refine ⟨asks.moved _ _, ⟨fun missing => ?_, fun done => ?_⟩⟩
      · change early (backend.carryOut [.clear job.background] ⟨state, job.target⟩).canvas
        rw [canvas]
        exact upholds.stopped (holds.early missing) (failure.symm.trans stopped)
      · rcases Job.first_batch split with ⟨missing, -⟩ | ⟨-, -, impossible⟩
        · cases missing.symm.trans done
        · cases impossible
    · rcases Job.first_batch split with ⟨-, impossible⟩ | ⟨done, -, rowEq⟩
      · cases impossible
      · cases rowEq
        rw [moved]
        refine ⟨asks.moved _ _, ⟨fun missing => ?_, fun _ =>
          upholds.carryOut (asks.row _ _) (holds.late done)⟩⟩
        cases done.symm.trans missing

end Batches

namespace Session

variable [Scalar α] {backend : Backend α σ} {allowed : PaintCall α → Prop}
  {layers : FormLayer α → Prop} {early late : Canvas σ → Prop}

/-- A session that has kept what its calls keep. One that is done has its background, and one that
was closed has handed its target out. -/
def Upheld (allowed : PaintCall α → Prop) (layers : FormLayer α → Prop)
    (early late : Canvas σ → Prop) (origin : σ) (session : Session α σ) : Prop :=
  match session.stage with
  | .notStarted => session.backend = origin
  | .inProgress job | .failed job =>
    job.Asks allowed layers ∧ job.Holds early late session.backend
  | .done job =>
    job.continuation.backgroundDone = true ∧ job.Asks allowed layers ∧
      job.Holds early late session.backend
  | .closed => ∃ target, early ⟨session.backend, target⟩ ∨ late ⟨session.backend, target⟩

theorem fresh_upheld (allowed : PaintCall α → Prop) (layers : FormLayer α → Prop)
    (early late : Canvas σ → Prop) (origin : σ) :
    (fresh origin).Upheld allowed layers early late origin := rfl

theorem resumeJob_upheld (upholds : backend.Upholds allowed early late) {job : Job α} {state : σ}
    (asks : job.Asks allowed layers) (holds : job.Holds early late state) (origin : σ)
    (pause : Option PauseController) :
    (resumeJob backend job state pause).session.Upheld allowed layers early late origin := by
  rcases resumeJob_settled backend upholds.invariant state ⟨asks, holds⟩ pause with
    ⟨finished, stage, -, kept, none⟩ | ⟨paused, stage, -, kept, -⟩ |
      ⟨stopped, error, stage, -, kept⟩
  · simp only [Upheld, stage]
    exact ⟨(Job.batches_eq_nil_iff.mp none).1, kept⟩
  · simp only [Upheld, stage]
    exact kept
  · simp only [Upheld, stage]
    exact kept

def Opens (backend : Backend α σ) (allowed : PaintCall α → Prop) (layers : FormLayer α → Prop)
    (early : Canvas σ → Prop) (origin : σ) (request : Request α) : Prop :=
  ∀ target page config, request.opening? = some (target, page, config) →
    early ⟨(backend.prepare config origin).1, target⟩ ∧
      (Job.start target page config).Asks allowed layers

private theorem Effect.upheld (upholds : backend.Upholds allowed early late) {origin : σ}
    {session : Session α σ} {request : Request α} {served : Served α σ}
    (effect : Effect backend session request served)
    (opens : session.stage = .notStarted → Opens backend allowed layers early origin request)
    (layered : ∀ layer, request = .drawOverlay layer → layers layer)
    (upheld : session.Upheld allowed layers early late origin) :
    served.session.Upheld allowed layers early late origin := by
  cases effect with
  | opened opening accepted state ran =>
      subst ran
      obtain rfl : state = origin := upheld
      obtain ⟨start, asks⟩ := opens rfl _ _ _ opening
      exact resumeJob_upheld upholds asks ⟨fun _ => start, nofun⟩ _ _
  | resumed state job pause ran =>
      subst ran
      obtain ⟨asks, holds⟩ := upheld
      exact resumeJob_upheld upholds asks holds _ _
  | @overlaid state job layer canvas missing painted smooth =>
      subst painted
      obtain ⟨done, asks, holds⟩ := upheld
      have kept := upholds.carryOut (asks.overlay layer (layered layer rfl)) (holds.late done)
      refine ⟨done, ⟨asks.work, asks.overlay⟩, ⟨fun missing => ?_, fun _ => kept⟩⟩
      cases done.symm.trans missing
  | @overlayFailed state job layer canvas error missing painted failed =>
      subst painted
      obtain ⟨done, asks, holds⟩ := upheld
      have kept := upholds.carryOut (asks.overlay layer (layered layer rfl)) (holds.late done)
      refine ⟨⟨asks.work, asks.overlay⟩, ⟨fun missing => ?_, fun _ => kept⟩⟩
      cases done.symm.trans missing
  | closedDone state job =>
      obtain ⟨done, -, holds⟩ := upheld
      exact ⟨job.target, .inr (holds.late done)⟩
  | closedFailed state job =>
      obtain ⟨-, holds⟩ := upheld
      cases done : job.continuation.backgroundDone with
      | false => exact ⟨job.target, .inl (holds.early done)⟩
      | true => exact ⟨job.target, .inr (holds.late done)⟩

/-- What the calls keep, a session keeps whatever it is asked. Once it has taken a target, no other
one matters. -/
theorem performAll_upheld (upholds : backend.Upholds allowed early late) {origin : σ}
    {session : Session α σ} (upheld : session.Upheld allowed layers early late origin)
    {requests : List (Request α)}
    (opens : session.stage = .notStarted →
      ∀ request ∈ requests, Opens backend allowed layers early origin request)
    (layered : ∀ layer, .drawOverlay layer ∈ requests → layers layer) :
    (session.performAll backend requests).Upheld allowed layers early late origin := by
  induction requests generalizing session with
  | nil => exact upheld
  | cons request rest ih =>
      have later (layer : FormLayer α) (member : .drawOverlay layer ∈ rest) : layers layer :=
        layered layer (List.mem_cons_of_mem _ member)
      refine ih ?_ (fun untouched => ?_) later
      · rcases perform_cases backend session request with effect | ⟨reply, refused, -⟩
        · refine effect.upheld upholds (fun untouched => opens untouched _ List.mem_cons_self) ?_
            upheld
          rintro layer rfl
          exact layered layer List.mem_cons_self
        · rw [refused]
          exact upheld
      · have before : session.stage = .notStarted := Classical.byContradiction fun started =>
          step_started backend (perform_step backend session request) started untouched
        intro other member
        exact opens before other (List.mem_cons_of_mem _ member)

theorem opened_upheld (upholds : backend.Upholds allowed early late) {state : σ} {target : Target}
    {page : Page α} {config : Config} {earlier later : List (Request α)} {request : Request α}
    (untouched : ((fresh state : Session α σ).performAll backend earlier).stage = .notStarted)
    (opening : request.opening? = some (target, page, config))
    (accepted : argumentFault? target page config = none)
    (start : early ⟨(backend.prepare config state).1, target⟩)
    (asks : (Job.start target page config).Asks allowed layers)
    (layered : ∀ layer, .drawOverlay layer ∈ later → layers layer) :
    ((fresh state).performAll backend (earlier ++ request :: later)).Upheld allowed layers early
      late state := by
  obtain ⟨pause, opened⟩ := perform_opening backend opening accepted state
  have split : (fresh state).performAll backend (earlier ++ request :: later) =
      ((fresh state).perform backend request).session.performAll backend later := by
    rw [performAll_append, performAll_notStarted backend untouched]
    rfl
  rw [split, opened]
  refine performAll_upheld upholds (resumeJob_upheld upholds asks ⟨fun _ => start, nofun⟩ _ _) ?_
    layered
  intro again
  exact absurd again (resumeJob_started backend _ _ _)

theorem Upheld.of_job? {origin : σ} {session : Session α σ} {job : Job α}
    (upheld : session.Upheld allowed layers early late origin) (owned : session.job? = some job) :
    job.Holds early late session.backend := by
  obtain ⟨state, stage⟩ := session
  cases stage with
  | notStarted | closed => cases owned
  | inProgress own | failed own =>
      cases owned
      exact upheld.2
  | done own =>
      cases owned
      exact upheld.2.2

end Session

end PagePaint
