import PagePaint.Backend.Recorder
import PagePaint.Proofs.Paint.Order
import PagePaint.Proofs.Session.History

set_option autoImplicit false

/-!
# What a backend is asked before the overlay

A session asks its backend to prepare, to clear once, and then for the calls of the painting order,
unit by unit. However far it has come, the record is complete up to the cursor and holds nothing
beyond it.
-/

namespace PagePaint

variable {α σ : Type}

namespace Backend

/-- A backend that keeps a record of what it is asked and otherwise behaves as before. -/
def recording (backend : Backend α σ) : Backend α (Record α × σ) where
  prepare config kept :=
    let (state, log) := backend.prepare config kept.2
    ((kept.1.push (.prepared config.flags), state), log)
  paint made canvas :=
    let painted := backend.paint made ⟨canvas.state.2, canvas.target⟩
    { painted with
      canvas :=
        ⟨(canvas.state.1.push (.painted made), painted.canvas.state), painted.canvas.target⟩ }

theorem recording_carryOut (backend : Backend α σ) {calls : List (PaintCall α)}
    {canvas : Canvas (Record α × σ)}
    (smooth : (backend.recording.carryOut calls canvas).failure = none) :
    (backend.recording.carryOut calls canvas).canvas.state.1.toList =
      canvas.state.1.toList ++ calls.map .painted := by
  induction calls generalizing canvas with
  | nil => exact (List.append_nil _).symm
  | cons made rest ih =>
      cases painted : (backend.recording.paint made canvas).failure with
      | some error =>
          rw [carryOut_cons_failed _ rest painted] at smooth
          cases smooth
      | none =>
          rw [carryOut_cons_painted _ rest painted] at smooth ⊢
          rw [Passage.behind_canvas, ih smooth]
          simp [recording]

end Backend

namespace Job

variable [Scalar α]

theorem doneCalls_start (target : Target) (page : Page α) (config : Config)
    {continuation : Continuation} (done : continuation.backgroundDone = true) :
    (Job.start target page config).doneCalls continuation =
      .clear (config.background.getD target.defaultBackground) ::
        ((PaintingOrder.units page config).take continuation.cursor).flatten := by
  rw [doneCalls, if_pos done, ← PaintingOrder.workList_calls, ← List.map_take]
  rfl

private theorem start_work_length (target : Target) (page : Page α) (config : Config) :
    (Job.start target page config).work.length = (PaintingOrder.units page config).length := by
  rw [← PaintingOrder.workList_calls, List.length_map]
  rfl

/-- All calls of an opening: the background, and then those of the painting order. -/
theorem allCalls_start (target : Target) (page : Page α) (config : Config) :
    (Job.start target page config).allCalls =
      .clear (config.background.getD target.defaultBackground) ::
        (PaintingOrder.units page config).flatten := by
  rw [← PaintingOrder.workList_calls]
  rfl

end Job

namespace Session

variable [Scalar α]

/-- A session that was opened: as long as no call has failed and no overlay was drawn, its job
follows the calls of the opening. -/
def Traced (backend : Backend α σ) (opened : Job α) (origin : σ) (session : Session α σ) : Prop :=
  match session.stage with
  | .notStarted => False
  | .inProgress job =>
    opened.Follows backend origin job session.backend ∧ job.continuation.backgroundDone = true
  | .done job =>
    job.overlayDrawn = false →
      opened.Follows backend origin job session.backend ∧
        job.continuation.backgroundDone = true ∧ job.batches = []
  | .failed _ | .closed => True

theorem resumeJob_traced (backend : Backend α σ) {opened : Job α} {origin : σ} {job : Job α}
    {state : σ} (follows : opened.Follows backend origin job state)
    (pause : Option PauseController) :
    (resumeJob backend job state pause).session.Traced backend opened origin := by
  rcases resumeJob_settled backend (Job.follows_invariant backend opened origin) state follows
    pause with ⟨finished, stage, -, held, none⟩ | ⟨paused, stage, -, held, -⟩ |
      ⟨stopped, error, stage, -, -⟩
  · simp only [Traced, stage]
    exact fun _ => ⟨held, (Job.batches_eq_nil_iff.mp none).1, none⟩
  · simp only [Traced, stage]
    exact held
  · simp only [Traced, stage]

theorem step_traced (backend : Backend α σ) {opened : Job α} {origin : σ}
    {before after : Session α σ} (step : Step backend before after)
    (traced : before.Traced backend opened origin) : after.Traced backend opened origin := by
  cases step with
  | refused => exact traced
  | started => exact traced.elim
  | resumed state job pause => exact resumeJob_traced backend traced.1 pause
  | overlaid => exact nofun
  | overlayFailed | closedDone | closedFailed => trivial

omit [Scalar α] in
theorem stage_of_inProgress {session : Session α σ} (phase : session.phase = .inProgress) :
    ∃ job, session.stage = .inProgress job := by
  obtain ⟨state, stage⟩ := session
  cases stage with
  | inProgress job => exact ⟨job, rfl⟩
  | notStarted | done job | failed job | closed => cases phase

/-- Between any two requests, as long as no call has failed and no overlay was drawn, the record
is exactly the preparation, one clear and the calls of the units before the cursor. The cursor stays
within the units, and it is past the last one when the session is done. Closing the session adds
nothing. -/
theorem performAll_record (backend : Backend α σ) (state : σ) {target : Target} {page : Page α}
    {config : Config} {earlier : List (Request α)} {request : Request α}
    (untouched : ((fresh (#[], state)).performAll backend.recording earlier).stage = .notStarted)
    (opening : request.opening? = some (target, page, config))
    (accepted : argumentFault? target page config = none) (later : List (Request α)) :
    let session := (fresh (#[], state)).performAll backend.recording (earlier ++ request :: later)
    let calls (cursor : Nat) : List (PaintCall α) :=
      .clear (config.background.getD target.defaultBackground) ::
        ((PaintingOrder.units page config).take cursor).flatten
    ∀ job, session.stage = .inProgress job ∨
        session.stage = .done job ∧ job.overlayDrawn = false →
      session.backend.1.toList =
          .prepared config.flags :: (calls job.continuation.cursor).map .painted ∧
        job.continuation.cursor ≤ (PaintingOrder.units page config).length ∧
        (session.phase = .done →
          job.continuation.cursor = (PaintingOrder.units page config).length ∧
            ∀ more : List (Request α),
              (session.performAll backend.recording (.close :: more)).backend.1 =
                session.backend.1) := by
  intro session calls job stage
  obtain ⟨pause, opened⟩ :=
    perform_opening backend.recording opening accepted (#[], state)
  have traced : session.Traced backend.recording (.start target page config)
      (backend.recording.prepare config (#[], state)).1 := by
    have split : session = ((fresh (#[], state)).perform backend.recording
        request).session.performAll backend.recording later := by
      simp only [session, performAll_append, performAll_notStarted backend.recording untouched]
      rfl
    rw [split, opened]
    exact performAll_keeps backend.recording (step_traced backend.recording)
      (resumeJob_traced backend.recording (Job.follows_start _ target page config _) pause) later
  obtain ⟨follows, done, finished⟩ : (Job.start target page config).Follows backend.recording
      (backend.recording.prepare config (#[], state)).1 job session.backend ∧
        job.continuation.backgroundDone = true ∧ (session.phase = .done → job.batches = []) := by
    rcases stage with paused | ⟨finished, missing⟩
    · simp only [Traced, paused] at traced
      have unfinished : session.phase ≠ .done := by simp [phase, paused, Stage.phase]
      exact ⟨traced.1, traced.2, fun finished => absurd finished unfinished⟩
    · simp only [Traced, finished] at traced
      obtain ⟨follows, done, none⟩ := traced missing
      exact ⟨follows, done, fun _ => none⟩
  have total := Job.start_work_length target page config
  refine ⟨?_, total ▸ follows.inside, fun ended => ⟨?_, fun more => ?_⟩⟩
  · have recorded := backend.recording_carryOut follows.smooth
    rw [follows.canvas, Job.doneCalls_start target page config done] at recorded
    exact recorded
  · exact (follows.cursor_of_finished (finished ended)).trans total
  · rw [performAll_close backend.recording (.inl ended)]

theorem performAll_record_small :
    let backend := (Backend.recorder (α := Rat)).recording
    let config := (Config.ofSize 2 2).withStepLimit 1
    let request : Request Rat := .start smallTarget smallPage config (some (.ofInterval 2))
    let idle := (fresh (#[], #[])).performAll backend [.resume none]
    let session := (fresh (#[], #[])).performAll backend [.resume none, request, .close]
    idle.stage = .notStarted ∧ request.opening? = some (smallTarget, smallPage, config) ∧
      argumentFault? smallTarget smallPage config = none ∧ session.phase = .inProgress ∧
      session.continuation?.map Continuation.cursor = some 1 ∧
      session.backend.1.toList = .prepared .empty ::
        (.clear .transparent ::
          ((PaintingOrder.units smallPage config).take 1).flatten).map .painted := by
  intro backend config request idle session
  have untouched : idle.stage = .notStarted := rfl
  have opening : request.opening? = some (smallTarget, smallPage, config) := rfl
  have accepted : argumentFault? smallTarget smallPage config = none := by decide +kernel
  have phase : session.phase = .inProgress := by decide +kernel
  have cursor : session.continuation?.map Continuation.cursor = some 1 := by decide +kernel
  obtain ⟨job, stage⟩ := stage_of_inProgress phase
  have first : job.continuation.cursor = 1 := by
    simpa [continuation?, job?, stage, Stage.job?] using cursor
  have recorded := (performAll_record .recorder (#[] : Record Rat) untouched opening accepted
    [.close] job (.inl stage)).1
  rw [first] at recorded
  exact ⟨untouched, opening, accepted, phase, cursor, recorded⟩

end Session

end PagePaint
