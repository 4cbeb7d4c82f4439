import PagePaint.Backend.Recorder
import PagePaint.Proofs.Session.Completion

set_option autoImplicit false

/-!
# Pauses leave no trace

The step limit and the controllers decide where a session is interrupted, and nothing else. A page
that is painted in one go and the same page painted with any interruptions end alike: in the same
phase, with the same pixels and the same state of the backend, after the same calls and with the
same error, if there was one. What follows cannot tell them apart.
-/

namespace PagePaint

variable {α σ : Type}

structure Config.SameButStepLimit (left right : Config) : Prop where
  rect : left.rect = right.rect
  rotation : left.rotation = right.rotation
  flags : left.flags = right.flags
  scheme : left.scheme = right.scheme
  background : left.background = right.background

/-- The preparation of the backend does not read the step limit. -/
def Backend.IgnoresStepLimit (backend : Backend α σ) : Prop :=
  ∀ {left right : Config}, left.SameButStepLimit right → ∀ state : σ,
    (backend.prepare left state).1 = (backend.prepare right state).1

private theorem Backend.IgnoresStepLimit.watching {backend : Backend α σ}
    (ignores : backend.IgnoresStepLimit) : backend.watching.IgnoresStepLimit := by
  intro left right same watched
  simp only [Backend.watching, ignores same watched.state]

private theorem Backend.recorder_ignoresStepLimit :
    (Backend.recorder : Backend α (Record α)).IgnoresStepLimit := by
  intro left right same record
  simp only [Backend.recorder, same.flags]

structure Job.Alike (left right : Job α) : Prop where
  target : left.target = right.target
  page : left.page = right.page
  config : left.config.SameButStepLimit right.config
  work : left.work = right.work
  background : left.continuation.backgroundDone = right.continuation.backgroundDone
  cursor : left.continuation.cursor = right.continuation.cursor
  total : left.continuation.total = right.continuation.total
  overlay : left.overlayDrawn = right.overlayDrawn

inductive Stage.Alike : Stage α → Stage α → Prop where
  | notStarted : Alike .notStarted .notStarted
  | inProgress {left right : Job α} (jobs : left.Alike right) :
      Alike (.inProgress left) (.inProgress right)
  | done {left right : Job α} (jobs : left.Alike right) : Alike (.done left) (.done right)
  | failed {left right : Job α} (jobs : left.Alike right) : Alike (.failed left) (.failed right)
  | closed : Alike .closed .closed

structure Session.Alike (left right : Session α σ) : Prop where
  backend : left.backend = right.backend
  stage : left.stage.Alike right.stage

namespace Config.SameButStepLimit

variable {left right : Config}

private theorem workList_eq (same : left.SameButStepLimit right) (page : Page α) :
    workList page left = workList page right := by
  have annots : baseAnnots page left = baseAnnots page right := by
    rw [baseAnnots, baseAnnots, paintsAnnotations, paintsAnnotations, isPrinting, isPrinting,
      same.flags]
  rw [workList, workList, annots]

variable [Scalar α]

private theorem argumentFault_eq (same : left.SameButStepLimit right) (target : Target)
    (page : Page α) :
    Session.argumentFault? target page left = Session.argumentFault? target page right := by
  simp only [Session.argumentFault?, same.rect]

private theorem renderer_eq (same : left.SameButStepLimit right) (page : Page α) :
    Renderer.ofConfig page left = Renderer.ofConfig page right := by
  simp only [Renderer.ofConfig, Renderer.withPolicy, ColorPolicy.ofConfig, strokesFills, same.rect,
    same.rotation, same.flags, same.scheme]

private theorem overlayScript_eq (same : left.SameButStepLimit right) (layer : FormLayer α)
    (page : Page α) : Overlay.script layer page left = Overlay.script layer page right := by
  simp only [Overlay.script, Renderer.native, Renderer.withPolicy, isPrinting, same.rect,
    same.rotation, same.flags]

end Config.SameButStepLimit

/-!
## The same calls lead to the same end
-/

namespace Job

private theorem start_alike {left right : Config} (same : left.SameButStepLimit right)
    (target : Target) (page : Page α) :
    (Job.start target page left).Alike (.start target page right) where
  target := rfl
  page := rfl
  config := same
  work := same.workList_eq page
  background := rfl
  cursor := rfl
  total := congrArg List.length (same.workList_eq page)
  overlay := rfl

theorem Alike.later {openedLeft openedRight left right : Job α}
    (alike : openedLeft.Alike openedRight) (before : openedLeft.Precedes left)
    (before' : openedRight.Precedes right) (target : left.target = right.target)
    (background : left.continuation.backgroundDone = right.continuation.backgroundDone)
    (cursor : left.continuation.cursor = right.continuation.cursor)
    (overlay : left.overlayDrawn = right.overlayDrawn) : left.Alike right where
  target := target
  page := by rw [before.page, before'.page, alike.page]
  config := by rw [before.config, before'.config]; exact alike.config
  work := by rw [before.work, before'.work, alike.work]
  background := background
  cursor := cursor
  total := by rw [before.total, before'.total, alike.total]
  overlay := overlay

variable [Scalar α]

theorem Alike.renderer_eq {left right : Job α} (alike : left.Alike right) :
    left.renderer = right.renderer := by
  rw [renderer, renderer, alike.page, alike.config.renderer_eq]

theorem Alike.allCalls_eq {left right : Job α} (alike : left.Alike right) :
    left.allCalls = right.allCalls := by
  rw [allCalls, allCalls, alike.renderer_eq, alike.work, Job.background, Job.background,
    alike.target, alike.config.background]

section Ends

variable {backend : Backend α σ} {openedLeft openedRight left right : Job α}
  {origin stateLeft stateRight : σ}

private theorem Follows.alike (alike : openedLeft.Alike openedRight)
    (followsLeft : Follows backend openedLeft origin left stateLeft)
    (finishedLeft : left.batches = [])
    (followsRight : Follows backend openedRight origin right stateRight)
    (finishedRight : right.batches = []) : stateLeft = stateRight ∧ left.Alike right := by
  have canvasLeft := (followsLeft.carryOut_of_finished finishedLeft).2
  have canvasRight := (followsRight.carryOut_of_finished finishedRight).2
  rw [alike.allCalls_eq, alike.target, canvasRight] at canvasLeft
  obtain ⟨stateEq, targetEq⟩ := Canvas.mk.inj canvasLeft
  refine ⟨stateEq.symm, alike.later followsLeft.precedes followsRight.precedes targetEq.symm ?_ ?_
    (followsLeft.overlay.trans followsRight.overlay.symm)⟩
  · rw [(batches_eq_nil_iff.mp finishedLeft).1, (batches_eq_nil_iff.mp finishedRight).1]
  · rw [followsLeft.cursor_of_finished finishedLeft,
      followsRight.cursor_of_finished finishedRight, alike.work]

/-- A failing call has one number, one issuer and one report. -/
theorem Broken.alike {errorLeft errorRight : Error} (alike : openedLeft.Alike openedRight)
    (brokenLeft : Broken backend openedLeft origin left stateLeft errorLeft)
    (brokenRight : Broken backend openedRight origin right stateRight errorRight) :
    stateLeft = stateRight ∧ left.Alike right ∧ errorLeft = errorRight := by
  have canvasLeft := brokenLeft.canvas
  obtain ⟨raised, issuer, failed, issues, errorEq, cursorEq, backgroundIff⟩ := brokenLeft.issuer
  obtain ⟨raised', issuer', failed', issues', errorEq', cursorEq', backgroundIff'⟩ :=
    brokenRight.issuer
  rw [alike.allCalls_eq, alike.target] at canvasLeft failed issues
  rw [alike.renderer_eq, alike.work] at issues
  obtain ⟨stateEq, targetEq⟩ := Canvas.mk.inj (canvasLeft.symm.trans brokenRight.canvas)
  obtain rfl : raised = raised' := Option.some.inj (failed.symm.trans failed')
  obtain rfl : issuer = issuer' := issues.unique issues'
  have totalEq : left.continuation.total = right.continuation.total := by
    rw [brokenLeft.precedes.total, brokenRight.precedes.total, alike.total]
  refine ⟨stateEq, alike.later brokenLeft.precedes brokenRight.precedes targetEq ?_ ?_
    (brokenLeft.overlay.trans brokenRight.overlay.symm), errorEq.trans errorEq'.symm⟩
  · exact Bool.eq_iff_iff.mpr (backgroundIff.trans backgroundIff'.symm)
  · rw [cursorEq, cursorEq', totalEq]

private theorem Follows.not_broken {error : Error}
    (calls : openedLeft.allCalls = openedRight.allCalls)
    (target : openedLeft.target = openedRight.target)
    (follows : Follows backend openedLeft origin left stateLeft) (finished : left.batches = [])
    (broken : Broken backend openedRight origin right stateRight error) : False := by
  have smooth := (follows.carryOut_of_finished finished).1
  obtain ⟨raised, issuer, failed, -⟩ := broken.issuer
  rw [calls, target, failed] at smooth
  cases smooth

end Ends

end Job

namespace Session

variable [Scalar α] {backend : Backend α σ}

private theorem ended_alike {openedLeft openedRight : Job α} (alike : openedLeft.Alike openedRight)
    {origin : σ} {left right : Session α σ} {failureLeft failureRight : Option Error}
    (endedLeft : left.Ended (Job.Follows backend openedLeft origin)
      (Job.Broken backend openedLeft origin) failureLeft)
    (endedRight : right.Ended (Job.Follows backend openedRight origin)
      (Job.Broken backend openedRight origin) failureRight) :
    left.Alike right ∧ failureLeft = failureRight ∧ right.phase ≠ .inProgress := by
  obtain ⟨stateLeft, stageLeft⟩ := left
  obtain ⟨stateRight, stageRight⟩ := right
  have calls := alike.allCalls_eq
  rcases endedLeft with ⟨jobLeft, rfl, rfl, followsLeft, finishedLeft⟩ |
      ⟨jobLeft, errorLeft, rfl, rfl, brokenLeft⟩ <;>
    rcases endedRight with ⟨jobRight, rfl, rfl, followsRight, finishedRight⟩ |
      ⟨jobRight, errorRight, rfl, rfl, brokenRight⟩
  · obtain ⟨stateEq, jobs⟩ := followsLeft.alike alike finishedLeft followsRight finishedRight
    exact ⟨⟨stateEq, .done jobs⟩, rfl, by simp [phase, Stage.phase]⟩
  · exact (followsLeft.not_broken calls alike.target finishedLeft brokenRight).elim
  · exact (followsRight.not_broken calls.symm alike.target.symm finishedRight brokenLeft).elim
  · obtain ⟨stateEq, jobs, errorEq⟩ := brokenLeft.alike alike brokenRight
    exact ⟨⟨stateEq, .failed jobs⟩, congrArg some errorEq, by simp [phase, Stage.phase]⟩

/-- Two callers who start alike, with any controllers, end alike. -/
theorem complete_alike (ignores : backend.IgnoresStepLimit) {left right : Config}
    (same : left.SameButStepLimit right) (target : Target) (page : Page α) (state : σ)
    (controllersLeft controllersRight : Nat → Option PauseController) :
    let drivenLeft := (fresh state).complete backend target page left controllersLeft
    let drivenRight := (fresh state).complete backend target page right controllersRight
    drivenLeft.session.Alike drivenRight.session ∧ drivenLeft.failure = drivenRight.failure ∧
      drivenRight.session.phase ≠ .inProgress := by
  have faultEq := same.argumentFault_eq target page
  cases fault : argumentFault? target page right with
  | some found =>
      simp only [complete, start, fresh, faultEq, fault, refuse, startFailure]
      exact ⟨⟨rfl, .notStarted⟩, trivial, by simp [phase, Stage.phase]⟩
  | none =>
      have alike := Job.start_alike same target page
      have endedLeft := complete_follows backend (faultEq.trans fault) state controllersLeft
      have endedRight := complete_follows backend fault state controllersRight
      simp only [ignores same state] at endedLeft
      exact ended_alike alike endedLeft endedRight

/-!
## What follows
-/

private theorem overlayPassage_eq {left right : Job α} (alike : left.Alike right)
    (layer : FormLayer α) (state : σ) :
    overlayPassage backend layer left state = overlayPassage backend layer right state := by
  rw [overlayPassage, overlayPassage, alike.page, alike.config.overlayScript_eq, alike.target]

private theorem drawOverlay_alike (backend : Backend α σ) {left right : Session α σ}
    (alike : left.Alike right) (layer : FormLayer α) :
    (left.drawOverlay backend layer).result = (right.drawOverlay backend layer).result ∧
      (left.drawOverlay backend layer).session.Alike
        (right.drawOverlay backend layer).session := by
  obtain ⟨state, stageLeft⟩ := left
  obtain ⟨stateRight, stageRight⟩ := right
  obtain ⟨rfl, stages⟩ := alike
  cases stages with
  | notStarted => exact ⟨rfl, rfl, .notStarted⟩
  | inProgress jobs => exact ⟨rfl, rfl, .inProgress jobs⟩
  | failed jobs => exact ⟨rfl, rfl, .failed jobs⟩
  | closed => exact ⟨rfl, rfl, .closed⟩
  | @done left right jobs =>
      cases drawn : right.overlayDrawn with
      | true =>
          have drawnLeft := jobs.overlay.trans drawn
          simp only [drawOverlay, drawn, drawnLeft, if_true, refuseOperation, refuse]
          exact ⟨rfl, rfl, .done jobs⟩
      | false =>
          obtain ⟨finishLeft, stopLeft⟩ :=
            drawOverlay_done backend (jobs.overlay.trans drawn) state layer
          obtain ⟨finishRight, stopRight⟩ := drawOverlay_done backend drawn state layer
          rw [overlayPassage_eq jobs] at finishLeft stopLeft
          cases outcome : (overlayPassage backend layer right state).failure with
          | none =>
              obtain ⟨resultLeft, sessionLeft⟩ := finishLeft outcome
              obtain ⟨resultRight, sessionRight⟩ := finishRight outcome
              rw [resultLeft, resultRight, sessionLeft, sessionRight]
              exact ⟨rfl, rfl, .done { jobs with target := rfl, overlay := rfl }⟩
          | some error =>
              obtain ⟨resultLeft, sessionLeft⟩ := stopLeft error outcome
              obtain ⟨resultRight, sessionRight⟩ := stopRight error outcome
              rw [resultLeft, resultRight, sessionLeft, sessionRight]
              exact ⟨rfl, rfl, .failed { jobs with target := rfl }⟩

omit [Scalar α] in
private theorem close_alike {left right : Session α σ} (alike : left.Alike right) :
    left.close.result = right.close.result ∧ left.close.session.Alike right.close.session := by
  obtain ⟨state, stageLeft⟩ := left
  obtain ⟨stateRight, stageRight⟩ := right
  obtain ⟨rfl, stages⟩ := alike
  cases stages with
  | notStarted => exact ⟨rfl, rfl, .notStarted⟩
  | inProgress jobs => exact ⟨rfl, rfl, .inProgress jobs⟩
  | done jobs | failed jobs => exact ⟨congrArg Except.ok jobs.target, rfl, .closed⟩
  | closed => exact ⟨rfl, rfl, .closed⟩

/-- A session started without a controller and one that is paused and resumed at will, with any
controllers and another step limit, make the same calls and end alike; a form layer and the close
then give the same results. -/
theorem start_pause_invariant (backend : Backend α σ) (ignores : backend.IgnoresStepLimit)
    {left right : Config} (same : left.SameButStepLimit right) (target : Target) (page : Page α)
    (state : σ) (controllers : Nat → Option PauseController) :
    let straight := (fresh state).start backend target page left none
    let paused := (fresh state).complete backend target page right controllers
    (straight.session.Alike paused.session ∧
        startFailure straight.result = paused.failure ∧ paused.session.phase ≠ .inProgress) ∧
      ((fresh ⟨#[], state⟩).start backend.watching target page left none).session.backend.calls =
        ((fresh ⟨#[], state⟩).complete backend.watching target page right
          controllers).session.backend.calls ∧
      (straight.session.close.result = paused.session.close.result ∧
        straight.session.close.session.Alike paused.session.close.session) ∧
      ∀ layer : FormLayer α,
        let overlaid := straight.session.drawOverlay backend layer
        let overlaid' := paused.session.drawOverlay backend layer
        overlaid.result = overlaid'.result ∧ overlaid.session.Alike overlaid'.session ∧
          overlaid.session.close.result = overlaid'.session.close.result ∧
          overlaid.session.close.session.Alike overlaid'.session.close.session := by
  intro straight paused
  have ends := complete_alike ignores same target page state (fun _ => none) controllers
  have watched := complete_alike ignores.watching same target page ⟨#[], state⟩ (fun _ => none)
    controllers
  rw [complete_without_controllers] at ends watched
  refine ⟨ends, congrArg Backend.Watched.calls watched.1.backend, close_alike ends.1,
    fun layer => ?_⟩
  obtain ⟨results, sessions⟩ := drawOverlay_alike backend ends.1 layer
  exact ⟨results, sessions, close_alike sessions⟩

theorem start_pause_invariant_small :
    let config := Config.ofSize 2 2
    let slow := config.withStepLimit 1
    let state : Record Rat := #[]
    Backend.IgnoresStepLimit (Backend.recorder (α := Rat)) ∧ config.SameButStepLimit slow ∧
      argumentFault? smallTarget smallPage config = none ∧
      ((fresh state).start .recorder smallTarget smallPage config (some .always)).session.phase =
        .inProgress ∧
      ((fresh state).start .recorder smallTarget smallPage config none).session.Alike
        ((fresh state).complete .recorder smallTarget smallPage slow fun _ =>
          some .always).session := by
  intro config slow state
  have ignores : Backend.IgnoresStepLimit (Backend.recorder (α := Rat)) :=
    Backend.recorder_ignoresStepLimit
  have same : config.SameButStepLimit slow := ⟨rfl, rfl, rfl, rfl, rfl⟩
  refine ⟨ignores, same, by decide +kernel, by decide +kernel, ?_⟩
  exact (start_pause_invariant .recorder ignores same smallTarget smallPage state
    fun _ => some .always).1.1

end Session

end PagePaint
