import PagePaint.Proofs.Backend.Faults
import PagePaint.Proofs.Session.Completion

set_option autoImplicit false

/-!
# A failure cuts the run where it happens

A session whose backend fails at some call has carried out exactly the calls before it, reports the
failure and the unit it happened in, and is over: nothing is painted any more, and the target comes
back with what was painted so far.
-/

namespace PagePaint

variable {α σ : Type}

namespace Job

def callsThen [Scalar α] (opened : Job α) : Option (FormLayer α) → List (PaintCall α)
  | none => opened.allCalls
  | some layer =>
    opened.allCalls ++ (Overlay.script layer opened.page opened.config).calls

end Job

namespace Session

variable [Scalar α] (backend : Backend α σ)

/-- Starts a session, resumes it to its end and then draws a form layer, if there is one. An error
ends the drive. -/
def completeThen (session : Session α σ) (target : Target) (page : Page α) (config : Config)
    (controllers : Nat → Option PauseController) (overlay : Option (FormLayer α)) : Driven α σ :=
  let driven := session.complete backend target page config controllers
  match driven.failure, overlay with
  | none, some layer =>
    let response := driven.session.drawOverlay backend layer
    match response.result with
    | .ok () => ⟨response.session, none⟩
    | .error error => ⟨response.session, some error⟩
  | _, _ => driven

/-!
## After the failure
-/

/-- What is left of a session that has failed, and was perhaps closed after that: everything is
refused, but for the one close that hands the target back. -/
structure Over (target : Target) (returned : Prop) (session : Session α σ) : Prop where
  failed : ¬returned → session.phase = .failed ∧ session.close.result = .ok target
  closed : returned →
    session.phase = .closed ∧ session.close.result = .error (.invalidState .close .closed)
  start : ∀ (other : Target) (page : Page α) (config : Config) (pause : Option PauseController),
    (session.start backend other page config pause).result =
      .error ⟨.invalidState .start session.phase, some other⟩
  resume : ∀ pause : Option PauseController,
    (session.resume backend pause).result = .error (.invalidState .resume session.phase)
  overlay : ∀ layer : FormLayer α,
    (session.drawOverlay backend layer).result = .error (.invalidState .drawOverlay session.phase)

/-- A failed session stays as it is until it is closed. -/
theorem performAll_failed (state : σ) (job : Job α) (requests : List (Request α)) :
    (⟨state, .failed job⟩ : Session α σ).performAll backend requests =
        ⟨state, .failed job⟩ ∧ .close ∉ requests ∨
      (⟨state, .failed job⟩ : Session α σ).performAll backend requests =
        ⟨state, .closed⟩ ∧ .close ∈ requests := by
  induction requests with
  | nil => exact .inl ⟨rfl, List.not_mem_nil⟩
  | cons request rest ih =>
      cases request with
      | close => exact .inr ⟨performAll_closed backend state rest, List.mem_cons_self⟩
      | start | startWithScheme | resume | drawOverlay =>
          rcases ih with ⟨failed, missing⟩ | ⟨closed, member⟩
          · exact .inl ⟨failed, by simpa using missing⟩
          · exact .inr ⟨closed, List.mem_cons_of_mem _ member⟩

private theorem performAll_over (state : σ) (job : Job α) (requests : List (Request α)) :
    let session := (⟨state, .failed job⟩ : Session α σ).performAll backend requests
    session.backend = state ∧ session.Over backend job.target (.close ∈ requests) := by
  intro session
  rcases performAll_failed backend state job requests with ⟨failed, missing⟩ | ⟨closed, member⟩
  · have sessionEq : session = ⟨state, .failed job⟩ := failed
    rw [sessionEq]
    exact ⟨rfl, fun _ => ⟨rfl, rfl⟩, fun member => absurd member missing, fun _ _ _ _ => rfl,
      fun _ => rfl, fun _ => rfl⟩
  · have sessionEq : session = ⟨state, .closed⟩ := closed
    rw [sessionEq]
    exact ⟨rfl, fun missing => absurd member missing, fun _ => ⟨rfl, rfl⟩, fun _ _ _ _ => rfl,
      fun _ => rfl, fun _ => rfl⟩

/-!
## Where the failure happens
-/

section Drives

variable {target : Target} {page : Page α} {config : Config}

theorem completeThen_layer {state : σ} {controllers : Nat → Option PauseController}
    {canvas : Canvas σ} {job : Job α}
    (driven : (fresh state).complete backend target page config controllers =
      ⟨⟨canvas.state, .done job⟩, none⟩)
    (targetEq : job.target = canvas.target) (precedes : (Job.start target page config).Precedes job)
    (missing : job.overlayDrawn = false) (layer : FormLayer α) :
    let passage := backend.carryOut (Overlay.script layer page config).calls canvas
    let finished :=
      (fresh state).completeThen backend target page config controllers (some layer)
    (passage.failure = none → finished = ⟨⟨passage.canvas.state,
      .done { job with target := passage.canvas.target, overlayDrawn := true }⟩, none⟩) ∧
    (∀ error, passage.failure = some error → finished = ⟨⟨passage.canvas.state,
      .failed { job with target := passage.canvas.target }⟩, some error⟩) := by
  have passageEq : overlayPassage backend layer job canvas.state =
      backend.carryOut (Overlay.script layer page config).calls canvas := by
    rw [overlayPassage, precedes.page, precedes.config, targetEq]
    rfl
  obtain ⟨finish, stop⟩ := drawOverlay_done backend missing canvas.state layer
  rw [passageEq] at finish stop
  intro passage finished
  constructor
  · intro smooth
    obtain ⟨result, session⟩ := finish smooth
    simp only [finished, completeThen, driven, result, session, passage]
  · intro error failed
    obtain ⟨result, session⟩ := stop error failed
    simp only [finished, completeThen, driven, result, session, passage]

private theorem completeThen_of_smooth (accepted : argumentFault? target page config = none)
    (state : σ) (controllers : Nat → Option PauseController) (overlay : Option (FormLayer α)) :
    let passage := backend.carryOut ((Job.start target page config).callsThen overlay)
      ⟨(backend.prepare config state).1, target⟩
    passage.failure = none →
      ∃ job, (fresh state).completeThen backend target page config controllers overlay =
        ⟨⟨passage.canvas.state, .done job⟩, none⟩ := by
  intro passage smooth
  cases overlay with
  | none =>
      obtain ⟨job, driven, -⟩ := complete_of_smooth backend accepted state controllers smooth
      exact ⟨job, by simp only [completeThen, driven, passage, Job.callsThen]⟩
  | some layer =>
      have base := backend.carryOut_smooth_of_append smooth
      obtain ⟨job, driven, targetEq, precedes, missing, -⟩ :=
        complete_of_smooth backend accepted state controllers base
      have whole := backend.carryOut_append_of_smooth
        (Overlay.script layer page config).calls base
      have passageEq : passage = _ := whole
      rw [passageEq] at smooth ⊢
      exact ⟨_, (completeThen_layer backend driven targetEq precedes missing layer).1 smooth⟩

theorem completeThen_of_failed (accepted : argumentFault? target page config = none) (state : σ)
    (controllers : Nat → Option PauseController) (overlay : Option (FormLayer α)) :
    let opened := Job.start target page config
    let passage := backend.carryOut (opened.callsThen overlay)
      ⟨(backend.prepare config state).1, target⟩
    ∀ raised, passage.failure = some raised →
      ∃ (job : Job α) (issuer : Issuer),
        (fresh state).completeThen backend target page config controllers overlay =
          ⟨⟨passage.canvas.state, .failed job⟩, some (issuer.report raised)⟩ ∧
        job.target = passage.canvas.target ∧
        Issues opened.renderer opened.work passage.carried issuer ∧
        job.continuation.cursor = issuer.cursor opened.work.length := by
  intro opened passage raised failed
  cases overlay with
  | none =>
      obtain ⟨job, issuer, driven, rest⟩ :=
        complete_of_failed backend accepted state controllers raised failed
      exact ⟨job, issuer, by simp only [completeThen, driven, passage, Job.callsThen]; rfl, rest⟩
  | some layer =>
      cases base : (backend.carryOut opened.allCalls
          ⟨(backend.prepare config state).1, target⟩).failure with
      | some first =>
          have whole := backend.carryOut_append_of_failed
            (Overlay.script layer page config).calls base
          have passageEq : passage = _ := whole
          rw [passageEq] at failed ⊢
          obtain ⟨job, issuer, driven, rest⟩ :=
            complete_of_failed backend accepted state controllers raised failed
          exact ⟨job, issuer, by simp only [completeThen, driven]; rfl, rest⟩
      | none =>
          obtain ⟨job, driven, targetEq, precedes, missing, cursor⟩ :=
            complete_of_smooth backend accepted state controllers base
          have whole := backend.carryOut_append_of_smooth
            (Overlay.script layer page config).calls base
          have passageEq : passage = _ := whole
          rw [passageEq] at failed ⊢
          have finished :=
            (completeThen_layer backend driven targetEq precedes missing layer).2 raised failed
          refine ⟨_, .overlay, finished, rfl, ?_, cursor⟩
          have number : opened.allCalls.length =
              (unitCalls opened.renderer opened.work).length + 1 := rfl
          rw [Passage.behind_carried, number, Nat.add_right_comm]
          exact .overlay (Nat.le_add_right _ _)

end Drives

/-!
## Planned faults
-/

private theorem completeThen_watching (backend : Backend α σ) {target : Target} {page : Page α}
    {config : Config} (accepted : argumentFault? target page config = none) (state : σ)
    (controllers : Nat → Option PauseController) (overlay : Option (FormLayer α))
    (calm : ((fresh ⟨#[], state⟩).completeThen backend.watching target page config controllers
      overlay).failure = none) :
    let calls := (Job.start target page config).callsThen overlay
    (backend.watching.carryOut calls
        ⟨⟨#[], (backend.prepare config state).1⟩, target⟩).failure = none ∧
      ((fresh ⟨#[], state⟩).completeThen backend.watching target page config controllers
        overlay).session.backend.calls.toList = calls := by
  intro calls
  cases outcome : (backend.watching.carryOut calls
      ⟨⟨#[], (backend.prepare config state).1⟩, target⟩).failure with
  | some raised =>
      obtain ⟨job, issuer, driven, -⟩ := completeThen_of_failed backend.watching accepted
        ⟨#[], state⟩ controllers overlay raised outcome
      rw [driven] at calm
      cases calm
  | none =>
      obtain ⟨job, driven⟩ := completeThen_of_smooth backend.watching accepted ⟨#[], state⟩
        controllers overlay outcome
      obtain ⟨-, canvasEq⟩ := backend.watching_carryOut outcome
      have seen : (backend.watching.carryOut calls
          ⟨⟨#[], (backend.prepare config state).1⟩, target⟩).canvas.state.calls.toList = calls := by
        rw [canvasEq]
        simp
      rw [driven]
      exact ⟨rfl, seen⟩

/-- The first fault in the calls of a drive decides everything: which calls are carried out, what
the session owns, what is reported, and that nothing follows. Neither the controllers nor later
faults of the plan matter. -/
theorem completeThen_fault (backend : Backend α σ) (plan : Backend.FaultPlan) {target : Target}
    {page : Page α} {config : Config} (accepted : argumentFault? target page config = none)
    (state : σ) {controllers : Nat → Option PauseController} {overlay : Option (FormLayer α)}
    {calls : List (PaintCall α)} {number : Nat}
    (calm : ((fresh ⟨#[], state⟩).completeThen backend.watching target page config controllers
      overlay).failure = none)
    (made : ((fresh ⟨#[], state⟩).completeThen backend.watching target page config controllers
      overlay).session.backend.calls.toList = calls)
    (first : plan.FirstAt number) (reached : number < calls.length)
    (others : Nat → Option PauseController) :
    let faulty := Backend.failing plan backend.watching
    let driven :=
      (fresh ⟨0, ⟨#[], state⟩⟩).completeThen faulty target page config others overlay
    let before := backend.carryOut (calls.take number) ⟨(backend.prepare config state).1, target⟩
    driven.session.backend.state.calls.toList = calls.take number ∧
      ∃ (job : Job α) (issuer : Issuer),
        driven.session.stage = .failed job ∧
        Issues (.ofConfig page config) (workList page config) number issuer ∧
        job.continuation.cursor = issuer.cursor (workList page config).length ∧
        driven.failure = some (issuer.report (plan.error number)) ∧
        before.canvas = ⟨driven.session.backend.state.state, job.target⟩ ∧
        ∀ later : List (Request α),
          let session := driven.session.performAll faulty later
          session.backend = driven.session.backend ∧
            session.Over faulty job.target (.close ∈ later) := by
  obtain ⟨smooth, same⟩ :=
    completeThen_watching backend accepted state controllers overlay calm
  obtain rfl : (Job.start target page config).callsThen overlay = calls := same.symm.trans made
  intro faulty driven before
  have cut : faulty.carryOut ((Job.start target page config).callsThen overlay)
      ⟨(faulty.prepare config ⟨0, ⟨#[], state⟩⟩).1, target⟩ = _ :=
    Backend.failing_watching_carryOut plan backend first reached smooth
  obtain ⟨job, issuer, ended, targetEq, issues, cursor⟩ := completeThen_of_failed faulty accepted
    ⟨0, ⟨#[], state⟩⟩ others overlay (plan.error number) (congrArg Passage.failure cut)
  rw [cut] at ended targetEq issues
  have drivenEq : driven = _ := ended
  rw [drivenEq]
  refine ⟨rfl, job, issuer, rfl, issues, cursor, rfl, ?_, fun later => ?_⟩
  · rw [targetEq]
  · exact performAll_over faulty _ job later

theorem completeThen_fault_small :
    let config := (Config.ofSize 2 2).withStepLimit 1
    let layer : FormLayer Rat := .ofPage none
    let plan : Backend.FaultPlan := ⟨fun number => decide (4 ≤ number), fun _ =>
      .backend none (.reported "refused")⟩
    let calm := (fresh ⟨#[], (#[] : Record Rat)⟩).completeThen Backend.recorder.watching smallTarget
      smallPage config (fun _ => none) (some layer)
    let driven := (fresh ⟨0, ⟨#[], (#[] : Record Rat)⟩⟩).completeThen
      (Backend.failing plan Backend.recorder.watching) smallTarget smallPage config
      (fun _ => some .always) (some layer)
    argumentFault? smallTarget smallPage config = none ∧ calm.failure = none ∧
      plan.FirstAt 4 ∧ 4 < calm.session.backend.calls.toList.length ∧
      driven.session.backend.state.calls.toList = calm.session.backend.calls.toList.take 4 ∧
      driven.failure = some (.backend (some 1) (.reported "refused")) := by
  intro config layer plan calm driven
  have accepted : argumentFault? smallTarget smallPage config = none := by decide +kernel
  have smooth : calm.failure = none := by decide +kernel
  have first : plan.FirstAt 4 := by
    refine ⟨rfl, fun earlier before => ?_⟩
    exact decide_eq_false (Nat.not_le_of_lt before)
  have reached : 4 < calm.session.backend.calls.toList.length := by decide +kernel
  have cut := completeThen_fault .recorder plan accepted (#[] : Record Rat) smooth rfl first
    reached fun _ => some .always
  exact ⟨accepted, smooth, first, reached, cut.1, by decide +kernel⟩

end Session

end PagePaint
