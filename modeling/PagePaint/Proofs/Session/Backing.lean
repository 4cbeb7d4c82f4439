import PagePaint.Proofs.Backend.Opacity
import PagePaint.Proofs.Backend.Shape
import PagePaint.Proofs.Session.CallInvariant

set_option autoImplicit false

/-!
# Sessions on targets without an alpha channel

From its first background on, a target without an alpha channel has full alpha in every pixel. It
may be filled, overwritten in parts, painted on and handed to further sessions in any order, and the
sessions may be paused, fail or draw a form layer.
-/

namespace PagePaint

namespace Target

variable {origin target : Target}

/-- A job that some session on a provided backend has come to, since it was opened with a target: it
may have been paused, have failed or be done, and a form layer may have been drawn. -/
inductive Rendered (given : Target) (job : Job Float32) : Prop where
  | intro {σ : Type} {backend : Backend Float32 σ} (provided : backend.Provided) {state : σ}
      {page : Page Float32} {config : Config} {earlier later : List (Request Float32)}
      {request : Request Float32}
      (untouched : ((Session.fresh state).performAll backend earlier).stage = .notStarted)
      (opening : request.opening? = some (given, page, config))
      (accepted : Session.argumentFault? given page config = none)
      (owned : ((Session.fresh state).performAll backend
        (earlier ++ request :: later)).job? = some job) : Rendered given job

/-- Targets without an alpha channel that have a background: what a fill leaves, and what a session
exposes once it has painted the background. -/
inductive Grounded : Target → Prop where
  | filled {target : Target} (flat : target.hasAlpha = false) (color : Argb) :
      Grounded (target.fill color)
  | rendered {given : Target} {job : Job Float32} (flat : given.hasAlpha = false)
      (rendered : given.Rendered job) (painted : job.continuation.backgroundDone = true) :
      Grounded job.target

/-- What can become of a target, step by step: it is filled, overwritten in part, given to the
painter with a call, whether that fails or not, or given to a session and taken back at any time. A
copy of a target is the target. -/
inductive Handled (origin : Target) : Target → Prop where
  | untouched : Handled origin origin
  | filled {target : Target} (handled : Handled origin target) (color : Argb) :
      Handled origin (target.fill color)
  | overwritten {target : Target} (handled : Handled origin target) (left top : Int32)
      (width height : UInt32) (color : Argb) :
      Handled origin (target.fillRect left top width height color)
  | painted {target : Target} (handled : Handled origin target) (cache : ImageCache)
      (call : PaintCall Float32) :
      Handled origin (Backend.painter.paint call ⟨cache, target⟩).canvas.target
  | rendered {given : Target} {job : Job Float32} (handled : Handled origin given)
      (rendered : given.Rendered job) : Handled origin job.target

end Target

/-!
## Sessions
-/

section Sessions

variable {σ : Type} {backend : Backend Float32 σ} {early : Target → Prop}

private theorem Backend.Provided.backs (provided : backend.Provided) : backend.Backs := by
  induction provided with
  | painter => exact painter_backs
  | recorder => exact recorder_backs
  | failing _ plan ih => exact ih.failing plan
  | watching _ ih => exact ih.watching

private theorem Backend.Backs.upholds (backs : backend.Backs)
    (flat : ∀ target, early target → target.hasAlpha = false) :
    backend.Upholds (fun _ => True) (fun canvas => early canvas.target)
      (fun canvas => canvas.target.Backed) where
  cleared := by
    intro canvas color start smooth
    rw [backs.cleared smooth]
    exact Target.fill_backed (flat _ start) color
  stopped := by
    intro canvas color error start failed
    rw [backs.stopped failed]
    exact start
  painted _ := backs.painted

end Sessions

namespace Target

variable {given origin target : Target}

/-- What a session has made of a target before and after the background. -/
theorem Rendered.holds {early : Target → Prop} (flat : ∀ target, early target →
    target.hasAlpha = false) {job : Job Float32} (rendered : given.Rendered job)
    (start : early given) :
    (job.continuation.backgroundDone = false → early job.target) ∧
      (job.continuation.backgroundDone = true → job.target.Backed) := by
  cases rendered with
  | @intro σ backend provided state page config _ later _ untouched opening accepted owned =>
      have asks : (Job.start given page config).Asks (fun _ => True) (fun _ => True) :=
        ⟨fun _ _ _ _ => trivial, fun _ _ _ _ => trivial⟩
      have layered : ∀ layer : FormLayer Float32, .drawOverlay layer ∈ later → True :=
        fun _ _ => trivial
      have upheld := Session.opened_upheld (provided.backs.upholds flat) untouched opening accepted
        start asks layered
      obtain ⟨before, after⟩ := upheld.of_job? owned
      exact ⟨before, after⟩

private theorem Grounded.backed (grounded : origin.Grounded) : origin.Backed := by
  cases grounded with
  | filled flat color => exact fill_backed flat color
  | rendered flat rendered painted => exact (rendered.holds (fun _ => id) flat).2 painted

private theorem Handled.backed (handled : origin.Handled target) (backed : origin.Backed) :
    target.Backed := by
  induction handled with
  | untouched => exact backed
  | filled _ color ih => exact fill_backed ih.flat color
  | overwritten _ left top width height color ih => exact ih.fillRect left top width height color
  | painted _ cache call ih => exact Backend.painter_backs.painted ih
  | @rendered given job _ rendered ih =>
      obtain ⟨before, after⟩ := rendered.holds (fun _ backed => backed.flat) ih
      cases done : job.continuation.backgroundDone with
      | false => exact before done
      | true => exact after done

/-- A target without an alpha channel that has a background is never see-through again, whatever
becomes of it. -/
theorem full_of_grounded (grounded : origin.Grounded) (handled : origin.Handled target) :
    target.hasAlpha = false ∧ ∀ pixel ∈ target.pixmap.pixels, pixel.alpha = 255 := by
  obtain ⟨flat, full⟩ := handled.backed grounded.backed
  exact ⟨flat, full⟩

/-- A session under a translucent background whose first object fails; its target is overwritten in
a corner and painted on. -/
theorem full_of_grounded_small :
    let given : Target := ⟨.filled 2 2 .clear, false⟩
    let faint : Argb := ⟨0x40FF0000⟩
    let square : Outline Float32 := ⟨[.move ⟨0, 0⟩, .line ⟨2, 0⟩, .line ⟨2, 2⟩, .close]⟩
    let page : Page Float32 :=
      ⟨2, 2, [.path { PathObject.ofOutline square with fill := some ⟨faint, .nonZero⟩ }], []⟩
    let config := (Config.ofSize 2 2).withBackground faint
    let plan : Backend.FaultPlan := ⟨(· == 1), fun _ => .backend none (.reported "refused")⟩
    let session := (Session.fresh ⟨0, .unlimited⟩).performAll
      (Backend.failing plan Backend.painter) [.start given page config none]
    let call : PaintCall Float32 := .fill square ⟨faint, .multiply, true⟩ .nonZero .identity
    ∃ job, session.stage = .failed job ∧ job.continuation.backgroundDone = true ∧
      let corner := job.target.fillRect 0 0 1 1 faint
      let target := (Backend.painter.paint call ⟨.unlimited, corner⟩).canvas.target
      target.hasAlpha = false ∧ ∀ pixel ∈ target.pixmap.pixels, pixel.alpha = 255 := by
  intro given faint square page config plan session call
  have ended : session.phase = .failed := by decide +kernel
  have painted : session.continuation?.map Continuation.backgroundDone = some true := by
    decide +kernel
  obtain ⟨job, stage⟩ : ∃ job, session.stage = .failed job := by
    cases stage : session.stage with
    | failed job => exact ⟨job, rfl⟩
    | notStarted | inProgress | done | closed =>
        rw [Session.phase, stage] at ended
        cases ended
  have owned : session.job? = some job := by
    rw [Session.job?, stage]
    rfl
  rw [Session.continuation?, owned] at painted
  have done : job.continuation.backgroundDone = true := Option.some_inj.mp painted
  have untouched : ((Session.fresh ⟨0, .unlimited⟩).performAll
      (Backend.failing plan Backend.painter) []).stage = .notStarted := rfl
  have rendered : given.Rendered job :=
    .intro (.failing .painter plan) untouched rfl (by decide +kernel) owned
  refine ⟨job, stage, done, full_of_grounded (.rendered rfl rendered done) ?_⟩
  exact .painted (.overwritten .untouched 0 0 1 1 faint) .unlimited call

end Target

end PagePaint
