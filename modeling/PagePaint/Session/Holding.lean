import PagePaint.Session.Session

set_option autoImplicit false

/-!
# Sessions in two fields

A session may also keep its phase and its job in fields of their own. Nothing then ties one to the
other, so an operation that needs the job looks for it after it has looked at the phase, and refuses
once more if there is none.
-/

namespace PagePaint

variable {α σ : Type}

/-- A session that keeps its phase and its job apart. -/
structure Holding (α σ : Type) where
  backend : σ
  phase : Phase
  job? : Option (Job α)

namespace Holding

/-- What an operation did: the fields of `Response` over a session in two fields. -/
structure Answer (α σ ε ρ : Type) where
  holding : Holding α σ
  result : Except ε ρ
  log : List LogLine
  polls : Nat
  pause : Option PauseController

def fresh (backend : σ) : Holding α σ := ⟨backend, .notStarted, none⟩

def refuse {ε ρ : Type} (holding : Holding α σ) (error : ε) (pause : Option PauseController) :
    Answer α σ ε ρ :=
  ⟨holding, .error error, [], 0, pause⟩

def refuseOperation {ρ : Type} (holding : Holding α σ) (operation : Operation)
    (pause : Option PauseController) : Answer α σ Error ρ :=
  holding.refuse (.invalidState operation holding.phase) pause

/-- Paints the batches that are left. A pause leaves the phase as it is. -/
def render [Scalar α] (backend : Backend α σ) (holding : Holding α σ)
    (pause : Option PauseController) : Answer α σ Error RenderStatus :=
  match holding.job? with
  | none => holding.refuseOperation .render pause
  | some job =>
    let outcome := runBatches backend job.batches job holding.backend pause
    let phase := match outcome.result with
      | .ok .done => .done
      | .ok .toBeContinued => holding.phase
      | .error _ => .failed
    ⟨⟨outcome.state, phase, some outcome.job⟩, outcome.result, outcome.log, outcome.polls,
      outcome.pause⟩

def start [Scalar α] (backend : Backend α σ) (holding : Holding α σ) (target : Target)
    (page : Page α) (config : Config) (pause : Option PauseController) :
    Answer α σ StartError RenderStatus :=
  if holding.phase ≠ .notStarted then
    holding.refuse ⟨.invalidState .start holding.phase, some target⟩ pause
  else
    match Session.argumentFault? target page config with
    | some fault => holding.refuse ⟨.invalidArgument fault, some target⟩ pause
    | none =>
      let job := Job.start target page config
      let (state, prepared) := backend.prepare config holding.backend
      let answer := (⟨state, .inProgress, some job⟩ : Holding α σ).render backend pause
      { answer with
        result := answer.result.mapError fun error => ⟨error, none⟩
        log := skippedNotes page config ++ Session.startNote job :: prepared ++ answer.log }

def resume [Scalar α] (backend : Backend α σ) (holding : Holding α σ)
    (pause : Option PauseController) : Answer α σ Error RenderStatus :=
  if holding.phase ≠ .inProgress then holding.refuseOperation .resume pause
  else holding.render backend pause

def drawOverlay [Scalar α] (backend : Backend α σ) (holding : Holding α σ)
    (layer : FormLayer α) : Answer α σ Error Unit :=
  if holding.phase ≠ .done then holding.refuseOperation .drawOverlay none
  else
    match holding.job? with
    | none => holding.refuseOperation .drawOverlay none
    | some job =>
      if job.overlayDrawn then holding.refuseOperation .drawOverlayAgain none
      else
        let painted :=
          backend.run (Overlay.script layer job.page job.config) ⟨holding.backend, job.target⟩
        let job := { job with target := painted.canvas.target }
        match painted.failure with
        | some error =>
          ⟨⟨painted.canvas.state, .failed, some job⟩, .error error,
            painted.log ++ [.warn ("form overlay failed: " ++ error.message)], 0, none⟩
        | none =>
          let drawn := Overlay.drawnCount layer job.page job.config
          ⟨⟨painted.canvas.state, holding.phase, some { job with overlayDrawn := true }⟩, .ok (),
            painted.log ++ [.debug ("form overlay drew " ++ toString drawn ++ " widgets")], 0,
            none⟩

def close (holding : Holding α σ) : Answer α σ Error Target :=
  if holding.phase ≠ .done ∧ holding.phase ≠ .failed then holding.refuseOperation .close none
  else
    match holding.job? with
    | none => holding.refuseOperation .close none
    | some job =>
      ⟨⟨holding.backend, .closed, none⟩, .ok job.target,
        [.debug ("closing render session after " ++ toString job.continuation.batches ++
          " batches (" ++ holding.phase.text ++ ")")], 0, none⟩

end Holding

end PagePaint
