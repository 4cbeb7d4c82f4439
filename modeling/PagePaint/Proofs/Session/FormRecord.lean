import PagePaint.Proofs.Paint.Congruence
import PagePaint.Proofs.Session.Completion
import PagePaint.Proofs.Session.PaintingRecord

set_option autoImplicit false

/-!
# What a form layer adds to the record

A form layer that is drawn over a finished page adds its own calls to the record and nothing else.
They are known from the annotations of the page and the frame: neither the scheme of the base pass
nor the objects of the page leave a trace in them.
-/

namespace PagePaint

variable {α σ τ : Type}

def FormLayer.ReadsAnnots (layer : FormLayer α) : Prop :=
  ∀ page page' : Page α, page.annots = page'.annots → layer.widgets page = layer.widgets page'

namespace Session

variable [Scalar α]

/-- A session in which drawing a form layer succeeds with these calls. Of the job only the pixels
and the mark that the layer is drawn change. -/
structure Draws (backend : Backend α σ) (session : Session α (Record α × σ))
    (layer : FormLayer α) (calls : List (PaintCall α)) : Prop where
  result : (session.drawOverlay backend.recording layer).result = .ok ()
  record : (session.drawOverlay backend.recording layer).session.backend.1.toList =
    session.backend.1.toList ++ calls.map .painted
  stage : ∃ job target, session.stage = .done job ∧
    (session.drawOverlay backend.recording layer).session.stage =
      .done { job with target, overlayDrawn := true }

/-- A form layer over a finished page makes its calls, if none of them fails. -/
theorem draws_overlay (backend : Backend α σ) {session : Session α (Record α × σ)} {job : Job α}
    (finished : session.stage = .done job) (missing : job.overlayDrawn = false)
    (layer : FormLayer α)
    (calm : (backend.recording.carryOut (PaintingOrder.overlay layer job.page job.config)
      ⟨session.backend, job.target⟩).failure = none) :
    session.Draws backend layer (PaintingOrder.overlay layer job.page job.config) := by
  obtain ⟨state, stage⟩ := session
  obtain rfl : stage = .done job := finished
  have passage : overlayPassage backend.recording layer job state =
      backend.recording.carryOut (PaintingOrder.overlay layer job.page job.config)
        ⟨state, job.target⟩ := by
    rw [overlayPassage, PaintingOrder.overlayScript_calls]
  obtain ⟨result, after⟩ :=
    (drawOverlay_done backend.recording missing state layer).1 (passage ▸ calm)
  refine ⟨result, ?_, job, _, rfl, congrArg Session.stage after⟩
  rw [after, passage]
  exact backend.recording_carryOut calm

/-- Two finished pages of one size with the same annotations get the same form layer, if the layer
looks at annotations only and the configurations agree on the frame, on printing and on smoothing.
Objects, scheme, conversion of fills, annotations of the base pass, background and step limit do not
matter, nor does what the backends have become. The calls are those of the annotations that the
layer names and that are visible, in its order, each with the highlight under it and its appearance
in native colours. -/
theorem overlay_independent (backend : Backend α σ) (backend' : Backend α τ)
    {session : Session α (Record α × σ)} {session' : Session α (Record α × τ)} {job job' : Job α}
    (finished : session.stage = .done job) (finished' : session'.stage = .done job')
    (missing : job.overlayDrawn = false) (missing' : job'.overlayDrawn = false)
    (width : job.page.width = job'.page.width) (height : job.page.height = job'.page.height)
    (annots : job.page.annots = job'.page.annots) (like : job.config.FormsLike job'.config)
    {layer : FormLayer α} (reads : layer.ReadsAnnots) :
    let base := displayTransform job.page.width job.page.height job.config.rect
      job.config.rotation
    let calls := ((layer.widgets job.page).filter (PaintingOrder.visible job.config)).flatMap
      fun item => PaintingOrder.highlight base job.config item.rect layer.highlight ++
        PaintingOrder.annot base job.config.withoutScheme item
    (backend.recording.carryOut calls ⟨session.backend, job.target⟩).failure = none →
      (backend'.recording.carryOut calls ⟨session'.backend, job'.target⟩).failure = none →
      session.Draws backend layer calls ∧ session'.Draws backend' layer calls := by
  intro base calls calm calm'
  have same : calls = PaintingOrder.overlay layer job'.page job'.config :=
    like.overlay_eq width height (reads _ _ annots)
  refine ⟨draws_overlay backend finished missing layer calm, ?_⟩
  rw [same] at calm' ⊢
  exact draws_overlay backend' finished' missing' layer calm'

omit [Scalar α] in
theorem recorder_reliable (made : PaintCall α) (canvas : Canvas (Record α × Record α)) :
    (Backend.recorder.recording.paint made canvas).failure = none := rfl

theorem overlay_independent_small :
    let backend := (Backend.recorder (α := Rat)).recording
    let config := ((Config.ofSize 2 2).withScheme (.uniform .pureGreen)).withFlags
      (.single .annotations)
    let config' := ((Config.ofSize 2 2).withBackground .white).withStepLimit 1
    let hidden : Annot Rat :=
      { Annot.ofAppearance .widget ⟨0, 0, 1, 1⟩ [] with flags := .single .hidden }
    let page := { smallPage with annots := hidden :: smallPage.annots }
    let page' := { page with objects := [] }
    let layer : FormLayer Rat := ⟨fun page => page.annots ++ page.annots, some .pureRed⟩
    let drive (page : Page Rat) (config : Config) :=
      ((fresh (#[], #[])).complete backend smallTarget page config fun _ => some .always).session
    let calls := PaintingOrder.overlay layer page config
    (drive page config).backend.1.size = 6 ∧ (drive page' config').backend.1.size = 2 ∧
      calls.length = 6 ∧ (drive page config).Draws .recorder layer calls ∧
      (drive page' config').Draws .recorder layer calls := by
  intro backend config config' hidden page page' layer drive calls
  have accepted : argumentFault? smallTarget page config = none := by decide +kernel
  have accepted' : argumentFault? smallTarget page' config' = none := by decide +kernel
  have calm := Backend.carryOut_of_reliable (recorder_reliable (α := Rat))
  obtain ⟨job, driven, -, precedes, missing, -⟩ :=
    complete_of_smooth backend accepted (#[], #[]) (fun _ => some .always) (calm _ _)
  obtain ⟨job', driven', -, precedes', missing', -⟩ :=
    complete_of_smooth backend accepted' (#[], #[]) (fun _ => some .always) (calm _ _)
  have pageEq : job.page = page := precedes.page
  have pageEq' : job'.page = page' := precedes'.page
  have configEq : job.config = config := precedes.config
  have configEq' : job'.config = config' := precedes'.config
  have like : job.config.FormsLike job'.config := by
    rw [configEq, configEq']
    exact ⟨rfl, rfl, by decide, by decide, by decide, by decide⟩
  have reads : layer.ReadsAnnots := by
    intro page page' same
    simp only [layer, same]
  have finished : (drive page config).stage = .done job :=
    congrArg (fun driven => driven.session.stage) driven
  have finished' : (drive page' config').stage = .done job' :=
    congrArg (fun driven => driven.session.stage) driven'
  have draws := overlay_independent .recorder .recorder finished finished' missing missing'
    (by rw [pageEq, pageEq']) (by rw [pageEq, pageEq']) (by rw [pageEq, pageEq']) like reads
    (calm _ _) (calm _ _)
  rw [pageEq, configEq] at draws
  exact ⟨by decide +kernel, by decide +kernel, by decide +kernel, draws.1, draws.2⟩

end Session

end PagePaint
