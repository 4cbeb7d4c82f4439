import PagePaint.Proofs.Paint.Partition
import PagePaint.Proofs.Session.FormRecord
import PagePaint.Proofs.Session.SamePass

set_option autoImplicit false

/-!
# Every annotation is painted once

A drive through the base pass and the page's own form paints each annotation that is to be seen
once, in one of the two. So neither of them depends on the annotations of the other.
-/

namespace PagePaint

variable {α σ : Type} [Scalar α]

private theorem Page.SameButWidgets.samePass {page page' : Page α}
    (same : page.SameButWidgets page') (config : Config) : SamePass page config page' config where
  width := same.width
  height := same.height
  rect := rfl
  background := rfl
  stepLimit := rfl
  units := PaintingOrder.units_sameButWidgets same config

namespace Session

/-- What it takes for a drive to succeed: the start is accepted, and no call fails, neither in the
base pass nor in the form layer over it. -/
structure Calm (backend : Backend α σ) (state : σ) (target : Target) (page : Page α)
    (config : Config) (layer : FormLayer α) : Prop where
  accepted : argumentFault? target page config = none
  smooth : (backend.recording.carryOut
    (.clear (config.background.getD target.defaultBackground) ::
      (PaintingOrder.units page config).flatten ++ PaintingOrder.overlay layer page config)
    ⟨(backend.recording.prepare config (#[], state)).1, target⟩).failure = none

/-- A drive that succeeds: a start, resumptions to the end with a controller for each call, and a
form layer. The base pass makes the calls `base` and the layer the calls `form`. -/
structure Completes (backend : Backend α σ) (state : σ) (target : Target) (page : Page α)
    (config : Config) (controllers : Nat → Option PauseController) (layer : FormLayer α)
    (base form : List (PaintCall α)) : Prop where
  passed :
    ((fresh (#[], state)).complete backend.recording target page config controllers).failure = none
  record : ((fresh (#[], state)).complete backend.recording target page config
    controllers).session.backend.1.toList = .prepared config.flags :: base.map .painted
  draws : ((fresh (#[], state)).complete backend.recording target page config
    controllers).session.Draws backend layer form

variable {backend : Backend α σ} {state : σ} {target : Target} {page : Page α} {config : Config}
  {layer : FormLayer α}

/-- A calm drive succeeds whatever controllers it is given, with the calls of the painting order. -/
theorem Calm.completes (calm : Calm backend state target page config layer)
    (controllers : Nat → Option PauseController) :
    Completes backend state target page config controllers layer
      (.clear (config.background.getD target.defaultBackground) ::
        (PaintingOrder.units page config).flatten)
      (PaintingOrder.overlay layer page config) := by
  have smooth := calm.smooth
  rw [← Job.allCalls_start] at smooth
  have base := backend.recording.carryOut_smooth_of_append smooth
  rw [backend.recording.carryOut_append_of_smooth _ base, Passage.behind_failure] at smooth
  obtain ⟨job, driven, targetEq, precedes, missing, -⟩ :=
    complete_of_smooth backend.recording calm.accepted (#[], state) controllers base
  have pageEq : job.page = page := precedes.page
  have configEq : job.config = config := precedes.config
  refine ⟨congrArg Driven.failure driven, ?_, ?_⟩
  · rw [driven, ← Job.allCalls_start]
    exact backend.recording_carryOut base
  · rw [driven, ← pageEq, ← configEq]
    refine draws_overlay backend rfl missing layer ?_
    rw [pageEq, configEq, targetEq]
    exact smooth

/-- A calm drive through the base pass and the page's own form divides the annotations. The base
pass paints the objects and then the non-widgets it takes, the form paints the widgets it takes,
both in page order; every annotation that is visible is taken once if it is a widget or annotations
are painted, and no other is taken. So the base pass is the same for any widgets, for every backend
and whichever calls fail, and the form makes the same calls for any other annotations, painted or
not. -/
theorem annots_painted_once (backend : Backend α σ) (state : σ) (target : Target) (page : Page α)
    (config : Config) (highlight : Option Argb) :
    let layer : FormLayer α := .ofPage highlight
    let base := displayTransform page.width page.height config.rect config.rotation
    (Calm backend state target page config layer →
      ∀ controllers, ∃ inBase inForm, DividesAnnots page config inBase inForm ∧
        Completes backend state target page config controllers layer
          (.clear (config.background.getD target.defaultBackground) ::
            (page.objects.flatMap (fun item =>
                PaintingOrder.object base config item item.blend) ++
              inBase.flatMap fun position =>
                PaintingOrder.annot base config (page.annots.get position)))
          (inForm.flatMap fun position =>
            PaintingOrder.widget base config highlight (page.annots.get position))) ∧
    (∀ page' : Page α, page.SameButWidgets page' →
      ∀ (request request' : Request α) (later : List (Request α)),
        request.opening? = some (target, page, config) →
        request'.opening? = some (target, page', config) → request.pause? = request'.pause? →
        (∀ layer, .drawOverlay layer ∉ later) →
        ((fresh state).history backend (request :: later)).map Event.view =
            ((fresh state).history backend (request' :: later)).map Event.view ∧
          ((fresh state).performAll backend (request :: later)).backend =
            ((fresh state).performAll backend (request' :: later)).backend) ∧
    ∀ (page' : Page α) (config' : Config), page.SameWidgets page' →
      config.SameBut .annotations config' → Calm backend state target page config layer →
      Calm backend state target page' config' layer →
      ∀ controllers controllers', ∃ calls calls' form,
        Completes backend state target page config controllers layer calls form ∧
        Completes backend state target page' config' controllers' layer calls' form := by
  intro layer base
  refine ⟨fun calm controllers => ?_, fun page' same request request' later opening opening' pause
    undrawn => ?_, fun page' config' same toggled calm calm' controllers controllers' => ?_⟩
  · refine ⟨_, _, PaintingOrder.dividesAnnots page config, ?_⟩
    rw [← PaintingOrder.units_flatten, ← PaintingOrder.overlay_ofPage]
    exact calm.completes controllers
  · exact (same.samePass config).history_eq backend.parallel_refl (fun _ => rfl) opening opening'
      pause (fun layer drawn => absurd drawn (undrawn layer)) state rfl
  · have form : PaintingOrder.overlay layer page config =
        PaintingOrder.overlay layer page' config' :=
      (toggled.formsLike (by decide)).overlay_eq same.width same.height same.widgets
    exact ⟨_, _, _, calm.completes controllers, form ▸ calm'.completes controllers'⟩

theorem annots_painted_once_small :
    let stamp : Annot Rat := .ofAppearance .stamp ⟨0, 0, 1, 1⟩ [.path smallSquare]
    let field : Annot Rat := .ofAppearance .widget ⟨0, 0, 1, 1⟩ [.path smallSquare]
    let unseen (item : Annot Rat) : Annot Rat := { item with flags := .single .hidden }
    let page := { smallPage with annots := [stamp, field, unseen stamp, unseen field] }
    let otherFields := { page with annots := [field, field, stamp, unseen stamp] }
    let onlyFields := { page with annots := [field, unseen field] }
    let config := (Config.ofSize 2 2).withFlags (.single .annotations)
    let plain := Config.ofSize 2 2
    let backend := Backend.recorder (α := Rat)
    let layer : FormLayer Rat := .ofPage (some .pureRed)
    let paused : Nat → Option PauseController := fun _ => some .always
    let later : List (Request Rat) := [.resume none, .close]
    (PaintingOrder.inBase page config).map Fin.val = [0] ∧
      (PaintingOrder.inForm page config).map Fin.val = [1] ∧
      Calm backend #[] smallTarget page config layer ∧
      (∃ inBase inForm, DividesAnnots page config inBase inForm ∧
        ∃ calls form, Completes backend #[] smallTarget page config paused layer calls form) ∧
      page.SameButWidgets otherFields ∧
      ((fresh #[]).performAll backend
          (.start smallTarget page config none :: later)).backend =
        ((fresh #[]).performAll backend
          (.start smallTarget otherFields config none :: later)).backend ∧
      page.SameWidgets onlyFields ∧ config.SameBut .annotations plain ∧
      ∃ calls calls' form, Completes backend #[] smallTarget page config paused layer calls form ∧
        Completes backend #[] smallTarget onlyFields plain paused layer calls' form := by
  intro stamp field unseen page otherFields onlyFields config plain backend layer paused later
  have calm (page : Page Rat) (config : Config)
      (accepted : argumentFault? smallTarget page config = none) :
      Calm backend #[] smallTarget page config layer :=
    ⟨accepted, Backend.carryOut_of_reliable recorder_reliable _ _⟩
  have calmPage := calm page config (by decide +kernel)
  have calmFields := calm onlyFields plain (by decide +kernel)
  have same : page.SameButWidgets otherFields := ⟨rfl, rfl, rfl, by decide +kernel⟩
  have fields : page.SameWidgets onlyFields := ⟨rfl, rfl, by decide +kernel⟩
  have toggled : config.SameBut .annotations plain := by
    refine ⟨rfl, rfl, rfl, rfl, rfl, fun other distinct => ?_⟩
    cases other with
    | annotations => exact absurd rfl distinct
    | _ => decide
  obtain ⟨once, passes, forms⟩ :=
    annots_painted_once backend #[] smallTarget page config (some .pureRed)
  obtain ⟨inBase, inForm, divides, completes⟩ := once calmPage paused
  have backends := (passes otherFields same (.start smallTarget page config none)
    (.start smallTarget otherFields config none) later rfl rfl rfl (by simp [later])).2
  exact ⟨by decide +kernel, by decide +kernel, calmPage,
    ⟨inBase, inForm, divides, _, _, completes⟩, same, backends, fields, toggled,
    forms onlyFields plain fields toggled calmPage calmFields paused paused⟩

end Session

end PagePaint
