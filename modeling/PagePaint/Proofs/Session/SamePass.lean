import PagePaint.Proofs.Paint.Congruence
import PagePaint.Proofs.Session.Lockstep

set_option autoImplicit false

/-!
# Sessions with the same base pass

Pages that are painted by the same calls in batches of one size cannot be told apart by what a
session shows of them: the answers, the positions, the pixels and the state of the backend are the
same, whoever asks for pauses and whichever calls fail.
-/

namespace PagePaint

variable {α σ : Type}

/-- Two pages under two configurations with one base pass: the same calls, unit by unit, over the
same background, in batches of one size and a frame of one size. -/
structure SamePass [Scalar α] (page : Page α) (config : Config) (page' : Page α)
    (config' : Config) : Prop where
  width : page.width = page'.width
  height : page.height = page'.height
  rect : config.rect = config'.rect
  background : config.background = config'.background
  stepLimit : config.stepLimit = config'.stepLimit
  units : PaintingOrder.units page config = PaintingOrder.units page' config'

theorem Backend.parallel_refl (backend : Backend α σ) : backend.Parallel backend Eq Eq where
  target := by
    rintro call _ state _ target rfl rfl
    rfl
  failure := by
    rintro call _ state _ target rfl rfl
    rfl
  state := by
    rintro call _ state _ target rfl rfl
    rfl

theorem Config.SameBut.samePass [Scalar α] {flag : RenderFlag} {config config' : Config}
    (same : config.SameBut flag config') (passes : config.PassesLike config') (page : Page α) :
    SamePass page config page config' where
  width := rfl
  height := rfl
  rect := same.rect
  background := same.background
  stepLimit := same.stepLimit
  units := passes.units_eq page

namespace SamePass

variable [Scalar α] {page page' : Page α} {config config' : Config}

theorem argumentFault?_eq (same : SamePass page config page' config') (target : Target) :
    Session.argumentFault? target page config = Session.argumentFault? target page' config' := by
  have sized : page.hasSize = page'.hasSize := by
    simp only [Page.hasSize, same.width, same.height]
  have size : page.sizeFault? = page'.sizeFault? := by
    simp only [Page.sizeFault?, sized, same.width, same.height]
  simp only [Session.argumentFault?, size, same.rect]

private theorem agrees (same : SamePass page config page' config') (target : Target)
    {layers : FormLayer α → Prop} (forms : ∀ layer, layers layer →
      PaintingOrder.overlay layer page config = PaintingOrder.overlay layer page' config') :
    (Job.start target page config).Agrees Eq layers (.start target page' config') := by
  refine .of_order target same.stepLimit (fun _ => ?_) ?_ fun layer allowed => ?_
  · rw [same.background]
  · rw [same.units]
    exact List.forall₂_same.mpr fun _ _ => List.forall₂_same.mpr fun _ _ => rfl
  · rw [forms layer allowed]
    exact List.forall₂_same.mpr fun _ _ => rfl

/-- Sessions with one base pass show the same after every request, if the form layers that are drawn
paint alike. What their backends have become is related as it was after the preparation. -/
theorem history_eq (same : SamePass page config page' config') {backend : Backend α σ}
    {states : σ → σ → Prop} (parallel : backend.Parallel backend Eq states)
    (reflexive : ∀ state, states state state) {target : Target} {request request' : Request α}
    (opening : request.opening? = some (target, page, config))
    (opening' : request'.opening? = some (target, page', config'))
    (pause : request.pause? = request'.pause?) {later : List (Request α)}
    (forms : ∀ layer, .drawOverlay layer ∈ later →
      PaintingOrder.overlay layer page config = PaintingOrder.overlay layer page' config')
    (state : σ)
    (prepared : states (backend.prepare config state).1 (backend.prepare config' state).1) :
    ((Session.fresh state).history backend (request :: later)).map Event.view =
        ((Session.fresh state).history backend (request' :: later)).map Event.view ∧
      states ((Session.fresh state).performAll backend (request :: later)).backend
        ((Session.fresh state).performAll backend (request' :: later)).backend := by
  obtain ⟨views, final⟩ := Session.history_agree_of_opening parallel pause opening opening'
    (same.argumentFault?_eq target) (same.agrees target forms) state prepared later
    fun _ member => member
  refine ⟨views, ?_⟩
  rcases final with equal | lockstep
  · rw [equal]
    exact reflexive _
  · exact lockstep.backend

end SamePass

end PagePaint
