import PagePaint.Backend.Recorder
import PagePaint.Proofs.Paint.NativeColors
import PagePaint.Proofs.Session.SamePass

set_option autoImplicit false

/-!
# Sessions under a scheme keep native colours to themselves

Of the colours of a page a session under a scheme gives away their alphas, and of a shading the
largest one. Pages that differ in nothing else cannot be told apart by what any backend is asked,
nor by what the session answers.
-/

namespace PagePaint

variable {α σ : Type} [Scalar α]

private theorem Page.SameButColors.samePass {page page' : Page α} (same : page.SameButColors page')
    {config : Config} (schemed : config.scheme.isSome) : SamePass page config page' config where
  width := same.width
  height := same.height
  rect := rfl
  background := rfl
  stepLimit := rfl
  units := PaintingOrder.units_sameButColors schemed same

/-- A form layer paints alike over pages that differ in the colours of non-widgets, as long as it
finds the same widgets. The page's own form does. -/
theorem Page.SameButColors.overlay_eq {page page' : Page α} (same : page.SameButColors page')
    (config : Config) {layer : FormLayer α}
    (finds : (∃ highlight, layer = .ofPage highlight) ∨ layer.widgets page = layer.widgets page') :
    PaintingOrder.overlay layer page config = PaintingOrder.overlay layer page' config := by
  have widgets : layer.widgets page = layer.widgets page' := by
    rcases finds with ⟨highlight, rfl⟩ | equal
    · exact same.widgets_eq
    · exact equal
  simp only [PaintingOrder.overlay, same.width, same.height, widgets]

namespace Session

/-- Under a scheme, sessions over pages that differ in colours only are the same for every backend,
one that keeps a record or fails at chosen calls among them: the same answers, positions and pixels
after every request, whoever asks for pauses, and in the end the same state of the backend. A form
layer may be drawn over the base pass as long as it finds the same widgets on both pages, as the
page's own form does. -/
theorem scheme_hides_colors (backend : Backend α σ) (state : σ) (target : Target)
    {page page' : Page α} (same : page.SameButColors page') {config : Config}
    (schemed : config.scheme.isSome) {request request' : Request α}
    (opening : request.opening? = some (target, page, config))
    (opening' : request'.opening? = some (target, page', config))
    (pause : request.pause? = request'.pause?) (later : List (Request α))
    (forms : ∀ layer, .drawOverlay layer ∈ later →
      (∃ highlight, layer = .ofPage highlight) ∨ layer.widgets page = layer.widgets page') :
    ((fresh state).history backend (request :: later)).map Event.view =
        ((fresh state).history backend (request' :: later)).map Event.view ∧
      ((fresh state).performAll backend (request :: later)).backend =
        ((fresh state).performAll backend (request' :: later)).backend :=
  (same.samePass schemed).history_eq backend.parallel_refl (fun _ => rfl) opening opening' pause
    (fun layer drawn => same.overlay_eq config (forms layer drawn)) state rfl

def smallText (fillColor strokeColor : Argb) : TextObject Rat :=
  { TextObject.ofGlyphs [⟨smallSquare.outline, 0, 0⟩] 1 with fillColor, strokeColor }

def smallShading (stops : List (ColorStop Rat)) : ShadingObject Rat :=
  ⟨smallSquare.outline, ⟨.axial ⟨0, 0⟩ ⟨1, 1⟩, stops⟩, .identity, .normal⟩

/-- A page with two colours of its own, one of them in an annotation, and a shading. -/
def smallColored (ink stamp : Argb) (stops : List (ColorStop Rat)) : Page Rat :=
  { smallPage with
    objects :=
      [.path { smallSquare with fill := some ⟨ink, .nonZero⟩ }, .text (smallText .black ink),
        .shading (smallShading stops)]
    annots :=
      .ofAppearance .stamp ⟨0, 0, 1, 1⟩ [.path { smallSquare with stroke := some stamp }] ::
        smallPage.annots }

private theorem smallColored_sameButColors {ink ink' stamp stamp' : Argb}
    {stops stops' : List (ColorStop Rat)} (inkAlpha : ink.alpha = ink'.alpha)
    (stampAlpha : stamp.alpha = stamp'.alpha)
    (opacity : ∃ alpha, (smallShading stops).shading.LargestAlpha alpha ∧
      (smallShading stops').shading.LargestAlpha alpha) :
    (smallColored ink stamp stops).SameButColors (smallColored ink' stamp' stops') where
  width := rfl
  height := rfl
  objects :=
    .cons (.path ⟨rfl, rfl, rfl, rfl, .some ⟨rfl, inkAlpha⟩, .some rfl⟩)
      (.cons (.text ⟨rfl, rfl, rfl, rfl, rfl, rfl, fun _ => rfl, nofun⟩)
        (.cons (.shading ⟨rfl, rfl, rfl, opacity⟩) .nil))
  annots :=
    .cons
      ⟨rfl, rfl, rfl, rfl,
        .cons (.path ⟨rfl, rfl, rfl, rfl, .some ⟨rfl, rfl⟩, .some stampAlpha⟩) .nil, nofun⟩
      (.cons
        ⟨rfl, rfl, rfl, rfl,
          .cons (.path ⟨rfl, rfl, rfl, rfl, .some ⟨rfl, rfl⟩, .some rfl⟩) .nil, fun _ => rfl⟩
        .nil)

theorem scheme_hides_colors_small :
    let config := ((Config.ofSize 2 2).withScheme (.uniform .pureGreen)).withFlags
      (.single .annotations)
    let plan : Backend.FaultPlan :=
      ⟨fun number => number == 6, fun _ => .backend none .noColorStops⟩
    let backend := Backend.recorder.failing plan
    let page := smallColored .pureRed .black []
    let page' := smallColored .pureBlue .white [⟨0, .pureGreen⟩]
    let later : List (Request Rat) :=
      [.resume none, .drawOverlay (.ofPage (some .pureRed)), .close]
    page ≠ page' ∧ page.SameButColors page' ∧
      ((fresh ⟨0, #[]⟩).performAll backend
        (.start smallTarget page config (some .always) :: later)).backend.state.size = 7 ∧
      ((fresh ⟨0, #[]⟩).history backend
          (.start smallTarget page config (some .always) :: later)).map Event.view =
        ((fresh ⟨0, #[]⟩).history backend
          (.start smallTarget page' config (some .always) :: later)).map Event.view ∧
      ((fresh ⟨0, #[]⟩).performAll backend
          (.start smallTarget page config (some .always) :: later)).backend =
        ((fresh ⟨0, #[]⟩).performAll backend
          (.start smallTarget page' config (some .always) :: later)).backend := by
  intro config plan backend page page' later
  have same : page.SameButColors page' :=
    smallColored_sameButColors (by decide) (by decide)
      ⟨255, .inl ⟨rfl, rfl⟩, .inr ⟨⟨_, List.mem_singleton_self _, by decide⟩, by decide⟩⟩
  have forms : ∀ layer, .drawOverlay layer ∈ later → (∃ highlight, layer = .ofPage highlight) ∨
      layer.widgets page = layer.widgets page' := by
    intro layer drawn
    exact .inl ⟨some .pureRed, by simpa [later] using drawn⟩
  let request (page : Page Rat) : Request Rat := .start smallTarget page config (some .always)
  have opening (page : Page Rat) :
      (request page).opening? = some (smallTarget, page, config) := rfl
  obtain ⟨views, final⟩ := scheme_hides_colors backend ⟨0, #[]⟩ smallTarget same rfl (opening page)
    (opening page') rfl later forms
  exact ⟨by decide +kernel, same, by decide +kernel, views, final⟩

end Session

end PagePaint
