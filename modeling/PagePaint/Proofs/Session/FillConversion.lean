import PagePaint.Proofs.Paint.Outlined
import PagePaint.Proofs.Session.SamePass
import PagePaint.Proofs.Session.SchemeRecord

set_option autoImplicit false

/-!
# Sessions that turn fills into strokes

Under a scheme, converting the fills of a page and painting its outlined page are the same session:
the same record, the same positions and the same failures, the page's own form included. Without a
scheme the option does nothing. What the preparation shows of the option itself is the only
difference.
-/

namespace PagePaint

variable {α : Type}

inductive Recorded.SameButConversion : Recorded α → Recorded α → Prop where
  | prepared {flags flags' : RenderFlags}
      (same : ∀ other, other ≠ .fillToStroke → flags.has other = flags'.has other) :
      SameButConversion (.prepared flags) (.prepared flags')
  | painted (call : PaintCall α) : SameButConversion (.painted call) (.painted call)

private theorem Recorded.SameButConversion.refl (entry : Recorded α) :
    entry.SameButConversion entry := by
  cases entry with
  | prepared flags => exact .prepared fun _ _ => rfl
  | painted call => exact .painted call

structure Backend.Numbered.RecordsLike (left right : Numbered (Record α)) : Prop where
  made : left.made = right.made
  record : List.Forall₂ Recorded.SameButConversion left.state.toList right.state.toList

private theorem Backend.faulty_parallel_eq (plan : FaultPlan) :
    (faulty (α := α) plan).Parallel (faulty plan) Eq Numbered.RecordsLike where
  target := by
    rintro call _ ⟨made, record⟩ ⟨_, record'⟩ target rfl ⟨rfl, -⟩
    rw [faulty_paint, faulty_paint]
    split <;> rfl
  failure := by
    rintro call _ ⟨made, record⟩ ⟨_, record'⟩ target rfl ⟨rfl, -⟩
    rw [faulty_paint, faulty_paint]
    split <;> rfl
  state := by
    rintro call _ ⟨made, record⟩ ⟨_, record'⟩ target rfl ⟨rfl, same⟩
    rw [faulty_paint, faulty_paint]
    split
    · exact ⟨rfl, same⟩
    · refine ⟨rfl, ?_⟩
      rw [Array.toList_push, Array.toList_push]
      exact List.rel_append same (.cons (.painted call) .nil)

namespace Session

variable [Scalar α]

/-- Two scripts that show the same after every request on a recorder that fails as planned, and
leave the same record but for what a preparation shows of the conversion. -/
structure RecordedAlike (plan : Backend.FaultPlan) (script script' : List (Request α)) : Prop where
  views :
    ((fresh ⟨0, #[]⟩).history (Backend.recorder.failing plan) script).map Event.view =
      ((fresh ⟨0, #[]⟩).history (Backend.recorder.failing plan) script').map Event.view
  backend :
    ((fresh ⟨0, #[]⟩).performAll (Backend.recorder.failing plan) script).backend.RecordsLike
      ((fresh ⟨0, #[]⟩).performAll (Backend.recorder.failing plan) script').backend

end Session

/-- One base pass under options that differ in the conversion leaves one record. -/
theorem SamePass.recordedAlike [Scalar α] {page page' : Page α} {config config' : Config}
    (pass : SamePass page config page' config') (same : config.SameBut .fillToStroke config')
    (plan : Backend.FaultPlan) {target : Target} {request request' : Request α}
    (opening : request.opening? = some (target, page, config))
    (opening' : request'.opening? = some (target, page', config'))
    (pause : request.pause? = request'.pause?) {later : List (Request α)}
    (forms : ∀ layer, .drawOverlay layer ∈ later →
      PaintingOrder.overlay layer page config = PaintingOrder.overlay layer page' config') :
    Session.RecordedAlike plan (request :: later) (request' :: later) := by
  have reflexive (state : Backend.Numbered (Record α)) : state.RecordsLike state :=
    ⟨rfl, List.forall₂_same.mpr fun entry _ => .refl entry⟩
  obtain ⟨views, backend⟩ := pass.history_eq (Backend.faulty_parallel_eq plan) reflexive opening
    opening' pause forms ⟨0, #[]⟩ ⟨rfl, .cons (.prepared same.flags) .nil⟩
  exact ⟨views, backend⟩

private theorem Config.SameBut.samePass_outlined [Scalar α] {config config' : Config}
    (same : config.SameBut .fillToStroke config') (converts : config.strokesFills = true)
    (page : Page α) : SamePass page config page.outlined config' where
  width := rfl
  height := rfl
  rect := same.rect
  background := same.background
  stepLimit := same.stepLimit
  units := PaintingOrder.units_outlined same converts page

private theorem Config.strokesFills_of_native {config : Config} (native : config.scheme = none) :
    config.strokesFills = false := by
  rw [strokesFills, native]
  rfl

namespace Session

variable [Scalar α]

/-- Under a scheme, a session that turns the fills of a page into strokes and a session over the
outlined page are the same, whoever asks for pauses and whichever calls fail, as long as the forms
that are drawn are the page's own. The second session need not have the option set: there is nothing
left to convert. Every call of a converted path is a stroke, and a filled path has one; other
objects do not see the option, and without a scheme nothing does. -/
theorem conversion_outlines (plan : Backend.FaultPlan) (target : Target) (page : Page α)
    {config config' : Config} (same : config.SameBut .fillToStroke config')
    (set : config.flags.has .fillToStroke = true) {request request' : Request α}
    (opening : request.opening? = some (target, page, config))
    (pause : request.pause? = request'.pause?) (later : List (Request α)) :
    let calls (config : Config) (item : PageObject α) (blend : BlendMode) :=
      ((Renderer.ofConfig page config).objectScript item blend).calls
    (config.scheme.isSome →
      (request'.opening? = some (target, page.outlined, config') →
        (∀ layer, .drawOverlay layer ∈ later → ∃ highlight, layer = .ofPage highlight) →
        RecordedAlike plan (request :: later) (request' :: later)) ∧
      ∀ (path : PathObject α) (blend : BlendMode),
        (∀ call ∈ calls config (.path path) blend, ∃ paint,
          call = .stroke path.outline paint path.strokeStyle
            ((Renderer.ofConfig page config).base.after path.transform)) ∧
        (path.fill.isSome → (calls config (.path path) blend).length = 1)) ∧
    (config.scheme = none → request'.opening? = some (target, page, config') →
      RecordedAlike plan (request :: later) (request' :: later)) ∧
    ∀ (item : PageObject α) (blend : BlendMode), (∀ path, item ≠ .path path) →
      calls config item blend = calls config' item blend := by
  intro calls
  refine ⟨fun schemed => ⟨fun opening' forms => ?_, fun path blend => ?_⟩,
    fun native opening' => ?_, fun item blend other => ?_⟩
  · have converts : config.strokesFills = true := config.strokesFills_iff.mpr ⟨schemed, set⟩
    refine (same.samePass_outlined converts page).recordedAlike same plan opening opening' pause
      fun layer drawn => ?_
    obtain ⟨highlight, rfl⟩ := forms layer drawn
    exact PaintingOrder.overlay_outlined same page highlight
  · have converts : config.strokesFills = true := config.strokesFills_iff.mpr ⟨schemed, set⟩
    simp only [calls, PaintingOrder.objectScript_calls]
    refine ⟨PaintingOrder.path_strokes converts path, fun filled => ?_⟩
    obtain ⟨fill, filled⟩ := Option.isSome_iff_exists.mp filled
    simp only [PaintingOrder.object, PaintingOrder.path_of_fill converts filled,
      List.length_singleton]
  · have native' : config'.scheme = none := same.scheme ▸ native
    have conversion : config.strokesFills = config'.strokesFills := by
      rw [Config.strokesFills_of_native native, Config.strokesFills_of_native native']
    have passes := same.passesLike (by decide) conversion (by decide)
    refine (same.samePass passes page).recordedAlike same plan opening opening' pause
      fun layer _ => ?_
    exact (same.formsLike (by decide)).overlay_eq rfl rfl rfl
  · simp only [calls, PaintingOrder.objectScript_calls]
    have base : (Renderer.ofConfig page config).base = (Renderer.ofConfig page config').base := by
      simp only [Renderer.ofConfig, Renderer.withPolicy, same.rect, same.rotation]
    rw [base]
    exact (same.paintsLike (by decide)).object_eq_of_not_path _ other blend

theorem conversion_outlines_small :
    let native := ((Config.ofSize 2 2).withStepLimit 1).withFlags (.single .fillToStroke)
    let schemed := native.withScheme (.uniform .pureGreen)
    let plain := schemed.withFlags .empty
    let plan : Backend.FaultPlan :=
      ⟨fun number => number == 4, fun _ => .backend none .noColorStops⟩
    let later : List (Request Rat) :=
      [.resume none, .drawOverlay (.ofPage (some .pureRed)), .close]
    let request : Request Rat := .start smallTarget smallPage schemed (some .always)
    let session := (fresh ⟨0, #[]⟩).performAll (Backend.recorder.failing plan) (request :: later)
    schemed.SameBut .fillToStroke plain ∧ schemed.flags.has .fillToStroke = true ∧
      plain.flags.has .fillToStroke = false ∧
      session.backend.made = 5 ∧ session.backend.state.size = 5 ∧
      RecordedAlike plan (request :: later)
        (.start smallTarget smallPage.outlined plain (some .always) :: later) ∧
      RecordedAlike plan (.start smallTarget smallPage native none :: later)
        (.start smallTarget smallPage (native.withFlags .empty) none :: later) := by
  intro native schemed plain plan later request session
  have flags : ∀ other, other ≠ .fillToStroke →
      native.flags.has other = RenderFlags.empty.has other := by
    intro other distinct
    cases other with
    | fillToStroke => exact absurd rfl distinct
    | _ => decide
  have same : schemed.SameBut .fillToStroke plain := ⟨rfl, rfl, rfl, rfl, rfl, flags⟩
  have sameNative : native.SameBut .fillToStroke (native.withFlags .empty) :=
    ⟨rfl, rfl, rfl, rfl, rfl, flags⟩
  have forms : ∀ layer, .drawOverlay layer ∈ later → ∃ highlight, layer = .ofPage highlight := by
    intro layer drawn
    exact ⟨some .pureRed, by simpa [later] using drawn⟩
  have set : schemed.flags.has .fillToStroke = true := by decide
  let outlinedRequest : Request Rat :=
    .start smallTarget smallPage.outlined plain (some .always)
  have pause : request.pause? = outlinedRequest.pause? := rfl
  have outlined :=
    ((conversion_outlines plan smallTarget smallPage same set rfl pause later).1 rfl).1 rfl forms
  let nativeRequest (config : Config) : Request Rat := .start smallTarget smallPage config none
  have pauseNative :
      (nativeRequest native).pause? = (nativeRequest (native.withFlags .empty)).pause? := rfl
  have ignored :=
    (conversion_outlines plan smallTarget smallPage sameNative set rfl pauseNative later).2.1
      rfl rfl
  exact ⟨same, set, by decide, by decide +kernel, by decide +kernel, outlined, ignored⟩

end Session

end PagePaint
