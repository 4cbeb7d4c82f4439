import PagePaint.Session.Work

set_option autoImplicit false

/-!
# The painting order of a page

The calls of a base pass as a flat list, read off the page and the configuration alone: one list
for each unit of work. The scripts of objects and annotations make these calls and no others, in
this order.
-/

namespace PagePaint

variable {α β : Type}

theorem Argb.alpha_ofChannels (red green blue alpha : UInt8) :
    (ofChannels red green blue alpha).alpha = alpha := by
  apply UInt8.eq_of_toBitVec_eq
  apply BitVec.eq_of_getLsbD_eq
  intro bit inside
  simp only [Argb.alpha, ofChannels]
  simp [BitVec.getLsbD_ushiftRight]
  grind

namespace Script

theorem calls_append (left right : Script α) :
    Script.calls (left ++ right) = left.calls ++ right.calls := by
  simp [calls]

@[simp] theorem calls_ofCalls (calls : List (PaintCall α)) : (ofCalls calls).calls = calls := by
  induction calls with
  | nil => rfl
  | cons made rest ih => exact congrArg (List.cons made) ih

private theorem calls_flatMap (entries : List β) (script : β → Script α) :
    Script.calls (entries.flatMap script) = entries.flatMap fun entry => (script entry).calls := by
  induction entries with
  | nil => rfl
  | cons entry rest ih => rw [List.flatMap_cons, List.flatMap_cons, calls_append, ih]

end Script

namespace PaintingOrder

/-- The colour of a role: the object's own, or the scheme's with both alphas multiplied. -/
def color (config : Config) (role : PaintRole) (own : Argb) : Argb :=
  match config.scheme with
  | some scheme => (scheme.pick role).modulateAlpha own.alpha
  | none => own

/-- Whether the base pass shows an annotation: no widget, not hidden, and carrying the print flag
on paper or lacking the no-view flag on a screen. -/
def shown (config : Config) (annot : Annot α) : Bool :=
  annot.subtype != .widget && !annot.flags.has .hidden &&
    if config.flags.has .printing then annot.flags.has .print else !annot.flags.has .noView

section Calls

variable [Scalar α] (base : Transform α) (config : Config)

/-- The fill of a path and then its stroke. Where a scheme turns fills into strokes, a filled path
is stroked once, with the colour of its stroke if it has one and of its fill otherwise. -/
def path (object : PathObject α) (blend : BlendMode) : List (PaintCall α) :=
  let transform := base.after object.transform
  let paint (role : PaintRole) (own : Argb) : Paint :=
    ⟨color config role own, blend, !config.flags.has .noSmoothPath⟩
  let fill (own : Fill) : PaintCall α :=
    .fill object.outline (paint .pathFill own.color) own.rule transform
  let stroke (own : Argb) : PaintCall α :=
    .stroke object.outline (paint .pathStroke own) object.strokeStyle transform
  if config.scheme.isSome ∧ config.flags.has .fillToStroke ∧ object.fill.isSome then
    (object.stroke.or (object.fill.map Fill.color)).toList.map stroke
  else object.fill.toList.map fill ++ object.stroke.toList.map stroke

def text (object : TextObject α) (blend : BlendMode) : List (PaintCall α) :=
  if Scalar.same object.fontSize Scalar.zero ∨ object.glyphs = [] then []
  else
    object.glyphs.flatMap fun glyph =>
      let transform := ((base.after object.transform).after (.shifting glyph.x glyph.y)).after
        (.scaling object.fontSize object.fontSize)
      let paint (role : PaintRole) (own : Argb) : Paint :=
        ⟨color config role own, blend, !config.flags.has .noSmoothText⟩
      (if object.mode.fills then
        [.fill glyph.outline (paint .textFill object.fillColor) .nonZero transform] else []) ++
      (if object.mode.strokes then
        [.stroke glyph.outline (paint .textStroke object.strokeColor)
          (object.strokeStyle.shrink (Scalar.magnitude object.fontSize)) transform] else [])

def image (object : ImageObject α) (blend : BlendMode) : List (PaintCall α) :=
  if object.width = 0 ∨ object.height = 0 then []
  else
    [.image object blend (!config.flags.has .noSmoothImage)
      ((base.after object.transform).after (pixelToUnit object.width object.height))]

def shading (object : ShadingObject α) (blend : BlendMode) : List (PaintCall α) :=
  let smooth := !config.flags.has .noSmoothPath
  let transform := base.after object.transform
  match config.scheme with
  | some scheme =>
    let flat := (scheme.pick .pathFill).modulateAlpha object.shading.maxAlpha
    [.fill object.area ⟨flat, blend, smooth⟩ .nonZero transform]
  | none => [.shade object.area object.shading blend smooth transform]

def object (item : PageObject α) (blend : BlendMode) : List (PaintCall α) :=
  match item with
  | .path item => path base config item blend
  | .text item => text base config item blend
  | .image item => image base config item blend
  | .shading item => shading base config item blend

/-- The appearance of an annotation under the blend mode of the annotation, or under each object's
own if that is the normal one. -/
def annot (annot : Annot α) : List (PaintCall α) :=
  annot.appearance.flatMap fun item =>
    object base config item (if annot.blend = .normal then item.blend else annot.blend)

end Calls

variable [Scalar α] (page : Page α) (config : Config)

/-- The calls of the base pass, unit by unit: all objects in document order, then, if annotations
are painted, those that are shown in page order. -/
def units : List (List (PaintCall α)) :=
  let base := displayTransform page.width page.height config.rect config.rotation
  page.objects.map (fun item => object base config item item.blend) ++
    (if config.flags.has .annotations then page.annots.filter (shown config) else []).map
      (annot base config)

/-!
## Scripts make these calls
-/

theorem resolve_ofConfig (role : PaintRole) (own : Argb) :
    (ColorPolicy.ofConfig config).resolve role own = color config role own := by
  cases scheme : config.scheme <;> simp [ColorPolicy.ofConfig, ColorPolicy.resolve, color, scheme]

private theorem pathCalls_ofConfig (item : PathObject α) (blend : BlendMode) :
    (Renderer.ofConfig page config).pathCalls item blend =
      path (Renderer.ofConfig page config).base config item blend := by
  have smooth : (Renderer.ofConfig page config).smoothPaths =
      !config.flags.has .noSmoothPath := rfl
  have strokesFills : (ColorPolicy.ofConfig config).strokesFills =
      (config.scheme.isSome && config.flags.has .fillToStroke) := rfl
  change List.map _ ((ColorPolicy.ofConfig config).pathPaints item) = _
  simp only [ColorPolicy.pathPaints, path, strokesFills, resolve_ofConfig, smooth]
  cases filled : item.fill with
  | none => cases item.stroke <;> simp
  | some fill =>
      dsimp only
      by_cases converted : config.scheme.isSome ∧ config.flags.has .fillToStroke
      · rw [if_pos (by simpa using converted), if_pos ⟨converted.1, converted.2, rfl⟩]
        cases item.stroke <;> rfl
      · rw [if_neg (by simpa using converted), if_neg fun all => converted ⟨all.1, all.2.1⟩]
        cases item.stroke <;> rfl

private theorem textCalls_ofConfig (item : TextObject α) (blend : BlendMode) :
    (Renderer.ofConfig page config).textCalls item blend =
      text (Renderer.ofConfig page config).base config item blend := by
  have smooth : (Renderer.ofConfig page config).smoothText =
      !config.flags.has .noSmoothText := rfl
  change PagePaint.textCalls item (Renderer.ofConfig page config).base
    (((ColorPolicy.ofConfig config).textPaint item).fill.map _)
    (((ColorPolicy.ofConfig config).textPaint item).stroke.map _) = _
  simp only [PagePaint.textCalls, text, ColorPolicy.textPaint, resolve_ofConfig, smooth,
    glyphTransform]
  by_cases nothing : Scalar.same item.fontSize Scalar.zero ∨ item.glyphs = []
  · rw [if_pos nothing]
    rcases nothing with zero | empty
    · rw [if_pos zero]
    · rw [empty, List.flatMap_nil, ite_self]
  · rw [if_neg nothing, if_neg fun zero => nothing (.inl zero)]
    cases item.mode.fills <;> cases item.mode.strokes <;> rfl

private theorem imageCalls_ofConfig (item : ImageObject α) (blend : BlendMode) :
    ((Renderer.ofConfig page config).imageScript item blend).calls =
      image (Renderer.ofConfig page config).base config item blend := by
  simp only [Renderer.imageScript, image]
  split
  · rfl
  · rfl

private theorem shadingCall_ofConfig (item : ShadingObject α) (blend : BlendMode) :
    [(Renderer.ofConfig page config).shadingCall item blend] =
      shading (Renderer.ofConfig page config).base config item blend := by
  have smooth : (Renderer.ofConfig page config).smoothPaths =
      !config.flags.has .noSmoothPath := rfl
  have policy : (Renderer.ofConfig page config).policy = .ofConfig config := rfl
  have active : (ColorPolicy.ofConfig config).isActive = config.scheme.isSome := rfl
  have opacity : (Argb.black.withAlpha item.shading.maxAlpha).alpha = item.shading.maxAlpha :=
    Argb.alpha_ofChannels _ _ _ _
  simp only [Renderer.shadingCall, ColorPolicy.shadingColor, shading, policy, active,
    resolve_ofConfig, smooth, color, opacity]
  cases config.scheme with
  | none => rfl
  | some scheme => rfl

theorem objectScript_calls (item : PageObject α) (blend : BlendMode) :
    ((Renderer.ofConfig page config).objectScript item blend).calls =
      object (Renderer.ofConfig page config).base config item blend := by
  cases item with
  | path item => exact (Script.calls_ofCalls _).trans (pathCalls_ofConfig page config item blend)
  | text item => exact (Script.calls_ofCalls _).trans (textCalls_ofConfig page config item blend)
  | image item => exact imageCalls_ofConfig page config item blend
  | shading item =>
      exact (Script.calls_ofCalls _).trans (shadingCall_ofConfig page config item blend)

theorem annotScript_calls (item : Annot α) :
    ((Renderer.ofConfig page config).annotScript item).calls =
      annot (Renderer.ofConfig page config).base config item := by
  simp only [Renderer.annotScript, Script.calls_flatMap, objectScript_calls, annot,
    Annot.effectiveBlend]

omit [Scalar α] in
private theorem isBaseContent_isPrinting (item : Annot α) :
    item.isBaseContent config.isPrinting = shown config item := by
  simp only [Annot.isBaseContent, Annot.isWidget, AnnotSubtype.isWidget, Annot.isVisible,
    AnnotFlags.isVisible, Config.isPrinting, shown, bne, Bool.and_assoc]
  rfl

omit [Scalar α] in
private theorem baseAnnots_eq :
    (baseAnnots page config).map Prod.snd =
      if config.flags.has .annotations then page.annots.filter (shown config) else [] := by
  rw [baseAnnots, Config.paintsAnnotations]
  split
  · have numbered : (page.annots.zipIdx.map fun entry => (entry.2, entry.1)).map Prod.snd =
        page.annots := by
      rw [List.map_map]
      exact List.zipIdx_map_fst 0 page.annots
    have filtered := List.filter_map (f := Prod.snd) (p := shown config)
      (l := page.annots.zipIdx.map fun entry => (entry.2, entry.1))
    rw [numbered] at filtered
    rw [filtered]
    simp only [isBaseContent_isPrinting]
    rfl
  · rfl

/-- The work of a base pass makes the calls of the painting order, unit by unit. -/
theorem workList_calls :
    (workList page config).map (fun unit =>
        (unit.body (Renderer.ofConfig page config)).calls) = units page config := by
  have objects : page.objects.zipIdx.map (fun entry =>
      ((Renderer.ofConfig page config).objectScript entry.1 entry.1.blend).calls) =
        page.objects.map fun item =>
          object (Renderer.ofConfig page config).base config item item.blend := by
    simp only [objectScript_calls]
    conv => rhs; rw [← List.zipIdx_map_fst 0 page.objects, List.map_map]
    rfl
  have annots : (baseAnnots page config).map (fun entry =>
      ((Renderer.ofConfig page config).annotScript entry.2).calls) =
        (if config.flags.has .annotations then page.annots.filter (shown config) else []).map
          (annot (Renderer.ofConfig page config).base config) := by
    simp only [annotScript_calls]
    rw [← baseAnnots_eq, List.map_map]
    rfl
  rw [workList, List.map_append, List.map_map, List.map_map, units]
  exact congr (congrArg HAppend.hAppend objects) annots

end PaintingOrder

end PagePaint
