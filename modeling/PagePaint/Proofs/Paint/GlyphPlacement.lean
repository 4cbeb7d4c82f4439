import PagePaint.Paint.Renderer
import PagePaint.Proofs.Geometry.Composition
import PagePaint.Proofs.Paint.Order

set_option autoImplicit false

/-!
# Where glyphs come to lie

A glyph is an outline in units of the font size. It is enlarged to text space, set down at its
origin, moved to the page by the matrix of its text and to the device by that of the page. A stroke
is given in text space and must not be enlarged with the glyph, so its lengths are taken in units of
the font size first.
-/

namespace PagePaint

/-- A stroke style with all its lengths in units of a scale. As many units again are the lengths
that were given. What is no length stays as it is. -/
structure StrokeStyle.Rescaled (given : StrokeStyle ℚ) (scale : ℚ) (passed : StrokeStyle ℚ) :
    Prop where
  width : passed.width = given.width / scale
  dashes : passed.dashes = given.dashes.map (· / scale)
  phase : passed.phase = given.phase / scale
  fullWidth : passed.width * scale = given.width
  fullDashes : passed.dashes.map (· * scale) = given.dashes
  fullPhase : passed.phase * scale = given.phase
  count : passed.dashes.length = given.dashes.length
  cap : passed.cap = given.cap
  join : passed.join = given.join
  miterLimit : passed.miterLimit = given.miterLimit

private theorem StrokeStyle.shrink_rescaled (style : StrokeStyle ℚ) {scale : ℚ}
    (regular : scale ≠ 0) :
    style.Rescaled scale (style.shrink scale) := by
  have restored (length : ℚ) : length / scale * scale = length := div_mul_cancel₀ length regular
  constructor
  case fullDashes =>
    rw [shrink, List.map_map]
    exact List.map_id'' restored _
  case fullWidth => exact restored style.width
  case fullPhase => exact restored style.phase
  case count => exact List.length_map _
  all_goals rfl

private theorem glyphTransform_apply (onward : Transform ℚ) (glyph : Glyph ℚ) (size : ℚ)
    (point : Point ℚ) :
    (glyphTransform onward glyph size).apply point =
      onward.apply ⟨glyph.x + size * point.x, glyph.y + size * point.y⟩ := by
  rw [glyphTransform, Transform.apply_after, Transform.apply_after, Transform.apply_scaling,
    Transform.apply_shifting]

/-- The calls that paint a glyph of a text: with one transform, which takes the glyph from units of
the font size to text space, to the page and to the device, its outline is filled if the mode fills
and then stroked if the mode strokes. -/
inductive Glyph.Painted (display : Transform ℚ) (text : TextObject ℚ) (fill stroke : Paint)
    (style : StrokeStyle ℚ) (glyph : Glyph ℚ) : List (PaintCall ℚ) → Prop where
  | calls (transform : Transform ℚ)
      (placed : ∀ u v : ℚ, transform.apply ⟨u, v⟩ =
        display.apply (text.transform.apply
          ⟨glyph.x + text.fontSize * u, glyph.y + text.fontSize * v⟩)) :
      Painted display text fill stroke style glyph
        ((if text.mode.fills then [.fill glyph.outline fill .nonZero transform] else []) ++
          if text.mode.strokes then [.stroke glyph.outline stroke style transform] else [])

namespace Renderer

variable (renderer : Renderer ℚ) (text : TextObject ℚ) (blend : BlendMode)

def textColor (role : PaintRole) (own : Argb) : Paint :=
  ⟨renderer.policy.resolve role own, blend, renderer.smoothText⟩

def glyphCalls (glyph : Glyph ℚ) : List (PaintCall ℚ) :=
  let transform := glyphTransform (renderer.base.after text.transform) glyph text.fontSize
  let style := text.strokeStyle.shrink |text.fontSize|
  (if text.mode.fills then
    [.fill glyph.outline (renderer.textColor blend .textFill text.fillColor) .nonZero transform]
    else []) ++
  if text.mode.strokes then
    [.stroke glyph.outline (renderer.textColor blend .textStroke text.strokeColor) style transform]
    else []

variable {text}

private theorem textCalls_eq (sized : text.fontSize ≠ 0) :
    renderer.textCalls text blend = text.glyphs.flatMap (renderer.glyphCalls text blend) := by
  have regular : Scalar.same text.fontSize Scalar.zero = false := decide_eq_false sized
  simp only [textCalls, PagePaint.textCalls, regular, Scalar.magnitude_eq_abs,
    ColorPolicy.textPaint, Bool.false_eq_true, if_false]
  refine List.flatMap_congr fun glyph _ => ?_
  unfold glyphCalls
  cases text.mode.fills <;> cases text.mode.strokes <;> rfl

private theorem glyphCalls_painted (glyph : Glyph ℚ) :
    glyph.Painted renderer.base text (renderer.textColor blend .textFill text.fillColor)
      (renderer.textColor blend .textStroke text.strokeColor)
      (text.strokeStyle.shrink |text.fontSize|) (renderer.glyphCalls text blend glyph) := by
  refine .calls (glyphTransform (renderer.base.after text.transform) glyph text.fontSize) ?_
  intro u v
  rw [glyphTransform_apply, Transform.apply_after]

/-- Every glyph of a text is painted where the matrices of its text and of its page put it, whatever
the rotation of the page, the skew of the text and the sign of the font size, and whatever colours
the pass is painted in. All glyphs are stroked in one style, that of the text in units of the size
of the font. -/
theorem glyphs_placed (page : Page ℚ) (config : Config) (policy : ColorPolicy)
    (sized : text.fontSize ≠ 0) :
    let display := displayTransform page.width page.height config.rect config.rotation
    let paint (role : PaintRole) (own : Argb) : Paint :=
      ⟨policy.resolve role own, blend, !config.flags.has .noSmoothText⟩
    ∃ style rows,
      text.strokeStyle.Rescaled |text.fontSize| style ∧
        ((withPolicy page config policy).objectScript (.text text) blend).calls = rows.flatten ∧
        text.glyphs.Forall₂ (Glyph.Painted display text (paint .textFill text.fillColor)
          (paint .textStroke text.strokeColor) style) rows := by
  intro display paint
  let renderer := withPolicy page config policy
  refine ⟨text.strokeStyle.shrink |text.fontSize|,
    text.glyphs.map (renderer.glyphCalls text blend), ?_, ?_, ?_⟩
  · exact text.strokeStyle.shrink_rescaled (abs_ne_zero.mpr sized)
  · change (Script.ofCalls (renderer.textCalls text blend)).calls = _
    rw [Script.calls_ofCalls, renderer.textCalls_eq blend sized, List.flatMap_def]
  · rw [List.forall₂_map_right_iff, List.forall₂_same]
    intro glyph _
    exact renderer.glyphCalls_painted blend glyph

/-- Mirrored and skewed glyphs on a page that lies on its side: the second one's point (1, 2) is at
(-6, -33) in text space and at (7.5, 5.5) on the page. -/
theorem glyphs_placed_skewed :
    let page : Page ℚ := ⟨200, 100, [], []⟩
    let config := (Config.ofRect ⟨-10, 20, 50, 80⟩).withRotation .clockwise90
    let outline : Outline ℚ := ⟨[.move ⟨0, 0⟩, .line ⟨1, 0⟩]⟩
    let text : TextObject ℚ :=
      { glyphs := [⟨outline, 0, 0⟩, ⟨outline, 12, 3⟩]
        fontSize := -18
        transform := ⟨1, 1 / 4, 1 / 2, 1, 30, 40⟩
        mode := .fillStroke
        fillColor := .black
        strokeColor := .white
        strokeStyle := ⟨3, .round, .bevel, 4, [9, 6], 2⟩
        blend := .normal }
    text.fontSize ≠ 0 ∧
      ∃ (style : StrokeStyle ℚ) (first second : Transform ℚ),
        (style.width = 1 / 6 ∧ style.dashes = [1 / 2, 1 / 3] ∧ style.phase = 1 / 9) ∧
        ((withPolicy page config .native).objectScript (.text text) .multiply).calls =
          [.fill outline ⟨.black, .multiply, true⟩ .nonZero first,
            .stroke outline ⟨.white, .multiply, true⟩ style first,
            .fill outline ⟨.black, .multiply, true⟩ .nonZero second,
            .stroke outline ⟨.white, .multiply, true⟩ style second] ∧
        second.apply ⟨1, 2⟩ = ⟨-29 / 4, 23⟩ := by
  intro page config outline text
  have sized : text.fontSize ≠ 0 := by norm_num [text]
  obtain ⟨style, rows, rescaled, calls, painted⟩ :=
    glyphs_placed .multiply page config .native sized
  have size : |text.fontSize| = 18 := by norm_num [text]
  have smooth : config.flags.has .noSmoothText = false := by decide +kernel
  obtain ⟨first, others, firstPainted, later, rfl⟩ := List.forall₂_cons_left_iff.mp painted
  obtain ⟨second, none, secondPainted, last, rfl⟩ := List.forall₂_cons_left_iff.mp later
  obtain rfl := List.forall₂_nil_left_iff.mp last
  obtain ⟨before, -⟩ := firstPainted
  obtain ⟨after, placed⟩ := secondPainted
  refine ⟨sized, style, before, after, ⟨?_, ?_, ?_⟩, ?_, ?_⟩
  · rw [rescaled.width, size]
    norm_num [text]
  · rw [rescaled.dashes, size]
    norm_num [text]
  · rw [rescaled.phase, size]
    norm_num [text]
  · rw [calls, smooth]
    rfl
  · rw [placed]
    decide +kernel

end Renderer

end PagePaint
