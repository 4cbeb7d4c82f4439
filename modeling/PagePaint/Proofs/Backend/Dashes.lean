import PagePaint.Paint.Renderer
import PagePaint.Proofs.Backend.PainterFaults
import PagePaint.Proofs.Raster.Dashing

set_option autoImplicit false

/-!
# Dashed strokes

A stroke with a usable dash array is painted as the dashes of its outline. An array that is not
usable is passed over: the stroke is painted as a solid one, and the call does not fail.
-/

namespace PagePaint

namespace StrokeStyle

def solid (style : StrokeStyle Float32) : StrokeStyle Float32 :=
  { style with dashes := [], phase := 0 }

theorem solid_pattern? (style : StrokeStyle Float32) : style.solid.pattern? = none := by
  refine DashPattern.of?_of_not_usable fun usable => ?_
  exact usable.nonempty rfl

end StrokeStyle

namespace Pixmap

variable {pixmap : Pixmap} {outline : Outline Float32} {color : Argb} {mode : BlendMode}
  {smooth : Bool} {style : StrokeStyle Float32} {transform : Transform Float32}

/-- A style with a pattern strokes the dashes of an outline and not the outline. -/
theorem strokeOutline_of_pattern {pattern : DashPattern} (dashed : style.pattern? = some pattern) :
    pixmap.strokeOutline outline color mode smooth style transform =
      match outline.dashed? pattern transform.enlargement with
      | some dashes => pixmap.strokeOutline dashes color mode smooth style.solid transform
      | none => pixmap := by
  simp only [strokeOutline, dashed, style.solid_pattern?]
  by_cases negative : style.width < 0
  · rw [if_pos negative]
    cases outline.dashed? pattern transform.enlargement with
    | none => rfl
    | some dashes => exact (if_pos negative).symm
  · rw [if_neg negative]
    cases outline.dashed? pattern transform.enlargement with
    | none => rfl
    | some dashes => exact (if_neg negative).symm

private theorem strokeOutline_solid (undashed : style.pattern? = none) :
    pixmap.strokeOutline outline color mode smooth style transform =
      pixmap.strokeOutline outline color mode smooth style.solid transform := by
  simp only [strokeOutline, undashed, style.solid_pattern?]
  rfl

end Pixmap

namespace Backend

variable {outline : Outline Float32} {paint : Paint} {style : StrokeStyle Float32}
  {transform : Transform Float32}

theorem painter_paint_stroke (whole : ¬ transform.Broken) (outline : Outline Float32)
    (paint : Paint) (style : StrokeStyle Float32) (canvas : Canvas ImageCache) :
    painter.paint (.stroke outline paint style transform) canvas =
      .ok ⟨canvas.state, { canvas.target with
        pixmap := canvas.target.pixmap.strokeOutline outline paint.color paint.blend
          paint.antiAlias style transform }⟩ := by
  simp only [painter, Painter.effect, Painter.stroke, Painter.checked_of_whole whole]
  rfl

/-- A stroke is painted as dashes: there is a pattern that repeats the dash array of its style from
the phase, contours are drawn in the stretches of this array, and what is painted is a solid stroke
along the dashes of the outline. Nothing is painted if there are none, or too many. -/
def PaintsDashes (outline : Outline Float32) (paint : Paint) (style : StrokeStyle Float32)
    (transform : Transform Float32) (canvas : Canvas ImageCache) : Prop :=
  ∃ pattern : DashPattern, pattern.Repeats style.dashes style.phase ∧
    (∀ (contour : Measured) (path : Outline.Draft Float32),
      contour.DrawnInStretches pattern style.dashes path (contour.dash pattern path)) ∧
      painter.paint (.stroke outline paint style transform) canvas =
        match outline.dashed? pattern transform.enlargement with
        | some dashes => painter.paint (.stroke dashes paint style.solid transform) canvas
        | none => .ok canvas

/-- The dashes of an array are kept from a phase: every stroke that has them, under a transform that
can be used, is refused or painted as dashes. -/
def DashesKept (dashes : List Float32) (phase : Float32) : Prop :=
  ∀ (outline : Outline Float32) (paint : Paint) (style : StrokeStyle Float32)
    (transform : Transform Float32) (canvas : Canvas ImageCache),
    style.dashes = dashes → style.phase = phase → ¬ transform.Broken →
      (painter.paint (.stroke outline paint style transform) canvas).failure ≠ none ∨
        PaintsDashes outline paint style transform canvas

/-- The dashes of an array are passed over: every stroke that has them, under a transform that can
be used, is painted like one without dashes, and nothing is reported. -/
def PaintedSolid (dashes : List Float32) (phase : Float32) : Prop :=
  ∀ (outline : Outline Float32) (paint : Paint) (style : StrokeStyle Float32)
    (transform : Transform Float32) (canvas : Canvas ImageCache),
    style.dashes = dashes → style.phase = phase → ¬ transform.Broken →
      let painted := painter.paint (.stroke outline paint style transform) canvas
      painted.failure = none ∧
        painted = painter.paint (.stroke outline paint style.solid transform) canvas

private theorem paintsDashes_of_usable (usable : DashPattern.Usable style.dashes style.phase)
    (whole : ¬ transform.Broken) (outline : Outline Float32) (paint : Paint)
    (canvas : Canvas ImageCache) : PaintsDashes outline paint style transform canvas := by
  obtain ⟨pattern, found, repeats⟩ := usable.repeats
  refine ⟨pattern, repeats, fun contour => contour.dash_drawnInStretches repeats, ?_⟩
  rw [painter_paint_stroke whole, Pixmap.strokeOutline_of_pattern found]
  cases outline.dashed? pattern transform.enlargement with
  | none => rfl
  | some dashes => exact (painter_paint_stroke whole dashes paint style.solid canvas).symm

theorem dashesKept_of_usable {dashes : List Float32} {phase : Float32}
    (usable : DashPattern.Usable dashes phase) : DashesKept dashes phase := by
  intro outline paint style transform canvas sameDashes samePhase whole
  rw [← sameDashes, ← samePhase] at usable
  exact .inr (paintsDashes_of_usable usable whole outline paint canvas)

theorem paintedSolid_of_not_usable {dashes : List Float32} {phase : Float32}
    (refused : ¬ DashPattern.Usable dashes phase) : PaintedSolid dashes phase := by
  rintro outline paint style transform canvas rfl rfl whole painted
  have undashed : style.pattern? = none := DashPattern.of?_of_not_usable refused
  have result := painter_paint_stroke whole outline paint style canvas
  refine ⟨congrArg Outcome.failure result, result.trans ?_⟩
  rw [painter_paint_stroke whole, Pixmap.strokeOutline_solid undashed]

/-!
## A line without dashes

A line may be so short that nothing is measured along it, and still be seen on the target: the
transform enlarges it across the middle of a pixel. It has no dashes whatever the pattern, so a
stroke that paints it is solid.
-/

def faintLine : Outline Float32 := ⟨[.move ⟨0, 0⟩, .line ⟨1e-23, 0⟩]⟩

def enlarging : Transform Float32 := ⟨1e19, 0, 0, 1, 0.4999, 0.5⟩

def hairline (dashes : List Float32) (phase : Float32) : StrokeStyle Float32 :=
  { StrokeStyle.ofWidth 0 with dashes, phase }

def blankCanvas (width height : UInt32) : Canvas ImageCache :=
  ⟨.unlimited, ⟨.filled width height .clear, true⟩⟩

private theorem not_broken_enlarging : ¬ enlarging.Broken := by
  rw [Transform.broken_iff]
  decide +kernel

private theorem faintLine_dashed? (pattern : DashPattern) :
    faintLine.dashed? pattern enlarging.enlargement = none := by
  refine Outline.dashed?_of_empty (fun contour member => ?_) pattern
  have all : (Measured.ofOutline faintLine enlarging.enlargement).all
      (fun contour => !contour.closed && !decide (0 < contour.length)) = true := by
    decide +kernel
  simpa using Array.all_eq_true_iff_forall_mem.mp all contour member

theorem not_dashesKept_of_not_usable {dashes : List Float32} {phase : Float32}
    (refused : ¬ DashPattern.Usable dashes phase) : ¬ DashesKept dashes phase := by
  intro kept
  obtain ⟨accepted, painted⟩ := paintedSolid_of_not_usable refused faintLine
    ⟨.black, .normal, false⟩ (hairline dashes phase) enlarging (blankCanvas 4 4) rfl rfl
    not_broken_enlarging
  obtain failed | ⟨pattern, -, -, same⟩ := kept faintLine ⟨.black, .normal, false⟩
    (hairline dashes phase) enlarging (blankCanvas 4 4) rfl rfl not_broken_enlarging
  · exact failed accepted
  · -- Whatever pattern it is, it would leave the canvas blank.
    rw [faintLine_dashed? pattern] at same
    have blank : painter.paint (.stroke faintLine ⟨.black, .normal, false⟩ (hairline [] 0)
        enlarging) (blankCanvas 4 4) = .ok (blankCanvas 4 4) := painted.symm.trans same
    have drawn : (painter.paint (.stroke faintLine ⟨.black, .normal, false⟩ (hairline [] 0)
        enlarging) (blankCanvas 4 4)).canvas.target.pixmap.pixel? 0 0 = some (.ofColor .black) := by
      decide +kernel
    rw [blank] at drawn
    exact absurd drawn (by decide +kernel)

/-- The strokes of a text share its style, divided by the magnitude of its font size. -/
theorem textCalls_stroke {renderer : Renderer Float32} {text : TextObject Float32}
    {blend : BlendMode} (member : .stroke outline paint style transform ∈
      renderer.textCalls text blend) :
    style = text.strokeStyle.shrink (Scalar.magnitude text.fontSize) := by
  rw [Renderer.textCalls, PagePaint.textCalls] at member
  split at member
  · cases member
  · obtain ⟨glyph, -, member⟩ := List.mem_flatMap.mp member
    obtain filled | stroked := List.mem_append.mp member
    · obtain ⟨fill, -, same⟩ := List.mem_map.mp filled
      cases same
    · obtain ⟨stroke, -, same⟩ := List.mem_map.mp stroked
      cases same
      rfl

/-- The dashes of a stroke are kept exactly if its dash array is usable. Otherwise the stroke is
painted solid. What the strokes of a text bring along is the dash array and the phase of the text,
divided by the magnitude of its font size, so this is what decides there. -/
theorem dashesKept_iff_usable (dashes : List Float32) (phase : Float32) :
    (DashesKept dashes phase ↔ DashPattern.Usable dashes phase) ∧
      (¬ DashPattern.Usable dashes phase → PaintedSolid dashes phase) ∧
        ∀ (renderer : Renderer Float32) (text : TextObject Float32) (blend : BlendMode)
          (outline : Outline Float32) (paint : Paint) (style : StrokeStyle Float32)
          (transform : Transform Float32),
          text.strokeStyle.dashes.map (· / Scalar.magnitude text.fontSize) = dashes →
          text.strokeStyle.phase / Scalar.magnitude text.fontSize = phase →
          .stroke outline paint style transform ∈ renderer.textCalls text blend →
            style.dashes = dashes ∧ style.phase = phase := by
  refine ⟨⟨fun kept => ?_, dashesKept_of_usable⟩, paintedSolid_of_not_usable, ?_⟩
  · by_contra refused
    exact not_dashesKept_of_not_usable refused kept
  · rintro renderer text blend outline paint style transform rfl rfl member
    rw [textCalls_stroke member]
    exact ⟨rfl, rfl⟩

/-- A dash of four and a gap of four are kept, a dash of four alone is not. A font size of a half
makes the first array one of eights. -/
theorem dashesKept_iff_usable_fours :
    DashesKept [4, 4] 1 ∧ ¬ DashesKept [4] 0 ∧ PaintedSolid [4] 0 ∧
      let text : TextObject Float32 :=
        { TextObject.ofGlyphs [⟨faintLine, 0, 0⟩] 0.5 with
          mode := .stroke, strokeStyle := hairline [4, 4] 1 }
      let renderer : Renderer Float32 := ⟨.identity, .native, .empty⟩
      ∃ style transform,
        .stroke faintLine ⟨.black, .normal, true⟩ style transform ∈
            renderer.textCalls text .normal ∧
          style.dashes = [8, 8] ∧ style.phase = 2 := by
  obtain ⟨⟨-, kept⟩, -⟩ := dashesKept_iff_usable [4, 4] 1
  obtain ⟨⟨usable, -⟩, solid, -⟩ := dashesKept_iff_usable [4] 0
  obtain ⟨-, -, glyphs⟩ := dashesKept_iff_usable [8, 8] 2
  have refused : ¬ DashPattern.Usable [4] 0 := by decide +kernel
  refine ⟨kept (by decide +kernel), fun kept => refused (usable kept), solid refused, ?_⟩
  intro text renderer
  have member : .stroke faintLine ⟨.black, .normal, true⟩ (text.strokeStyle.shrink 0.5)
      ⟨0.5, 0, 0, 0.5, 0, 0⟩ ∈ renderer.textCalls text .normal := by
    decide +kernel
  exact ⟨_, _, member, glyphs renderer text .normal _ _ _ _ (by decide +kernel) (by decide +kernel)
    member⟩

/-- An array with one entry is passed over: the fourth pixel of a line lies in the first gap, yet it
is painted. So are an array of nothing but zeroes, one with a negative entry, an array from a phase
that is not finite, and one that a tiny font size makes infinite. -/
theorem odd_dashes_painted_solid :
    let line : Outline Float32 := ⟨[.move ⟨0, 1.5⟩, .line ⟨8, 1.5⟩]⟩
    let painted (dashes : List Float32) := painter.paint
      (.stroke line ⟨.black, .normal, false⟩ (hairline dashes 0) .identity) (blankCanvas 8 4)
    let fourth (outcome : Outcome ImageCache) := outcome.canvas.target.pixmap.pixel? 3 1
    ((painted [2]).failure = none ∧ painted [2] = painted [] ∧
        fourth (painted [2]) = some (.ofColor .black) ∧
          fourth (painted [2, 2]) = some .clear) ∧
      ¬ DashesKept [2] 0 ∧ ¬ DashesKept [0, 0] 0 ∧ ¬ DashesKept [-1, 3] 0 ∧
        ¬ DashesKept [2, 2] (1 / 0) ∧ DashesKept [4, 4] 0 ∧
          ¬ DashesKept ([4, 4].map (· / 1e-39)) (0 / 1e-39) := by
  intro line painted fourth
  have whole : ¬ (Transform.identity : Transform Float32).Broken := by
    rw [Transform.broken_iff]
    decide +kernel
  obtain ⟨accepted, solid⟩ : (painted [2]).failure = none ∧ painted [2] = painted [] :=
    paintedSolid_of_not_usable (by decide +kernel) line _ (hairline [2] 0) .identity
      (blankCanvas 8 4) rfl rfl whole
  have drawn : fourth (painted []) = some (.ofColor .black) := by decide +kernel
  refine ⟨⟨accepted, solid, solid ▸ drawn, by decide +kernel⟩, ?_, ?_, ?_, ?_, ?_, ?_⟩
  · exact not_dashesKept_of_not_usable (by decide +kernel)
  · exact not_dashesKept_of_not_usable (by decide +kernel)
  · exact not_dashesKept_of_not_usable (by decide +kernel)
  · exact not_dashesKept_of_not_usable (by decide +kernel)
  · exact dashesKept_of_usable (by decide +kernel)
  · exact not_dashesKept_of_not_usable (by decide +kernel)

end Backend

end PagePaint
