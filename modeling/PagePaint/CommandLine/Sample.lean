import PagePaint.Page.Page

set_option autoImplicit false

/-!
# The sample page

A page with one object of every kind, a highlight, an ink mark and a form field.
-/

namespace PagePaint.CommandLine

open PagePaint

def sampleWidth : Float32 := 300

def sampleHeight : Float32 := 200

def sampleFontSize : Float32 := 18

private def edgeCommands (left top right bottom : Float32) : List (Segment Float32) :=
  [.move ⟨left, top⟩, .line ⟨right, top⟩, .line ⟨right, bottom⟩, .line ⟨left, bottom⟩, .close]

/-- A box with a hole. The hole winds the other way, so that filling leaves it out. -/
def boxGlyph? (x : Float32) : Option (Glyph Float32) :=
  let hole : List (Segment Float32) :=
    [.move ⟨0.2, 0.2⟩, .line ⟨0.2, 0.5⟩, .line ⟨0.4, 0.5⟩, .line ⟨0.4, 0.2⟩, .close]
  (Outline.ofCommands? (edgeCommands 0.05 0 (0.5 + 0.05) 0.7 ++ hole)).map fun outline =>
    ⟨outline, x, 0⟩

/-- The pixels of a square board of dark and light fields, four pixels wide each. -/
def checkerboard (size : Nat) : Array UInt8 :=
  ((List.range size).flatMap fun row =>
    (List.range size).flatMap fun column =>
      let value : UInt8 := if (column / 4 + row / 4) % 2 = 0 then 40 else 220
      [value, value, 255 - value, 255]).toArray

private def sampleText : TextObject Float32 :=
  let glyphs := (List.range 8).filterMap fun index =>
    boxGlyph? (index.toFloat32 * 0.6 * sampleFontSize)
  { TextObject.ofGlyphs glyphs sampleFontSize with transform := .shifting 30 160 }

private def sampleShading? : Option (ShadingObject Float32) := do
  let edges ← (Rect.mk (190 : Float32) 20 90 80).edges?
  return {
    area := .ofEdges edges
    shading := {
      shape := .axial ⟨190, 0⟩ ⟨280, 0⟩
      stops := [⟨0, .rgb 0xFF 0xC0 0x00⟩, ⟨1, .rgb 0x80 0x00 0x80⟩] }
    transform := .identity
    blend := .normal }

private def sampleObjects? : Option (List (PageObject Float32)) := do
  let first ← PathObject.filledRect? ⟨20, 20, 120, 80⟩ (.rgb 0x30 0x90 0xE0)
  let second ← PathObject.filledRect? ⟨60, 60, 120, 80⟩ (Argb.pureRed.withAlpha 0x90)
  let stroked := { second with stroke := some .black, strokeStyle := .ofWidth 3 }
  let image := ImageObject.placed 1 32 32 (checkerboard 32) ⟨200, 120, 64, 64⟩
  return [.path first, .path stroked, .text sampleText, .image image, .shading (← sampleShading?)]

private def sampleAnnots? : Option (List (Annot Float32)) := do
  let marked : Rect Float32 := ⟨25, 150, 150, 25⟩
  let mark ← PathObject.filledRect? marked (.rgb 0xFF 0xFF 0x00)
  let curve ← Outline.ofCommands?
    [.move ⟨20, 110⟩, .cubic ⟨60, 140⟩ ⟨100, 80⟩ ⟨140, 115⟩]
  let ink :=
    { PathObject.ofOutline curve with stroke := some .pureGreen, strokeStyle := .ofWidth 2 }
  let field : Rect Float32 := ⟨200, 30, 80, 20⟩
  let border ← PathObject.strokedRect? field .pureBlue 1
  return [.ofAppearance .highlight marked [.path mark],
    .ofAppearance .ink ⟨20, 80, 120, 60⟩ [.path ink],
    .ofAppearance .widget field [.path border]]

def samplePage? : Option (Page Float32) := do
  return ⟨sampleWidth, sampleHeight, ← sampleObjects?, ← sampleAnnots?⟩

end PagePaint.CommandLine
