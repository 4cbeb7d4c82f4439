import PagePaint.Backend.Recorder
import PagePaint.Exchange.Value
import PagePaint.Number.Hexadecimal

set_option autoImplicit false

/-!
# Records of calls as values

A recorded call is a list of its kind and its arguments. Numbers are written as their words, so that
two records look alike only if they are.
-/

namespace PagePaint.Exchange

open PagePaint

/-- The word of a number; a number that is no number has no word of its own. -/
def numberText (number : Float32) : String :=
  if number.isNaN then "nan" else Hexadecimal.text 8 number.toBits.toNat

def numbersText (numbers : List Float32) : String := " ".intercalate (numbers.map numberText)

def colorText (color : Argb) : String := Hexadecimal.text 8 color.word.toNat

def colorValue (color : Argb) : Value := .text (colorText color)

/-- The entries of a transform, column by column. -/
def transformValue (transform : Transform Float32) : Value :=
  .text (numbersText
    [transform.sx, transform.ky, transform.kx, transform.sy, transform.tx, transform.ty])

def segmentText : Segment Float32 → String
  | .move target => "M " ++ numbersText [target.x, target.y]
  | .line target => "L " ++ numbersText [target.x, target.y]
  | .quadratic control target => "Q " ++ numbersText [control.x, control.y, target.x, target.y]
  | .cubic first second target =>
    "C " ++ numbersText [first.x, first.y, second.x, second.y, target.x, target.y]
  | .close => "Z"

def outlineText (outline : Outline Float32) : String :=
  " ".intercalate (outline.segments.map segmentText)

def styleText (style : StrokeStyle Float32) : String :=
  numberText style.width ++ " " ++ style.cap.name ++ " " ++ style.join.name ++ " " ++
    numberText style.miterLimit ++ " [" ++ numbersText style.dashes ++ "] " ++
    numberText style.phase

def shadingText (shading : Shading Float32) : String :=
  let shape := match shading.shape with
    | .axial start finish => "axial " ++ numbersText [start.x, start.y, finish.x, finish.y]
    | .radial center radius => "radial " ++ numbersText [center.x, center.y, radius]
  let stops := shading.stops.map fun stop => numberText stop.offset ++ ":" ++ colorText stop.color
  shape ++ " [" ++ " ".intercalate stops ++ "]"

private def paintValues (paint : Paint) : List Value :=
  [colorValue paint.color, .text paint.blend.name, .bool paint.antiAlias]

/-- A call. The pixels of an image are left out; the number of its bytes stands for them. -/
def callValue : PaintCall Float32 → Value
  | .clear color => .list [.text "clear", colorValue color]
  | .fill outline paint rule transform =>
    .list ([.text "fill", .text (outlineText outline)] ++ paintValues paint ++
      [.text rule.name, transformValue transform])
  | .stroke outline paint style transform =>
    .list ([.text "stroke", .text (outlineText outline)] ++ paintValues paint ++
      [.text (styleText style), transformValue transform])
  | .shade area shading blend antiAlias transform =>
    .list [.text "shading", .text (outlineText area), .text (shadingText shading),
      .text blend.name, .bool antiAlias, transformValue transform]
  | .image image blend smooth transform =>
    .list [.text "image", .natural image.id.toNat, .natural image.width.toNat,
      .natural image.height.toNat, .natural image.bytes.size, .natural image.opacity.toNat,
      .text blend.name, .bool smooth, transformValue transform]

def recordedValue : Recorded Float32 → Value
  | .prepared flags => .list [.text "begin", .natural flags.bits.toNat]
  | .painted made => callValue made

end PagePaint.Exchange
