import PagePaint.Page.Object
import PagePaint.Raster.Vector
import PagePaint.Target.Pixel

set_option autoImplicit false

/-!
# Gradients

A shading is painted in one colour or as a gradient: a map of device space onto a line, and a ramp
of colours along the line from zero to one. Colours are interpolated straight and multiplied by
their alpha afterwards.
-/

namespace PagePaint

/-- A straight colour as fractions of the full value. -/
structure Tint where
  red : Float32
  green : Float32
  blue : Float32
  alpha : Float32

namespace Tint

def ofColor (color : Argb) : Tint :=
  ⟨Pixel.fraction color.red, Pixel.fraction color.green, Pixel.fraction color.blue,
    Pixel.fraction color.alpha⟩

def zero : Tint := ⟨0, 0, 0, 0⟩

def zip (combine : Float32 → Float32 → Float32) (left right : Tint) : Tint :=
  ⟨combine left.red right.red, combine left.green right.green, combine left.blue right.blue,
    combine left.alpha right.alpha⟩

/-- A value brought between zero and one. One that is no number counts as zero. -/
def clamped (value : Float32) : Float32 :=
  if 0 < value then (if 1 < value then 1 else value) else 0

/-- The bytes of a colour, multiplied by its alpha unless it is known to be opaque. -/
def pixel (tint : Tint) (isOpaque : Bool) : Pixel :=
  let byte (value : Float32) : UInt8 := Pixel.ofFraction (clamped value)
  let alpha := byte tint.alpha
  let stored (value : Float32) : UInt8 :=
    if isOpaque then byte value
    else UInt8.ofNat (((byte value).toNat * alpha.toNat + 255) / 256)
  ⟨stored tint.red, stored tint.green, stored tint.blue, alpha⟩

end Tint

/-- A stretch of a ramp from a position on. Its colour at a position is a line in each channel. -/
structure Stretch where
  start : Float32
  slope : Tint
  base : Tint

namespace Stretch

def flat (start : Float32) (tint : Tint) : Stretch := ⟨start, .zero, tint⟩

/-- The stretch between two colours at different positions. -/
def between (start finish : Float32) (left right : Tint) : Stretch :=
  let slope := Tint.zip (fun low high => (high - low) / (finish - start)) left right
  ⟨start, slope, Tint.zip (fun low slope => low - slope * start) left slope⟩

def tint (stretch : Stretch) (position : Float32) : Tint :=
  Tint.zip (fun slope base => position * slope + base) stretch.slope stretch.base

end Stretch

structure Ramp where
  /-- The stretch that holds before any other starts. -/
  first : Stretch
  rest : List Stretch
  /-- Positions are brought between zero and one. -/
  bounded : Bool
  isOpaque : Bool

namespace Ramp

structure Stop where
  position : Float32
  color : Argb

/-- A stop with its position between zero and one. One that is not finite is at zero. -/
def stop (stop : ColorStop Float32) : Stop :=
  ⟨if stop.offset.isFinite then Tint.clamped stop.offset else 0, stop.color⟩

/-- Stops from zero to one. Where the first or the last is elsewhere, another of its colour is
added. -/
def spanning (stops : List Stop) : List Stop :=
  let head := match stops.head? with
    | some stop => if stop.position != 0 then [⟨0, stop.color⟩] else []
    | none => []
  let tail := match stops.getLast? with
    | some stop => if stop.position != 1 then [⟨1, stop.color⟩] else []
    | none => []
  head ++ stops ++ tail

/-- Stops in order: none is before the one before it, and the last is at one. -/
def inOrder : Float32 → List Stop → List Stop
  | _, [] => []
  | _, [stop] => [{ stop with position := 1 }]
  | previous, stop :: rest =>
    let position := if stop.position < previous then previous else stop.position
    { stop with position } :: inOrder position rest

/-- Whether stops that start at zero are evenly spaced by a step. -/
def even (step : Float32) : Float32 → List Stop → Bool
  | _, [] => true
  | previous, stop :: rest =>
    decide ((step - (stop.position - previous)).abs ≤ 1 / 4096) && even step stop.position rest

/-- The stretches from a stop on. Stops at one position have none between them. -/
def stretches : Stop → List Stop → List Stretch
  | last, [] => [.flat last.position (.ofColor last.color)]
  | left, right :: rest =>
    if left.position < right.position then
      .between left.position right.position (.ofColor left.color) (.ofColor right.color) ::
        stretches right rest
    else stretches right rest

/-- Stops without those at either end that only repeat the colour next to them. -/
private def trimmed (stops : List Stop) : List Stop :=
  let stops := match stops with
    | first :: second :: rest =>
      if first.color = second.color then second :: rest else first :: second :: rest
    | stops => stops
  match stops.reverse with
  | last :: before :: rest =>
    if last.color = before.color then (before :: rest).reverse else stops
  | _ => stops

/-- The ramp of at least two stops. Two stops are interpolated as they are; of more, those at the
ends that repeat a colour are left out, since the colour holds there anyway. -/
def ofStops (given : List (ColorStop Float32)) : Ramp :=
  let stops := given.map stop
  let spanned := spanning stops
  let ordered := inOrder 0 spanned
  let isOpaque := stops.all fun stop => stop.color.alpha = 255
  let startsEarly := match stops.head? with
    | some stop => stop.position == 0
    | none => false
  let counted := if startsEarly then ordered.drop 1 else ordered
  let step := match (if startsEarly then spanned.drop 1 else spanned).head? with
    | some stop => stop.position
    | none => 0
  let bounded := even step 0 counted
  match ordered with
  | [first, second] =>
    let low := Tint.ofColor first.color
    let slope := Tint.zip (fun low high => high - low) low (.ofColor second.color)
    ⟨⟨0, slope, low⟩, [], bounded, isOpaque⟩
  | ordered =>
    match trimmed ordered with
    | [] => ⟨.flat 0 .zero, [], bounded, isOpaque⟩
    | first :: rest => ⟨.flat 0 (.ofColor first.color), stretches first rest, bounded, isOpaque⟩

/-- The stretch at a position: the last that has started. -/
def stretchAt (position : Float32) : Stretch → List Stretch → Stretch
  | current, [] => current
  | current, next :: rest =>
    stretchAt position (if next.start ≤ position then next else current) rest

def pixel (ramp : Ramp) (position : Float32) : Pixel :=
  let position := if ramp.bounded then Tint.clamped position else position
  ((stretchAt position ramp.first ramp.rest).tint position).pixel ramp.isOpaque

end Ramp

/-- A ramp and the map of the shading's space onto its line. On a ring the position is the distance
from the centre. -/
structure Gradient where
  ramp : Ramp
  toLine : Transform Float32
  isRing : Bool

namespace Gradient

def pixel (gradient : Gradient) (point : Point Float32) : Pixel :=
  gradient.ramp.pixel
    (if gradient.isRing then (point.x * point.x + point.y * point.y).sqrt else point.x)

/-- Turns and scales an axis onto the line from zero to one. -/
def axisToLine (start finish : Point Float32) : Transform Float32 :=
  let axis := finish - start
  let scale := if axis.length == 0 then 0 else 1 / axis.length
  let unit := axis.scaled scale
  let rest := 1 - unit.x
  let turn : Transform Float32 :=
    { sx := unit.x
      ky := -unit.y
      kx := unit.y
      sy := unit.x
      tx := -unit.y * start.y + rest * start.x
      ty := unit.y * start.x + rest * start.y }
  (Transform.scaling scale scale).after ((Transform.shifting (-start.x) (-start.y)).after turn)

def ringToLine (center : Point Float32) (radius : Float32) : Transform Float32 :=
  (Transform.scaling (1 / radius) (1 / radius)).after (.shifting (-center.x) (-center.y))

/-- Axes up to this length are points. -/
def shortestAxis : Float32 := 1 / 32768

end Gradient

inductive Shade where
  | flat (color : Argb)
  | gradient (gradient : Gradient)

namespace Shading

/-- The gradient of a shape. An axis without length or of infinite length has none, and neither has
a ring without a radius or without a centre. -/
def gradient? (shading : Shading Float32) : Option Gradient :=
  let ramp := Ramp.ofStops shading.stops
  match shading.shape with
  | .axial start finish =>
    let length := (finish - start).length
    if length.isFinite && decide (Gradient.shortestAxis < length) then
      some ⟨ramp, Gradient.axisToLine start finish, false⟩
    else none
  | .radial center radius =>
    if (center - center).finite && !decide (radius ≤ Raster.tiny) then
      some ⟨ramp, Gradient.ringToLine center radius, true⟩
    else none

/-- What a shading is painted with. A single stop is a flat colour, and so is the last stop of a
shading that has no gradient. A shading without stops paints nothing. -/
def shade? (shading : Shading Float32) : Option Shade :=
  match shading.stops, shading.stops.getLast? with
  | [only], _ => some (.flat only.color)
  | _, some last =>
    match shading.gradient? with
    | some gradient => some (.gradient gradient)
    | none => some (.flat last.color)
  | _, none => none

end Shading

end PagePaint
