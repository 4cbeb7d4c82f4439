import PagePaint.Log
import PagePaint.Page.Object

set_option autoImplicit false

/-!
# Paint calls and scripts

Painting is described before it is done. A script is a flat list of calls to a backend, with the log
lines that accompany them.
-/

namespace PagePaint

variable {α : Type}

structure Paint where
  color : Argb
  blend : BlendMode
  antiAlias : Bool
deriving DecidableEq, Repr

namespace Paint

/-- A smooth paint that is not mixed in any special way. -/
def ofColor (color : Argb) : Paint := ⟨color, .normal, true⟩

end Paint

/-- One call to a backend. Colours are resolved, and transforms lead straight to device pixels. -/
inductive PaintCall (α : Type) where
  | clear (color : Argb)
  | fill (outline : Outline α) (paint : Paint) (rule : FillRule) (transform : Transform α)
  | stroke (outline : Outline α) (paint : Paint) (style : StrokeStyle α) (transform : Transform α)
  | shade (area : Outline α) (shading : Shading α) (blend : BlendMode) (antiAlias : Bool)
      (transform : Transform α)
  | image (image : ImageObject α) (blend : BlendMode) (smooth : Bool) (transform : Transform α)
deriving DecidableEq, Repr

/-- A step of a script: a line for the log or a call. -/
inductive Instruction (α : Type) where
  | note (line : LogLine)
  | call (made : PaintCall α)
deriving DecidableEq, Repr

namespace Instruction

def call? : Instruction α → Option (PaintCall α)
  | .note _ => none
  | .call made => some made

end Instruction

abbrev Script (α : Type) := List (Instruction α)

namespace Script

def calls (script : Script α) : List (PaintCall α) := script.filterMap Instruction.call?

def ofCalls (calls : List (PaintCall α)) : Script α := calls.map .call

end Script

end PagePaint
