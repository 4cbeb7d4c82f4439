import PagePaint.Config
import PagePaint.Error
import PagePaint.Paint.Script
import PagePaint.Target.Target

set_option autoImplicit false

/-!
# Backends

A backend carries out calls. It is a function of its own state, the target and the call, so what a
script does can be computed; a script stops at the first call that fails.
-/

namespace PagePaint

variable {α σ : Type}

/-- What painting changes: the state of a backend and the pixels. -/
structure Canvas (σ : Type) where
  state : σ
  target : Target

/-- What became of a call or of a script. A failure may leave changes behind. -/
structure Outcome (σ : Type) where
  canvas : Canvas σ
  log : List LogLine
  failure : Option Error

namespace Outcome

def ok (canvas : Canvas σ) : Outcome σ := ⟨canvas, [], none⟩

def after (outcome : Outcome σ) (lines : List LogLine) : Outcome σ :=
  { outcome with log := lines ++ outcome.log }

end Outcome

/-- A painting capability with states `σ`. It is prepared once a session, before the background is
painted, and that cannot fail. -/
structure Backend (α σ : Type) where
  prepare : Config → σ → σ × List LogLine
  paint : PaintCall α → Canvas σ → Outcome σ

namespace Backend

/-- Carries out a script up to its end or its first failing call. -/
def run (backend : Backend α σ) : Script α → Canvas σ → Outcome σ
  | [], canvas => .ok canvas
  | .note line :: rest, canvas => (backend.run rest canvas).after [line]
  | .call made :: rest, canvas =>
    let painted := backend.paint made canvas
    match painted.failure with
    | some _ => painted
    | none => (backend.run rest painted.canvas).after painted.log

end Backend

end PagePaint
