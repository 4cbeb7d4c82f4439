import PagePaint.Backend.Backend

set_option autoImplicit false

/-!
# Recording and failing backends

The recorder keeps the calls it gets and paints nothing but the background. Any backend can be made
to fail at chosen calls, without carrying them out.
-/

namespace PagePaint

variable {α σ : Type}

inductive Recorded (α : Type) where
  | prepared (flags : RenderFlags)
  | painted (made : PaintCall α)
deriving DecidableEq, Repr

namespace Recorded

def call? : Recorded α → Option (PaintCall α)
  | prepared _ => none
  | painted made => some made

end Recorded

/-- What a recorder has seen so far, first entry first. -/
abbrev Record (α : Type) := Array (Recorded α)

namespace Backend

/-- Records every call. Only clearing reaches the target. -/
def recorder : Backend α (Record α) where
  prepare config record := (record.push (.prepared config.flags), [])
  paint made canvas :=
    let target := match made with
      | .clear color => canvas.target.fill color
      | _ => canvas.target
    .ok ⟨canvas.state.push (.painted made), target⟩

/-- A backend's state with the number of calls made so far, failed ones included. -/
structure Numbered (σ : Type) where
  made : Nat
  state : σ

/-- Which calls fail, counted from zero, and how. -/
structure FaultPlan where
  fails : Nat → Bool
  error : Nat → Error

/-- A backend that fails as planned. A failing call is counted and has no other effect. -/
def failing (plan : FaultPlan) (backend : Backend α σ) : Backend α (Numbered σ) where
  prepare config numbered :=
    let (state, log) := backend.prepare config numbered.state
    ({ numbered with state }, log)
  paint made canvas :=
    let number := canvas.state.made
    if plan.fails number then
      { canvas := { canvas with state := { canvas.state with made := number + 1 } }
        log := []
        failure := some (plan.error number) }
    else
      let painted := backend.paint made ⟨canvas.state.state, canvas.target⟩
      { painted with
        canvas := ⟨⟨number + 1, painted.canvas.state⟩, painted.canvas.target⟩ }

/-- A backend's state with the calls it was given, whether they failed or not. -/
structure Watched (α σ : Type) where
  calls : Array (PaintCall α)
  state : σ

/-- A backend that remembers the calls it is given and otherwise behaves as before. -/
def watching (backend : Backend α σ) : Backend α (Watched α σ) where
  prepare config watched :=
    let (state, log) := backend.prepare config watched.state
    ({ watched with state }, log)
  paint made canvas :=
    let painted := backend.paint made ⟨canvas.state.state, canvas.target⟩
    { painted with
      canvas :=
        ⟨⟨canvas.state.calls.push made, painted.canvas.state⟩, painted.canvas.target⟩ }

end Backend

end PagePaint
