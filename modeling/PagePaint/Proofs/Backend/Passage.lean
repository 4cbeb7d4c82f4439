import PagePaint.Backend.Backend

set_option autoImplicit false

/-!
# Calls carried out one after the other

The notes of a script do not matter for what is painted. A passage tells what became of a row of
calls alone: the canvas they left, how many of them were carried out, and what stopped them.
-/

namespace PagePaint

variable {α σ : Type}

/-- What became of a row of calls. The count leaves out the call that failed, if one did. -/
structure Passage (σ : Type) where
  canvas : Canvas σ
  carried : Nat
  failure : Option Error

namespace Passage

def behind (passage : Passage σ) (earlier : Nat) : Passage σ :=
  { passage with carried := earlier + passage.carried }

@[simp] theorem behind_canvas (passage : Passage σ) (earlier : Nat) :
    (passage.behind earlier).canvas = passage.canvas := rfl

@[simp] theorem behind_carried (passage : Passage σ) (earlier : Nat) :
    (passage.behind earlier).carried = earlier + passage.carried := rfl

@[simp] theorem behind_failure (passage : Passage σ) (earlier : Nat) :
    (passage.behind earlier).failure = passage.failure := rfl

@[simp] theorem behind_zero (passage : Passage σ) : passage.behind 0 = passage := by
  simp [behind]

private theorem behind_behind (passage : Passage σ) (first second : Nat) :
    (passage.behind second).behind first = passage.behind (first + second) := by
  simp [behind, Nat.add_assoc]

end Passage

namespace Backend

/-- Carries out calls up to the last one or to the first that fails. -/
def carryOut (backend : Backend α σ) : List (PaintCall α) → Canvas σ → Passage σ
  | [], canvas => ⟨canvas, 0, none⟩
  | made :: rest, canvas =>
    let painted := backend.paint made canvas
    match painted.failure with
    | some error => ⟨painted.canvas, 0, some error⟩
    | none => (carryOut backend rest painted.canvas).behind 1

theorem carryOut_cons_failed (backend : Backend α σ) {made : PaintCall α} {canvas : Canvas σ}
    {error : Error} (rest : List (PaintCall α))
    (failed : (backend.paint made canvas).failure = some error) :
    backend.carryOut (made :: rest) canvas =
      ⟨(backend.paint made canvas).canvas, 0, some error⟩ := by
  simp only [carryOut, failed]

theorem carryOut_cons_painted (backend : Backend α σ) {made : PaintCall α} {canvas : Canvas σ}
    (rest : List (PaintCall α)) (painted : (backend.paint made canvas).failure = none) :
    backend.carryOut (made :: rest) canvas =
      (backend.carryOut rest (backend.paint made canvas).canvas).behind 1 := by
  simp only [carryOut, painted]

theorem run_eq_carryOut (backend : Backend α σ) (script : Script α) (canvas : Canvas σ) :
    (backend.run script canvas).canvas = (backend.carryOut script.calls canvas).canvas ∧
      (backend.run script canvas).failure =
        (backend.carryOut script.calls canvas).failure := by
  induction script generalizing canvas with
  | nil => exact ⟨rfl, rfl⟩
  | cons instruction rest ih =>
      cases instruction with
      | note line => exact ih canvas
      | call made =>
          change (backend.run (.call made :: rest) canvas).canvas =
              (backend.carryOut (made :: Script.calls rest) canvas).canvas ∧
            (backend.run (.call made :: rest) canvas).failure =
              (backend.carryOut (made :: Script.calls rest) canvas).failure
          cases painted : (backend.paint made canvas).failure with
          | some error =>
              rw [carryOut_cons_failed backend _ painted]
              simp only [run, painted, and_self]
          | none =>
              rw [carryOut_cons_painted backend _ painted]
              simp only [run, painted]
              exact ih _

theorem carried_lt_length (backend : Backend α σ) {calls : List (PaintCall α)}
    {canvas : Canvas σ} {error : Error}
    (failed : (backend.carryOut calls canvas).failure = some error) :
    (backend.carryOut calls canvas).carried < calls.length := by
  induction calls generalizing canvas with
  | nil => cases failed
  | cons made rest ih =>
      cases painted : (backend.paint made canvas).failure with
      | some raised =>
          rw [carryOut_cons_failed backend rest painted]
          exact Nat.succ_pos _
      | none =>
          rw [carryOut_cons_painted backend rest painted] at failed ⊢
          have shorter := ih failed
          simp only [Passage.behind_carried, List.length_cons]
          omega

theorem carryOut_append_of_smooth (backend : Backend α σ) {left : List (PaintCall α)}
    (right : List (PaintCall α)) {canvas : Canvas σ}
    (smooth : (backend.carryOut left canvas).failure = none) :
    backend.carryOut (left ++ right) canvas =
      (backend.carryOut right (backend.carryOut left canvas).canvas).behind left.length := by
  induction left generalizing canvas with
  | nil => exact (Passage.behind_zero _).symm
  | cons made rest ih =>
      cases painted : (backend.paint made canvas).failure with
      | some error =>
          rw [carryOut_cons_failed backend rest painted] at smooth
          cases smooth
      | none =>
          rw [carryOut_cons_painted backend rest painted] at smooth
          rw [List.cons_append, carryOut_cons_painted backend _ painted, ih smooth,
            carryOut_cons_painted backend rest painted, Passage.behind_behind,
            List.length_cons, Nat.add_comm 1]
          rfl

theorem carryOut_append_of_failed (backend : Backend α σ) {left : List (PaintCall α)}
    (right : List (PaintCall α)) {canvas : Canvas σ} {error : Error}
    (failed : (backend.carryOut left canvas).failure = some error) :
    backend.carryOut (left ++ right) canvas = backend.carryOut left canvas := by
  induction left generalizing canvas with
  | nil => cases failed
  | cons made rest ih =>
      cases painted : (backend.paint made canvas).failure with
      | some raised =>
          rw [List.cons_append, carryOut_cons_failed backend _ painted,
            carryOut_cons_failed backend rest painted]
      | none =>
          rw [carryOut_cons_painted backend rest painted] at failed
          rw [List.cons_append, carryOut_cons_painted backend _ painted, ih failed,
            carryOut_cons_painted backend rest painted]

theorem carryOut_smooth_of_append (backend : Backend α σ) {left right : List (PaintCall α)}
    {canvas : Canvas σ}
    (smooth : (backend.carryOut (left ++ right) canvas).failure = none) :
    (backend.carryOut left canvas).failure = none := by
  cases failed : (backend.carryOut left canvas).failure with
  | none => rfl
  | some error =>
      rw [carryOut_append_of_failed backend right failed, failed] at smooth
      cases smooth

theorem carryOut_of_reliable {backend : Backend α σ}
    (reliable : ∀ made canvas, (backend.paint made canvas).failure = none)
    (calls : List (PaintCall α)) (canvas : Canvas σ) :
    (backend.carryOut calls canvas).failure = none := by
  induction calls generalizing canvas with
  | nil => rfl
  | cons made rest ih =>
      rw [carryOut_cons_painted backend rest (reliable made canvas)]
      exact ih _

end Backend

end PagePaint
