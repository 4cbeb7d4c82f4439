import PagePaint.Proofs.Session.Consistency

set_option autoImplicit false

/-!
# The history of a job

What a job and its backend look like is determined by the calls made so far, and those are known
from the position alone: the background, then the calls of the units before the cursor. Where the
batches were cut, and who was asked about it, leaves no trace.
-/

namespace PagePaint

variable {α σ : Type}

inductive Issuer where
  | background
  | unit (position : Nat)
  | overlay
deriving DecidableEq, Repr

namespace Issuer

/-- Where the cursor stands if the call fails, for a number of units. -/
def cursor (total : Nat) : Issuer → Nat
  | background => 0
  | unit position => position
  | overlay => total

/-- How an error of the call is reported. A failure of the backend is placed in its work unit, and
its reason is kept. -/
def report : Issuer → Error → Error
  | unit position, .backend _ fault => .backend (some position) fault
  | _, error => error

private theorem report_unit (position : Nat) (error : Error) :
    (unit position).report error = error.atWorkUnit position := by
  cases error <;> rfl

end Issuer

/-- The issuer of a call by its number: first the background, then the units in order, then the
overlay. -/
inductive Issues [Scalar α] (renderer : Renderer α) (work : List (WorkUnit α)) :
    Nat → Issuer → Prop where
  | background : Issues renderer work 0 .background
  | unit {number position : Nat} (issued : IssuedAt renderer work number position) :
      Issues renderer work (number + 1) (.unit position)
  | overlay {number : Nat} (beyond : (unitCalls renderer work).length ≤ number) :
      Issues renderer work (number + 1) .overlay

private theorem IssuedAt.lt_length [Scalar α] {renderer : Renderer α} {work : List (WorkUnit α)}
    {number position : Nat} (issued : IssuedAt renderer work number position) :
    number < (unitCalls renderer work).length := by
  have bounded := unitCalls_take_length_le renderer work (Nat.succ_le_of_lt issued.position_lt)
  rw [List.take_length] at bounded
  exact Nat.lt_of_lt_of_le issued.within bounded

theorem Issues.unique [Scalar α] {renderer : Renderer α} {work : List (WorkUnit α)}
    {number : Nat} {first second : Issuer} (left : Issues renderer work number first)
    (right : Issues renderer work number second) : first = second := by
  cases left with
  | background => cases right; rfl
  | unit issued =>
      cases right with
      | unit other => rw [issued.unique other]
      | overlay beyond => exact absurd issued.lt_length (Nat.not_lt_of_le beyond)
  | overlay beyond =>
      cases right with
      | unit issued => exact absurd issued.lt_length (Nat.not_lt_of_le beyond)
      | overlay => rfl

namespace Job

variable [Scalar α]

def doneCalls (opened : Job α) (continuation : Continuation) : List (PaintCall α) :=
  if continuation.backgroundDone then
    .clear opened.background ::
      unitCalls opened.renderer (opened.work.take continuation.cursor)
  else []

def allCalls (opened : Job α) : List (PaintCall α) :=
  .clear opened.background :: unitCalls opened.renderer opened.work

/-- A job between batches. The calls up to its cursor, made from the canvas at the opening, have
led to its pixels and to the state of the backend. -/
structure Follows (backend : Backend α σ) (opened : Job α) (origin : σ) (job : Job α)
    (state : σ) : Prop where
  precedes : opened.Precedes job
  overlay : job.overlayDrawn = false
  inside : job.continuation.cursor ≤ opened.work.length
  front : job.continuation.backgroundDone = false → job.continuation.cursor = 0
  smooth : (backend.carryOut (opened.doneCalls job.continuation)
    ⟨origin, opened.target⟩).failure = none
  canvas : (backend.carryOut (opened.doneCalls job.continuation)
    ⟨origin, opened.target⟩).canvas = ⟨state, job.target⟩

/-- A job after a failing batch. Making all calls of the pass from the canvas at the opening fails
in the same way, and the cursor stands at the unit whose call failed. -/
structure Broken (backend : Backend α σ) (opened : Job α) (origin : σ) (job : Job α) (state : σ)
    (error : Error) : Prop where
  precedes : opened.Precedes job
  overlay : job.overlayDrawn = false
  canvas : (backend.carryOut opened.allCalls ⟨origin, opened.target⟩).canvas = ⟨state, job.target⟩
  issuer : ∃ raised issuer,
    (backend.carryOut opened.allCalls ⟨origin, opened.target⟩).failure = some raised ∧
    Issues opened.renderer opened.work
      (backend.carryOut opened.allCalls ⟨origin, opened.target⟩).carried issuer ∧
    error = issuer.report raised ∧
    job.continuation.cursor = issuer.cursor job.continuation.total ∧
    (job.continuation.backgroundDone = true ↔ issuer ≠ .background)

theorem Precedes.renderer_eq {earlier later : Job α} (precedes : earlier.Precedes later) :
    later.renderer = earlier.renderer := by
  rw [renderer, renderer, precedes.page, precedes.config]

theorem follows_start (backend : Backend α σ) (target : Target) (page : Page α) (config : Config)
    (origin : σ) :
    Follows backend (.start target page config) origin (.start target page config) origin :=
  ⟨.refl _, rfl, Nat.zero_le _, fun _ => rfl, rfl, rfl⟩

variable {backend : Backend α σ} {opened : Job α} {origin : σ} {job : Job α} {state : σ}
  {batch : Batch α} {rest : List (Batch α)}

/-- The next batch makes the next calls. -/
theorem Follows.doneCalls_advance (follows : Follows backend opened origin job state)
    (split : job.batches = batch :: rest) :
    opened.doneCalls (batch.advance job.continuation) =
      opened.doneCalls job.continuation ++ batch.calls job := by
  rcases first_batch split with ⟨missing, rfl⟩ | ⟨done, -, rfl⟩
  · have canvas := follows.canvas
    have same : job.target = opened.target := by
      simpa [doneCalls, missing, Backend.carryOut] using (congrArg Canvas.target canvas).symm
    have background : job.background = opened.background := by
      rw [Job.background, Job.background, follows.precedes.config, same]
    simp [doneCalls, missing, Batch.advance, Batch.calls, follows.front missing, background,
      unitCalls]
  · have rowEq : opened.work.take (job.continuation.cursor +
        ((opened.work.drop job.continuation.cursor).take job.config.stepLimit).length) =
        opened.work.take job.continuation.cursor ++
          (opened.work.drop job.continuation.cursor).take job.config.stepLimit := by
      rw [List.take_add, List.length_take, ← List.take_eq_take_min]
    simp only [doneCalls, done, Batch.advance, Batch.calls, if_true, follows.precedes.work,
      follows.precedes.renderer_eq, rowEq, unitCalls_append, List.cons_append]

theorem allCalls_eq_doneCalls_append (opened : Job α) (continuation : Continuation) :
    ∃ more, opened.allCalls = opened.doneCalls continuation ++ more := by
  cases done : continuation.backgroundDone with
  | false => exact ⟨opened.allCalls, by simp [doneCalls, done]⟩
  | true =>
      refine ⟨unitCalls opened.renderer (opened.work.drop continuation.cursor), ?_⟩
      simp only [allCalls, doneCalls, done, if_true, List.cons_append, ← unitCalls_append,
        List.take_append_drop]

theorem Follows.carryOut_append (follows : Follows backend opened origin job state)
    (calls : List (PaintCall α)) :
    backend.carryOut (opened.doneCalls job.continuation ++ calls) ⟨origin, opened.target⟩ =
      (backend.carryOut calls ⟨state, job.target⟩).behind
        (opened.doneCalls job.continuation).length := by
  rw [backend.carryOut_append_of_smooth calls follows.smooth, follows.canvas]

private theorem Follows.paintBatch (follows : Follows backend opened origin job state)
    (split : job.batches = batch :: rest)
    (painted : (job.paintBatch backend state batch).failure = none) :
    Follows backend opened origin (job.paintBatch backend state batch).job
      (job.paintBatch backend state batch).state := by
  have precedes := follows.precedes.trans (job.precedes_paintBatch backend state batch)
  obtain ⟨smooth, stateEq, moved⟩ := job.paintBatch_smooth backend state batch painted
  have whole := follows.carryOut_append (batch.calls job)
  rw [← follows.doneCalls_advance split] at whole
  rw [moved] at precedes ⊢
  rw [stateEq]
  refine ⟨precedes, follows.overlay, ?_, ?_, ?_, ?_⟩
  · rcases first_batch split with ⟨-, rfl⟩ | ⟨-, inside, rfl⟩
    · exact follows.inside
    · change job.continuation.cursor +
        ((job.work.drop job.continuation.cursor).take job.config.stepLimit).length ≤
          opened.work.length
      rw [List.length_take, List.length_drop, ← follows.precedes.work]
      omega
  · intro missing
    rcases first_batch split with ⟨-, rfl⟩ | ⟨done, -, rfl⟩
    · cases missing
    · cases done.symm.trans missing
  · have failureEq := congrArg Passage.failure whole
    exact failureEq.trans smooth
  · have canvasEq := congrArg Passage.canvas whole
    exact canvasEq

theorem Follows.carryOut_allCalls (follows : Follows backend opened origin job state)
    (split : job.batches = batch :: rest) {raised : Error}
    (stopped : (backend.carryOut (batch.calls job) ⟨state, job.target⟩).failure = some raised) :
    backend.carryOut opened.allCalls ⟨origin, opened.target⟩ =
      (backend.carryOut (batch.calls job) ⟨state, job.target⟩).behind
        (opened.doneCalls job.continuation).length := by
  have whole := follows.carryOut_append (batch.calls job)
  have failed := (congrArg Passage.failure whole).trans stopped
  obtain ⟨more, split'⟩ := allCalls_eq_doneCalls_append opened (batch.advance job.continuation)
  rw [split', follows.doneCalls_advance split, ← whole]
  exact backend.carryOut_append_of_failed more failed

private theorem Follows.issues_background (follows : Follows backend opened origin job state)
    (split : job.batches = .background :: rest) {raised : Error}
    (stopped : (backend.carryOut (Batch.calls job .background) ⟨state, job.target⟩).failure =
      some raised) :
    job.continuation.backgroundDone = false ∧
      Issues opened.renderer opened.work
        (backend.carryOut opened.allCalls ⟨origin, opened.target⟩).carried .background := by
  rcases first_batch split with ⟨missing, -⟩ | ⟨-, -, impossible⟩
  · have early := backend.carried_lt_length stopped
    have first : (backend.carryOut opened.allCalls ⟨origin, opened.target⟩).carried = 0 := by
      rw [follows.carryOut_allCalls split stopped]
      simp only [Passage.behind_carried, doneCalls, missing, Bool.false_eq_true, if_false,
        List.length_nil, Batch.calls, List.length_singleton] at early ⊢
      omega
    rw [first]
    exact ⟨missing, .background⟩
  · cases impossible

private theorem Follows.issues_unit (follows : Follows backend opened origin job state)
    {row : List (WorkUnit α)} (split : job.batches = .units row :: rest) {raised : Error}
    (stopped : (backend.carryOut (Batch.calls job (.units row)) ⟨state, job.target⟩).failure =
      some raised) {position : Nat}
    (issued : IssuedAt job.renderer row
      (backend.carryOut (Batch.calls job (.units row)) ⟨state, job.target⟩).carried position) :
    job.continuation.backgroundDone = true ∧
      Issues opened.renderer opened.work
        (backend.carryOut opened.allCalls ⟨origin, opened.target⟩).carried
        (.unit (job.continuation.cursor + position)) := by
  rcases first_batch split with ⟨-, impossible⟩ | ⟨done, -, rowEq⟩
  · cases impossible
  · have number : (backend.carryOut opened.allCalls ⟨origin, opened.target⟩).carried =
        (unitCalls opened.renderer (opened.work.take job.continuation.cursor)).length +
          (backend.carryOut (Batch.calls job (.units row)) ⟨state, job.target⟩).carried + 1 := by
      rw [follows.carryOut_allCalls split stopped]
      simp only [Passage.behind_carried, doneCalls, done, if_true, List.length_cons]
      omega
    cases rowEq
    rw [follows.precedes.renderer_eq, follows.precedes.work] at issued
    rw [number, follows.precedes.work]
    exact ⟨done, .unit (IssuedAt.ofSlice issued)⟩

/-- When a batch fails, the whole pass fails at the same call. -/
theorem Follows.paintBatch_broken {error : Error}
    (follows : Follows backend opened origin job state) (split : job.batches = batch :: rest)
    (failed : (job.paintBatch backend state batch).failure = some error) :
    Broken backend opened origin (job.paintBatch backend state batch).job
      (job.paintBatch backend state batch).state error := by
  have precedes := follows.precedes.trans (job.precedes_paintBatch backend state batch)
  obtain ⟨raised, stopped, stateEq, stop⟩ := job.paintBatch_failed backend state batch failed
  have whole := follows.carryOut_allCalls split stopped
  have canvasEq := congrArg Passage.canvas whole
  have failureEq := (congrArg Passage.failure whole).trans stopped
  rw [stateEq]
  rcases stop with ⟨rfl, rfl, moved⟩ | ⟨row, position, rfl, issued, rfl, moved⟩
  · rw [moved] at precedes ⊢
    obtain ⟨missing, issues⟩ := follows.issues_background split stopped
    refine ⟨precedes, follows.overlay, canvasEq, _, .background, failureEq, issues, rfl,
      follows.front missing, ?_⟩
    change job.continuation.backgroundDone = true ↔ _
    simp [missing]
  · rw [moved] at precedes ⊢
    obtain ⟨done, issues⟩ := follows.issues_unit split stopped issued
    refine ⟨precedes, follows.overlay, canvasEq, raised, _, failureEq, issues,
      (Issuer.report_unit _ _).symm, rfl, ?_⟩
    change job.continuation.backgroundDone = true ↔ _
    simp [done]

/-- Batches follow the calls of the whole pass, up to its end or its first failing call. -/
theorem follows_invariant (backend : Backend α σ) (opened : Job α) (origin : σ) :
    BatchInvariant backend (Follows backend opened origin)
      (fun job state =>
        Follows backend opened origin job state ∧ job.continuation.backgroundDone = true)
      (Broken backend opened origin) where
  weaken := And.left
  advance := fun split follows painted =>
    ⟨follows.paintBatch split painted, background_of_painted split painted⟩
  stop := fun split follows failed => follows.paintBatch_broken split failed

theorem Follows.carryOut_of_finished (follows : Follows backend opened origin job state)
    (finished : job.batches = []) :
    (backend.carryOut opened.allCalls ⟨origin, opened.target⟩).failure = none ∧
      (backend.carryOut opened.allCalls ⟨origin, opened.target⟩).canvas =
        ⟨state, job.target⟩ := by
  obtain ⟨background, painted⟩ := batches_eq_nil_iff.mp finished
  rw [follows.precedes.work] at painted
  have allDone : opened.doneCalls job.continuation = opened.allCalls := by
    simp only [doneCalls, allCalls, background, if_true, List.take_of_length_le painted]
  rw [← allDone]
  exact ⟨follows.smooth, follows.canvas⟩

theorem Follows.cursor_of_finished (follows : Follows backend opened origin job state)
    (finished : job.batches = []) : job.continuation.cursor = opened.work.length := by
  have painted := (batches_eq_nil_iff.mp finished).2
  rw [follows.precedes.work] at painted
  exact Nat.le_antisymm follows.inside painted

end Job

end PagePaint
