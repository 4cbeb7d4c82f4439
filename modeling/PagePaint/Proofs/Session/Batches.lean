import PagePaint.Proofs.Session.Units

set_option autoImplicit false

/-!
# Batches

What painting one batch does to a job, and from it what a row of batches does. A job knows the
batches that are left from its cursor alone, so a batch that succeeds leaves exactly the others.
-/

namespace PagePaint

variable {α σ β : Type}

/-!
## Cutting work into batches
-/

theorem chunks_nil (size : Nat) : chunks size ([] : List β) = [] := by
  simp only [chunks]

theorem chunks_of_ne_nil {size : Nat} (positive : 0 < size) {list : List β} (filled : list ≠ []) :
    chunks size list = list.take size :: chunks size (list.drop size) := by
  cases list with
  | nil => exact absurd rfl filled
  | cons first rest =>
      obtain ⟨smaller, rfl⟩ : ∃ smaller, size = smaller + 1 := ⟨size - 1, by omega⟩
      rw [chunks]
      rfl

namespace Job

theorem batches_of_background_missing {job : Job α}
    (missing : job.continuation.backgroundDone = false) :
    job.batches = .background ::
      (chunks job.config.stepLimit (job.work.drop job.continuation.cursor)).map .units := by
  simp [batches, missing]

theorem batches_of_background_done {job : Job α}
    (done : job.continuation.backgroundDone = true) :
    job.batches =
      (chunks job.config.stepLimit (job.work.drop job.continuation.cursor)).map .units := by
  simp [batches, done]

theorem batches_eq_nil_iff {job : Job α} :
    job.batches = [] ↔
      job.continuation.backgroundDone = true ∧ job.work.length ≤ job.continuation.cursor := by
  cases done : job.continuation.backgroundDone with
  | false => simp [batches_of_background_missing done]
  | true =>
      rw [batches_of_background_done done, List.map_eq_nil_iff]
      constructor
      · intro empty
        refine ⟨rfl, Nat.le_of_not_lt fun left => ?_⟩
        have filled : job.work.drop job.continuation.cursor ≠ [] := by
          simpa [List.drop_eq_nil_iff] using left
        rw [chunks_of_ne_nil job.config.stepLimit_pos filled] at empty
        cases empty
      · rintro ⟨-, finished⟩
        rw [List.drop_eq_nil_of_le finished, chunks_nil]

theorem first_batch {job : Job α} {batch : Batch α} {rest : List (Batch α)}
    (split : job.batches = batch :: rest) :
    (job.continuation.backgroundDone = false ∧ batch = .background) ∨
      (job.continuation.backgroundDone = true ∧ job.continuation.cursor < job.work.length ∧
        batch = .units
          ((job.work.drop job.continuation.cursor).take job.config.stepLimit)) := by
  cases done : job.continuation.backgroundDone with
  | false =>
      rw [batches_of_background_missing done] at split
      exact .inl ⟨rfl, (List.cons.inj split).1.symm⟩
  | true =>
      have inside : job.continuation.cursor < job.work.length := by
        refine Nat.lt_of_not_le fun finished => ?_
        rw [batches_eq_nil_iff.mpr ⟨done, finished⟩] at split
        cases split
      have filled : job.work.drop job.continuation.cursor ≠ [] := by
        simpa [List.drop_eq_nil_iff] using inside
      rw [batches_of_background_done done,
        chunks_of_ne_nil job.config.stepLimit_pos filled] at split
      exact .inr ⟨rfl, inside, (List.cons.inj split).1.symm⟩

end Job

/-!
## Painting one batch
-/

namespace Batch

def advance (continuation : Continuation) : Batch α → Continuation
  | background =>
    { continuation with backgroundDone := true, batches := continuation.batches + 1 }
  | units row =>
    { continuation with
      cursor := continuation.cursor + row.length, batches := continuation.batches + 1 }

def calls [Scalar α] (job : Job α) : Batch α → List (PaintCall α)
  | background => [.clear job.background]
  | units row => unitCalls job.renderer row

end Batch

namespace Job

def moved (job : Job α) (target : Target) (continuation : Continuation) : Job α :=
  { job with target, continuation }

private theorem batches_moved_advance {job : Job α} {batch : Batch α} {rest : List (Batch α)}
    (split : job.batches = batch :: rest) (target : Target) :
    (job.moved target (batch.advance job.continuation)).batches = rest := by
  rcases first_batch split with ⟨missing, rfl⟩ | ⟨done, inside, rfl⟩
  · rw [batches_of_background_missing missing] at split
    have done : (job.moved target
        (Batch.advance job.continuation (.background : Batch α))).continuation.backgroundDone =
          true := rfl
    rw [batches_of_background_done done]
    exact (List.cons.inj split).2
  · have filled : job.work.drop job.continuation.cursor ≠ [] := by
      simpa [List.drop_eq_nil_iff] using inside
    rw [batches_of_background_done done,
      chunks_of_ne_nil job.config.stepLimit_pos filled] at split
    have still : (job.moved target (Batch.advance job.continuation (.units
        ((job.work.drop job.continuation.cursor).take
          job.config.stepLimit)))).continuation.backgroundDone = true := done
    rw [batches_of_background_done still, ← (List.cons.inj split).2]
    change (chunks job.config.stepLimit (job.work.drop (job.continuation.cursor +
      ((job.work.drop job.continuation.cursor).take job.config.stepLimit).length))).map
        Batch.units = (chunks job.config.stepLimit _).map Batch.units
    rw [List.drop_drop]
    rcases Nat.le_total job.config.stepLimit (job.work.length - job.continuation.cursor)
      with enough | short
    · rw [List.length_take, List.length_drop, Nat.min_eq_left enough]
    · rw [List.length_take, List.length_drop, Nat.min_eq_right short,
        List.drop_eq_nil_of_le (by omega), List.drop_eq_nil_of_le (by omega)]

variable [Scalar α] (backend : Backend α σ)

omit [Scalar α] in
theorem paintBackground_eq (job : Job α) (state : σ) :
    let passage := backend.carryOut [.clear job.background] ⟨state, job.target⟩
    let painted := job.paintBackground backend state
    (∀ raised, passage.failure = some raised →
      painted.state = passage.canvas.state ∧ painted.failure = some raised ∧
        painted.job = job.moved passage.canvas.target job.continuation) ∧
    (passage.failure = none →
      painted.state = passage.canvas.state ∧ painted.failure = none ∧
        painted.job = job.moved passage.canvas.target
          (Batch.advance job.continuation (.background : Batch α))) := by
  have ran := backend.run_eq_carryOut
    [.note (.trace ("painting background " ++ job.background.listing)),
      .call (.clear job.background)] ⟨state, job.target⟩
  change _ = (backend.carryOut [.clear job.background] ⟨state, job.target⟩).canvas ∧
    _ = (backend.carryOut [.clear job.background] ⟨state, job.target⟩).failure at ran
  intro passage painted
  constructor
  · intro raised failed
    have stopped := ran.2.trans failed
    simp only [painted, paintBackground, stopped, ran.1]
    exact ⟨rfl, trivial, rfl⟩
  · intro smooth
    have finished := ran.2.trans smooth
    simp only [painted, paintBackground, finished, ran.1]
    exact ⟨rfl, trivial, rfl⟩

/-- A batch without a failing call carries out its calls and moves on. -/
theorem paintBatch_smooth (job : Job α) (state : σ) (batch : Batch α)
    (smooth : (job.paintBatch backend state batch).failure = none) :
    let passage := backend.carryOut (batch.calls job) ⟨state, job.target⟩
    let painted := job.paintBatch backend state batch
    passage.failure = none ∧ painted.state = passage.canvas.state ∧
      painted.job = job.moved passage.canvas.target (batch.advance job.continuation) := by
  intro passage painted
  cases outcome : passage.failure with
  | some raised =>
      cases batch with
      | background =>
          obtain ⟨-, failed, -⟩ := (job.paintBackground_eq backend state).1 raised outcome
          cases smooth.symm.trans failed
      | units row =>
          obtain ⟨position, -, -, -, failed⟩ :=
            paintUnits_failed backend job.renderer job.continuation.cursor row _ outcome
          simp only [paintBatch, failed] at smooth
          cases smooth
  | none =>
      cases batch with
      | background =>
          obtain ⟨stateEq, -, jobEq⟩ := (job.paintBackground_eq backend state).2 outcome
          exact ⟨rfl, stateEq, jobEq⟩
      | units row =>
          obtain ⟨cursorEq, canvasEq, failureEq⟩ :=
            paintUnits_smooth backend job.renderer job.continuation.cursor row _ outcome
          simp only [painted, paintBatch, failureEq, canvasEq, cursorEq]
          exact ⟨trivial, rfl, rfl⟩

/-- A batch with a failing call carries out the calls before it and stops at the unit it belongs
to. The background belongs to no unit. -/
theorem paintBatch_failed (job : Job α) (state : σ) (batch : Batch α) {error : Error}
    (failed : (job.paintBatch backend state batch).failure = some error) :
    let passage := backend.carryOut (batch.calls job) ⟨state, job.target⟩
    let painted := job.paintBatch backend state batch
    ∃ raised, passage.failure = some raised ∧ painted.state = passage.canvas.state ∧
      ((batch = .background ∧ error = raised ∧
          painted.job = job.moved passage.canvas.target job.continuation) ∨
        ∃ row position, batch = .units row ∧
          IssuedAt job.renderer row passage.carried position ∧
          error = raised.atWorkUnit (job.continuation.cursor + position) ∧
          painted.job = job.moved passage.canvas.target
            { job.continuation with cursor := job.continuation.cursor + position }) := by
  intro passage painted
  cases outcome : passage.failure with
  | none =>
      cases batch with
      | background =>
          obtain ⟨-, smooth, -⟩ := (job.paintBackground_eq backend state).2 outcome
          cases smooth.symm.trans failed
      | units row =>
          obtain ⟨-, -, smooth⟩ :=
            paintUnits_smooth backend job.renderer job.continuation.cursor row _ outcome
          simp only [paintBatch, smooth] at failed
          cases failed
  | some raised =>
      cases batch with
      | background =>
          obtain ⟨stateEq, failureEq, jobEq⟩ :=
            (job.paintBackground_eq backend state).1 raised outcome
          cases failed.symm.trans failureEq
          exact ⟨_, rfl, stateEq, .inl ⟨rfl, rfl, jobEq⟩⟩
      | units row =>
          obtain ⟨position, issued, cursorEq, canvasEq, failureEq⟩ :=
            paintUnits_failed backend job.renderer job.continuation.cursor row _ outcome
          simp only [painted, paintBatch, failureEq, canvasEq, cursorEq,
            Option.some.injEq] at failed ⊢
          exact ⟨raised, rfl, rfl, .inr ⟨row, position, rfl, issued, failed.symm, rfl⟩⟩

end Job

/-!
## Painting batches in a row
-/

/-- How a row of batches may end, in terms of what holds of a job between batches, of what a
batch leaves and of what a failing batch leaves. A pause comes after a batch. -/
def RunOutcome.Ends (kept left : Job α → σ → Prop) (broken : Job α → σ → Error → Prop)
    (outcome : RunOutcome α σ) : Prop :=
  match outcome.result with
  | .ok .done => kept outcome.job outcome.state ∧ outcome.job.batches = []
  | .ok .toBeContinued => left outcome.job outcome.state ∧ outcome.job.batches ≠ []
  | .error error => broken outcome.job outcome.state error

structure BatchInvariant [Scalar α] (backend : Backend α σ) (kept left : Job α → σ → Prop)
    (broken : Job α → σ → Error → Prop) : Prop where
  weaken : ∀ {job state}, left job state → kept job state
  advance : ∀ {job state batch rest}, job.batches = batch :: rest → kept job state →
    (job.paintBatch backend state batch).failure = none →
    left (job.paintBatch backend state batch).job (job.paintBatch backend state batch).state
  stop : ∀ {job state batch rest error}, job.batches = batch :: rest → kept job state →
    (job.paintBatch backend state batch).failure = some error →
    broken (job.paintBatch backend state batch).job
      (job.paintBatch backend state batch).state error

section Rows

variable [Scalar α] {backend : Backend α σ}

theorem batches_paintBatch {job : Job α} {state : σ} {batch : Batch α} {rest : List (Batch α)}
    (split : job.batches = batch :: rest)
    (painted : (job.paintBatch backend state batch).failure = none) :
    (job.paintBatch backend state batch).job.batches = rest := by
  obtain ⟨-, -, moved⟩ := job.paintBatch_smooth backend state batch painted
  rw [moved]
  exact Job.batches_moved_advance split _

theorem background_of_painted {job : Job α} {state : σ} {batch : Batch α} {rest : List (Batch α)}
    (split : job.batches = batch :: rest)
    (painted : (job.paintBatch backend state batch).failure = none) :
    (job.paintBatch backend state batch).job.continuation.backgroundDone = true := by
  obtain ⟨-, -, moved⟩ := job.paintBatch_smooth backend state batch painted
  rw [moved]
  rcases Job.first_batch split with ⟨-, rfl⟩ | ⟨done, -, rfl⟩
  · rfl
  · exact done

/-- What every batch keeps, a row of batches keeps, whatever the controller answers. -/
theorem BatchInvariant.ends {kept left : Job α → σ → Prop} {broken : Job α → σ → Error → Prop}
    (invariant : BatchInvariant backend kept left broken) {job : Job α} {state : σ}
    (start : kept job state) (pause : Option PauseController) :
    (runBatches backend job.batches job state pause).Ends kept left broken := by
  -- The induction is on the batches that are left; the controller changes with every answer.
  suffices general : ∀ (batches : List (Batch α)) (job : Job α) (state : σ)
      (pause : Option PauseController), job.batches = batches → kept job state →
      (runBatches backend batches job state pause).Ends kept left broken from
    general _ job state pause rfl start
  intro batches
  induction batches with
  | nil =>
      intro job state pause none held
      exact ⟨held, none⟩
  | cons batch rest ih =>
      intro job state pause split held
      cases painted : (job.paintBatch backend state batch).failure with
      | some error =>
          simp only [runBatches, painted, RunOutcome.Ends]
          exact invariant.stop split held painted
      | none =>
          have next := invariant.advance split held painted
          have others := batches_paintBatch split painted
          cases rest with
          | nil =>
              simp only [runBatches, painted, RunOutcome.Ends]
              exact ⟨invariant.weaken next, others⟩
          | cons second more =>
              simp only [runBatches, painted]
              split
              · exact ⟨next, by rw [others]; simp⟩
              · exact ih _ _ _ others (invariant.weaken next)

theorem BatchInvariant.shorten {kept left : Job α → σ → Prop}
    {broken : Job α → σ → Error → Prop} (invariant : BatchInvariant backend kept left broken)
    (bound : Nat) :
    BatchInvariant backend (fun job state => kept job state ∧ job.batches.length ≤ bound)
      (fun job state => left job state ∧ job.batches.length < bound) broken where
  weaken := fun ⟨held, shorter⟩ => ⟨invariant.weaken held, Nat.le_of_lt shorter⟩
  advance := by
    intro job state batch rest split ⟨held, short⟩ painted
    refine ⟨invariant.advance split held painted, ?_⟩
    rw [batches_paintBatch split painted]
    rw [split, List.length_cons] at short
    omega
  stop := fun split ⟨held, _⟩ failed => invariant.stop split held failed

theorem runBatches_without_controller (backend : Backend α σ) (batches : List (Batch α))
    (job : Job α) (state : σ) :
    (runBatches backend batches job state none).result ≠ .ok .toBeContinued := by
  induction batches generalizing job state with
  | nil => simp [runBatches]
  | cons batch rest ih =>
      cases painted : (job.paintBatch backend state batch).failure with
      | some error => simp [runBatches, painted]
      | none =>
          cases rest with
          | nil => simp [runBatches, painted]
          | cons second more =>
              simp only [runBatches, painted, pollPause]
              exact ih _ _

end Rows

end PagePaint
