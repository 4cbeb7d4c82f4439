import PagePaint.Proofs.Session.Holding
import PagePaint.Proofs.Session.Request

set_option autoImplicit false

/-!
# Consistent sessions

Which counters a session can have in which phase. Between batches a job is untouched, underway or
complete; a failing batch leaves it untouched or interrupted, and a failing overlay complete. All
counts are exact, for every step limit and wherever in a batch a failure falls.
-/

namespace PagePaint

variable {α σ : Type}

namespace Continuation

structure Untouched (continuation : Continuation) : Prop where
  background : continuation.backgroundDone = false
  cursor : continuation.cursor = 0
  batches : continuation.batches = 0

/-- Whole batches are painted and units are left. -/
structure Underway (limit : Nat) (continuation : Continuation) : Prop where
  background : continuation.backgroundDone = true
  cursor_lt : continuation.cursor < continuation.total
  batches_pos : 0 < continuation.batches
  cursor_eq : continuation.cursor = (continuation.batches - 1) * limit

/-- Everything is painted. The last batch may have been shorter than the limit. -/
structure Complete (limit : Nat) (continuation : Continuation) : Prop where
  background : continuation.backgroundDone = true
  cursor : continuation.cursor = continuation.total
  batches : continuation.batches = 1 + (continuation.total + limit - 1) / limit

/-- A unit failed, at the start of a batch or within it. The batch is not counted. -/
structure Interrupted (limit : Nat) (continuation : Continuation) : Prop where
  background : continuation.backgroundDone = true
  cursor_lt : continuation.cursor < continuation.total
  batches : continuation.batches = 1 + continuation.cursor / limit

/-- What a job can look like between two batches. -/
inductive Counted (limit : Nat) (continuation : Continuation) : Prop where
  | untouched (untouched : continuation.Untouched)
  | underway (underway : continuation.Underway limit)
  | complete (complete : continuation.Complete limit)

theorem Counted.underway_of_left {limit : Nat} {continuation : Continuation}
    (counted : continuation.Counted limit) (background : continuation.backgroundDone = true)
    (left : continuation.cursor < continuation.total) : continuation.Underway limit := by
  cases counted with
  | untouched untouched => rw [untouched.background] at background; cases background
  | underway underway => exact underway
  | complete complete => rw [complete.cursor] at left; exact absurd left (Nat.lt_irrefl _)

theorem Counted.untouched_of_missing {limit : Nat} {continuation : Continuation}
    (counted : continuation.Counted limit) (missing : continuation.backgroundDone = false) :
    continuation.Untouched := by
  cases counted with
  | untouched untouched => exact untouched
  | underway underway => rw [underway.background] at missing; cases missing
  | complete complete => rw [complete.background] at missing; cases missing

theorem Counted.complete_of_finished {limit : Nat} {continuation : Continuation}
    (counted : continuation.Counted limit) (background : continuation.backgroundDone = true)
    (finished : continuation.total ≤ continuation.cursor) : continuation.Complete limit := by
  cases counted with
  | untouched untouched => rw [untouched.background] at background; cases background
  | underway underway => exact absurd underway.cursor_lt (Nat.not_lt_of_le finished)
  | complete complete => exact complete

private theorem Untouched.advance {limit : Nat} (positive : 0 < limit) {continuation : Continuation}
    (untouched : continuation.Untouched) :
    { continuation with
      backgroundDone := true, batches := continuation.batches + 1 }.Counted limit := by
  rcases Nat.eq_zero_or_pos continuation.total with empty | filled
  · refine .complete ⟨rfl, untouched.cursor.trans empty.symm, ?_⟩
    change continuation.batches + 1 = 1 + (continuation.total + limit - 1) / limit
    rw [untouched.batches, empty, Nat.div_eq_of_lt (by omega)]
  · refine .underway ⟨rfl, ?_, Nat.succ_pos _, ?_⟩
    · exact untouched.cursor.symm ▸ filled
    · change continuation.cursor = (continuation.batches + 1 - 1) * limit
      rw [untouched.cursor, untouched.batches, Nat.sub_self, Nat.zero_mul]

private theorem Underway.advance {limit : Nat} {continuation : Continuation}
    (underway : continuation.Underway limit) {painted : Nat}
    (size : painted = min limit (continuation.total - continuation.cursor)) :
    { continuation with
      cursor := continuation.cursor + painted
      batches := continuation.batches + 1 }.Counted limit := by
  obtain ⟨background, left, batchesPos, cursorEq⟩ := underway
  obtain ⟨whole, batchesEq⟩ : ∃ whole, continuation.batches = whole + 1 :=
    ⟨continuation.batches - 1, by omega⟩
  rw [batchesEq, Nat.add_sub_cancel] at cursorEq
  rcases Nat.lt_or_ge limit (continuation.total - continuation.cursor) with more | last
  · rw [Nat.min_eq_left (Nat.le_of_lt more)] at size
    refine .underway ⟨background, ?_, Nat.succ_pos _, ?_⟩
    · change continuation.cursor + painted < continuation.total
      omega
    · change continuation.cursor + painted = (continuation.batches + 1 - 1) * limit
      rw [size, cursorEq, batchesEq, Nat.add_sub_cancel, Nat.succ_mul]
  · rw [Nat.min_eq_right last] at size
    refine .complete ⟨background, ?_, ?_⟩
    · change continuation.cursor + painted = continuation.total
      omega
    · change continuation.batches + 1 = 1 + (continuation.total + limit - 1) / limit
      have rounded : (continuation.total + limit - 1) / limit = whole + 1 := by
        apply Nat.div_eq_of_lt_le
        · rw [Nat.succ_mul]; omega
        · rw [Nat.succ_mul, Nat.succ_mul]; omega
      rw [rounded, batchesEq, Nat.add_comm]

/-- A unit of the next batch fails: the batches before it are the whole limits in the cursor. -/
theorem Underway.interrupt {limit : Nat} {continuation : Continuation}
    (underway : continuation.Underway limit) {painted : Nat} (within : painted < limit)
    (inside : continuation.cursor + painted < continuation.total) :
    { continuation with cursor := continuation.cursor + painted }.Interrupted limit := by
  obtain ⟨background, -, batchesPos, cursorEq⟩ := underway
  refine ⟨background, inside, ?_⟩
  change continuation.batches = 1 + (continuation.cursor + painted) / limit
  have whole : (continuation.cursor + painted) / limit = continuation.batches - 1 := by
    apply Nat.div_eq_of_lt_le
    · omega
    · rw [Nat.succ_mul]; omega
  omega

end Continuation

namespace Job

structure Sound (job : Job α) : Prop where
  work : job.work = workList job.page job.config
  total : job.continuation.total = job.work.length
  cursor : job.continuation.cursor ≤ job.continuation.total

structure Steady (job : Job α) : Prop where
  sound : job.Sound
  overlay : job.overlayDrawn = false
  counted : job.continuation.Counted job.config.stepLimit

structure Stopped (job : Job α) : Prop where
  sound : job.Sound
  overlay : job.overlayDrawn = false
  counted : job.continuation.Untouched ∨ job.continuation.Interrupted job.config.stepLimit

theorem start_steady (target : Target) (page : Page α) (config : Config) :
    (Job.start target page config).Steady :=
  ⟨⟨rfl, rfl, Nat.zero_le _⟩, rfl, .untouched ⟨rfl, rfl, rfl⟩⟩

/-- The next batch of units is as long as the limit and the rest of the work allow. -/
theorem Sound.batch_length {job : Job α} (sound : job.Sound) :
    ((job.work.drop job.continuation.cursor).take job.config.stepLimit).length =
      min job.config.stepLimit (job.continuation.total - job.continuation.cursor) := by
  rw [List.length_take, List.length_drop, sound.total]

variable [Scalar α] (backend : Backend α σ)

theorem paintBatch_steady {job : Job α} {state : σ} {batch : Batch α} {rest : List (Batch α)}
    (split : job.batches = batch :: rest) (steady : job.Steady)
    (painted : (job.paintBatch backend state batch).failure = none) :
    (job.paintBatch backend state batch).job.Steady := by
  obtain ⟨-, -, moved⟩ := job.paintBatch_smooth backend state batch painted
  rw [moved]
  obtain ⟨sound, overlay, counted⟩ := steady
  rcases first_batch split with ⟨missing, rfl⟩ | ⟨done, inside, rfl⟩
  · have untouched := counted.untouched_of_missing missing
    exact ⟨⟨sound.work, sound.total, sound.cursor⟩, overlay,
      untouched.advance job.config.stepLimit_pos⟩
  · have underway := counted.underway_of_left done (sound.total ▸ inside)
    refine ⟨⟨sound.work, sound.total, ?_⟩, overlay, underway.advance sound.batch_length⟩
    change job.continuation.cursor +
      ((job.work.drop job.continuation.cursor).take job.config.stepLimit).length ≤
        job.continuation.total
    rw [sound.batch_length]
    have bounded := sound.cursor
    omega

private theorem paintBatch_stopped {job : Job α} {state : σ} {batch : Batch α}
    {rest : List (Batch α)} {error : Error} (split : job.batches = batch :: rest)
    (steady : job.Steady) (failed : (job.paintBatch backend state batch).failure = some error) :
    (job.paintBatch backend state batch).job.Stopped := by
  obtain ⟨raised, -, -, stop⟩ := job.paintBatch_failed backend state batch failed
  obtain ⟨sound, overlay, counted⟩ := steady
  rcases stop with ⟨rfl, -, moved⟩ | ⟨row, position, rfl, issued, -, moved⟩
  · rw [moved]
    rcases first_batch split with ⟨missing, -⟩ | ⟨-, -, impossible⟩
    · exact ⟨⟨sound.work, sound.total, sound.cursor⟩, overlay,
        .inl (counted.untouched_of_missing missing)⟩
    · cases impossible
  · rw [moved]
    rcases first_batch split with ⟨-, impossible⟩ | ⟨done, inside, rowEq⟩
    · cases impossible
    · cases rowEq
      have underway := counted.underway_of_left done (sound.total ▸ inside)
      have short := issued.position_lt
      rw [sound.batch_length] at short
      have within : job.continuation.cursor + position < job.continuation.total := by
        omega
      exact ⟨⟨sound.work, sound.total, Nat.le_of_lt within⟩, overlay,
        .inr (underway.interrupt (by omega) within)⟩

theorem steady_invariant :
    BatchInvariant backend (fun job _ => job.Steady)
      (fun job _ => job.Steady ∧ job.continuation.backgroundDone = true)
      (fun job _ _ => job.Stopped) where
  weaken := And.left
  advance := fun split steady painted =>
    ⟨paintBatch_steady backend split steady painted, background_of_painted split painted⟩
  stop := paintBatch_stopped backend

end Job

namespace Session

/-- What the counters of a session say in each phase. -/
def Consistent (session : Session α σ) : Prop :=
  match session.stage with
  | .notStarted | .closed => True
  | .inProgress job =>
    job.Sound ∧ job.overlayDrawn = false ∧ job.continuation.Underway job.config.stepLimit
  | .done job => job.Sound ∧ job.continuation.Complete job.config.stepLimit
  | .failed job =>
    job.Sound ∧ job.overlayDrawn = false ∧
      (job.continuation.Untouched ∨ job.continuation.Interrupted job.config.stepLimit ∨
        job.continuation.Complete job.config.stepLimit)

theorem fresh_consistent (state : σ) : (fresh state : Session α σ).Consistent := trivial

variable [Scalar α] (backend : Backend α σ)

theorem resumeJob_consistent {job : Job α} (steady : job.Steady) (state : σ)
    (pause : Option PauseController) :
    (resumeJob backend job state pause).session.Consistent := by
  rcases resumeJob_settled backend (Job.steady_invariant backend) state steady pause with
    ⟨finished, stage, -, held, none⟩ | ⟨paused, stage, -, ⟨held, background⟩, more⟩ |
      ⟨stopped, error, stage, -, held⟩
  · obtain ⟨background, painted⟩ := Job.batches_eq_nil_iff.mp none
    simp only [Consistent, stage]
    exact ⟨held.sound,
      held.counted.complete_of_finished background (held.sound.total ▸ painted)⟩
  · have left : paused.continuation.cursor < paused.continuation.total := by
      refine Nat.lt_of_not_le fun painted => more ?_
      exact Job.batches_eq_nil_iff.mpr ⟨background, held.sound.total ▸ painted⟩
    simp only [Consistent, stage]
    exact ⟨held.sound, held.overlay, held.counted.underway_of_left background left⟩
  · simp only [Consistent, stage]
    exact ⟨held.sound, held.overlay, held.counted.imp_right .inl⟩

theorem step_consistent {before after : Session α σ} (step : Step backend before after)
    (consistent : before.Consistent) : after.Consistent := by
  cases step with
  | refused => exact consistent
  | started accepted pause =>
      exact resumeJob_consistent backend (Job.start_steady _ _ _) _ pause
  | resumed state job pause =>
      obtain ⟨sound, overlay, underway⟩ := consistent
      exact resumeJob_consistent backend ⟨sound, overlay, .underway underway⟩ state pause
  | overlaid missing painted smooth =>
      obtain ⟨sound, complete⟩ := consistent
      exact ⟨⟨sound.work, sound.total, sound.cursor⟩, complete⟩
  | overlayFailed missing painted failed =>
      obtain ⟨sound, complete⟩ := consistent
      exact ⟨⟨sound.work, sound.total, sound.cursor⟩, missing, .inr (.inr complete)⟩
  | closedDone | closedFailed => trivial

end Session

/-!
## Progress
-/

/-- A job and the same job at a later time. Nothing that is done is undone, and what was chosen at
the start stays as it is. -/
structure Job.Precedes (earlier later : Job α) : Prop where
  page : later.page = earlier.page
  config : later.config = earlier.config
  work : later.work = earlier.work
  total : later.continuation.total = earlier.continuation.total
  background : earlier.continuation.backgroundDone = true →
    later.continuation.backgroundDone = true
  cursor : earlier.continuation.cursor ≤ later.continuation.cursor
  batches : earlier.continuation.batches ≤ later.continuation.batches
  overlay : earlier.overlayDrawn = true → later.overlayDrawn = true

namespace Job

theorem Precedes.refl (job : Job α) : job.Precedes job :=
  ⟨rfl, rfl, rfl, rfl, id, Nat.le_refl _, Nat.le_refl _, id⟩

theorem Precedes.trans {first second third : Job α} (left : first.Precedes second)
    (right : second.Precedes third) : first.Precedes third where
  page := right.page.trans left.page
  config := right.config.trans left.config
  work := right.work.trans left.work
  total := right.total.trans left.total
  background := right.background ∘ left.background
  cursor := Nat.le_trans left.cursor right.cursor
  batches := Nat.le_trans left.batches right.batches
  overlay := right.overlay ∘ left.overlay

variable [Scalar α] (backend : Backend α σ)

/-- Whether it fails or not, a batch only adds to what is done. -/
theorem precedes_paintBatch (job : Job α) (state : σ) (batch : Batch α) :
    job.Precedes (job.paintBatch backend state batch).job := by
  cases outcome : (job.paintBatch backend state batch).failure with
  | none =>
      obtain ⟨-, -, moved⟩ := job.paintBatch_smooth backend state batch outcome
      rw [moved]
      cases batch with
      | background =>
          exact ⟨rfl, rfl, rfl, rfl, fun _ => rfl, Nat.le_refl _, Nat.le_succ _, id⟩
      | units row =>
          exact ⟨rfl, rfl, rfl, rfl, id, Nat.le_add_right _ _, Nat.le_succ _, id⟩
  | some error =>
      obtain ⟨raised, -, -, stop⟩ := job.paintBatch_failed backend state batch outcome
      rcases stop with ⟨-, -, moved⟩ | ⟨row, position, -, -, -, moved⟩
      · rw [moved]
        exact ⟨rfl, rfl, rfl, rfl, id, Nat.le_refl _, Nat.le_refl _, id⟩
      · rw [moved]
        exact ⟨rfl, rfl, rfl, rfl, id, Nat.le_add_right _ _, Nat.le_refl _, id⟩

theorem precedes_invariant (earlier : Job α) :
    BatchInvariant backend (fun job _ => earlier.Precedes job)
      (fun job _ => earlier.Precedes job) (fun job _ _ => earlier.Precedes job) where
  weaken := id
  advance := fun _ held _ => held.trans (precedes_paintBatch backend _ _ _)
  stop := fun _ held _ => held.trans (precedes_paintBatch backend _ _ _)

end Job

namespace Session

def Continues (earlier : Job α) (session : Session α σ) : Prop :=
  match session.stage with
  | .notStarted => False
  | .closed => True
  | .inProgress job | .done job | .failed job => earlier.Precedes job

private theorem continues_of_job {session : Session α σ} {job : Job α}
    (owned : session.job? = some job) :
    session.Continues job := by
  obtain ⟨state, stage⟩ := session
  cases stage with
  | notStarted | closed => cases owned
  | inProgress own | done own | failed own =>
      cases owned
      exact Job.Precedes.refl _

private theorem Continues.precedes {earlier later : Job α} {session : Session α σ}
    (continues : session.Continues earlier) (owned : session.job? = some later) :
    earlier.Precedes later := by
  obtain ⟨state, stage⟩ := session
  cases stage with
  | notStarted | closed => cases owned
  | inProgress own | done own | failed own =>
      cases owned
      exact continues

def Owning (session : Session α σ) : Prop := session.phase.Owns

variable [Scalar α] (backend : Backend α σ)

theorem resumeJob_continues {earlier job : Job α} (precedes : earlier.Precedes job) (state : σ)
    (pause : Option PauseController) :
    (resumeJob backend job state pause).session.Continues earlier := by
  rcases resumeJob_settled backend (Job.precedes_invariant backend earlier) state precedes pause
    with ⟨later, stage, -, held, -⟩ | ⟨later, stage, -, held, -⟩ | ⟨later, error, stage, -, held⟩
  all_goals
    simp only [Continues, stage]
    exact held

private theorem step_continues {earlier : Job α} {before after : Session α σ}
    (step : Step backend before after) (continues : before.Continues earlier) :
    after.Continues earlier := by
  cases step with
  | refused => exact continues
  | started => exact continues.elim
  | resumed state job pause => exact resumeJob_continues backend continues state pause
  | @overlaid state job =>
      have held : earlier.Precedes job := continues
      exact held.trans ⟨rfl, rfl, rfl, rfl, id, Nat.le_refl _, Nat.le_refl _, fun _ => rfl⟩
  | @overlayFailed state job =>
      have held : earlier.Precedes job := continues
      exact held.trans ⟨rfl, rfl, rfl, rfl, id, Nat.le_refl _, Nat.le_refl _, id⟩
  | closedDone | closedFailed => trivial

/-- After any requests a session owns a target, a page, a configuration and a position in exactly
the phases from the accepted start to the close; its counters are what the phase says; and later
requests never undo anything. A session that keeps its phase and its job apart has a job in exactly
these phases too, and never looks for it in vain. -/
theorem performAll_consistent (state : σ) (requests later : List (Request α)) :
    let session := (fresh state : Session α σ).performAll backend requests
    let next := session.performAll backend later
    ((session.target?.isSome ↔ session.Owning) ∧
        ((session.job?.map Job.page).isSome ↔ session.Owning) ∧
        (session.config?.isSome ↔ session.Owning) ∧
        (session.continuation?.isSome ↔ session.Owning)) ∧
      session.Consistent ∧
      (∀ before after, session.job? = some before → next.job? = some after →
        before.Precedes after) ∧
      ((Holding.fresh state).performAll backend requests).Mirrors backend session := by
  intro session next
  have consistent : session.Consistent :=
    performAll_keeps backend (step_consistent backend) (fresh_consistent state) requests
  refine ⟨?_, consistent, ?_, Holding.performAll_mirrors backend state requests⟩
  · simp only [target?, config?, continuation?, Option.isSome_map, job?_isSome_iff, Owning,
      and_self]
  · intro before after owned ownedLater
    have continues : next.Continues before :=
      performAll_keeps backend (step_continues backend) (continues_of_job owned) later
    exact continues.precedes ownedLater

end Session

end PagePaint
