import PagePaint.Proofs.Session.Controllers
import PagePaint.Proofs.Session.Schedule

set_option autoImplicit false

/-!
# Calls that share a controller

A controller that is handed from call to call is asked once behind every batch that leaves units, so
the number of batches so far is the number of the question that is next. A call asks the questions
from there on, up to the first that is answered with a pause or to the end of the work.
-/

namespace PagePaint

variable {α σ : Type}

namespace Continuation

def finished (limit total : Nat) : Continuation :=
  ⟨true, total, total, 1 + (total + limit - 1) / limit⟩

private theorem Complete.eq_finished {limit : Nat} {continuation : Continuation}
    (complete : continuation.Complete limit) :
    continuation = finished limit continuation.total := by
  obtain ⟨background, cursor, batches⟩ := complete
  obtain ⟨backgroundDone, position, total, number⟩ := continuation
  rw [Continuation.mk.injEq]
  exact ⟨background, cursor, rfl, batches⟩

theorem scheduled_of_lt {limit total number : Nat} (inside : number < (total + limit - 1) / limit) :
    scheduled limit total number = ⟨true, number * limit, total, number + 1⟩ := by
  have whole : (number + 1) * limit ≤ total + limit - 1 := Nat.mul_le_of_le_div _ _ _ inside
  rw [Nat.add_mul, Nat.one_mul] at whole
  have short : number * limit ≤ total := by omega
  rw [scheduled, Nat.min_eq_left short]

end Continuation

/-!
## One call
-/

section Calls

variable [Scalar α] {backend : Backend α σ}

private theorem BatchInvariant.and {kept kept' left left' : Job α → σ → Prop}
    {broken broken' : Job α → σ → Error → Prop} (first : BatchInvariant backend kept left broken)
    (second : BatchInvariant backend kept' left' broken') :
    BatchInvariant backend (fun job state => kept job state ∧ kept' job state)
      (fun job state => left job state ∧ left' job state)
      (fun job state error => broken job state error ∧ broken' job state error) where
  weaken := fun ⟨held, held'⟩ => ⟨first.weaken held, second.weaken held'⟩
  advance := fun next ⟨held, held'⟩ painted =>
    ⟨first.advance next held painted, second.advance next held' painted⟩
  stop := fun next ⟨held, held'⟩ failed =>
    ⟨first.stop next held failed, second.stop next held' failed⟩

theorem Backend.reliable_invariant
    (reliable : ∀ made canvas, (backend.paint made canvas).failure = none) :
    BatchInvariant backend (fun _ _ => True) (fun _ _ => True) (fun _ _ _ => False) where
  weaken := id
  advance := fun _ _ _ => trivial
  stop := by
    intro job state batch rest error _ _ failed
    obtain ⟨raised, stopped, -⟩ := job.paintBatch_failed backend state batch failed
    rw [Backend.carryOut_of_reliable reliable] at stopped
    cases stopped

theorem filter_eq_nil_of_replicate {answers : Nat → Bool} {questions : List Nat} {count : Nat}
    (goesOn : questions.map answers = List.replicate count false) :
    questions.filter answers = [] := by
  rw [List.filter_eq_nil_iff]
  intro question member
  have answer : answers question ∈ List.replicate count false := by
    rw [← goesOn]
    exact List.mem_map_of_mem member
  rw [List.eq_of_mem_replicate answer]
  exact Bool.false_ne_true

private theorem filter_eq_last {answers : Nat → Bool} {number asked count : Nat}
    (pauses : (List.range' number asked).map answers = List.replicate count false ++ [true]) :
    (List.range' number asked).filter answers = [number + asked - 1] := by
  cases asked with
  | zero => simp at pauses
  | succ asked =>
      rw [List.range'_1_concat, List.map_append] at pauses
      obtain ⟨goesOn, last⟩ := List.append_inj' pauses rfl
      have answer : answers (number + asked) = true := List.head_eq_of_cons_eq last
      rw [List.range'_1_concat, List.filter_append, filter_eq_nil_of_replicate goesOn]
      simp [answer]

namespace Loop

variable {job : Job α} {state : σ} {controller : PauseController} {row : List (Round α σ)}
  {outcome : RunOutcome α σ}

/-- A controlled loop counts one batch for every question, and the one that finished. -/
theorem batches_eq {pause : Option PauseController}
    (loop : Loop backend job state pause row outcome) (steady : job.Steady)
    (controlled : pause.isSome = true) :
    outcome.job.continuation.batches = job.continuation.batches + outcome.polls +
      if outcome.result.toOption = some .done then 1 else 0 := by
  obtain ⟨count, ends, counted⟩ := loop.ends steady
  have asked := loop.polls_add_eq controlled
  rw [ends, List.length_map, List.length_range'] at asked
  rw [counted, ← asked, Nat.add_assoc]

/-- A loop that goes on with a controller asks it the questions that are next. Only the last one can
be answered with a pause, and only if it ends the loop. -/
theorem questions {number : Nat}
    (loop : Loop backend job state (some (controller.afterAsked number)) row outcome) :
    outcome.pause = some (controller.afterAsked (number + outcome.polls)) ∧
      ∃ count, (List.range' number outcome.polls).map controller.answerAt =
        List.replicate count false ++
          if outcome.result.toOption = some .toBeContinued then [true] else [] := by
  obtain ⟨-, asks⟩ := loop.answers
  obtain ⟨left, pauseEq, answersEq⟩ := asks _ rfl
  obtain ⟨count, answers⟩ := loop.answers_eq
  rw [PauseController.askMany_afterAsked, Prod.mk.injEq] at answersEq
  exact ⟨pauseEq.trans (congrArg some answersEq.2.symm), count, answersEq.1.trans answers⟩

private theorem questions_of_done
    (loop : Loop backend job state (some (controller.afterAsked job.continuation.batches)) row
      outcome)
    (steady : job.Steady) (result : outcome.result = .ok .done) :
    outcome.job.continuation.batches = job.continuation.batches + outcome.polls + 1 ∧
      (List.range' job.continuation.batches outcome.polls).filter controller.answerAt = [] := by
  have batches := loop.batches_eq steady rfl
  obtain ⟨-, count, answers⟩ := loop.questions
  rw [result] at batches answers
  have goesOn : (List.range' job.continuation.batches outcome.polls).map controller.answerAt =
      List.replicate count false := by
    rw [answers]
    exact List.append_nil _
  exact ⟨batches, filter_eq_nil_of_replicate goesOn⟩

private theorem questions_of_paused
    (loop : Loop backend job state (some (controller.afterAsked job.continuation.batches)) row
      outcome)
    (steady : job.Steady) (result : outcome.result = .ok .toBeContinued) :
    outcome.job.continuation.batches = job.continuation.batches + outcome.polls ∧
      outcome.pause = some (controller.afterAsked outcome.job.continuation.batches) ∧
      (List.range' job.continuation.batches outcome.polls).filter controller.answerAt =
        [outcome.job.continuation.batches - 1] := by
  have batches : outcome.job.continuation.batches = job.continuation.batches + outcome.polls := by
    rw [loop.batches_eq steady rfl, result]
    rfl
  obtain ⟨pause, count, answers⟩ := loop.questions
  rw [result] at answers
  rw [batches]
  exact ⟨rfl, pause, filter_eq_last answers⟩

private theorem polls_without_controller (loop : Loop backend job state none row outcome) :
    outcome.polls = 0 := by
  rw [loop.answers.1, List.length_eq_zero_iff, List.filterMap_eq_nil_iff]
  intro round member
  cases answer : round.answer? with
  | none => rfl
  | some given =>
      obtain ⟨controlled, -⟩ := (loop.answer?_isSome_iff member).mp (by rw [answer]; rfl)
      cases controlled

end Loop

end Calls

namespace Session

variable [Scalar α] {backend : Backend α σ}

/-- A call that paints a job with the next questions to a controller, and then is to be continued
with a later job. The last question is the one that is answered with a pause. -/
structure PausesAt (controller : PauseController) (job later : Job α)
    (response : Response α σ Error RenderStatus) : Prop where
  result : response.result = .ok .toBeContinued
  stage : response.session.stage = .inProgress later
  steady : later.Steady
  left : later.batches ≠ []
  shorter : later.batches.length < job.batches.length
  precedes : job.Precedes later
  batches : later.continuation.batches = job.continuation.batches + response.polls
  position : later.continuation =
    .scheduled job.config.stepLimit job.continuation.total (later.continuation.batches - 1)
  pause : response.pause = some (controller.afterAsked later.continuation.batches)
  pauses : (List.range' job.continuation.batches response.polls).filter controller.answerAt =
    [later.continuation.batches - 1]

structure PaintsAll (controller : PauseController) (job : Job α)
    (response : Response α σ Error RenderStatus) : Prop where
  result : response.result = .ok .done
  stage : ∃ last, response.session.stage = .done last
  position : response.session.continuation? =
    some (.finished job.config.stepLimit job.continuation.total)
  asked : job.continuation.batches + response.polls =
    (job.continuation.total + job.config.stepLimit - 1) / job.config.stepLimit
  pauses : (List.range' job.continuation.batches response.polls).filter controller.answerAt = []

theorem continuation?_of_done {job : Job α} (steady : job.Steady) {state : σ}
    {pause : Option PauseController}
    (done : (resumeJob backend job state pause).result = .ok .done) :
    (resumeJob backend job state pause).session.continuation? =
      some (.finished job.config.stepLimit job.continuation.total) := by
  have consistent := resumeJob_consistent backend steady state pause
  have continues := resumeJob_continues backend (.refl job) state pause
  rcases resumeJob_answers backend job state pause with
    ⟨last, stage, -⟩ | ⟨later, -, result⟩ | ⟨stopped, error, -, result⟩
  · simp only [Consistent, Continues, stage] at consistent continues
    obtain ⟨-, complete⟩ := consistent
    rw [continuation?, job?, stage, ← continues.config, ← continues.total]
    exact congrArg some complete.eq_finished
  · cases done.symm.trans result
  · cases done.symm.trans result

/-- With a controller that was asked behind every batch so far, a call asks the questions that are
next, up to the first that is answered with a pause. -/
theorem resumeJob_of_controller
    (reliable : ∀ made canvas, (backend.paint made canvas).failure = none) {job : Job α}
    (steady : job.Steady) (left : job.batches ≠ []) (state : σ) (controller : PauseController) :
    let response := resumeJob backend job state
      (some (controller.afterAsked job.continuation.batches))
    (∃ later, PausesAt controller job later response) ∨
      PaintsAll controller job response := by
  intro response
  have loop : Loop backend job state (some (controller.afterAsked job.continuation.batches)) _ _ :=
    loop_runBatches steady left state _
  have owned : response.session.job? = some _ := resumeJob_job? job state _
  have invariant := ((Job.steady_invariant backend).and
    ((Job.precedes_invariant backend job).and (Backend.reliable_invariant reliable))).shorten
      job.batches.length
  have settled := resumeJob_settled backend invariant state
    ⟨⟨steady, .refl job, trivial⟩, Nat.le_refl _⟩
    (some (controller.afterAsked job.continuation.batches))
  rcases settled with ⟨last, stage, result, -⟩ |
    ⟨later, stage, result, ⟨⟨⟨held, background⟩, precedes, -⟩, shorter⟩, more⟩ |
      ⟨stopped, error, stage, result, -, -, impossible⟩
  · have position := continuation?_of_done steady result
    obtain ⟨batches, pauses⟩ := loop.questions_of_done steady result
    have number := position
    rw [continuation?, owned] at number
    have counted : job.continuation.batches + response.polls + 1 = 1 + _ :=
      batches.symm.trans (congrArg Continuation.batches (Option.some.inj number))
    exact .inr ⟨result, ⟨last, stage⟩, position, by omega, pauses⟩
  · rw [job?, stage] at owned
    obtain rfl := Option.some.inj owned
    have position := held.counted.eq_scheduled (Config.stepLimit_pos _) background
    rw [precedes.config, precedes.total] at position
    obtain ⟨batches, pause, pauses⟩ := loop.questions_of_paused steady result
    exact .inl ⟨_, result, stage, held, more, shorter, precedes, batches, position, pause, pauses⟩
  · exact impossible.elim

theorem resumeJob_without_controller
    (reliable : ∀ made canvas, (backend.paint made canvas).failure = none) {job : Job α}
    (steady : job.Steady) (left : job.batches ≠ []) (state : σ) :
    let response := resumeJob backend job state none
    response.result = .ok .done ∧
      response.session.continuation? =
        some (.finished job.config.stepLimit job.continuation.total) ∧
      response.polls = 0 := by
  intro response
  have loop : Loop backend job state none _ _ := loop_runBatches steady left state none
  have unasked := runBatches_without_controller backend job.batches job state
  have settled : response.session.Settled _ _ _ response.result :=
    resumeJob_settled backend (Backend.reliable_invariant reliable) state trivial none
  rcases settled with ⟨last, -, result, -⟩ | ⟨later, -, result, -⟩ |
    ⟨stopped, error, -, -, impossible⟩
  · exact ⟨result, continuation?_of_done steady result, loop.polls_without_controller⟩
  · exact absurd result unasked
  · exact impossible.elim

end Session

end PagePaint
