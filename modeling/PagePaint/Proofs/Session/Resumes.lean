import PagePaint.Proofs.Session.SharedController
import PagePaint.Session.Drive

set_option autoImplicit false

/-!
# How often a session is resumed

A caller who hands one controller from call to call asks it once behind every batch that leaves
units, as if there had been a single call. With a backend that never fails, the questions that it
answers with a pause are therefore the calls that are to be continued, and the number of a question
tells the position: so many limits of units are painted.
-/

namespace PagePaint

variable {α σ : Type}

/-- What a call that paints batches answers, where it leaves the session, and how often it asked. -/
structure Turn where
  result : Except Error RenderStatus
  position : Option Continuation
  polls : Nat

namespace Turn

def ofResponse {ε : Type} (failure : ε → Error) (response : Response α σ ε RenderStatus) : Turn :=
  ⟨response.result.mapError failure, response.session.continuation?, response.polls⟩

def answer (turn : Turn) : Except Error RenderStatus × Option Continuation :=
  (turn.result, turn.position)

def paused (position : Continuation) : Except Error RenderStatus × Option Continuation :=
  (.ok .toBeContinued, some position)

def finished (position : Continuation) : Except Error RenderStatus × Option Continuation :=
  (.ok .done, some position)

def pollCount : List Turn → Nat
  | [] => 0
  | turn :: later => turn.polls + pollCount later

end Turn

namespace Session

variable [Scalar α] (backend : Backend α σ)

def resumeTurns : Nat → Session α σ → Option PauseController → List Turn
  | 0, _, _ => []
  | fuel + 1, session, pause =>
    let response := session.resume backend pause
    .ofResponse id response ::
      match response.result with
      | .ok .toBeContinued => resumeTurns fuel response.session response.pause
      | .ok .done | .error _ => []

/-- The calls that start a session and resume it to its end, with one controller for all of them. -/
def turns (session : Session α σ) (target : Target) (page : Page α) (config : Config)
    (pause : Option PauseController) : List Turn :=
  let response := session.start backend target page config pause
  .ofResponse StartError.error response ::
    match response.result with
    | .ok .toBeContinued =>
      resumeTurns backend response.session.batchesLeft response.session response.pause
    | .ok .done | .error _ => []

variable {backend}

/-!
## All calls
-/

/-- The calls that share a controller, from the question of a number on. Each question that is
answered with a pause is the last one of a call that is to be continued, and the last call finishes.
One question is asked for each limit of units. -/
structure Shared (controller : PauseController) (limit total number : Nat) (turns : List Turn) :
    Prop where
  answers : turns.map Turn.answer =
    ((List.range' number (Turn.pollCount turns)).filter controller.answerAt).map
        (fun question => Turn.paused (.scheduled limit total question)) ++
      [Turn.finished (.finished limit total)]
  polls : number + Turn.pollCount turns = (total + limit - 1) / limit

omit [Scalar α] in
theorem PaintsAll.shared {controller : PauseController} {job : Job α}
    {response : Response α σ Error RenderStatus} (paints : PaintsAll controller job response) :
    Shared controller job.config.stepLimit job.continuation.total job.continuation.batches
      [.ofResponse id response] := by
  have polls : Turn.pollCount [.ofResponse id response] = response.polls := Nat.add_zero _
  constructor
  case answers =>
    rw [polls, paints.pauses, List.map_cons, Turn.answer, Turn.ofResponse, paints.position,
      paints.result]
    rfl
  case polls => rw [polls, paints.asked]

omit [Scalar α] in
theorem PausesAt.batchesLeft_eq {controller : PauseController} {job later : Job α}
    {response : Response α σ Error RenderStatus} (pauses : PausesAt controller job later response) :
    response.session.batchesLeft = later.batches.length := by
  rw [batchesLeft, job?, pauses.stage]
  rfl

omit [Scalar α] in
theorem PausesAt.shared {controller : PauseController} {job later : Job α}
    {response : Response α σ Error RenderStatus} (pauses : PausesAt controller job later response)
    {turns : List Turn}
    (shared : Shared controller later.config.stepLimit later.continuation.total
      later.continuation.batches turns) :
    Shared controller job.config.stepLimit job.continuation.total job.continuation.batches
      (.ofResponse id response :: turns) := by
  obtain ⟨answers, polls⟩ := shared
  rw [pauses.precedes.config, pauses.precedes.total] at answers polls
  have position : response.session.continuation? = some (.scheduled job.config.stepLimit
      job.continuation.total (later.continuation.batches - 1)) := by
    rw [continuation?, job?, pauses.stage, ← pauses.position]
    rfl
  have asked : Turn.pollCount (.ofResponse id response :: turns) =
      response.polls + Turn.pollCount turns := rfl
  constructor
  case answers =>
    -- The questions are those of this call followed by those of the later ones.
    rw [asked, ← List.range'_append_1, List.filter_append, pauses.pauses, ← pauses.batches,
      List.map_cons, answers, Turn.answer, Turn.ofResponse, position, pauses.result]
    rfl
  case polls =>
    rw [asked, ← Nat.add_assoc, ← pauses.batches, polls]

private theorem resumeTurns_shared
    (reliable : ∀ made canvas, (backend.paint made canvas).failure = none)
    (controller : PauseController) {fuel : Nat} {session : Session α σ} {job : Job α}
    (paused : session.stage = .inProgress job) (steady : job.Steady) (left : job.batches ≠ [])
    (enough : job.batches.length ≤ fuel) :
    Shared controller job.config.stepLimit job.continuation.total job.continuation.batches
      (session.resumeTurns backend fuel
        (some (controller.afterAsked job.continuation.batches))) := by
  induction fuel generalizing session job with
  | zero => exact absurd (List.length_eq_zero_iff.mp (Nat.le_zero.mp enough)) left
  | succ fuel ih =>
      obtain ⟨state, stage⟩ := session
      obtain rfl : stage = .inProgress job := paused
      rcases resumeJob_of_controller reliable steady left state controller with
        ⟨later, pauses⟩ | paints
      · have shorter := pauses.shorter
        have rest := ih pauses.stage pauses.steady pauses.left (by omega)
        simp only [resumeTurns, resume, pauses.result, pauses.pause]
        exact pauses.shared rest
      · simp only [resumeTurns, resume, paints.result]
        exact paints.shared

theorem turns_accepted {target : Target} {page : Page α} {config : Config}
    (accepted : argumentFault? target page config = none) {state : σ}
    {pause : Option PauseController} {response : Response α σ Error RenderStatus}
    (painted : resumeJob backend (.start target page config) (backend.prepare config state).1
      pause = response) :
    (fresh state).turns backend target page config pause =
      .ofResponse id response ::
        match response.result with
        | .ok .toBeContinued =>
          resumeTurns backend response.session.batchesLeft response.session response.pause
        | .ok .done | .error _ => [] := by
  simp only [turns, start, fresh, accepted, painted]
  obtain ⟨session, result, log, polls, left⟩ := response
  cases result with
  | error error => rfl
  | ok status => cases status <;> rfl

omit [Scalar α] in
theorem start_pending (target : Target) (page : Page α) (config : Config) :
    (Job.start target page config).Steady ∧ (Job.start target page config).batches ≠ [] := by
  rw [Job.batches_of_background_missing rfl]
  exact ⟨Job.start_steady target page config, List.cons_ne_nil _ _⟩

theorem start_of_controller (reliable : ∀ made canvas, (backend.paint made canvas).failure = none)
    (target : Target) (page : Page α) (config : Config) (state : σ)
    (controller : PauseController) :
    ∃ response, resumeJob backend (.start target page config) state (some controller) = response ∧
      ((∃ later, PausesAt controller (.start target page config) later response) ∨
        PaintsAll controller (.start target page config) response) := by
  obtain ⟨steady, left⟩ := start_pending target page config
  exact ⟨_, rfl, resumeJob_of_controller reliable steady left state controller⟩

/-- A session that is started and resumed with one controller finishes. It is paused at the
positions behind which the controller answers with a pause. -/
theorem turns_shared (reliable : ∀ made canvas, (backend.paint made canvas).failure = none)
    {target : Target} {page : Page α} {config : Config}
    (accepted : argumentFault? target page config = none) (state : σ)
    (controller : PauseController) :
    Shared controller config.stepLimit (workList page config).length 0
      ((fresh state).turns backend target page config (some controller)) := by
  obtain ⟨response, painted, call⟩ := start_of_controller reliable target page config
    (backend.prepare config state).1 controller
  rw [turns_accepted accepted painted]
  rcases call with ⟨later, pauses⟩ | paints
  · have rest := resumeTurns_shared reliable controller pauses.stage pauses.steady pauses.left
      (Nat.le_of_eq pauses.batchesLeft_eq.symm)
    simp only [pauses.result, pauses.pause]
    exact pauses.shared rest
  · simp only [paints.result]
    exact paints.shared

/-!
## Driving
-/

theorem resumeAll_of_done {session : Session α σ} {last : Job α} (done : session.stage = .done last)
    (fuel : Nat) (pause : Option PauseController) :
    session.resumeAll backend fuel pause = ⟨session, [], none, [], 0, pause⟩ := by
  cases fuel with
  | zero => rfl
  | succ fuel => simp only [resumeAll, done]

private theorem resumeAll_of_controller
    (reliable : ∀ made canvas, (backend.paint made canvas).failure = none)
    (controller : PauseController) {fuel : Nat} {session : Session α σ} {job : Job α}
    (paused : session.stage = .inProgress job) (steady : job.Steady) (left : job.batches ≠ [])
    (enough : job.batches.length ≤ fuel) :
    let limit := job.config.stepLimit
    let total := job.continuation.total
    let driven := session.resumeAll backend fuel
      (some (controller.afterAsked job.continuation.batches))
    driven.session.phase = .done ∧ driven.failure = none ∧
      job.continuation.batches + driven.polls = (total + limit - 1) / limit ∧
      driven.pauses = job.continuation ::
        ((List.range' job.continuation.batches driven.polls).filter controller.answerAt).map
          (.scheduled limit total) := by
  induction fuel generalizing session job with
  | zero => exact absurd (List.length_eq_zero_iff.mp (Nat.le_zero.mp enough)) left
  | succ fuel ih =>
      obtain ⟨state, stage⟩ := session
      obtain rfl : stage = .inProgress job := paused
      rcases resumeJob_of_controller reliable steady left state controller with
        ⟨later, pauses⟩ | paints
      · have shorter := pauses.shorter
        have rest := ih pauses.stage pauses.steady pauses.left (by omega)
        rw [pauses.precedes.config, pauses.precedes.total] at rest
        obtain ⟨done, smooth, polls, positions⟩ := rest
        simp only [resumeAll, resume, pauses.result, pauses.pause]
        refine ⟨done, smooth, ?_, ?_⟩
        · rw [← Nat.add_assoc, ← pauses.batches, polls]
        · rw [positions, ← List.range'_append_1, List.filter_append, pauses.pauses,
            ← pauses.batches, List.singleton_append, List.map_cons, ← pauses.position]
      · obtain ⟨last, stage⟩ := paints.stage
        simp only [resumeAll, resume, paints.result, resumeAll_of_done stage]
        refine ⟨by rw [phase, stage]; rfl, trivial, paints.asked, ?_⟩
        rw [Nat.add_zero, paints.pauses]
        rfl

/-- A session that is started and driven to its end with one controller is paused behind the
questions that the controller answers with a pause, and nowhere else. -/
theorem drive_of_controller (reliable : ∀ made canvas, (backend.paint made canvas).failure = none)
    {target : Target} {page : Page α} {config : Config}
    (accepted : argumentFault? target page config = none) (state : σ)
    (controller : PauseController) :
    let limit := config.stepLimit
    let total := (workList page config).length
    let opened := (fresh state).start backend target page config (some controller)
    let driven := opened.session.drive backend opened.pause
    driven.session.phase = .done ∧ driven.failure = none ∧
      opened.polls + driven.polls = (total + limit - 1) / limit ∧
      driven.pauses = (controller.pausesWithin (opened.polls + driven.polls)).map
        (.scheduled limit total) := by
  obtain ⟨response, painted, call⟩ := start_of_controller reliable target page config
    (backend.prepare config state).1 controller
  simp only [start, fresh, accepted, painted, drive]
  rcases call with ⟨later, pauses⟩ | paints
  · obtain ⟨done, smooth, polls, positions⟩ := resumeAll_of_controller reliable controller
      pauses.stage pauses.steady pauses.left (Nat.le_of_eq pauses.batchesLeft_eq.symm)
    have batches : later.continuation.batches = response.polls :=
      pauses.batches.trans (Nat.zero_add _)
    have first : (List.range' 0 response.polls).filter controller.answerAt =
        [later.continuation.batches - 1] := pauses.pauses
    have position : later.continuation = .scheduled config.stepLimit (workList page config).length
        (later.continuation.batches - 1) := pauses.position
    rw [pauses.precedes.config, pauses.precedes.total] at polls positions
    rw [pauses.pause]
    refine ⟨done, smooth, batches ▸ polls, ?_⟩
    rw [positions, PauseController.pausesWithin, List.range_eq_range', ← List.range'_append_1,
      List.filter_append, first, Nat.zero_add, ← batches, List.singleton_append, List.map_cons,
      ← position]
    rfl
  · obtain ⟨last, stage⟩ := paints.stage
    have asked := paints.asked
    have silent : (List.range' 0 response.polls).filter controller.answerAt = [] := paints.pauses
    simp only [resumeAll_of_done stage]
    refine ⟨by rw [phase, stage]; rfl, trivial, ?_, ?_⟩
    · rw [Nat.add_zero]
      exact (Nat.zero_add _).symm.trans asked
    · rw [Nat.add_zero, PauseController.pausesWithin, List.range_eq_range', silent]
      rfl

/-!
## Closed forms
-/

private theorem turns_without_controller
    (reliable : ∀ made canvas, (backend.paint made canvas).failure = none)
    {target : Target} {page : Page α} {config : Config}
    (accepted : argumentFault? target page config = none) (state : σ) :
    let turns := (fresh state).turns backend target page config none
    Turn.pollCount turns = 0 ∧
      turns.map Turn.answer =
        [Turn.finished (.finished config.stepLimit (workList page config).length)] := by
  intro turns
  obtain ⟨steady, left⟩ := start_pending target page config
  obtain ⟨response, painted⟩ : ∃ response, resumeJob backend (.start target page config)
      (backend.prepare config state).1 none = response := ⟨_, rfl⟩
  obtain ⟨result, position, polls⟩ : response.result = .ok .done ∧
      response.session.continuation? = some _ ∧ response.polls = 0 :=
    painted ▸ resumeJob_without_controller reliable steady left _
  simp only [turns, turns_accepted accepted painted, result]
  refine ⟨polls, ?_⟩
  rw [List.map_cons, Turn.answer, Turn.ofResponse, position, result]
  rfl

/-- The closed form for calls that share a controller, whatever it answers. -/
theorem Shared.closed_form {controller : PauseController} {limit total : Nat} {turns : List Turn}
    (shared : Shared controller limit total 0 turns) :
    let asked := (total + limit - 1) / limit
    Turn.pollCount turns = asked ∧
      turns.map Turn.answer = (controller.pausesWithin asked).map
          (fun question => Turn.paused ⟨true, question * limit, total, question + 1⟩) ++
        [Turn.finished (.finished limit total)] := by
  intro asked
  have polls : Turn.pollCount turns = asked := (Nat.zero_add _).symm.trans shared.polls
  refine ⟨polls, ?_⟩
  rw [shared.answers, polls, ← List.range_eq_range', ← PauseController.pausesWithin]
  congr 1
  refine List.map_congr_left fun question member => ?_
  have inside : question < asked := List.mem_range.mp (List.mem_filter.mp member).1
  rw [Continuation.scheduled_of_lt inside]

/-- How often a controller that the calls of a session share is asked, and at which of the positions
the session is paused, in terms of the number of limits of units that are begun. A controller that
counts is asked behind every batch but the last, whichever call paints it, and the session is to be
continued where a multiple of its interval is reached. A session that is driven to its end with any
controller is paused behind the questions that are answered with a pause. -/
theorem pauses_counted (reliable : ∀ made canvas, (backend.paint made canvas).failure = none)
    {target : Target} {page : Page α} {config : Config}
    (accepted : argumentFault? target page config = none) (state : σ) :
    let limit := config.stepLimit
    let total := (workList page config).length
    let asked := (total + limit - 1) / limit
    let turns := (fresh state).turns backend target page config
    let last := Turn.finished ⟨true, total, total, 1 + asked⟩
    (∀ interval,
      let every := max interval 1
      let counting := turns (some (.ofInterval interval))
      Turn.pollCount counting = asked ∧
        counting.map Turn.answer =
          (List.range (asked / every)).map (fun turn => Turn.paused
            ⟨true, ((turn + 1) * every - 1) * limit, total, (turn + 1) * every⟩) ++ [last]) ∧
    (Turn.pollCount (turns (some .always)) = asked ∧
      (turns (some .always)).map Turn.answer =
        (List.range asked).map (fun turn => Turn.paused ⟨true, turn * limit, total, turn + 1⟩) ++
          [last]) ∧
    (Turn.pollCount (turns (some .never)) = asked ∧
      (turns (some .never)).map Turn.answer = [last]) ∧
    (Turn.pollCount (turns none) = 0 ∧ (turns none).map Turn.answer = [last]) ∧
    ∀ controller,
      let opened := (fresh state).start backend target page config (some controller)
      let driven := opened.session.drive backend opened.pause
      driven.session.phase = .done ∧ driven.failure = none ∧ opened.polls + driven.polls = asked ∧
        driven.pauses = (controller.pausesWithin asked).map (.scheduled limit total) := by
  intro limit total asked turns last
  have shared (controller : PauseController) :=
    (turns_shared reliable accepted state controller).closed_form
  refine ⟨fun interval => ?_, ?_, ?_, turns_without_controller reliable accepted state,
    fun controller => ?_⟩
  · intro every counting
    obtain ⟨polls, answers⟩ := shared (.ofInterval interval)
    refine ⟨polls, ?_⟩
    rw [PauseController.pausesWithin_ofInterval, List.map_map] at answers
    rw [answers]
    congr 1
    refine List.map_congr_left fun turn _ => ?_
    have reached : 0 < (turn + 1) * every := Nat.mul_pos (Nat.succ_pos turn) (by omega)
    have completed : (turn + 1) * every - 1 + 1 = (turn + 1) * every := Nat.sub_add_cancel reached
    rw [Function.comp, completed]
  · obtain ⟨polls, answers⟩ := shared .always
    rw [PauseController.pausesWithin_always] at answers
    exact ⟨polls, answers⟩
  · obtain ⟨polls, answers⟩ := shared .never
    rw [PauseController.pausesWithin_never] at answers
    exact ⟨polls, answers⟩
  · obtain ⟨done, smooth, polls, pauses⟩ := drive_of_controller reliable accepted state controller
    rw [polls] at pauses
    exact ⟨done, smooth, polls, pauses⟩

theorem pauses_counted_small :
    let backend := Backend.recorder (α := Rat)
    let config := (Config.ofSize 2 2).withStepLimit 1
    let turns := (fresh #[]).turns backend smallTarget smallPage config (some (.ofInterval 2))
    (∀ made canvas, (backend.paint made canvas).failure = none) ∧
      argumentFault? smallTarget smallPage config = none ∧
      Turn.pollCount turns = 2 ∧
      turns.map Turn.answer = [Turn.paused ⟨true, 1, 2, 2⟩, Turn.finished ⟨true, 2, 2, 3⟩] := by
  intro backend config turns
  have reliable : ∀ made canvas, (backend.paint made canvas).failure = none := fun _ _ => rfl
  have accepted : argumentFault? smallTarget smallPage config = none := by decide +kernel
  have limit : config.stepLimit = 1 := rfl
  have total : (workList smallPage config).length = 2 := by decide +kernel
  have counted := (pauses_counted reliable accepted #[]).1 2
  rw [limit, total] at counted
  exact ⟨reliable, accepted, counted⟩

end Session

end PagePaint
