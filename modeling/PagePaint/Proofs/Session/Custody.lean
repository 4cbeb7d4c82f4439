import Mathlib.Data.List.Induction
import PagePaint.Proofs.Backend.Shape
import PagePaint.Proofs.Session.Watched

set_option autoImplicit false

/-!
# Custody of the target

Who has the target of a session. The caller gives it away with the one start that is accepted, the
session exposes it from then on, and the first close that succeeds gives it back. What a session
exposes is the target it was given after the calls it has made, and nothing else.
-/

namespace PagePaint

variable {α σ : Type}

def Event.Takes (event : Event α σ) : Prop :=
  event.before.target? = none ∧ event.after.target?.isSome

def Event.Returns (event : Event α σ) : Prop := ∃ target, event.reply = .closed (.ok target)

/-- A backend that puts a single pixel in place of the target it is handed. -/
def Backend.replacing : Backend α Unit where
  prepare _ state := (state, [])
  paint _ canvas := .ok ⟨canvas.state, ⟨.filled 1 1 .clear, !canvas.target.hasAlpha⟩⟩

namespace Session

/-- A session that exposes what some calls have made of the canvas it was opened with. Only a failed
session has made a call that failed. -/
structure Exposes (backend : Backend α σ) (origin : Canvas σ) (calls : List (PaintCall α))
    (session : Session α σ) (exposed : Target) : Prop where
  target : session.target? = some exposed
  pixels : (backend.carryOut calls origin).canvas = ⟨session.backend, exposed⟩
  smooth : session.phase ≠ .failed → (backend.carryOut calls origin).failure = none

variable [Scalar α]

/-- Where the target is after the events of a script, in which the backend was given some calls:
with the caller still, with the session, or with the caller again. A backend that keeps the shape of
every target keeps that of this one. -/
inductive Custody (backend : Backend α σ) (state : σ) (calls : List (PaintCall α))
    (session : Session α σ) : List (Event α σ) → Prop where
  | awaited {events : List (Event α σ)} (untouched : session = fresh state) (idle : calls = [])
      (apart : ∀ event ∈ events, ¬event.Takes ∧ ¬event.Returns) :
      Custody backend state calls session events
  | held {earlier later : List (Event α σ)} {opening : Event α σ} {given exposed : Target}
      {page : Page α} {config : Config} (taken : opening.Takes)
      (request : opening.request.opening? = some (given, page, config))
      (apart : ∀ event ∈ earlier ++ later, ¬event.Takes ∧ ¬event.Returns)
      (exposes : session.Exposes backend ⟨(backend.prepare config state).1, given⟩ calls exposed)
      (shape : backend.KeepsShape → exposed.SameShape given) :
      Custody backend state calls session (earlier ++ opening :: later)
  | returned {earlier held later : List (Event α σ)} {opening closing : Event α σ}
      {given exposed : Target} {page : Page α} {config : Config} (taken : opening.Takes)
      (request : opening.request.opening? = some (given, page, config))
      (exposes : closing.before.Exposes backend ⟨(backend.prepare config state).1, given⟩ calls
        exposed)
      (shape : backend.KeepsShape → exposed.SameShape given)
      (reply : closing.reply = .closed (.ok exposed))
      (apart : ∀ event ∈ earlier ++ held ++ later, ¬event.Takes ∧ ¬event.Returns)
      (refused : ∀ event ∈ later,
        event.after = event.before ∧ Refusal event.before event.request event.reply)
      (ended : session.phase = .closed) (gone : session.target? = none) :
      Custody backend state calls session (earlier ++ opening :: held ++ closing :: later)

end Session

theorem Session.Exposes.shape {backend : Backend α σ} {origin : Canvas σ}
    {calls : List (PaintCall α)} {session : Session α σ} {exposed : Target}
    (exposes : session.Exposes backend origin calls exposed) (keeps : backend.KeepsShape) :
    exposed.SameShape origin.target := by
  have kept := keeps.carryOut calls origin
  rw [exposes.pixels] at kept
  exact kept

/-!
## What a job exposes
-/

def Job.Led (backend : Backend α σ) (origin : Canvas σ) (job : Job α)
    (watched : Backend.Watched α σ) : Prop :=
  (backend.carryOut watched.calls.toList origin).canvas = ⟨watched.state, job.target⟩

/-- What follows calls that succeed is seen after them. -/
theorem Backend.watching_carryOut_led (backend : Backend α σ) {origin : Canvas σ}
    {watched : Watched α σ} {target : Target}
    (smooth : (backend.carryOut watched.calls.toList origin).failure = none)
    (led : (backend.carryOut watched.calls.toList origin).canvas = ⟨watched.state, target⟩)
    (calls : List (PaintCall α)) :
    let passage := backend.watching.carryOut calls ⟨watched, target⟩
    (backend.carryOut passage.canvas.state.calls.toList origin).canvas =
        ⟨passage.canvas.state.state, passage.canvas.target⟩ ∧
      (backend.carryOut passage.canvas.state.calls.toList origin).failure = passage.failure := by
  obtain ⟨seen, state⟩ := watched
  intro passage
  obtain ⟨made, callsEq, canvas, failure⟩ :=
    backend.watching_carryOut_made calls seen state target
  rw [callsEq, backend.carryOut_append_of_smooth made smooth, led]
  exact ⟨canvas, failure⟩

namespace Job

variable [Scalar α]

omit [Scalar α] in
private theorem led_start (backend : Backend α σ) (given : Target) (page : Page α) (config : Config)
    (state : σ) :
    (Job.start given page config).Led backend ⟨(backend.prepare config state).1, given⟩
      (backend.watching.prepare config ⟨#[], state⟩).1 := rfl

private theorem led_invariant (backend : Backend α σ) (origin : Canvas σ) :
    BatchInvariant backend.watching
      (fun job watched => job.Led backend origin watched ∧
        (backend.carryOut watched.calls.toList origin).failure = none)
      (fun job watched => job.Led backend origin watched ∧
        (backend.carryOut watched.calls.toList origin).failure = none)
      (fun job watched _ => job.Led backend origin watched) where
  weaken := id
  advance := by
    rintro job watched batch rest - ⟨led, smooth⟩ painted
    obtain ⟨clean, stateEq, moved⟩ := job.paintBatch_smooth backend.watching watched batch painted
    obtain ⟨canvas, failure⟩ := backend.watching_carryOut_led smooth led (batch.calls job)
    rw [Led, stateEq, moved]
    exact ⟨canvas, failure.trans clean⟩
  stop := by
    rintro job watched batch rest error - ⟨led, smooth⟩ failed
    obtain ⟨raised, -, stateEq, stop⟩ :=
      job.paintBatch_failed backend.watching watched batch failed
    obtain ⟨canvas, -⟩ := backend.watching_carryOut_led smooth led (batch.calls job)
    rcases stop with ⟨-, -, moved⟩ | ⟨row, position, -, -, -, moved⟩
    · rw [Led, stateEq, moved]
      exact canvas
    · rw [Led, stateEq, moved]
      exact canvas

end Job

namespace Session

variable [Scalar α] {backend : Backend α σ}

def Shows (backend : Backend α σ) (origin : Canvas σ)
    (session : Session α (Backend.Watched α σ)) : Prop :=
  ∃ exposed,
    session.unwatched.Exposes backend origin session.backend.calls.toList exposed

theorem resumeJob_shows {origin : Canvas σ} {job : Job α} {watched : Backend.Watched α σ}
    (led : job.Led backend origin watched)
    (smooth : (backend.carryOut watched.calls.toList origin).failure = none)
    (pause : Option PauseController) :
    (resumeJob backend.watching job watched pause).session.Shows backend origin := by
  have settled := resumeJob_settled backend.watching (Job.led_invariant backend origin) watched
    ⟨led, smooth⟩ pause
  generalize (resumeJob backend.watching job watched pause).session = session at settled ⊢
  obtain ⟨state, stage⟩ := session
  rcases settled with ⟨job, stageEq, -, ⟨led, smooth⟩, -⟩ | ⟨job, stageEq, -, ⟨led, smooth⟩, -⟩ |
    ⟨job, error, stageEq, -, led⟩
  · cases stageEq
    exact ⟨job.target, rfl, led, fun _ => smooth⟩
  · cases stageEq
    exact ⟨job.target, rfl, led, fun _ => smooth⟩
  · cases stageEq
    exact ⟨job.target, rfl, led, fun unfailed => absurd rfl unfailed⟩

/-- A request goes on with the target, or it returns the target as it was exposed. -/
theorem Effect.shows {origin : Canvas σ} {session : Session α (Backend.Watched α σ)}
    {request : Request α} {served : Served α (Backend.Watched α σ)}
    (effect : Effect backend.watching session request served)
    (shows : session.Shows backend origin) :
    served.session.Shows backend origin ∧ (∀ target, served.reply ≠ .closed (.ok target)) ∨
      ∃ target, session.target? = some target ∧
        served = ⟨⟨session.backend, .closed⟩, .closed (.ok target), 0⟩ := by
  obtain ⟨exposed, target, pixels, smooth⟩ := shows
  cases effect with
  | opened => cases target
  | resumed watched job pause ran =>
      cases target
      rw [← ran]
      exact .inl ⟨resumeJob_shows pixels (smooth nofun) pause, nofun⟩
  | overlaid missing painted clean =>
      cases target
      obtain ⟨canvas, failure⟩ := backend.watching_carryOut_led (smooth nofun) pixels
        (Overlay.script _ _ _).calls
      subst painted
      exact .inl ⟨⟨_, rfl, canvas, fun _ => failure.trans clean⟩, nofun⟩
  | overlayFailed missing painted failed =>
      cases target
      obtain ⟨canvas, -⟩ := backend.watching_carryOut_led (smooth nofun) pixels
        (Overlay.script _ _ _).calls
      subst painted
      exact .inl ⟨⟨_, rfl, canvas, fun unfailed => absurd rfl unfailed⟩, nofun⟩
  | closedDone watched job | closedFailed watched job => exact .inr ⟨job.target, rfl, rfl⟩

theorem Refusal.unwatched {session : Session α (Backend.Watched α σ)} {request : Request α}
    {reply : Reply} (refusal : Refusal session request reply) :
    Refusal session.unwatched request reply := by
  cases refusal with
  | started opening begun => exact .started opening begun
  | argument opening idle found => exact .argument opening idle found
  | resumed pause unpaused => exact .resumed pause unpaused
  | overlaid layer unfinished => exact .overlaid layer unfinished
  | overlaidAgain layer finished drawn => exact .overlaidAgain layer finished drawn
  | closed unfinished unfailed => exact .closed unfinished unfailed

theorem Refusal.apart {session : Session α σ} {request : Request α} {reply : Reply}
    (refusal : Refusal session request reply) (polls : Nat) :
    ¬Event.Takes ⟨session, request, ⟨session, reply, polls⟩⟩ ∧
      ¬Event.Returns ⟨session, request, ⟨session, reply, polls⟩⟩ := by
  constructor
  · rintro ⟨none, some⟩
    simp [Event.after, none] at some
  · rintro ⟨target, closed⟩
    cases refusal <;> cases closed

section Script

variable {state : σ} {session : Session α (Backend.Watched α σ)} {request : Request α}
  {served : Served α (Backend.Watched α σ)} {events : List (Event α σ)}

private theorem custody_awaited (idle : session = fresh ⟨#[], state⟩)
    (ran : session.perform backend.watching request = served)
    (apart : ∀ event ∈ events, ¬event.Takes ∧ ¬event.Returns) :
    Custody backend state served.session.backend.calls.toList served.session.unwatched
      (events ++ [⟨session.unwatched, request, served.unwatched⟩]) := by
  subst idle
  rcases perform_cases backend.watching (fresh ⟨#[], state⟩) request with
    effect | ⟨reply, refused, refusal⟩
  · rw [ran] at effect
    cases effect with
    | @opened _ given page config opening accepted _ resumed begun =>
        obtain ⟨exposed, shows⟩ : resumed.session.Shows backend
            ⟨(backend.prepare config state).1, given⟩ := by
          rw [← begun]
          exact resumeJob_shows (Job.led_start backend given page config state) rfl _
        refine .held ⟨rfl, ?_⟩ opening ?_ shows shows.shape
        · exact Option.isSome_iff_exists.mpr ⟨exposed, shows.target⟩
        · rw [List.append_nil]
          exact apart
  · obtain rfl := ran.symm.trans refused
    refine .awaited rfl rfl (List.forall_mem_append.mpr ⟨apart, ?_⟩)
    exact List.forall_mem_singleton.mpr (refusal.unwatched.apart 0)

private theorem custody_held {earlier later : List (Event α σ)} {opening : Event α σ}
    {given exposed : Target} {page : Page α} {config : Config} (taken : opening.Takes)
    (opened : opening.request.opening? = some (given, page, config))
    (apart : ∀ event ∈ earlier ++ later, ¬event.Takes ∧ ¬event.Returns)
    (exposes : session.unwatched.Exposes backend ⟨(backend.prepare config state).1, given⟩
      session.backend.calls.toList exposed)
    (ran : session.perform backend.watching request = served) :
    Custody backend state served.session.backend.calls.toList served.session.unwatched
      (earlier ++ opening :: later ++ [⟨session.unwatched, request, served.unwatched⟩]) := by
  have goes {reply : Event α σ} (still : ¬reply.Takes ∧ ¬reply.Returns) :
      ∀ event ∈ earlier ++ (later ++ [reply]), ¬event.Takes ∧ ¬event.Returns := by
    rw [← List.append_assoc]
    exact List.forall_mem_append.mpr ⟨apart, List.forall_mem_singleton.mpr still⟩
  rcases perform_cases backend.watching session request with effect | ⟨reply, refused, refusal⟩
  · rw [ran] at effect
    rcases effect.shows ⟨exposed, exposes⟩ with ⟨⟨left, shows⟩, silent⟩ | ⟨target, owned, rfl⟩
    · rw [List.append_assoc, List.cons_append]
      refine .held taken opened (goes ⟨?_, ?_⟩) shows shows.shape
      · rintro ⟨none, -⟩
        cases none.symm.trans exposes.target
      · rintro ⟨target, reply⟩
        exact silent target reply
    · obtain rfl : target = exposed := Option.some.inj (owned.symm.trans exposes.target)
      have still : ∀ event ∈ earlier ++ later ++ [], ¬event.Takes ∧ ¬event.Returns := by
        rw [List.append_nil]
        exact apart
      exact .returned taken opened exposes exposes.shape rfl still (List.forall_mem_nil _) rfl rfl
  · obtain rfl := ran.symm.trans refused
    rw [List.append_assoc, List.cons_append]
    exact .held taken opened (goes (refusal.unwatched.apart 0)) exposes exposes.shape

private theorem closed_refuses (ended : session.phase = .closed) (request : Request α) :
    ∃ reply, session.perform backend.watching request = ⟨session, reply, 0⟩ ∧
      Refusal session request reply := by
  obtain ⟨watched, stage⟩ := session
  cases stage with
  | notStarted | inProgress | done | failed => cases ended
  | closed =>
      rcases perform_cases backend.watching ⟨watched, .closed⟩ request with effect | refused
      · cases effect
      · exact refused

private theorem custody_step (custody : Custody backend state session.backend.calls.toList
      session.unwatched events) (ran : session.perform backend.watching request = served) :
    Custody backend state served.session.backend.calls.toList served.session.unwatched
      (events ++ [⟨session.unwatched, request, served.unwatched⟩]) := by
  cases custody with
  | awaited untouched idle apart =>
      refine custody_awaited ?_ ran apart
      obtain ⟨⟨⟨seen⟩, own⟩, stage⟩ := session
      cases idle
      cases untouched
      rfl
  | held taken opened apart exposes => exact custody_held taken opened apart exposes ran
  | returned taken opened exposes shape reply apart refused ended gone =>
      obtain ⟨answer, again, refusal⟩ := closed_refuses ended request
      obtain rfl := ran.symm.trans again
      rw [List.append_assoc _ (_ :: _), List.cons_append]
      refine .returned taken opened exposes shape reply ?_ ?_ ended gone
      · rw [← List.append_assoc]
        exact List.forall_mem_append.mpr
          ⟨apart, List.forall_mem_singleton.mpr (refusal.unwatched.apart 0)⟩
      · exact List.forall_mem_append.mpr
          ⟨refused, List.forall_mem_singleton.mpr ⟨rfl, refusal.unwatched⟩⟩

end Script

private theorem custody_history (backend : Backend α σ) (state : σ) (script : List (Request α)) :
    let watched := (fresh ⟨#[], state⟩).performAll backend.watching script
    Custody backend state watched.backend.calls.toList watched.unwatched
      ((fresh state).history backend script) := by
  -- The script grows at its end, since custody tells what has become of the target so far.
  induction script using List.reverseRecOn with
  | nil => exact .awaited rfl rfl (List.forall_mem_nil _)
  | append_singleton script request custody =>
      have plain : (fresh state).performAll backend script = _ :=
        performAll_unwatched backend (fresh ⟨#[], state⟩) script
      rw [history_append, performAll_append, plain, history_cons, history_nil,
        perform_unwatched]
      exact custody_step custody rfl

/-- What a start tells about its target: a start that succeeds takes it, and one that fails hands
it back exactly if the session has not taken it. -/
structure TellsOwner (given : Target) (event : Event α σ) : Prop where
  taken : ∀ status, event.reply = .started (.ok status) → event.Takes
  back : ∀ failure, event.reply = .started (.error failure) →
    (failure.target = some given ↔ ¬event.Takes)
  kept : ∀ failure, event.reply = .started (.error failure) →
    (failure.target = none ↔ event.Takes ∧ event.after.phase = .failed)
  unchanged : ¬event.Takes → event.after = event.before

omit [Scalar α] in
private theorem TellsOwner.of_ok {given : Target} {event : Event α σ} {status : RenderStatus}
    (reply : event.reply = .started (.ok status)) (taken : event.Takes) :
    TellsOwner given event where
  taken := fun _ _ => taken
  back := by
    intro failure failed
    cases reply.symm.trans failed
  kept := by
    intro failure failed
    cases reply.symm.trans failed
  unchanged := fun left => absurd taken left

/-- An accepted start has taken its target even if the backend fails at once, and only then does it
fail. -/
theorem opened_tellsOwner {request : Request α} {given : Target} {state state' : σ} {job : Job α}
    {pause : Option PauseController} {resumed : Response α σ Error RenderStatus}
    (ran : resumeJob backend job state' pause = resumed) :
    TellsOwner given ⟨⟨state, .notStarted⟩, request,
      ⟨resumed.session, .started (resumed.result.mapError fun error => ⟨error, none⟩),
        resumed.polls⟩⟩ := by
  have answers := resumeJob_answers backend job state' pause
  rw [ran] at answers
  obtain ⟨⟨after, stage⟩, result, log, polls, left⟩ := resumed
  rcases answers with ⟨finished, stageEq, resultEq⟩ | ⟨paused, stageEq, resultEq⟩ |
    ⟨stopped, error, stageEq, resultEq⟩
  · cases stageEq
    cases resultEq
    exact .of_ok rfl ⟨rfl, rfl⟩
  · cases stageEq
    cases resultEq
    exact .of_ok rfl ⟨rfl, rfl⟩
  · cases stageEq
    cases resultEq
    refine ⟨nofun, ?_, ?_, fun left => absurd ⟨rfl, rfl⟩ left⟩
    · rintro failure ⟨⟩
      exact iff_of_false nofun fun left => left ⟨rfl, rfl⟩
    · rintro failure ⟨⟩
      exact iff_of_true rfl ⟨⟨rfl, rfl⟩, rfl⟩

private theorem perform_tellsOwner (session : Session α σ) {request : Request α} {given : Target}
    {page : Page α} {config : Config} (opening : request.opening? = some (given, page, config)) :
    TellsOwner given ⟨session, request, session.perform backend request⟩ := by
  rcases perform_cases backend session request with effect | ⟨reply, refused, refusal⟩
  · generalize session.perform backend request = served at effect
    cases effect with
    | resumed | overlaid | overlayFailed | closedDone | closedFailed => cases opening
    | opened again accepted state ran => exact opened_tellsOwner ran
  · rw [refused]
    obtain ⟨apart, -⟩ := refusal.apart 0
    cases refusal with
    | started again begun | argument again idle found =>
        cases opening.symm.trans again
        refine ⟨nofun, ?_, ?_, fun _ => rfl⟩
        · rintro failure ⟨⟩
          exact iff_of_true rfl apart
        · rintro failure ⟨⟩
          exact iff_of_false nofun fun taken => apart taken.1
    | resumed | overlaid | overlaidAgain | closed => cases opening

/-- Whatever a script asks of a session and whatever its backend does, each start tells who owns the
target afterwards, no two starts take theirs, the one that is taken is exposed with exactly the
pixels that the calls so far have left, and the first close that succeeds returns it. Its size and
its alpha channel stay what they were if the backend keeps them, as the backends of this library
do. -/
theorem history_custody (backend : Backend α σ) (state : σ) (script : List (Request α)) :
    let events := (fresh state : Session α σ).history backend script
    let calls := ((fresh ⟨#[], state⟩).performAll backend.watching script).backend.calls.toList
    (∀ event ∈ events, ∀ given page config,
      event.request.opening? = some (given, page, config) → TellsOwner given event) ∧
      Custody backend state calls ((fresh state).performAll backend script) events ∧
      ∀ (τ : Type) (own : Backend Float32 τ), own.Provided → own.KeepsShape := by
  intro events calls
  refine ⟨?_, ?_, fun τ own provided => provided.keepsShape⟩
  · intro event member given page config opening
    have served := served_of_mem backend member
    obtain ⟨session, request, result⟩ := event
    obtain rfl : result = session.perform backend request := served
    exact perform_tellsOwner session opening
  · have plain : (fresh state).performAll backend script = _ :=
      performAll_unwatched backend (fresh ⟨#[], state⟩) script
    rw [plain]
    exact custody_history backend state script

/-- A target of another size is exposed, and returned in place of the one that was taken, if the
backend puts it there. -/
theorem replaced_target_returned :
    let opening : Request Rat := .start smallTarget smallPage (.ofSize 2 2) none
    let served := (fresh ()).perform .replacing opening
    (⟨fresh (), opening, served⟩ : Event Rat Unit).Takes ∧
      ∃ exposed, served.session.target? = some exposed ∧
        served.session.close.result = .ok exposed ∧ ¬ exposed.SameShape smallTarget := by
  intro opening served
  have phase : served.session.phase = .done := by decide +kernel
  have width : served.session.target?.map Target.width = some 1 := by decide +kernel
  generalize served = served at phase width ⊢
  obtain ⟨⟨state, stage⟩, reply, polls⟩ := served
  cases stage with
  | notStarted | inProgress | failed | closed => cases phase
  | done job =>
      refine ⟨⟨rfl, rfl⟩, job.target, rfl, rfl, fun same => ?_⟩
      cases (Option.some.inj width).symm.trans same.width

end Session

end PagePaint
