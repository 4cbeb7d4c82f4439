import PagePaint.Proofs.Backend.Parallel
import PagePaint.Proofs.Session.Failure
import PagePaint.Proofs.Session.Script

set_option autoImplicit false

/-!
# Every call on record

A recorder that fails at planned calls holds the calls of a session up to some number: those of the
base pass and then those of the form layer that was begun, if one was. So the number of its entries
tells which calls they are.
-/

namespace PagePaint

variable {α σ : Type}

def PaintCall.background? : PaintCall α → Option Argb
  | .clear color => some color
  | .fill _ _ _ _ | .stroke _ _ _ _ | .shade _ _ _ _ _ | .image _ _ _ _ => none

def PaintCall.ClearsLike (call call' : PaintCall α) : Prop := call.background? = call'.background?

namespace Backend

abbrev faulty (plan : FaultPlan) : Backend α (Numbered (Record α)) := failing plan recorder

theorem faulty_paint (plan : FaultPlan) (call : PaintCall α) (made : Nat) (record : Record α)
    (target : Target) :
    (faulty plan).paint call ⟨⟨made, record⟩, target⟩ =
      if plan.fails made then ⟨⟨⟨made + 1, record⟩, target⟩, [], some (plan.error made)⟩
      else
        ⟨⟨⟨made + 1, record.push (.painted call)⟩, (call.background?.map target.fill).getD target⟩,
          [], none⟩ := by
  cases fails : plan.fails made with
  | true => simp only [failing, fails, if_true]
  | false =>
      simp only [failing, recorder, fails, Bool.false_eq_true, if_false]
      cases call <;> rfl

abbrev SameCounts (left right : Numbered (Record α)) : Prop :=
  left.made = right.made ∧ left.state.size = right.state.size

/-- Recorders with the same counts treat calls alike that clear alike, wherever they are to fail. -/
theorem faulty_parallel (plan : FaultPlan) :
    (faulty (α := α) plan).Parallel (faulty plan) PaintCall.ClearsLike SameCounts where
  target := by
    rintro call call' ⟨made, record⟩ ⟨made', record'⟩ target like ⟨rfl, -⟩
    rw [faulty_paint, faulty_paint, like]
    split <;> rfl
  failure := by
    rintro call call' ⟨made, record⟩ ⟨made', record'⟩ target like ⟨rfl, -⟩
    rw [faulty_paint, faulty_paint]
    split <;> rfl
  state := by
    rintro call call' ⟨made, record⟩ ⟨made', record'⟩ target like ⟨rfl, same⟩
    rw [faulty_paint, faulty_paint]
    split
    · exact ⟨rfl, same⟩
    · refine ⟨rfl, ?_⟩
      rw [Array.size_push, Array.size_push, same]

theorem faulty_carryOut (plan : FaultPlan) (calls : List (PaintCall α))
    (canvas : Canvas (Numbered (Record α))) :
    let passage := (faulty plan).carryOut calls canvas
    passage.canvas.state.state.toList =
        canvas.state.state.toList ++ (calls.take passage.carried).map .painted ∧
      (passage.failure = none → passage.carried = calls.length) := by
  induction calls generalizing canvas with
  | nil => exact ⟨(List.append_nil _).symm, fun _ => rfl⟩
  | cons call rest ih =>
      obtain ⟨⟨made, record⟩, target⟩ := canvas
      have painted := faulty_paint plan call made record target
      cases fails : plan.fails made with
      | true =>
          rw [fails, if_pos rfl] at painted
          have failure := congrArg Outcome.failure painted
          rw [carryOut_cons_failed _ rest failure, painted]
          exact ⟨(List.append_nil _).symm, nofun⟩
      | false =>
          rw [fails, if_neg Bool.false_ne_true] at painted
          have failure := congrArg Outcome.failure painted
          rw [carryOut_cons_painted _ rest failure, painted]
          obtain ⟨recorded, counted⟩ := ih ⟨⟨made + 1, record.push (.painted call)⟩,
            (call.background?.map target.fill).getD target⟩
          constructor
          · rw [Passage.behind_canvas, recorded, Passage.behind_carried, Nat.add_comm 1,
              List.take_succ_cons, List.map_cons, Array.toList_push, List.append_assoc]
            rfl
          · intro smooth
            rw [Passage.behind_carried, counted smooth, List.length_cons, Nat.add_comm]

end Backend

theorem Job.callsThen_eq_allCalls_append [Scalar α] (opened : Job α)
    (layer? : Option (FormLayer α)) :
    ∃ more, opened.callsThen layer? = opened.allCalls ++ more := by
  cases layer? with
  | none => exact ⟨[], (List.append_nil _).symm⟩
  | some layer => exact ⟨_, rfl⟩

namespace Session

def drawn? (session : Session α σ) : Request α → Option (FormLayer α)
  | .drawOverlay layer =>
    match session.stage with
    | .done job => if job.overlayDrawn then none else some layer
    | .notStarted | .inProgress _ | .failed _ | .closed => none
  | .start _ _ _ _ | .startWithScheme _ _ _ _ _ | .resume _ | .close => none

theorem drawn?_of_opening {request : Request α} {opening : Target × Page α × Config}
    (opens : request.opening? = some opening) (session : Session α σ) :
    session.drawn? request = none := by
  cases request with
  | start | startWithScheme | resume | close => rfl
  | drawOverlay => cases opens

theorem drawn?_eq_some {session : Session α σ} {request : Request α} {layer : FormLayer α}
    (drawn : session.drawn? request = some layer) : request = .drawOverlay layer := by
  cases request with
  | start | startWithScheme | resume | close => cases drawn
  | drawOverlay other =>
      simp only [drawn?] at drawn
      split at drawn
      · split at drawn
        · cases drawn
        · rw [Option.some.inj drawn]
      all_goals cases drawn

private theorem Refusal.drawn?_eq_none [Scalar α] {session : Session α σ} {request : Request α}
    {reply : Reply} (refusal : Refusal session request reply) : session.drawn? request = none := by
  cases refusal with
  | started opening | argument opening => exact drawn?_of_opening opening session
  | resumed | closed => rfl
  | overlaid layer unfinished =>
      obtain ⟨state, stage⟩ := session
      cases stage with
      | notStarted | inProgress | failed | closed => rfl
      | done => exact absurd rfl unfinished
  | overlaidAgain layer finished drawn => simp only [drawn?, finished, drawn, if_true]

variable [Scalar α] {plan : Backend.FaultPlan} {opened : Job α}
  {origin : Backend.Numbered (Record α)} {layer? : Option (FormLayer α)}

/-- A session that was opened with a recorder, and the form layer that was begun, if one was. As long
as the base pass goes on, the job follows its calls. Calls are missing on record after a failure
only. -/
def Written (plan : Backend.FaultPlan) (opened : Job α) (origin : Backend.Numbered (Record α))
    (layer? : Option (FormLayer α)) (session : Session α (Backend.Numbered (Record α))) : Prop :=
  match session.stage with
  | .notStarted => False
  | .inProgress job =>
    layer? = none ∧ opened.Follows (Backend.faulty plan) origin job session.backend
  | .done job =>
    opened.Precedes job ∧ job.overlayDrawn = layer?.isSome ∧
      session.backend.state.toList =
        origin.state.toList ++ (opened.callsThen layer?).map .painted
  | .failed _ | .closed =>
    ∃ count, session.backend.state.toList =
      origin.state.toList ++ ((opened.callsThen layer?).take count).map .painted

theorem resumeJob_written {job : Job α} {state : Backend.Numbered (Record α)}
    (follows : opened.Follows (Backend.faulty plan) origin job state)
    (pause : Option PauseController) :
    (resumeJob (Backend.faulty plan) job state pause).session.Written plan opened origin none := by
  obtain ⟨recorded, counted⟩ :=
    Backend.faulty_carryOut plan opened.allCalls ⟨origin, opened.target⟩
  rcases resumeJob_settled (Backend.faulty plan)
      (Job.follows_invariant (Backend.faulty plan) opened origin) state follows pause with
    ⟨finished, stage, -, held, none⟩ | ⟨paused, stage, -, ⟨held, -⟩, -⟩ |
    ⟨stopped, error, stage, -, broken⟩
  · obtain ⟨smooth, canvas⟩ := held.carryOut_of_finished none
    simp only [Written, stage]
    rw [canvas, counted smooth, List.take_length] at recorded
    exact ⟨held.precedes, held.overlay, recorded⟩
  · simp only [Written, stage]
    exact ⟨trivial, held⟩
  · simp only [Written, stage]
    rw [broken.canvas] at recorded
    exact ⟨_, recorded⟩

private theorem overlay_recorded {job : Job α} {state : Backend.Numbered (Record α)}
    (written : (⟨state, .done job⟩ : Session α _).Written plan opened origin layer?)
    (missing : job.overlayDrawn = false) (layer : FormLayer α) :
    let passage := overlayPassage (Backend.faulty plan) layer job state
    layer? = none ∧
      (∃ count, passage.canvas.state.state.toList =
        origin.state.toList ++ ((opened.callsThen (some layer)).take count).map .painted) ∧
      (passage.failure = none → passage.canvas.state.state.toList =
        origin.state.toList ++ (opened.callsThen (some layer)).map .painted) := by
  obtain ⟨precedes, drawn, recorded⟩ := written
  have begun : layer?.isSome = false := drawn.symm.trans missing
  obtain rfl : layer? = none := Option.isNone_iff_eq_none.mp (Option.isSome_eq_false_iff.mp begun)
  obtain ⟨added, counted⟩ := Backend.faulty_carryOut plan
    (Overlay.script layer job.page job.config).calls ⟨state, job.target⟩
  intro passage
  have whole : passage.canvas.state.state.toList = origin.state.toList ++
      (opened.allCalls ++ (Overlay.script layer opened.page opened.config).calls.take
        passage.carried).map .painted := by
    rw [List.map_append, ← List.append_assoc, ← precedes.page, ← precedes.config]
    exact added.trans (congrArg (· ++ _) recorded)
  refine ⟨rfl, ⟨opened.allCalls.length + passage.carried, ?_⟩, fun smooth => ?_⟩
  · rw [Job.callsThen, List.take_length_add_append]
    exact whole
  · have all : passage.carried = (Overlay.script layer job.page job.config).calls.length :=
      counted smooth
    rw [all, precedes.page, precedes.config, List.take_length] at whole
    exact whole

private theorem Effect.written {session : Session α (Backend.Numbered (Record α))}
    {request : Request α} {served : Served α (Backend.Numbered (Record α))}
    (effect : Effect (Backend.faulty plan) session request served)
    (written : session.Written plan opened origin layer?) :
    served.session.Written plan opened origin ((session.drawn? request).or layer?) := by
  cases effect with
  | opened => exact written.elim
  | resumed state job pause ran =>
      subst ran
      obtain ⟨rfl, follows⟩ := written
      exact resumeJob_written follows pause
  | @overlaid state job layer canvas missing painted smooth =>
      subst painted
      obtain ⟨rfl, -, recorded⟩ := overlay_recorded written missing layer
      simp only [drawn?, missing, Bool.false_eq_true, if_false]
      exact ⟨{ written.1 with overlay := fun _ => rfl }, rfl, recorded smooth⟩
  | @overlayFailed state job layer canvas error missing painted failed =>
      subst painted
      obtain ⟨rfl, recorded, -⟩ := overlay_recorded written missing layer
      simp only [drawn?, missing, Bool.false_eq_true, if_false]
      exact recorded
  | closedDone state job =>
      obtain ⟨-, -, recorded⟩ := written
      refine ⟨(opened.callsThen layer?).length, ?_⟩
      simp only [drawn?, Option.none_or, List.take_length]
      exact recorded
  | closedFailed => exact written

theorem perform_written {session : Session α (Backend.Numbered (Record α))}
    (written : session.Written plan opened origin layer?) (request : Request α) :
    (session.perform (Backend.faulty plan) request).session.Written plan opened origin
      ((session.drawn? request).or layer?) := by
  rcases perform_cases (Backend.faulty plan) session request with effect | ⟨reply, refused, refusal⟩
  · exact effect.written written
  · rw [refused, refusal.drawn?_eq_none]
    exact written

/-- After an accepted opening, every script leaves a session whose calls are on record. -/
theorem performAll_written {session : Session α (Backend.Numbered (Record α))}
    (written : session.Written plan opened origin layer?) (script : List (Request α)) :
    ∃ begun?, (session.performAll (Backend.faulty plan) script).Written plan opened origin
      begun? := by
  induction script generalizing session layer? with
  | nil => exact ⟨layer?, written⟩
  | cons request rest ih => exact ih (perform_written written request)

theorem performAll_written_of_opening (plan : Backend.FaultPlan) {request : Request α}
    {target : Target} {page : Page α} {config : Config}
    (opening : request.opening? = some (target, page, config))
    (accepted : argumentFault? target page config = none) (state : Backend.Numbered (Record α))
    (later : List (Request α)) :
    ∃ begun?, ((fresh state).performAll (Backend.faulty plan) (request :: later)).Written plan
      (.start target page config) ((Backend.faulty plan).prepare config state).1 begun? := by
  obtain ⟨pause, opened⟩ := perform_opening (Backend.faulty plan) opening accepted state
  rw [performAll_cons, opened]
  exact performAll_written (resumeJob_written (Job.follows_start _ target page config _) pause)
    later

/-- The number of entries tells which calls they are. -/
theorem Written.recorded {session : Session α (Backend.Numbered (Record α))}
    (written : session.Written plan opened origin layer?) :
    session.backend.state.toList = origin.state.toList ++
      ((opened.callsThen layer?).take
        (session.backend.state.size - origin.state.size)).map .painted := by
  have cut : ∃ count, session.backend.state.toList =
      origin.state.toList ++ ((opened.callsThen layer?).take count).map .painted := by
    obtain ⟨state, stage⟩ := session
    cases stage with
    | notStarted => exact written.elim
    | failed | closed => exact written
    | done job =>
        obtain ⟨-, -, recorded⟩ := written
        exact ⟨(opened.callsThen layer?).length, by rw [List.take_length]; exact recorded⟩
    | inProgress job =>
        obtain ⟨rfl, follows⟩ := written
        obtain ⟨recorded, counted⟩ := Backend.faulty_carryOut plan
          (opened.doneCalls job.continuation) ⟨origin, opened.target⟩
        rw [follows.canvas, counted follows.smooth, List.take_length] at recorded
        obtain ⟨more, whole⟩ := Job.allCalls_eq_doneCalls_append opened job.continuation
        refine ⟨(opened.doneCalls job.continuation).length, ?_⟩
        rw [Job.callsThen, whole, List.take_left]
        exact recorded
  obtain ⟨count, recorded⟩ := cut
  have size : session.backend.state.size - origin.state.size =
      min count (opened.callsThen layer?).length := by
    rw [← Array.length_toList, ← Array.length_toList, recorded, List.length_append,
      List.length_map, List.length_take]
    omega
  rw [size, ← List.take_eq_take_min]
  exact recorded

theorem Written.size_of_done {session : Session α (Backend.Numbered (Record α))}
    (written : session.Written plan opened origin layer?) (done : session.phase = .done) :
    session.backend.state.size = origin.state.size + (opened.callsThen layer?).length := by
  obtain ⟨state, stage⟩ := session
  cases stage with
  | notStarted | inProgress | failed | closed => cases done
  | done job =>
      obtain ⟨-, -, recorded⟩ := written
      have length := congrArg List.length recorded
      rw [List.length_append, List.length_map, Array.length_toList, Array.length_toList] at length
      exact length

end Session

end PagePaint
