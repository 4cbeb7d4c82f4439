import PagePaint.Backend.Recorder
import PagePaint.Proofs.Session.Lockstep

set_option autoImplicit false

/-!
# Sessions under watch

A session with a watched backend does what it does without the watch, and the calls that were seen
are those that led to its pixels. So what a session has asked of its backend can be read off the
same session under watch.
-/

namespace PagePaint

variable {α σ : Type}

namespace Backend

theorem watching_carryOut_made (backend : Backend α σ) (calls : List (PaintCall α))
    (seen : Array (PaintCall α)) (state : σ) (target : Target) :
    let watched := backend.watching.carryOut calls ⟨⟨seen, state⟩, target⟩
    ∃ made, watched.canvas.state.calls.toList = seen.toList ++ made ∧
      (backend.carryOut made ⟨state, target⟩).canvas =
        ⟨watched.canvas.state.state, watched.canvas.target⟩ ∧
      (backend.carryOut made ⟨state, target⟩).failure = watched.failure := by
  induction calls generalizing seen state target with
  | nil => exact ⟨[], (List.append_nil _).symm, rfl, rfl⟩
  | cons call rest ih =>
      cases painted : (backend.paint call ⟨state, target⟩).failure with
      | some error =>
          have watched : (backend.watching.paint call ⟨⟨seen, state⟩, target⟩).failure =
              some error := painted
          rw [carryOut_cons_failed _ rest watched]
          refine ⟨[call], Array.toList_push, ?_, ?_⟩
          · rw [carryOut_cons_failed _ [] painted]
            rfl
          · rw [carryOut_cons_failed _ [] painted]
      | none =>
          have watched : (backend.watching.paint call ⟨⟨seen, state⟩, target⟩).failure = none :=
            painted
          rw [carryOut_cons_painted _ rest watched]
          obtain ⟨made, calls, canvas, failure⟩ := ih (seen.push call)
            (backend.paint call ⟨state, target⟩).canvas.state
            (backend.paint call ⟨state, target⟩).canvas.target
          refine ⟨call :: made, ?_, ?_, ?_⟩
          · rw [Array.toList_push, List.append_assoc] at calls
            exact calls
          · rw [carryOut_cons_painted _ made painted]
            exact canvas
          · rw [carryOut_cons_painted _ made painted]
            exact failure

theorem watching_parallel (backend : Backend α σ) :
    backend.Parallel backend.watching Eq fun state watched => watched.state = state where
  target := by
    rintro call _ state watched target rfl rfl
    rfl
  failure := by
    rintro call _ state watched target rfl rfl
    rfl
  state := by
    rintro call _ state watched target rfl rfl
    rfl

end Backend

theorem Job.Agrees.refl [Scalar α] (opened : Job α) :
    opened.Agrees Eq (fun _ => True) opened where
  limit := rfl
  background := fun _ => rfl
  work := List.forall₂_same.mpr fun _ _ => List.forall₂_eq_eq_eq ▸ rfl
  overlay := fun _ _ => List.forall₂_eq_eq_eq ▸ rfl

namespace Session

def unwatched (session : Session α (Backend.Watched α σ)) : Session α σ :=
  ⟨session.backend.state, session.stage⟩

end Session

def Served.unwatched (served : Served α (Backend.Watched α σ)) : Served α σ :=
  ⟨served.session.unwatched, served.reply, served.polls⟩

namespace Session

private theorem Lockstep.unwatched_eq {opened : Job α} {session : Session α σ}
    {watched : Session α (Backend.Watched α σ)}
    (lockstep : session.Lockstep (fun state watched => watched.state = state) opened opened
      watched) : session = watched.unwatched := by
  obtain ⟨state, stage⟩ := session
  obtain ⟨⟨seen, state'⟩, stage'⟩ := watched
  obtain ⟨sameState, stages⟩ := lockstep
  cases sameState
  cases stages with
  | inProgress jobs | done jobs | failed jobs =>
      cases jobs
      rfl
  | closed => rfl

private theorem lockstep_unwatched {session : Session α (Backend.Watched α σ)} {job : Job α}
    (owned : session.job? = some job) :
    session.unwatched.Lockstep (fun state watched => watched.state = state) job job session := by
  obtain ⟨watched, stage⟩ := session
  cases stage with
  | notStarted | closed => cases owned
  | inProgress own =>
      cases owned
      exact ⟨rfl, .inProgress (.reached job.target job.continuation job.overlayDrawn)⟩
  | done own =>
      cases owned
      exact ⟨rfl, .done (.reached job.target job.continuation job.overlayDrawn)⟩
  | failed own =>
      cases owned
      exact ⟨rfl, .failed (.reached job.target job.continuation job.overlayDrawn)⟩

end Session

theorem Served.Alike.unwatched_eq {opened : Job α} {served : Served α σ}
    {watched : Served α (Backend.Watched α σ)}
    (alike : served.Alike (fun state watched => watched.state = state) opened opened watched) :
    served = watched.unwatched := by
  obtain ⟨session, reply, polls⟩ := served
  obtain ⟨lockstep, rfl, rfl⟩ := alike
  obtain rfl := lockstep.unwatched_eq
  rfl

namespace Session

variable [Scalar α] (backend : Backend α σ)

private theorem perform_unwatched_of_opening {request : Request α} {target : Target} {page : Page α}
    {config : Config} (opening : request.opening? = some (target, page, config))
    (watched : Backend.Watched α σ) :
    (fresh watched.state).perform backend request =
      ((fresh watched).perform backend.watching request).unwatched := by
  cases fault : argumentFault? target page config with
  | some found =>
      rw [perform_of_opening backend opening, perform_of_opening backend.watching opening]
      simp only [start, fresh, fault]
      rfl
  | none =>
      apply Served.Alike.unwatched_eq
      exact opened_lockstep backend.watching_parallel rfl opening opening fault fault (.refl _) rfl

/-- A watch changes nothing for the caller. -/
theorem perform_unwatched (session : Session α (Backend.Watched α σ)) (request : Request α) :
    session.unwatched.perform backend request =
      (session.perform backend.watching request).unwatched := by
  -- A session with a job is in lockstep with itself under watch; one without has nothing to paint.
  cases owned : session.job? with
  | some job =>
      have alike := perform_agree backend.watching_parallel (.refl job)
        (lockstep_unwatched owned) request fun _ _ => trivial
      exact alike.unwatched_eq
  | none =>
      obtain ⟨watched, stage⟩ := session
      cases stage with
      | inProgress | done | failed => cases owned
      | closed => cases request <;> rfl
      | notStarted =>
          cases request with
          | start | startWithScheme => exact perform_unwatched_of_opening backend rfl watched
          | resume | drawOverlay | close => rfl

theorem performAll_unwatched (session : Session α (Backend.Watched α σ))
    (script : List (Request α)) :
    session.unwatched.performAll backend script =
      (session.performAll backend.watching script).unwatched := by
  induction script generalizing session with
  | nil => rfl
  | cons request rest ih =>
      rw [performAll_cons, performAll_cons, perform_unwatched]
      exact ih _

end Session

end PagePaint
