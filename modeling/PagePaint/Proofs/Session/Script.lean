import PagePaint.Proofs.Session.Request

set_option autoImplicit false

/-!
# Scripts of requests

What a script of requests does, one event for each request. The events of a script are those of its
first part followed by those of the rest, so a fact about every event is a fact about what one
request does to a session that some requests have led to.
-/

namespace PagePaint

variable {α σ : Type}

/-- A request, the session it was made to, and what serving it gave. -/
structure Event (α σ : Type) where
  before : Session α σ
  request : Request α
  served : Served α σ

namespace Event

def after (event : Event α σ) : Session α σ := event.served.session

def reply (event : Event α σ) : Reply := event.served.reply

end Event

/-- What a caller sees of a request: the answer, how often the controller was asked, and what the
session shows afterwards. -/
structure View where
  reply : Reply
  polls : Nat
  phase : Phase
  continuation? : Option Continuation
  target? : Option Target

def Event.view (event : Event α σ) : View :=
  ⟨event.reply, event.served.polls, event.after.phase, event.after.continuation?,
    event.after.target?⟩

namespace Session

variable [Scalar α] (backend : Backend α σ)

def history (session : Session α σ) : List (Request α) → List (Event α σ)
  | [] => []
  | request :: rest =>
    ⟨session, request, session.perform backend request⟩ ::
      history (session.perform backend request).session rest

@[simp] theorem history_nil (session : Session α σ) : session.history backend [] = [] := rfl

@[simp] theorem history_cons (session : Session α σ) (request : Request α)
    (rest : List (Request α)) :
    session.history backend (request :: rest) =
      ⟨session, request, session.perform backend request⟩ ::
        (session.perform backend request).session.history backend rest := rfl

@[simp] theorem performAll_cons (session : Session α σ) (request : Request α)
    (rest : List (Request α)) :
    session.performAll backend (request :: rest) =
      (session.perform backend request).session.performAll backend rest := rfl

theorem history_append (session : Session α σ) (first second : List (Request α)) :
    session.history backend (first ++ second) =
      session.history backend first ++
        (session.performAll backend first).history backend second := by
  induction first generalizing session with
  | nil => rfl
  | cons request rest ih => exact congrArg (List.cons _) (ih _)

@[simp] theorem history_map_request (session : Session α σ) (script : List (Request α)) :
    (session.history backend script).map Event.request = script := by
  induction script generalizing session with
  | nil => rfl
  | cons request rest ih => exact congrArg (List.cons request) (ih _)

theorem history_split {session : Session α σ} {script : List (Request α)}
    {earlier later : List (Event α σ)} {event : Event α σ}
    (split : session.history backend script = earlier ++ event :: later) :
    earlier = session.history backend (earlier.map Event.request) ∧
      event.before = session.performAll backend (earlier.map Event.request) ∧
      event.served = event.before.perform backend event.request ∧
      later = event.after.history backend (later.map Event.request) := by
  induction earlier generalizing session script with
  | nil =>
      cases script with
      | nil => cases split
      | cons request rest =>
          obtain ⟨rfl, rest⟩ := List.cons.inj split
          refine ⟨rfl, rfl, rfl, ?_⟩
          rw [← rest, history_map_request]
          rfl
  | cons first earlier ih =>
      cases script with
      | nil => cases split
      | cons request rest =>
          obtain ⟨rfl, rest⟩ := List.cons.inj split
          obtain ⟨earlierEq, beforeEq, served, laterEq⟩ := ih rest
          exact ⟨congrArg (List.cons _) earlierEq, beforeEq, served, laterEq⟩

theorem served_of_mem {session : Session α σ} {script : List (Request α)} {event : Event α σ}
    (member : event ∈ session.history backend script) :
    event.served = event.before.perform backend event.request := by
  obtain ⟨earlier, later, split⟩ := List.append_of_mem member
  exact (history_split backend split).2.2.1

end Session

end PagePaint
