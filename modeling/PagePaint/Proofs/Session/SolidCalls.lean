import PagePaint.Proofs.Paint.Solidity
import PagePaint.Proofs.Session.CallInvariant
import PagePaint.Proofs.Session.Watched

set_option autoImplicit false

/-!
# Sessions with pages that need no alpha channel

A page that needs no alpha channel is painted without any, from the first call to the last one of a
form layer without highlight. The calls are those that a watch sees, so it does not matter which
backend carries them out and which of them fail.
-/

namespace PagePaint

variable {α σ : Type}

def Backend.Watched.Sees (allowed : PaintCall α → Prop) (watched : Backend.Watched α σ) : Prop :=
  ∀ call ∈ watched.calls, (∃ color, call = .clear color) ∨ allowed call

namespace Backend

private theorem Watched.Sees.push {allowed : PaintCall α → Prop} {watched : Watched α σ}
    (sees : watched.Sees allowed) {call : PaintCall α}
    (fine : (∃ color, call = .clear color) ∨ allowed call) (state : σ) :
    Watched.Sees allowed ⟨watched.calls.push call, state⟩ := by
  intro other member
  rcases Array.mem_push.mp member with before | rfl
  · exact sees other before
  · exact fine

/-- A watch sees the calls it is given, whatever becomes of them. -/
theorem watching_upholds (backend : Backend α σ) (allowed : PaintCall α → Prop) :
    backend.watching.Upholds allowed (fun canvas => canvas.state.Sees allowed)
      (fun canvas => canvas.state.Sees allowed) where
  cleared sees _ := sees.push (.inl ⟨_, rfl⟩) _
  stopped sees _ := sees.push (.inl ⟨_, rfl⟩) _
  painted fine sees := sees.push (.inr fine) _

end Backend

variable [Scalar α]

/-- The job of a page that needs no alpha channel paints solidly. -/
theorem Job.start_asks_solid {page : Page α} {config : Config} (solid : page.needsAlpha = false)
    (scheme : config.SolidScheme) (target : Target) :
    (Job.start target page config).Asks PaintCall.Solid (· = .ofPage none) where
  work := by
    intro unit member call made
    have listed : unit.calls (Renderer.ofConfig page config) ∈ PaintingOrder.units page config := by
      rw [← PaintingOrder.workList_calls]
      exact List.mem_map_of_mem member
    exact PaintingOrder.solid_of_mem_units scheme solid listed made
  overlay := by
    rintro _ rfl call made
    rw [PaintingOrder.overlayScript_calls] at made
    exact PaintingOrder.solid_of_mem_overlay solid made

namespace Session

private theorem Upheld.sees {allowed : PaintCall α → Prop} {layers : FormLayer α → Prop}
    {origin : Backend.Watched α σ} (start : origin.Sees allowed)
    {session : Session α (Backend.Watched α σ)}
    (upheld : session.Upheld allowed layers (fun canvas => canvas.state.Sees allowed)
      (fun canvas => canvas.state.Sees allowed) origin) : session.backend.Sees allowed := by
  obtain ⟨watched, stage⟩ := session
  have held {job : Job α} (holds : job.Holds (fun canvas => canvas.state.Sees allowed)
      (fun canvas => canvas.state.Sees allowed) watched) : watched.Sees allowed := by
    cases done : job.continuation.backgroundDone with
    | false => exact holds.early done
    | true => exact holds.late done
  cases stage with
  | notStarted =>
      obtain rfl : watched = origin := upheld
      exact start
  | inProgress job | failed job => exact held upheld.2
  | done job => exact held upheld.2.2
  | closed =>
      obtain ⟨target, sees | sees⟩ := upheld
      · exact sees
      · exact sees

/-- Whatever is asked of a session, if no page that it is started with needs an alpha channel, no
scheme has a colour that is not opaque, and its form layers are the widgets of the page without a
highlight, then every call it makes but for the clears uses the normal blend mode and full alpha
only. The backend may be any, and is watched without noticing it. -/
theorem solid_page_paints_solidly (backend : Backend α σ) (state : σ)
    {requests : List (Request α)}
    (openings : ∀ request ∈ requests, ∀ target page config,
      request.opening? = some (target, page, config) →
        page.needsAlpha = false ∧
          ∀ scheme, config.scheme = some scheme → ∀ role, (scheme.pick role).alpha = 255)
    (layers : ∀ layer, .drawOverlay layer ∈ requests → layer = .ofPage none) :
    let watched := (fresh ⟨#[], state⟩).performAll backend.watching requests
    (fresh state).performAll backend requests = watched.unwatched ∧
      ∀ call ∈ watched.backend.calls, (∃ color, call = .clear color) ∨ call.Solid := by
  intro watched
  refine ⟨performAll_unwatched backend (fresh ⟨#[], state⟩) requests, ?_⟩
  have none : Backend.Watched.Sees PaintCall.Solid (⟨#[], state⟩ : Backend.Watched α σ) := by
    intro call member
    cases Array.not_mem_empty call member
  have upheld : watched.Upheld PaintCall.Solid (· = .ofPage Option.none)
      (fun canvas => canvas.state.Sees PaintCall.Solid)
      (fun canvas => canvas.state.Sees PaintCall.Solid) ⟨#[], state⟩ := by
    refine performAll_upheld (backend.watching_upholds PaintCall.Solid)
      (fresh_upheld _ _ _ _ _) ?_ layers
    intro _ request member target page config opening
    obtain ⟨solid, scheme⟩ := openings request member target page config opening
    exact ⟨none, Job.start_asks_solid solid scheme target⟩
  exact upheld.sees none

/-- A page with an annotation and a form field, painted under a scheme that turns fills into
strokes, and its widgets. -/
theorem solid_page_paints_solidly_small :
    let stamp : Annot Rat := .ofAppearance .stamp ⟨0, 0, 1, 1⟩ [.path smallSquare]
    let page := { smallPage with annots := stamp :: smallPage.annots }
    let config := ((Config.ofSize 2 2).withScheme (.uniform .pureGreen)).withFlags
      ((RenderFlags.single .annotations).union (.single .fillToStroke))
    let requests : List (Request Rat) :=
      [.start smallTarget page config none, .drawOverlay (.ofPage none)]
    let watched := (fresh ⟨#[], #[]⟩).performAll Backend.recorder.watching requests
    watched.backend.calls.size = 6 ∧
      ∀ call ∈ watched.backend.calls, (∃ color, call = .clear color) ∨ call.Solid := by
  intro stamp page config requests watched
  have solid : page.needsAlpha = false := by decide +kernel
  have openings : ∀ request ∈ requests, ∀ target page config,
      request.opening? = some (target, page, config) → page.needsAlpha = false ∧
        ∀ scheme, config.scheme = some scheme → ∀ role, (scheme.pick role).alpha = 255 := by
    intro request member target page config opening
    simp only [requests, List.mem_cons, List.not_mem_nil, or_false] at member
    rcases member with rfl | rfl
    · cases opening
      refine ⟨solid, ?_⟩
      rintro _ ⟨rfl⟩ role
      cases role <;> decide
    · cases opening
  have layers : ∀ layer, .drawOverlay layer ∈ requests → layer = .ofPage none := by
    simp [requests]
  obtain ⟨-, painted⟩ := solid_page_paints_solidly Backend.recorder #[] openings layers
  exact ⟨by decide +kernel, painted⟩

end Session

end PagePaint
