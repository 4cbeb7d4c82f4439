import PagePaint.Proofs.Paint.Smoothing
import PagePaint.Proofs.Session.CacheLimit
import PagePaint.Proofs.Session.SchemeRecord

set_option autoImplicit false

/-!
# Sessions under other render options

Most render options change nothing that a session does, and the smoothing options change only how
smooth the calls from their own sources are. Scripts that differ in such options of their starts
show the same after every request, whichever calls fail, and leave records of the same calls.
-/

namespace PagePaint

variable {α : Type}

/-!
## Calls of images
-/

def PaintSource.image? : PaintSource α → Option (ImageObject α)
  | .object item => item.image?
  | .background | .highlight => none

namespace PaintingOrder

variable [Scalar α] {base : Transform α} {config : Config}

theorem image?_eq_of_mem_object {item : PageObject α} {blend : BlendMode} {call : PaintCall α}
    (made : call ∈ object base config item blend) : call.image? = item.image? := by
  cases item with
  | path item => exact image?_of_mem_path made
  | text item => exact image?_of_mem_text made
  | shading item => exact image?_of_mem_shading made
  | image item => exact image?_of_mem_image made

private theorem image?_of_mem_sourcedAnnot {item : Annot α} {entry : PaintSource α × PaintCall α}
    (listed : entry ∈ sourcedAnnot base config item) : entry.2.image? = entry.1.image? := by
  obtain ⟨drawn, -, listed⟩ := List.mem_flatMap.mp listed
  obtain ⟨call, made, rfl⟩ := List.mem_map.mp listed
  exact image?_eq_of_mem_object made

private theorem image?_of_mem_sourcedForm {layer : FormLayer α} {page : Page α}
    {entry : PaintSource α × PaintCall α} (listed : entry ∈ sourcedForm layer page config) :
    entry.2.image? = entry.1.image? := by
  obtain ⟨item, -, listed⟩ := List.mem_flatMap.mp listed
  rcases List.mem_append.mp listed with highlighted | listed
  · obtain ⟨call, made, rfl⟩ := List.mem_map.mp highlighted
    exact image?_of_mem_highlight made
  · exact image?_of_mem_sourcedAnnot listed

/-- Exactly the image objects lead to image calls, each to calls of its own image. -/
theorem image?_of_mem_sourcedCalls {target : Target} {page : Page α}
    {layer? : Option (FormLayer α)} {entry : PaintSource α × PaintCall α}
    (listed : entry ∈ sourcedCalls target page config layer?) :
    entry.2.image? = entry.1.image? := by
  rcases List.mem_cons.mp listed with rfl | listed
  · rfl
  rcases List.mem_append.mp listed with pass | form
  · obtain ⟨drawn, painted, rfl⟩ := List.mem_map.mp pass
    obtain ⟨item, -, painted⟩ := List.mem_flatMap.mp painted
    obtain ⟨call, made, rfl⟩ := List.mem_map.mp painted
    exact image?_eq_of_mem_object made
  · cases layer? with
    | none => cases form
    | some layer => exact image?_of_mem_sourcedForm form

private theorem sourcedCalls_calls (target : Target) (page : Page α) (config : Config)
    (layer? : Option (FormLayer α)) :
    (sourcedCalls target page config layer?).map Prod.snd =
      (Job.start target page config).callsThen layer? := by
  cases layer? with
  | none =>
      rw [Job.callsThen, Job.allCalls_sourced]
      simp only [sourcedCalls, Option.map_none, Option.getD_none, List.append_nil, List.map_cons,
        List.map_map, Function.comp_def]
  | some layer =>
      rw [Job.callsThen, Job.allCalls_sourced]
      simp only [sourcedCalls, Option.map_some, Option.getD_some, List.map_cons, List.map_append,
        List.map_map, Function.comp_def, sourcedForm_calls, List.cons_append]
      rw [← overlayScript_calls]
      rfl

end PaintingOrder

/-!
## Openings under other options
-/

private theorem Resmooths.clearsLike {options : List RenderFlag} {source : PaintSource α}
    {call call' : PaintCall α} (changed : Resmooths options source call call') :
    call.ClearsLike call' := by
  cases changed with
  | same => rfl
  | toggled => cases call <;> rfl

section Openings

variable {options : List RenderFlag} {config config' : Config}

theorem Config.SameOutside.agrees [Scalar α] (same : config.SameOutside options config')
    (cosmetic : Cosmetic options) (target : Target) (page : Page α) :
    (Job.start target page config).Agrees PaintCall.ClearsLike (fun _ => True)
      (.start target page config') := by
  refine .of_order target same.stepLimit (fun _ => ?_) ?_ fun layer _ => ?_
  · rw [same.background]
    rfl
  · have units := PaintingOrder.units_related (same.showsLike cosmetic)
      (fun _ item blend => PaintingOrder.object_resmooths same cosmetic item blend) page
    exact units.imp fun _ _ unit => unit.imp fun _ _ ⟨_, changed⟩ => changed.clearsLike
  · exact (PaintingOrder.overlay_resmooths same cosmetic layer page).imp
      fun _ _ ⟨_, changed⟩ => changed.clearsLike

private theorem Config.SameOutside.argumentFault?_eq [Scalar α]
    (same : config.SameOutside options config') (target : Target) (page : Page α) :
    Session.argumentFault? target page config = Session.argumentFault? target page config' := by
  simp only [Session.argumentFault?, same.rect]

end Openings

/-- Requests that are the same but for some render options of a start. -/
inductive Request.SameOutside (options : List RenderFlag) : Request α → Request α → Prop where
  | opens {request request' : Request α} {target : Target} {page : Page α}
      {config config' : Config} (opening : request.opening? = some (target, page, config))
      (opening' : request'.opening? = some (target, page, config'))
      (pause : request.pause? = request'.pause?) (same : config.SameOutside options config') :
      SameOutside options request request'
  | other {request : Request α} (plain : request.opening? = none) :
      SameOutside options request request

/-!
## Two sessions side by side
-/

namespace Session

private theorem Lockstep.drawn?_eq {σ τ : Type} {states : σ → τ → Prop} {left right : Job α}
    {session : Session α σ} {session' : Session α τ}
    (lockstep : session.Lockstep states left right session') (request : Request α) :
    session.drawn? request = session'.drawn? request := by
  obtain ⟨state, stage⟩ := session
  obtain ⟨state', stage'⟩ := session'
  obtain ⟨-, stages⟩ := lockstep
  cases stages with
  | inProgress | failed | closed => rfl
  | done jobs =>
      cases jobs
      rfl

variable [Scalar α] {plan : Backend.FaultPlan} {options : List RenderFlag}
  {script script' : List (Request α)} {request request' : Request α}
  {left right : Session α (Backend.Numbered (Record α))}

/-- Two sessions that are served by requests of two scripts: neither is started yet, or they were
opened under configurations that agree outside the options and have got to the same point, with the
same form layer begun. -/
inductive Paired (plan : Backend.FaultPlan) (options : List RenderFlag)
    (script script' : List (Request α)) :
    Session α (Backend.Numbered (Record α)) → Session α (Backend.Numbered (Record α)) → Prop where
  | idle : Paired plan options script script' (fresh ⟨0, #[]⟩) (fresh ⟨0, #[]⟩)
  | opened {left right : Session α (Backend.Numbered (Record α))} {target : Target}
      {page : Page α} {config config' : Config} {layer? : Option (FormLayer α)}
      (opening : ∃ request ∈ script, request.opening? = some (target, page, config))
      (opening' : ∃ request ∈ script', request.opening? = some (target, page, config'))
      (same : config.SameOutside options config')
      (begun : ∀ layer, layer? = some layer → .drawOverlay layer ∈ script)
      (lockstep : left.Lockstep Backend.SameCounts (.start target page config)
        (.start target page config') right)
      (written : left.Written plan (.start target page config)
        ⟨0, #[.prepared config.flags]⟩ layer?)
      (written' : right.Written plan (.start target page config')
        ⟨0, #[.prepared config'.flags]⟩ layer?) :
      Paired plan options script script' left right

private theorem idle_opens (cosmetic : Cosmetic options) (member : request ∈ script)
    (member' : request' ∈ script') {target : Target} {page : Page α} {config config' : Config}
    (opening : request.opening? = some (target, page, config))
    (opening' : request'.opening? = some (target, page, config'))
    (pause : request.pause? = request'.pause?) (same : config.SameOutside options config') :
    let idle : Session α (Backend.Numbered (Record α)) := fresh ⟨0, #[]⟩
    let served := idle.perform (Backend.faulty plan) request
    let served' := idle.perform (Backend.faulty plan) request'
    Event.view ⟨idle, request, served⟩ = Event.view ⟨idle, request', served'⟩ ∧
      served.session.Paired plan options script script' served'.session := by
  intro idle served served'
  have faults := same.argumentFault?_eq target page
  cases fault : argumentFault? target page config with
  | some found =>
      have refused : served = ⟨idle, .started (.error ⟨.invalidArgument found, some target⟩), 0⟩ := by
        simp only [served, perform_of_opening _ opening, start, idle, fresh, fault, refuse]
      have refused' :
          served' = ⟨idle, .started (.error ⟨.invalidArgument found, some target⟩), 0⟩ := by
        simp only [served', perform_of_opening _ opening', start, idle, fresh, ← faults, fault,
          refuse]
      rw [refused, refused']
      exact ⟨rfl, .idle⟩
  | none =>
      have accepted' := faults.symm.trans fault
      have prepared : Backend.SameCounts ((Backend.faulty (α := α) plan).prepare config ⟨0, #[]⟩).1
          ((Backend.faulty (α := α) plan).prepare config' ⟨0, #[]⟩).1 := ⟨rfl, rfl⟩
      have unbegun : ∀ layer, (none : Option (FormLayer α)) = some layer →
          .drawOverlay layer ∈ script := by
        intro layer begun
        cases begun
      have alike := opened_lockstep (Backend.faulty_parallel plan) pause opening opening' fault
        accepted' (same.agrees cosmetic target page) prepared
      obtain ⟨_, ran⟩ := perform_opening (Backend.faulty plan) opening fault ⟨0, #[]⟩
      obtain ⟨_, ran'⟩ := perform_opening (Backend.faulty plan) opening' accepted' ⟨0, #[]⟩
      refine ⟨alike.view_eq _ _ _ _, .opened ⟨request, member, opening⟩
        ⟨request', member', opening'⟩ same unbegun alike.session ?_ ?_⟩
      · rw [ran]
        exact resumeJob_written (Job.follows_start _ target page config _) _
      · rw [ran']
        exact resumeJob_written (Job.follows_start _ target page config' _) _

/-- Related requests to paired sessions show the same and leave them paired. -/
theorem Paired.perform (cosmetic : Cosmetic options)
    (paired : left.Paired plan options script script' right)
    (related : request.SameOutside options request') (member : request ∈ script)
    (member' : request' ∈ script') :
    let served := left.perform (Backend.faulty plan) request
    let served' := right.perform (Backend.faulty plan) request'
    Event.view ⟨left, request, served⟩ = Event.view ⟨right, request', served'⟩ ∧
      served.session.Paired plan options script script' served'.session := by
  intro served served'
  cases paired with
  | idle =>
      cases related with
      | opens opening opening' pause same =>
          exact idle_opens cosmetic member member' opening opening' pause same
      | other plain =>
          refine ⟨rfl, ?_⟩
          cases request with
          | start | startWithScheme => cases plain
          | resume | drawOverlay | close => exact .idle
  | @opened _ _ target page config config' layer? opening opening' same begun lockstep written
      written' =>
      have drawn : left.drawn? request = right.drawn? request' := by
        cases related with
        | opens opening opening' =>
            rw [drawn?_of_opening opening, drawn?_of_opening opening']
        | other => exact lockstep.drawn?_eq request
      have alike : served.Alike Backend.SameCounts (.start target page config)
          (.start target page config') served' := by
        cases related with
        | opens opening opening' => exact openings_agree lockstep opening opening'
        | other =>
            exact perform_agree (Backend.faulty_parallel plan) (same.agrees cosmetic target page)
              lockstep request fun _ _ => trivial
      refine ⟨alike.view_eq _ _ _ _, .opened opening opening' same ?_ alike.session
        (perform_written written request) (drawn ▸ perform_written written' request')⟩
      intro layer shown
      rcases Option.or_eq_some_iff.mp shown with fromRequest | ⟨-, earlier⟩
      · exact drawn?_eq_some fromRequest ▸ member
      · exact begun layer earlier

private theorem Paired.performAll (cosmetic : Cosmetic options)
    (paired : left.Paired plan options script script' right) {rest rest' : List (Request α)}
    (related : List.Forall₂ (Request.SameOutside options) rest rest') (within : rest ⊆ script)
    (within' : rest' ⊆ script') :
    (left.history (Backend.faulty plan) rest).map Event.view =
        (right.history (Backend.faulty plan) rest').map Event.view ∧
      (left.performAll (Backend.faulty plan) rest).Paired plan options script script'
        (right.performAll (Backend.faulty plan) rest') := by
  induction related generalizing left right with
  | nil => exact ⟨rfl, paired⟩
  | cons first others ih =>
      obtain ⟨member, within⟩ := List.cons_subset.mp within
      obtain ⟨member', within'⟩ := List.cons_subset.mp within'
      obtain ⟨view, paired⟩ := paired.perform cosmetic first member member'
      obtain ⟨views, paired⟩ := ih paired within within'
      exact ⟨congrArg₂ List.cons view views, paired⟩

/-- Scripts whose starts differ in some options only, none of which chooses annotations or a medium
or converts fills, show the same after every request, whichever calls fail, and lead to equally many
calls. On record are the options that were prepared and then, up to one number for both, the calls of
a page and of a form layer, if one was begun: all of them, if the session is done. Under both
configurations they come from the same sources. They differ in how smooth they are, where the option
that the source reads is one of those, and in nothing else. Six options are read by no source. -/
theorem options_change_smoothing (plan : Backend.FaultPlan) {options : List RenderFlag}
    (cosmetic : Cosmetic options) {script script' : List (Request α)}
    (related : List.Forall₂ (Request.SameOutside options) script script') :
    let backend := (Backend.recorder (α := α)).failing plan
    let idle : Session α (Backend.Numbered (Record α)) := fresh ⟨0, #[]⟩
    let left := idle.performAll backend script
    let right := idle.performAll backend script'
    (idle.history backend script).map Event.view =
        (idle.history backend script').map Event.view ∧
      left.backend.made = right.backend.made ∧
      (left.backend.state = #[] ∧ right.backend.state = #[] ∨
        ∃ target page config config' layer? count,
          (∃ request ∈ script, request.opening? = some (target, page, config)) ∧
          (∃ request ∈ script', request.opening? = some (target, page, config')) ∧
          config.SameOutside options config' ∧
          (∀ layer, layer? = some layer → .drawOverlay layer ∈ script) ∧
          let calls := PaintingOrder.sourcedCalls target page config layer?
          let calls' := PaintingOrder.sourcedCalls target page config' layer?
          (left.phase = .done → count = calls.length) ∧
            left.backend.state.toList =
              .prepared config.flags :: ((calls.map Prod.snd).take count).map .painted ∧
            right.backend.state.toList =
              .prepared config'.flags :: ((calls'.map Prod.snd).take count).map .painted ∧
            List.Forall₂ (PaintingOrder.Resmoothed options) calls calls' ∧
            (∀ entry ∈ calls, entry.2.image? = entry.1.image?) ∧
            (options ⊆ RenderFlag.unread → calls = calls')) := by
  intro backend idle left right
  have start : idle.Paired plan options script script' idle := .idle
  obtain ⟨views, final⟩ := start.performAll cosmetic related (List.Subset.refl script)
    (List.Subset.refl script')
  have paired : left.Paired plan options script script' right := final
  -- What is left to show follows from the pairing, wherever the sessions come from.
  clear_value left right
  refine ⟨views, ?_⟩
  cases paired with
  | idle => exact ⟨rfl, .inl ⟨rfl, rfl⟩⟩
  | @opened _ _ target page config config' layer? opening opening' same begun lockstep written
      written' =>
      have changed := PaintingOrder.sourcedCalls_resmoothed same cosmetic target page layer?
      refine ⟨lockstep.backend.1, .inr ⟨target, page, config, config', layer?,
        left.backend.state.size - 1, opening, opening', same, begun, ?_, ?_, ?_, changed,
        fun _ => PaintingOrder.image?_of_mem_sourcedCalls,
        PaintingOrder.eq_of_resmoothed changed⟩⟩
      · intro done
        rw [written.size_of_done done, ← PaintingOrder.sourcedCalls_calls, List.length_map]
        exact Nat.add_sub_cancel_left _ _
      · rw [PaintingOrder.sourcedCalls_calls]
        exact written.recorded
      · rw [PaintingOrder.sourcedCalls_calls, lockstep.backend.2]
        exact written'.recorded

theorem options_change_smoothing_small :
    let options := [RenderFlag.noSmoothPath, .lcdText]
    let config := Config.ofSize 2 2
    let config' := config.withFlags ((RenderFlags.single .noSmoothPath).insert .lcdText)
    let plan : Backend.FaultPlan :=
      ⟨fun number => number == 7, fun _ => .backend none .noColorStops⟩
    let later : List (Request Rat) := [.resume none, .drawOverlay (.ofPage (some .pureRed))]
    let script := .resume none :: .start smallTarget smallPage config (some .always) :: later
    let script' := .resume none :: .start smallTarget smallPage config' (some .always) :: later
    let backend := (Backend.recorder (α := Rat)).failing plan
    let left := (fresh ⟨0, #[]⟩).performAll backend script
    let right := (fresh ⟨0, #[]⟩).performAll backend script'
    Cosmetic options ∧ List.Forall₂ (Request.SameOutside options) script script' ∧
      left.phase = .failed ∧ left.backend.made = 8 ∧ right.backend.made = 8 ∧
      left.backend.state ≠ right.backend.state ∧
      ((fresh ⟨0, #[]⟩).history backend script).map Event.view =
        ((fresh ⟨0, #[]⟩).history backend script').map Event.view := by
  intro options config config' plan later script script' backend left right
  have cosmetic : Cosmetic options := ⟨by decide, by decide, by decide⟩
  have same : config.SameOutside options config' := by
    refine ⟨rfl, rfl, rfl, rfl, rfl, fun other outside => ?_⟩
    cases other with
    | noSmoothPath | lcdText => exact absurd (by decide) outside
    | _ => decide
  have related : List.Forall₂ (Request.SameOutside options) script script' :=
    .cons (.other rfl) (.cons (.opens rfl rfl rfl same)
      (.cons (.other rfl) (.cons (.other rfl) .nil)))
  obtain ⟨views, made, -⟩ := options_change_smoothing plan cosmetic related
  have count : left.backend.made = 8 := by decide +kernel
  exact ⟨cosmetic, related, by decide +kernel, count, made.symm.trans count, by decide +kernel,
    views⟩

end Session

end PagePaint
