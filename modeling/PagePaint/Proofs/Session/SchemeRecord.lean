import PagePaint.Proofs.Paint.Recolor
import PagePaint.Proofs.Session.Lockstep
import PagePaint.Proofs.Session.PaintingRecord
import PagePaint.Proofs.Session.RecordedCalls

set_option autoImplicit false

/-!
# Sessions with and without a colour scheme

A scheme changes the colours that a session asks for and nothing else. The sessions are compared on
a recorder that fails at any planned calls: they are always at the same position, with the same
answers, and the calls of their base passes correspond one to one.
-/

namespace PagePaint

variable {α : Type}

private theorem Recolors.clearsLike {scheme : ColorScheme} {item : PageObject α}
    {call call' : PaintCall α} (recolors : Recolors scheme item call call') :
    call.ClearsLike call' := by
  cases recolors <;> rfl

theorem Job.allCalls_sourced [Scalar α] (target : Target) (page : Page α) (config : Config) :
    (Job.start target page config).allCalls =
      .clear (config.background.getD target.defaultBackground) ::
        (PaintingOrder.sourced page config).map Prod.snd := by
  rw [Job.allCalls_start, PaintingOrder.sourced_calls]

namespace Session

variable [Scalar α]

private theorem scheme_agrees {config : Config}
    (unconverted : config.flags.has .fillToStroke = false) (target : Target) (page : Page α)
    (scheme : ColorScheme) :
    (Job.start target page config.withoutScheme).Agrees PaintCall.ClearsLike (fun _ => True)
      (.start target page (config.withScheme scheme)) := by
  refine .of_order target rfl (fun _ => rfl) ?_ fun layer _ => ?_
  · refine (PaintingOrder.units_recolors unconverted page scheme).imp fun _ _ unit => ?_
    exact unit.imp fun _ _ ⟨_, recolors⟩ => recolors.clearsLike
  · exact List.forall₂_same.mpr fun _ _ => rfl

/-- What a recorder holds of an accepted base pass is told by the number of its entries. -/
theorem performAll_recorded (plan : Backend.FaultPlan) {request : Request α} {target : Target}
    {page : Page α} {config : Config} (opening : request.opening? = some (target, page, config))
    (accepted : argumentFault? target page config = none) (later : List (Request α)) :
    let record := ((fresh ⟨0, #[]⟩).performAll (Backend.faulty plan)
      (request :: later)).backend.state
    record.toList.take (2 + (PaintingOrder.sourced page config).length) =
      .prepared config.flags ::
        ((.clear (config.background.getD target.defaultBackground) ::
          (PaintingOrder.sourced page config).map Prod.snd).take (record.size - 1)).map
            .painted := by
  intro record
  obtain ⟨layer?, written⟩ := performAll_written_of_opening plan opening accepted ⟨0, #[]⟩ later
  obtain ⟨more, calls⟩ := Job.callsThen_eq_allCalls_append (.start target page config) layer?
  have recorded : record.toList = .prepared config.flags ::
      (((Job.start target page config).callsThen layer?).take (record.size - 1)).map .painted :=
    written.recorded
  have length : 2 + (PaintingOrder.sourced page config).length =
      (Job.start target page config).allCalls.length + 1 := by
    rw [Job.allCalls_sourced, List.length_cons, List.length_map]
    omega
  rw [recorded, length, List.take_succ_cons, ← List.map_take, List.take_take, Nat.min_comm,
    ← List.take_take, calls, List.take_left, Job.allCalls_sourced]

/-- Without fills turned into strokes, a session with a scheme and one without it cannot be told
apart by a caller, whoever asks for pauses and whichever calls fail. They make equally many calls;
those of the base pass that are recorded are the same clear and then, one for one, the native calls
and the recoloured ones. -/
theorem scheme_changes_colors (plan : Backend.FaultPlan) (target : Target) (page : Page α)
    {config : Config} (unconverted : config.flags.has .fillToStroke = false)
    (scheme : ColorScheme) {request request' : Request α}
    (opening : request.opening? = some (target, page, config.withoutScheme))
    (opening' : request'.opening? = some (target, page, config.withScheme scheme))
    (pause : request.pause? = request'.pause?) (later : List (Request α)) :
    let backend := (Backend.recorder (α := α)).failing plan
    let idle : Session α (Backend.Numbered (Record α)) := fresh ⟨0, #[]⟩
    let native := idle.performAll backend (request :: later)
    let schemed := idle.performAll backend (request' :: later)
    let background := PaintCall.clear (config.background.getD target.defaultBackground)
    let calls := PaintingOrder.sourced page config.withoutScheme
    let calls' := PaintingOrder.sourced page (config.withScheme scheme)
    (idle.history backend (request :: later)).map Event.view =
        (idle.history backend (request' :: later)).map Event.view ∧
      native.backend.made = schemed.backend.made ∧
      native.backend.state.size = schemed.backend.state.size ∧
      List.Forall₂ (fun call call' => call.1 = call'.1 ∧ Recolors scheme call.1 call.2 call'.2)
        calls calls' ∧
      (argumentFault? target page config = none →
        ∃ count,
          native.backend.state.toList.take (2 + calls.length) =
            .prepared config.flags ::
              ((background :: calls.map Prod.snd).take count).map .painted ∧
          schemed.backend.state.toList.take (2 + calls'.length) =
            .prepared config.flags ::
              ((background :: calls'.map Prod.snd).take count).map .painted) := by
  intro backend idle native schemed background calls calls'
  obtain ⟨views, final⟩ := history_agree_of_opening (Backend.faulty_parallel plan) pause opening
    opening' rfl (scheme_agrees unconverted target page scheme) ⟨0, #[]⟩ ⟨rfl, rfl⟩ later
    fun _ _ => trivial
  have same : native.backend.made = schemed.backend.made ∧
      native.backend.state.size = schemed.backend.state.size := by
    rcases final with equal | lockstep
    · exact ⟨congrArg (fun session => session.backend.made) equal,
        congrArg (fun session => session.backend.state.size) equal⟩
    · exact lockstep.backend
  refine ⟨views, same.1, same.2, PaintingOrder.sourced_recolors unconverted page scheme,
    fun accepted => ⟨native.backend.state.size - 1, ?_, ?_⟩⟩
  · exact performAll_recorded plan opening accepted later
  · rw [same.2]
    exact performAll_recorded plan opening' accepted later

theorem scheme_changes_colors_small :
    let config := (Config.ofSize 2 2).withStepLimit 1
    let scheme := ColorScheme.uniform .pureGreen
    let plan : Backend.FaultPlan :=
      ⟨fun number => number == 3, fun _ => .backend none .noColorStops⟩
    let request : Request Rat := .start smallTarget smallPage config (some .always)
    let request' : Request Rat :=
      .startWithScheme smallTarget smallPage config scheme (some .always)
    let idle : Session Rat (Backend.Numbered (Record Rat)) := fresh ⟨0, #[]⟩
    let native := idle.performAll (Backend.recorder.failing plan) [request, .resume none]
    let schemed := idle.performAll (Backend.recorder.failing plan) [request', .resume none]
    config.flags.has .fillToStroke = false ∧
      request.opening? = some (smallTarget, smallPage, config.withoutScheme) ∧
      request'.opening? = some (smallTarget, smallPage, config.withScheme scheme) ∧
      request.pause? = request'.pause? ∧
      argumentFault? smallTarget smallPage config = none ∧ native.phase = .failed ∧
      native.backend.made = 4 ∧ schemed.backend.made = 4 ∧
      ∃ count,
        schemed.backend.state.toList.take
            (2 + (PaintingOrder.sourced smallPage (config.withScheme scheme)).length) =
          .prepared .empty ::
            ((.clear .transparent :: (PaintingOrder.sourced smallPage
              (config.withScheme scheme)).map Prod.snd).take count).map .painted := by
  intro config scheme plan request request' idle native schemed
  have unconverted : config.flags.has .fillToStroke = false := by decide
  have opening : request.opening? = some (smallTarget, smallPage, config.withoutScheme) := rfl
  have opening' : request'.opening? = some (smallTarget, smallPage, config.withScheme scheme) :=
    rfl
  have accepted : argumentFault? smallTarget smallPage config = none := by decide +kernel
  have failed : native.phase = .failed := by decide +kernel
  have made : native.backend.made = 4 := by decide +kernel
  obtain ⟨-, same, -, -, recorded⟩ := scheme_changes_colors plan smallTarget smallPage unconverted
    scheme opening opening' rfl [.resume none]
  obtain ⟨count, -, recorded⟩ := recorded accepted
  exact ⟨unconverted, opening, opening', rfl, accepted, failed, made, same.symm.trans made, count,
    recorded⟩

end Session

end PagePaint
