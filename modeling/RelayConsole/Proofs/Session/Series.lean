import RelayConsole.Proofs.Panel.Lasting
import RelayConsole.Proofs.Session.Acts
import RelayConsole.Proofs.Session.Carried

namespace RelayConsole

section Visits

variable {V : Type} [View V]

theorem Panel.serve_append (panel : Panel V) (before after : List Session.Call) :
    panel.serve (before ++ after) = (panel.serve before).serve after :=
  List.foldl_append

theorem Panel.mem_visits {panel : Panel V} {calls : List Session.Call} {visit : Panel V × Session.Call}
    (member : visit ∈ panel.visits calls) :
    ∃ before after, calls = before ++ visit.2 :: after ∧ visit.1 = panel.serve before := by
  induction calls generalizing panel with
  | nil => cases member
  | cons call rest ih =>
    rcases List.mem_cons.mp member with here | later
    · rw [here]
      exact ⟨[], rest, rfl, rfl⟩
    · obtain ⟨before, after, parts, reached⟩ := ih later
      exact ⟨call :: before, after, by rw [parts, List.cons_append], reached⟩

theorem Panel.reach_attend (panel : Panel V) (call : Session.Call) :
    Session.Reach (panel.session call.config) ((panel.session call.config).along call.steps)
      (panel.attend call) :=
  (panel.session call.config).reach_run call.steps

theorem Panel.attend_acts (panel : Panel V) (call : Session.Call) :
    ∃ actions, (panel.attend call).panel = panel.run actions ∧
      (∀ action ∈ actions, action.isDirect = false) ∧
      actions.filterMap Widget.Action.text? =
        (Session.relayed ((panel.session call.config).along call.steps)).filterMap Session.Taken.text? :=
  (panel.reach_attend call).acts

theorem Panel.serve_acts (panel : Panel V) (calls : List Session.Call) :
    ∃ actions, panel.serve calls = panel.run actions ∧ ∀ action ∈ actions, action.isDirect = false := by
  induction calls generalizing panel with
  | nil => exact ⟨[], rfl, by simp⟩
  | cons call rest ih =>
    obtain ⟨first, reached, indirect, -⟩ := panel.attend_acts call
    obtain ⟨later, ended, still⟩ := ih (panel.attend call).panel
    refine ⟨first ++ later, ?_, ?_⟩
    · rw [Panel.run_append, ← reached]
      exact ended
    · intro action member
      rcases List.mem_append.mp member with early | late
      · exact indirect action early
      · exact still action late

/-- In how many steps a widget opens. -/
def Session.openings (past : List (Session V × Session.Step)) : Nat :=
  past.countP fun entry =>
    entry.1.widget.phase ≠ .opened ∧ (entry.1.step entry.2).widget.phase = .opened

theorem Session.openings_along (session : Session V) (dated : session.widget.Dated) (steps : List Session.Step) :
    Session.openings (session.along steps) + session.widget.openedAt.isSome.toNat ≤
      (session.run steps).widget.openedAt.isSome.toNat := by
  induction steps generalizing session with
  | nil => simp [openings, along, run]
  | cons step rest ih =>
    obtain ⟨actions, moved, -⟩ := (session.step_moves step).acts
    have widget : (session.step step).widget = (session.panel.run actions).widget :=
      congrArg Panel.widget moved
    have lasting : (session.step step).widget.Dated := by
      rw [widget]
      exact Panel.run_dated dated actions
    have later := ih (session.step step) lasting
    have counted : Session.openings (session.along (step :: rest)) =
        Session.openings ((session.step step).along rest) +
          if session.widget.phase ≠ .opened ∧ (session.step step).widget.phase = .opened then 1 else 0 := by
      simp only [openings, along, List.countP_cons, decide_eq_true_eq]
    have first : (if session.widget.phase ≠ .opened ∧ (session.step step).widget.phase = .opened then 1 else 0) +
        session.widget.openedAt.isSome.toNat ≤ (session.step step).widget.openedAt.isSome.toNat := by
      rw [widget]
      exact session.panel.run_opening dated actions
    have same : session.run (step :: rest) = (session.step step).run rest := rfl
    rw [counted, same]
    omega

/-- All steps of all sessions over a widget, each with the session that it befalls. -/
def Panel.history (panel : Panel V) (calls : List Session.Call) : List (Session V × Session.Step) :=
  (panel.visits calls).flatMap fun visit => (visit.1.session visit.2.config).along visit.2.steps

theorem Panel.openings_serve {panel : Panel V} (dated : panel.widget.Dated) (calls : List Session.Call) :
    Session.openings (panel.history calls) + panel.widget.openedAt.isSome.toNat ≤
      (panel.serve calls).widget.openedAt.isSome.toNat := by
  induction calls generalizing panel with
  | nil => exact Nat.le_of_eq (Nat.zero_add _)
  | cons call rest ih =>
    obtain ⟨actions, moved, -⟩ := panel.attend_acts call
    have lasting : (panel.attend call).panel.widget.Dated := by
      rw [moved]
      exact Panel.run_dated dated actions
    have first : Session.openings ((panel.session call.config).along call.steps) +
        panel.widget.openedAt.isSome.toNat ≤ (panel.attend call).panel.widget.openedAt.isSome.toNat :=
      (panel.session call.config).openings_along dated call.steps
    have later := ih lasting
    have counted : Session.openings (panel.history (call :: rest)) =
        Session.openings ((panel.session call.config).along call.steps) +
          Session.openings ((panel.attend call).panel.history rest) := List.countP_append
    have same : panel.serve (call :: rest) = (panel.attend call).panel.serve rest := rfl
    rw [counted, same]
    omega

theorem Panel.attend_decision {panel : Panel V} {call : Session.Call} {result : Except Failure Unit}
    (finished : (panel.attend call).result? = some result) :
    ∃ past decider step, Session.Reach (panel.session call.config) past decider ∧
      Session.Decision decider step (decider.step step) ∧
      (decider.step step).Settles (panel.attend call) := by
  obtain ⟨before, decider, step, rest, -, reached, active, ends, later⟩ :=
    (panel.reach_attend call).decision rfl (Session.over_of_result finished)
  exact ⟨before, decider, step, reached, (decider.step_moves step).decision active ends,
    (later.settles ends).1⟩

/-- A session that ends well leaves a widget that is closed. -/
theorem Panel.attend_ok {panel : Panel V} {call : Session.Call}
    (finished : (panel.attend call).result? = some (.ok ())) :
    (panel.attend call).panel.widget.phase = .closed := by
  obtain ⟨past, decider, step, -, decision, settles⟩ := Panel.attend_decision finished
  obtain ⟨channels, kept⟩ := settles.widget
  have phase : (panel.attend call).panel.widget.phase = (decider.step step).widget.phase := by
    rw [Session.panel, kept]
  rw [phase]
  cases decision with
  | early _ _ widget =>
    rw [widget]
    exact decider.widget.shut_phase _
  | served _ _ widget =>
    rw [widget]
    exact decider.widget.shut_phase _
  | refused _ _ _ _ _ _ stage =>
    have ended : (panel.attend call).stage = (decider.step step).stage := by
      rcases settles.stage with same | ⟨draining, -⟩
      · exact same
      · cases draining.symm.trans stage
    rw [Session.result?, ended, stage] at finished
    cases finished

theorem Panel.serve_ok {panel : Panel V} {calls : List Session.Call}
    (well : ∃ visit ∈ panel.visits calls, (visit.1.attend visit.2).result? = some (.ok ())) :
    (panel.serve calls).widget.phase = .closed := by
  obtain ⟨visit, member, finished⟩ := well
  obtain ⟨before, after, parts, found⟩ := Panel.mem_visits member
  have closed := Panel.attend_ok finished
  obtain ⟨actions, reached, -⟩ := (visit.1.attend visit.2).panel.serve_acts after
  have same : panel.serve calls = (visit.1.attend visit.2).panel.serve after := by
    rw [parts, Panel.serve_append, ← found]
    rfl
  rw [same, reached]
  exact Panel.run_closed closed actions

/-- A session that fails leaves the widget as it is, and a notice on the page. -/
theorem Panel.attend_error [View.KeepsFlags V] {panel : Panel V} {call : Session.Call} {failure : Failure}
    (gated : panel.Gated) (apart : panel.widget.phase ≠ .opened)
    (finished : (panel.attend call).result? = some (.error failure)) :
    (panel.attend call).panel = ⟨panel.widget, View.perform panel.view (.alert failure.alertText)⟩ := by
  have shut : (panel.session call.config).Shut := fun id member => gated.disabled apart member
  obtain ⟨past, decider, step, reached, decision, settles⟩ := Panel.attend_decision finished
  have stage : (decider.step step).stage = .finished (.error failure) := by
    have ended : (panel.attend call).stage = .finished (.error failure) := by
      cases stage : (panel.attend call).stage with
      | finished result =>
        rw [Session.result?, stage] at finished
        rw [Option.some.inj finished]
      | waiting | relaying | draining =>
        rw [Session.result?, stage] at finished
        cases finished
    rcases settles.stage with same | ⟨-, well⟩
    · rw [← same, ended]
    · cases ended.symm.trans well
  cases decision with
  | early _ _ _ _ _ other => cases stage.symm.trans other
  | served _ _ _ _ _ other => cases stage.symm.trans other
  | refused waiting _ _ widget view writer other =>
    cases stage.symm.trans other
    obtain ⟨sameWidget, sameView, idle⟩ :=
      reached.untouched shut rfl (Session.isWaiting_iff.mpr ⟨_, waiting⟩)
    have alone := settles.alone (writer.trans idle)
    rw [Session.panel, alone, widget, sameWidget, settles.view, view, sameView]
    rfl

end Visits

/-- The same page with earlier notices. -/
def Memory.noticed (earlier : List String) (memory : Memory) : Memory :=
  { memory with alerts := earlier ++ memory.alerts }

theorem Memory.carries_noticed (earlier : List String) : View.Carries (Memory.noticed earlier) where
  isDisabled _ _ := rfl
  value _ _ := rfl
  notes _ _ := rfl
  perform memory command := by
    cases command with
    | setDisabled | setValue | appendValue | scrollToEnd => rfl
    | alert text => exact congrArg (Memory.mk memory.controls) (List.append_assoc earlier memory.alerts [text])

/-- What a session does, does not depend on the notices that it finds. -/
theorem Panel.attend_noticed (widget : Widget) (page : Memory) (notices : List String) (call : Session.Call) :
    ∃ own, (Panel.attend ⟨widget, page⟩ call).view.alerts = page.alerts ++ own ∧
      Panel.attend ⟨widget, { page with alerts := page.alerts ++ notices }⟩ call =
        { Panel.attend ⟨widget, page⟩ call with
          view := { (Panel.attend ⟨widget, page⟩ call).view with alerts := page.alerts ++ notices ++ own } } := by
  let bare : Session Memory := Panel.attend ⟨widget, { page with alerts := [] }⟩ call
  have carried (found : List String) :
      Panel.attend ⟨widget, { page with alerts := found }⟩ call = bare.carry (Memory.noticed found) := by
    have same := Session.run_carry (Memory.carries_noticed found)
      (Panel.session ⟨widget, { page with alerts := [] }⟩ call.config) call.steps
    have given : (Panel.session ⟨widget, { page with alerts := [] }⟩ call.config).carry (Memory.noticed found) =
        Panel.session ⟨widget, { page with alerts := found }⟩ call.config := by
      simp only [Session.carry, Panel.session, Memory.noticed, List.append_nil]
    rw [given] at same
    exact same
  have here : Panel.attend ⟨widget, page⟩ call = bare.carry (Memory.noticed page.alerts) := carried page.alerts
  exact ⟨bare.view.alerts, congrArg (·.view.alerts) here, by rw [here, carried]; rfl⟩

/-- As long as each session fails, nothing but notices is left of them. -/
theorem Panel.serve_errors {panel : Panel Memory} (gated : panel.Gated)
    (apart : panel.widget.phase ≠ .opened) {calls : List Session.Call}
    (failed : ∀ visit ∈ panel.visits calls, ∃ failure, (visit.1.attend visit.2).result? = some (.error failure)) :
    ∃ notices, panel.serve calls = ⟨panel.widget, { panel.view with alerts := panel.view.alerts ++ notices }⟩ := by
  induction calls generalizing panel with
  | nil => exact ⟨[], by rw [List.append_nil]; rfl⟩
  | cons call rest ih =>
    obtain ⟨failure, finished⟩ := failed (panel, call) List.mem_cons_self
    have left := Panel.attend_error gated apart finished
    have still : (panel.attend call).panel.Gated := by
      obtain ⟨actions, moved, -⟩ := panel.attend_acts call
      rw [moved]
      exact gated.run actions
    obtain ⟨notices, rested⟩ := ih still (by rw [left]; exact apart)
      fun visit member => failed visit (List.mem_cons_of_mem _ member)
    refine ⟨failure.alertText :: notices, ?_⟩
    have same : panel.serve (call :: rest) = (panel.attend call).panel.serve rest := rfl
    rw [same, rested, left]
    simp [Memory.perform]

/-- A new widget over the page of another new widget finds it as it would leave it. -/
theorem Panel.fresh_again (name : String) (controls : Controls) (memory : Memory) (notices : List String) :
    let start := Panel.fresh name controls memory
    let page : Memory := { start.view with alerts := start.view.alerts ++ notices }
    Panel.fresh name controls page = ⟨start.widget, page⟩ := by
  intro start page
  have new : start = ⟨{ name, controls }, View.gate memory true controls.gated⟩ :=
    Panel.fresh_eq name controls memory
  have settled : View.gate page true controls.gated = page := by
    refine Memory.gate_settled fun id member => ?_
    have found : page.controls.find? id = some ((memory.control id).setDisabled true) := by
      simp only [page, new, Memory.find?_gate, if_pos member]
    exact ⟨_, found, (memory.control id).disabled_setDisabled true⟩
  rw [Panel.fresh_eq, settled, new]

theorem Panel.serve_count (name : String) (controls : Controls) (memory : Memory) (calls : List Session.Call)
    {id : String} (member : id ∈ controls.gated) :
    (((Panel.fresh name controls memory).serve calls).view.control id).enabledCount ≤
      (memory.control id).enabledCount + 1 := by
  obtain ⟨actions, reached, -⟩ := (Panel.fresh name controls memory).serve_acts calls
  have tallied := (Panel.fresh_tallied name controls memory).run (Panel.fresh_dated name controls memory) actions
  have named : ((Panel.fresh name controls memory).run actions).widget.controls = controls := by
    rw [Panel.run_controls, Panel.fresh_eq]
  have count := tallied.counted id (by rw [named]; exact member)
  have one := Bool.toNat_le ((Panel.fresh name controls memory).run actions).widget.openedAt.isSome
  rw [reached]
  omega

/-- Over a closed widget a session does nothing but show messages. -/
theorem Panel.Gated.attend_closed {panel : Panel Memory} (gated : panel.Gated)
    (closed : panel.widget.phase = .closed) (call : Session.Call) :
    panel.Rests
      ((Session.relayed ((panel.session call.config).along call.steps)).filterMap Session.Taken.text?)
      (panel.attend call).panel := by
  obtain ⟨actions, moved, indirect, shown⟩ := panel.attend_acts call
  rw [← shown, moved]
  exact gated.run_closed closed indirect

/-- Of any sessions one after the other over one new widget at most one opens it. After one has ended well nothing
changes but the response, and nothing is sent. As long as all fail, the next one does what it would have done as the
first, but that it finds notices. -/
theorem Panel.opens_once_in_a_series (name : String) (controls : Controls) (memory : Memory)
    (calls : List Session.Call) (call : Session.Call) :
    let start := Panel.fresh name controls memory
    let panel := start.serve calls
    let session := panel.attend call
    let texts := (Session.relayed ((panel.session call.config).along call.steps)).filterMap Session.Taken.text?
    Session.openings (start.history (calls ++ [call])) ≤ 1 ∧
      (∀ id ∈ controls.gated,
        (session.view.control id).enabledCount ≤ (memory.control id).enabledCount + 1) ∧
      ((∃ visit ∈ start.visits calls, (visit.1.attend visit.2).result? = some (.ok ())) →
        session.widget.phase = .closed ∧ session.widget.openedAt = panel.widget.openedAt ∧
          session.widget.closedAt = panel.widget.closedAt ∧
          (∀ number, session.widget.framesOn number = panel.widget.framesOn number) ∧
          (∀ id, (session.view.control id).gating = (panel.view.control id).gating) ∧
          (∀ id, id ≠ controls.response → session.view.control id = panel.view.control id) ∧
          (session.view.control controls.response).value =
            (panel.view.control controls.response).value ++ String.join (texts.map (· ++ "\n"))) ∧
      ((∀ visit ∈ start.visits calls, ∃ failure, (visit.1.attend visit.2).result? = some (.error failure)) →
        panel.widget.phase = .connecting ∧
          (∀ id ∈ controls.gated, (panel.view.control id).disabled = true) ∧
          panel = Panel.fresh name controls panel.view ∧
          ∃ notices, (start.attend call).view.alerts = start.view.alerts ++ notices ∧
            session = { start.attend call with
              view := { (start.attend call).view with alerts := panel.view.alerts ++ notices } }) := by
  intro start panel session texts
  have new : start = ⟨{ name, controls }, View.gate memory true controls.gated⟩ :=
    Panel.fresh_eq name controls memory
  have dated : start.widget.Dated := Panel.fresh_dated name controls memory
  have waits : start.widget.phase = .connecting := by rw [new]
  have gated : start.Gated := Panel.fresh_gated name controls memory
  obtain ⟨earlier, reached, -⟩ := start.serve_acts calls
  have still : panel.Gated := by
    rw [show panel = start.run earlier from reached]
    exact gated.run earlier
  have named : panel.widget.controls = controls := by
    rw [show panel = start.run earlier from reached, Panel.run_controls, new]
  refine ⟨?_, ?_, fun well => ?_, fun failed => ?_⟩
  · have bound := Panel.openings_serve dated (calls ++ [call])
    have one := Bool.toNat_le (start.serve (calls ++ [call])).widget.openedAt.isSome
    omega
  · have last : start.serve (calls ++ [call]) = session.panel := start.serve_append calls [call]
    intro id member
    have count := Panel.serve_count name controls memory (calls ++ [call]) member
    rw [last] at count
    exact count
  · have closed : panel.widget.phase = .closed := Panel.serve_ok well
    have rests := still.attend_closed closed call
    obtain ⟨outlet, channels, kept⟩ := rests.widget
    have widget : session.widget = { panel.widget with outlet := outlet, channels := channels } := kept
    have others := rests.others
    have response := rests.response
    rw [named] at others response
    exact ⟨by rw [widget]; exact closed, by rw [widget], by rw [widget], rests.frames, rests.gating, others,
      response⟩
  · obtain ⟨notices, rested⟩ := Panel.serve_errors gated (by rw [waits]; decide) failed
    have rest : panel = ⟨start.widget, { start.view with alerts := start.view.alerts ++ notices }⟩ := rested
    have phase : panel.widget.phase = .connecting := by
      rw [rest]
      exact waits
    refine ⟨phase, fun id member => ?_, ?_, ?_⟩
    · exact still.disabled (by rw [phase]; decide) (by rw [named]; exact member)
    · rw [rest]
      exact (Panel.fresh_again name controls memory notices).symm
    · obtain ⟨own, alone, same⟩ := Panel.attend_noticed start.widget start.view notices call
      refine ⟨own, alone, ?_⟩
      rw [show session = panel.attend call from rfl, rest]
      exact same

theorem Panel.opens_once_after_a_refusal :
    let config : Session.Config := { page := "http://[::1]/" }
    let start := Panel.fresh "console" Controls.long ({} : Memory)
    let refused : Session.Call :=
      ⟨config, [.turn true 0, .settle (.error Transport.noNetwork), .turn true 1]⟩
    let served : Session.Call :=
      ⟨config, [.turn true 2, .settle (.ok 101), .turn true 3, .operatorGone, .turn true 4, .write none,
        .write none, .turn true 5]⟩
    let late : Session.Call :=
      ⟨config, [.turn true 6, .settle (.ok 101), .turn true 7, .operator (.submit "late"), .turn true 8,
        .arrive (.text "late"), .turn true 9]⟩
    let session := (start.serve [refused, served]).attend late
    Session.openings (start.history ([refused, served] ++ [late])) ≤ 1 ∧
      (∀ number, session.widget.framesOn number = (start.serve [refused, served]).widget.framesOn number) ∧
      (start.serve [refused]).widget.phase = .connecting := by
  intro config start refused served late session
  obtain ⟨once, -, closed, -⟩ :=
    Panel.opens_once_in_a_series "console" Controls.long ({} : Memory) [refused, served] late
  obtain ⟨-, -, -, waits⟩ := Panel.opens_once_in_a_series "console" Controls.long ({} : Memory) [refused] served
  refine ⟨once, (closed ?_).2.2.2.1, ?_⟩
  · exact ⟨(start.serve [refused], served), List.mem_cons_of_mem _ List.mem_cons_self, by decide +kernel⟩
  · dsimp only [start]
    refine (waits fun visit member => ?_).1
    rw [List.mem_singleton.mp member]
    exact ⟨.ofTransport Transport.noNetwork, by decide +kernel⟩

/-- Where the path bears the name of the response, a message changes it even after a session has ended well. -/
theorem Panel.message_changes_path_after_close :
    let config : Session.Config := { page := "http://[::1]/" }
    let controls : Controls := ⟨"x", "q", "x", "s"⟩
    let start := Panel.fresh "console" controls ({} : Memory)
    let early : Session.Call := ⟨config, [.operatorGone, .turn true 0]⟩
    let late : Session.Call :=
      ⟨config, [.turn true 1, .settle (.ok 101), .turn true 2, .arrive (.text "late"), .turn true 3]⟩
    (start.attend early).result? = some (.ok ()) ∧
      (((start.serve [early]).attend late).view.control controls.path).value ≠
        ((start.serve [early]).view.control controls.path).value := by
  decide +kernel

end RelayConsole
