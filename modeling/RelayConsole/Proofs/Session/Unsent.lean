import RelayConsole.Proofs.Panel.Posting
import RelayConsole.Proofs.Panel.Related
import RelayConsole.Proofs.Panel.Sending
import RelayConsole.Proofs.Session.Submitting

namespace RelayConsole

theorem Widget.isReceived_transmit {widget after : Widget} {frame : String}
    (sent : widget.transmit frame = .ok after) : after.isReceived = widget.isReceived := by
  obtain ⟨number, channel, attached, present, -, rfl⟩ := Widget.transmit_ok.mp sent
  have within : number < widget.channels.length := (List.getElem?_eq_some_iff.mp present).1
  simp only [isReceived, attached, Option.bind_some, List.getElem?_set_self within, present, Option.any_some]

/-- No event opens or closes the attached channel. -/
theorem Widget.isReceived_dispatch {V : Type} [View V] (widget : Widget) (event : Widget.Event) (view : V) :
    ((widget.act (.dispatch event)).play view).result.1.isReceived = widget.isReceived := by
  rw [widget.dispatch_result]
  split
  · rfl
  · split
    · rfl
    · rename_i sent
      exact Widget.isReceived_transmit sent

theorem Widget.isReceived_shut (widget : Widget) (now : Int) : (widget.shut now).isReceived = widget.isReceived := by
  rw [isReceived, widget.shut_outlet, widget.shut_channels, isReceived]

theorem Widget.isReceived_live (widget : Widget) (now : Int) : (widget.live now).isReceived = widget.isReceived := by
  rw [isReceived, widget.live_outlet, widget.live_channels, isReceived]

theorem Widget.isReceived_attach (widget : Widget) : widget.attach.isReceived = true := by
  simp [isReceived, attach]

theorem Widget.isReceived_dropped {widget : Widget} {number : Nat} (attached : widget.outlet = some number) :
    (widget.dropReceiver number).isReceived = false := by
  simp only [isReceived, dropReceiver, attached, Option.bind_some, List.getElem?_modify_eq]
  cases widget.channels[number]? <;> rfl

variable {V : Type} [View V]

/-- What is sent on the attached channel is received exactly until its writer has ended. -/
def Session.Tended (session : Session V) : Prop :=
  ∀ writer, session.writer = some writer → session.widget.outlet = some writer.channel →
    session.widget.isReceived = decide (writer.stage ≠ .ended)

theorem Session.Moves.tended {session after : Session V} {step : Session.Step}
    (moves : Session.Moves session step after) (tended : session.Tended) : after.Tended := by
  intro writer present attached
  cases moves with
  | still | showed | skipped | gaveUp | tried | answered | joined => exact tended writer present attached
  | @heard event =>
    obtain ⟨channels, same⟩ := session.widget.dispatch_widget event session.view
    simp only [same] at attached
    rw [Widget.isReceived_dispatch]
    exact tended writer present attached
  | left => cases attached
  | @leftEarly _ now =>
    simp only [session.widget.shut_outlet] at attached
    rw [Widget.isReceived_shut]
    exact tended writer present attached
  | opened =>
    cases present
    exact (session.widget.attach.isReceived_live _).trans session.widget.isReceived_attach
  | handed _ found =>
    cases present
    rw [tended _ found attached]
  | lost _ found writing | ceased _ found writing =>
    cases present
    rw [tended _ found attached, writing]
    rfl
  | closed _ found =>
    cases present
    exact Widget.isReceived_dropped attached

/-- A step that takes an event dispatches it and does nothing else. -/
theorem Session.step_of_event {session : Session V} {step : Session.Step} {event : Widget.Event}
    (took : session.taken? step = some (.event event)) :
    ∃ rest, session.waitingEvents = event :: rest ∧
      session.step step = Session.dispatch { session with waitingEvents := rest } event := by
  have head {queue : List Widget.Event} (first : queue.head?.map Session.Taken.event = some (.event event)) :
      ∃ rest, queue = event :: rest := by
    cases queue with
    | nil => cases first
    | cons given rest =>
      cases first
      exact ⟨rest, rfl⟩
  obtain ⟨eventsFirst, now, rfl⟩ := session.taken?_turn took
  cases stage : session.stage with
  | waiting attempt =>
    simp only [taken?, stage] at took
    obtain ⟨rest, queue⟩ := head took
    exact ⟨rest, queue, by simp only [Session.step, turn, stage, wait, queue]⟩
  | relaying =>
    simp only [taken?, stage] at took
    split at took
    · rename_i chosen
      obtain ⟨rest, queue⟩ := head took
      exact ⟨rest, queue, by simp only [Session.step, turn, stage, if_pos chosen, relayEvent, queue]⟩
    · obtain ⟨item, -, other⟩ := Option.map_eq_some_iff.mp took
      cases other
  | draining | finished => cases (Session.taken?_over (by simp only [isOver, stage]) _).symm.trans took

/-- What comes of an event that a session takes. It is dispatched, and fails exactly if it asks to send
something once the writer has ended. The session goes on and gives no notice; and if the event has failed, the
text that was to be sent is in the request, with all else on the page as it was. -/
structure Session.Hears (typed : V → String → String → V → Prop) (alerts : V → List String)
    (session : Session V) (step : Session.Step) (event : Widget.Event) : Prop where
  dispatched : ∃ rest, session.waitingEvents = event :: rest ∧
    session.step step = Session.dispatch { session with waitingEvents := rest } event
  failure : ∀ failure, session.panel.outcome (.dispatch event) = .error failure →
    failure = .sending "channel closed"
  unsent : session.panel.outcome (.dispatch event) ≠ .ok () ↔
    event.toSend? (View.value session.view session.widget.controls.request) ≠ none ∧
      ∃ writer, session.writer = some writer ∧ writer.stage = .ended
  stage : (session.step step).stage = session.stage
  alerts : alerts (session.step step).view = alerts session.view
  kept : session.panel.outcome (.dispatch event) ≠ .ok () →
    ∀ text, event.toSend? (View.value session.view session.widget.controls.request) = some text →
      typed session.view session.widget.controls.request text (session.step step).view

section Fresh

variable {config : Session.Config} {name : String} {controls : Controls} {view : V}
variable {past : List (Session V × Session.Step)} {session : Session V}

theorem Session.Reach.tended (reach : Session.Reach (Session.fresh config name controls view) past session) :
    session.Tended := by
  induction reach with
  | start =>
    intro writer present
    cases present
  | @next past session step previous ih => exact (session.step_moves step).tended ih

variable [View.KeepsFlags V]

/-- An event that is taken before the connection is there has no effect, and is no failure. -/
theorem Session.Reach.dispatch_waiting
    (reach : Session.Reach (Session.fresh config name controls view) past session)
    (waiting : session.isWaiting = true) (event : Widget.Event) :
    session.panel.outcome (.dispatch event) = .ok () := by
  have gated : session.panel.Gated := reach.gated (Panel.fresh_gated name controls view)
  have apart : session.panel.widget.phase ≠ .opened := by
    have fresh : session.panel.widget = { name, controls } := (reach.untouched_fresh waiting).1
    simp only [fresh, ne_eq, reduceCtorEq, not_false_eq_true]
  exact (gated.dispatch_idle apart event).1

theorem Session.Reach.posts [View.ReadsBack V] {typed : V → String → String → V → Prop}
    (typing : View.Typing typed)
    (reach : Session.Reach (Session.fresh config name controls view) past session)
    (relaying : session.isRelaying = true) {event : Widget.Event} {text : String}
    (asked : event.toSend? (View.value session.view session.widget.controls.request) = some text) :
    session.panel.Posts typed (.dispatch event) text
      (typed session.view session.widget.controls.request text) := by
  have gated : session.panel.Gated := reach.gated (Panel.fresh_gated name controls view)
  have enabled := gated.enabled (reach.phase_relaying relaying)
    (event.target_mem_gated session.panel.widget.controls)
  exact session.panel.posts_dispatch typing enabled asked

/-- An event that a session takes succeeds; or it asks to send something, the writer has ended, and what was to
be sent is left in the request. -/
theorem Session.Reach.outcome_event [View.ReadsBack V] {typed : V → String → String → V → Prop}
    (typing : View.Typing typed)
    (reach : Session.Reach (Session.fresh config name controls view) past session)
    {step : Session.Step} {event : Widget.Event} (took : session.taken? step = some (.event event)) :
    let asked := event.toSend? (View.value session.view session.widget.controls.request)
    session.panel.outcome (.dispatch event) = .ok () ∧
        (asked = none ∨ ∀ writer, session.writer = some writer → writer.stage ≠ .ended) ∨
      ∃ text writer, asked = some text ∧ session.writer = some writer ∧ writer.stage = .ended ∧
        session.panel.outcome (.dispatch event) = .error (.sending "channel closed") ∧
        typed session.view session.widget.controls.request text (session.panel.step (.dispatch event)).view := by
  intro request
  have wired : session.Wired := reach.wired (Session.Wired.of_idle rfl rfl)
  by_cases waiting : session.isWaiting = true
  · have idle := wired.waiting waiting
    exact Or.inl ⟨reach.dispatch_waiting waiting event, Or.inr (by simp [idle])⟩
  · have relaying : session.isRelaying = true := by
      by_contra apart
      have ended := Session.isOver_of_not (Bool.eq_false_iff.mpr waiting) (Bool.eq_false_iff.mpr apart)
      cases (Session.taken?_over ended step).symm.trans took
    obtain ⟨writer, present, attached⟩ := wired.relaying relaying
    cases asked : request with
    | none => exact Or.inl ⟨Panel.dispatch_silent asked, Or.inl rfl⟩
    | some text =>
      have received := reach.tended writer present attached
      have posts := reach.posts typing relaying asked
      by_cases ended : writer.stage = .ended
      · have unreceived : session.panel.widget.isReceived = false := by
          refine received.trans ?_
          rw [ended]
          rfl
        have connected : session.panel.widget.outlet ≠ none := by
          intro none
          cases attached.symm.trans none
        exact Or.inr ⟨text, writer, rfl, present, ended, posts.closed.mpr ⟨connected, unreceived⟩,
          (posts.refused unreceived).2⟩
      · refine Or.inl ⟨posts.ok.mpr (received.trans (decide_eq_true ended)), Or.inr fun other found => ?_⟩
        cases present.symm.trans found
        exact ended

theorem Session.Reach.hears [View.ReadsBack V] {typed : V → String → String → V → Prop}
    (typing : View.Typing typed) {alerts : V → List String}
    (quiet : ∀ view command, (∀ text, command ≠ .alert text) → alerts (View.perform view command) = alerts view)
    (reach : Session.Reach (Session.fresh config name controls view) past session)
    {step : Session.Step} {event : Widget.Event} (took : session.taken? step = some (.event event)) :
    session.Hears typed alerts step event := by
  obtain ⟨rest, log, -, after⟩ := (session.step_moves step).of_event took
  have shown : (session.step step).view = (session.panel.step (.dispatch event)).view := by
    rw [after]
    rfl
  have silent : alerts (session.step step).view = alerts session.view := by
    rw [shown]
    refine session.panel.step_keeps (fun view => alerts view = alerts session.view)
      (fun view command may same => (quiet view command ?_).trans same) rfl
    rintro text rfl
    obtain ⟨failure, other⟩ := may
    cases other
  have stage : (session.step step).stage = session.stage := by rw [after]
  have dispatched := Session.step_of_event took
  rcases reach.outcome_event typing took with ⟨ok, idle⟩ | ⟨text, writer, asked, present, ended, told, typed⟩
  · refine ⟨dispatched, fun failure failed => ?_, ?_, stage, silent, fun failed => (failed ok).elim⟩
    · cases ok.symm.trans failed
    · refine iff_of_false (fun failed => failed ok) ?_
      rintro ⟨some, writer, present, ended⟩
      rcases idle with none | writes
      · exact some none
      · exact writes writer present ended
  · have failed : session.panel.outcome (.dispatch event) ≠ .ok () := by
      intro ok
      cases told.symm.trans ok
    refine ⟨dispatched, fun failure same => ?_, ?_, stage, silent, fun _ other same => ?_⟩
    · exact (Except.error.inj (told.symm.trans same)).symm
    · refine iff_of_true failed ⟨?_, writer, present, ended⟩
      rw [asked]
      exact Option.some_ne_none text
    · cases asked.symm.trans same
      rw [shown]
      exact typed

end Fresh

/-- In a session over a new widget, on either kind of page, no event ever finds that there is no channel. One
that asks to send something fails once the writer has ended; then the session goes on, there is no notice, and
the text stays in the request. -/
theorem Session.events_fail_only_for_want_of_a_writer (config : Session.Config) (name : String)
    (controls : Controls) (past : List Session.Step) (step : Session.Step) (event : Widget.Event) :
    (∀ memory : Memory,
      let session := (Session.fresh config name controls memory).run past
      session.taken? step = some (.event event) → session.Hears Memory.Typed Memory.alerts step event) ∧
      ∀ {S : Type} [Sink S] (terminal : Terminal S),
        let session := (Session.fresh config name controls terminal).run past
        session.taken? step = some (.event event) →
          session.Hears Terminal.Typed Terminal.alerts step event := by
  constructor
  · intro memory session took
    exact Session.Reach.hears Memory.typing (fun memory _ silent => memory.alerts_perform silent)
      ((Session.fresh config name controls memory).reach_run past) took
  · intro S _ terminal session took
    exact Session.Reach.hears Terminal.typing (fun terminal _ silent => terminal.alerts_perform silent)
      ((Session.fresh config name controls terminal).reach_run past) took

/-- A frame that cannot be handed over ends the writer; what is submitted next stays in the request. -/
theorem Session.late_request_stays :
    let past : List Session.Step :=
      [.turn true 0, .settle (.ok 101), .turn true 1, .operator (.submit "first"), .turn true 2,
        .write (some .reset), .write none, .operator (.submit "late")]
    let session := Session.loopback.run past
    session.taken? (.turn true 3) = some (.event (.submit "late")) ∧
      session.panel.outcome (.dispatch (.submit "late")) ≠ .ok () ∧
      ((session.step (.turn true 3)).view.control "req").value = "late" ∧
      (session.step (.turn true 3)).isRelaying = true ∧ (session.step (.turn true 3)).view.alerts = [] := by
  intro past session
  have took : session.taken? (.turn true 3) = some (.event (.submit "late")) := by decide +kernel
  have hears : session.Hears Memory.Typed Memory.alerts (.turn true 3) (.submit "late") :=
    (Session.events_fail_only_for_want_of_a_writer { page := "http://[::1]/" } "console" Controls.long
      past (.turn true 3) (.submit "late")).1 ({} : Memory) took
  have present : session.writer = some ⟨0, 1, [], 1, .ended⟩ := by decide +kernel
  have failed : session.panel.outcome (.dispatch (.submit "late")) ≠ .ok () :=
    hears.unsent.mpr ⟨Option.some_ne_none _, _, present, rfl⟩
  have named : session.widget.controls = Controls.long :=
    (Session.loopback.reach_run past).controls_fresh
  have typed := hears.kept failed "late" rfl
  rw [named] at typed
  have relaying : session.isRelaying = true := by decide +kernel
  refine ⟨took, failed, congrArg Memory.Control.value typed.control, ?_, ?_⟩
  · rw [isRelaying, hears.stage]
    exact relaying
  · rw [hears.alerts]
    decide +kernel

end RelayConsole
