import RelayConsole.Proofs.Panel.Terminal
import RelayConsole.Proofs.View.Faults

namespace RelayConsole

/-- Nothing but a message may reach the sink of a terminal. -/
theorem Widget.Action.silent_command {controls : Controls} {action : Widget.Action} (silent : action.text? = none)
    {command : View.Command} (may : action.MayCall controls (.command command)) :
    (∃ id disabled, command = .setDisabled id disabled) ∨ (∃ id text, command = .setValue id text) ∨
      ∃ text, command = .alert text := by
  cases command with
  | setDisabled id disabled => exact Or.inl ⟨id, disabled, rfl⟩
  | setValue id text => exact Or.inr (Or.inl ⟨id, text, rfl⟩)
  | alert text => exact Or.inr (Or.inr ⟨text, rfl⟩)
  | appendValue | scrollToEnd =>
    obtain ⟨-, shown, rfl⟩ := may
    cases silent

variable {S T : Type} [Sink S] [Sink T]

theorem Terminal.controls_perform (terminal : Terminal S) (command : View.Command) :
    (View.perform terminal command).controls = terminal.controls := by
  cases command with
  | setDisabled id disabled =>
    obtain ⟨enabled, same⟩ := terminal.setDisabled_eq id disabled
    rw [same]
  | setValue | alert => rfl
  | appendValue id text =>
    change (if id = terminal.controls.response then _ else _ : Terminal S).controls = _
    split <;> rfl
  | scrollToEnd id =>
    change (if id = terminal.controls.response then _ else _ : Terminal S).controls = _
    split <;> rfl

theorem Panel.step_named {panel : Panel (Terminal S)} (named : panel.view.controls = panel.widget.controls)
    (action : Widget.Action) : (panel.step action).view.controls = (panel.step action).widget.controls := by
  have kept : (panel.step action).view.controls = panel.view.controls :=
    panel.step_keeps (fun terminal => terminal.controls = panel.view.controls)
      (fun terminal command _ same => (terminal.controls_perform command).trans same) rfl
  exact kept.trans (named.trans (panel.step_controls action).symm)

theorem Terminal.sink_perform (terminal : Terminal S) {controls : Controls} {action : Widget.Action}
    (silent : action.text? = none) {command : View.Command} (may : action.MayCall controls (.command command)) :
    (View.perform terminal command).sink = terminal.sink := by
  rcases action.silent_command silent may with ⟨id, disabled, rfl⟩ | ⟨id, text, rfl⟩ | ⟨text, rfl⟩
  · obtain ⟨enabled, same⟩ := terminal.setDisabled_eq id disabled
    rw [same]
  · rfl
  · rfl

theorem Terminal.notes_beside {controls : Controls} {action : Widget.Action} (silent : action.text? = none)
    {terminal : Terminal S} {other : Terminal T} {command : View.Command} (beside : terminal.Beside other)
    (may : action.MayCall controls (.command command)) :
    View.notes terminal command = View.notes other command := by
  obtain ⟨sink, rfl⟩ := beside
  rcases action.silent_command silent may with ⟨id, disabled, rfl⟩ | ⟨id, text, rfl⟩ | ⟨text, rfl⟩ <;> rfl

theorem Terminal.faultNotes_eq (action : String) (result : Except String Unit) :
    faultNotes action result =
      ((Sink.fault? result).map fun reason =>
        ⟨.error, .terminal, "Failed to " ++ action ++ " response: " ++ reason⟩).toList := by
  cases result <;> rfl

/-- A message on a terminal: its text is written, the sink is flushed, and what failed is logged. -/
theorem Panel.act_received {panel : Panel (Terminal S)} (named : panel.view.controls = panel.widget.controls)
    (text : String) :
    let showing := Sink.showing panel.view.sink text
    (panel.step (.received text)).view.sink = showing.sink ∧
      (panel.act (.received text)).lines =
        Widget.note .debug ("Connection " ++ panel.widget.name ++ " received " ++ toString text.utf8ByteSize ++
          " bytes") :: showing.complaints := by
  intro showing
  let line := text ++ "\n"
  let response := panel.widget.controls.response
  have written : View.perform panel.view (.appendValue response line) =
      { panel.view with sink := (panel.view.written line).1 } :=
    if_pos (congrArg Controls.response named).symm
  have flushed : View.perform { panel.view with sink := (panel.view.written line).1 } (.scrollToEnd response) =
      { panel.view with sink := showing.sink } :=
    if_pos (congrArg Controls.response named).symm
  constructor
  · rw [panel.step_received]
    change (View.perform (View.perform panel.view (.appendValue response line)) (.scrollToEnd response)).sink = _
    rw [written, flushed]
  · have writeNotes : View.notes panel.view (.appendValue response line) =
        Terminal.faultNotes "write" showing.written :=
      if_pos (congrArg Controls.response named).symm
    have flushNotes :
        View.notes { panel.view with sink := (panel.view.written line).1 } (.scrollToEnd response) =
          Terminal.faultNotes "flush" showing.flushed :=
      if_pos (congrArg Controls.response named).symm
    have lines : (panel.act (.received text)).lines =
        Widget.note .debug ("Connection " ++ panel.widget.name ++ " received " ++ toString text.utf8ByteSize ++
          " bytes") ::
          (View.notes panel.view (.appendValue response line) ++
            View.notes (View.perform panel.view (.appendValue response line)) (.scrollToEnd response)) := by
      simp only [act, Widget.act, Widget.onMessage, Dialogue.play_bind, Dialogue.play_say, Dialogue.play_command,
        Dialogue.play_pure, List.append_nil, List.singleton_append]
      rfl
    rw [lines, written, writeNotes, flushNotes, Terminal.faultNotes_eq, Terminal.faultNotes_eq]
    rfl

theorem Panel.sink_step {panel : Panel (Terminal S)} (named : panel.view.controls = panel.widget.controls)
    (action : Widget.Action) :
    (panel.step action).view.sink = Sink.showAll panel.view.sink action.text?.toList := by
  cases shown : action.text? with
  | none =>
    exact panel.step_keeps (fun terminal => terminal.sink = panel.view.sink)
      (fun terminal command may same => (terminal.sink_perform shown may).trans same) rfl
  | some text =>
    obtain rfl := Widget.Action.eq_received shown
    exact (Panel.act_received named text).1

/-- The sink has been through the messages one by one, whatever failed on the way, and through nothing else. -/
theorem Panel.sink_run {panel : Panel (Terminal S)} (named : panel.view.controls = panel.widget.controls)
    (actions : List Widget.Action) :
    (panel.run actions).view.controls = (panel.run actions).widget.controls ∧
      (panel.run actions).view.sink =
        Sink.showAll panel.view.sink (actions.filterMap Widget.Action.text?) := by
  induction actions generalizing panel with
  | nil => exact ⟨named, rfl⟩
  | cons action rest ih =>
    obtain ⟨later, sink⟩ := ih (Panel.step_named named action)
    refine ⟨later, sink.trans ?_⟩
    rw [Panel.sink_step named, ← Sink.showAll_append]
    cases shown : action.text? with
    | none => rw [List.filterMap_cons_none shown, Option.toList_none, List.nil_append]
    | some text => rw [List.filterMap_cons_some shown, Option.toList_some, List.singleton_append]

/-- A new widget writes nothing. -/
theorem Panel.fresh_named (name : String) (terminal : Terminal S) :
    let panel := Panel.fresh name terminal.controls terminal
    panel.view.controls = panel.widget.controls ∧ panel.view.sink = terminal.sink := by
  intro panel
  have within : (Widget.start name terminal.controls).Within (Widget.Action.attach.MayCall terminal.controls) :=
    Widget.start_within name fun id member => member
  let untouched (later : Terminal S) : Prop := later.controls = terminal.controls ∧ later.sink = terminal.sink
  have keeps (later : Terminal S) (command : View.Command)
      (may : Widget.Action.attach.MayCall terminal.controls (.command command)) (same : untouched later) :
      untouched (View.perform later command) :=
    ⟨(later.controls_perform command).trans same.1, (later.sink_perform rfl may).trans same.2⟩
  have kept : untouched panel.view := within.play_keeps keeps ⟨rfl, rfl⟩
  have named : panel.widget.controls = terminal.controls := by
    rw [show panel = Panel.fresh name terminal.controls terminal from rfl, Panel.fresh_eq]
  exact ⟨kept.1.trans named.symm, kept.2⟩

/-- What an action logs on a terminal is what it logs on the terminal beside it, as far as it is no message. -/
theorem Panel.Related.lines_beside {panel : Panel (Terminal S)} {other : Panel (Terminal T)}
    (start : panel.Related Terminal.Beside other) {action : Widget.Action} (silent : action.text? = none) :
    (panel.act action).lines = (other.act action).lines := by
  unfold Panel.act
  rw [start.widget]
  exact (panel.widget.act_within action).lines_related Terminal.beside_agree (Terminal.notes_beside silent) start.view

/-- Whatever a terminal's sink takes or refuses, a widget on it does and shows the same as over a sink that keeps
all it is given. The sink is given every message and is flushed for it; each write or flush that fails adds one line
to the log and does nothing else, and a sink that never fails takes the same bytes. -/
theorem Panel.sink_faults_are_contained {S : Type} [Sink S] (name : String) (controls : Controls) (sink : S)
    (actions : List Widget.Action) :
    let terminal := Panel.fresh name controls ({ controls, sink } : Terminal S)
    let perfect := Panel.fresh name controls ({ controls, sink := {} } : Terminal Sink.Record)
    let metered := Panel.fresh name controls ({ controls, sink := { sink } } : Terminal (Sink.Metered S))
    let texts := actions.filterMap Widget.Action.text?
    terminal.outcomes actions = perfect.outcomes actions ∧
    (terminal.run actions).widget = (perfect.run actions).widget ∧
    (∀ id, View.isDisabled (terminal.run actions).view id = View.isDisabled (perfect.run actions).view id ∧
      View.value (terminal.run actions).view id = View.value (perfect.run actions).view id) ∧
    (terminal.run actions).view = (perfect.run actions).view.onto (Sink.showAll sink texts) ∧
    ((Widget.start name controls).play ({ controls, sink } : Terminal S)).lines =
      ((Widget.start name controls).play ({ controls, sink := {} } : Terminal Sink.Record)).lines ∧
    (∀ action, ((terminal.run actions).act action).lines =
      ((perfect.run actions).act action).lines ++
        (action.text?.map fun text => (Sink.showing (Sink.showAll sink texts) text).complaints).getD []) ∧
    (terminal.run actions).view = (metered.run actions).view.unmetered ∧
    (Sink.NeverFails sink →
      (metered.run actions).view.sink.bytes = (perfect.run actions).view.sink.bytes) := by
  intro terminal perfect metered texts
  have beside : terminal.Related Terminal.Beside perfect :=
    Panel.fresh_related Terminal.beside_agree ⟨{}, rfl⟩
  obtain ⟨outcomes, last⟩ := Panel.run_related (fun _ => Panel.Related Terminal.Beside) beside
    (fun _ start => start.step Terminal.beside_agree) actions
  obtain ⟨-, carried⟩ := Panel.run_carry Terminal.carries_unmetered name controls
    { controls, sink := { sink } } actions
  obtain ⟨named, blank⟩ := Panel.fresh_named name ({ controls, sink } : Terminal S)
  obtain ⟨perfectNamed, perfectBlank⟩ := Panel.fresh_named name ({ controls, sink := {} } : Terminal Sink.Record)
  obtain ⟨meteredNamed, meteredBlank⟩ :=
    Panel.fresh_named name ({ controls, sink := { sink } } : Terminal (Sink.Metered S))
  obtain ⟨lastNamed, lastSink⟩ := Panel.sink_run named actions
  obtain ⟨perfectLast, perfectSink⟩ := Panel.sink_run perfectNamed actions
  obtain ⟨-, meteredSink⟩ := Panel.sink_run meteredNamed actions
  rw [blank] at lastSink
  rw [perfectBlank, Sink.Record.showAll_whole] at perfectSink
  rw [meteredBlank] at meteredSink
  refine ⟨outcomes, last.widget.symm, fun id => ?_, ?_, ?_, fun action => ?_, carried.view, fun sound => ?_⟩
  · obtain ⟨other, same⟩ := last.view
    rw [same]
    exact ⟨rfl, rfl⟩
  · obtain ⟨other, same⟩ := last.view
    rw [same, ← lastSink]
    rfl
  · have within : (Widget.start name controls).Within (Widget.Action.attach.MayCall controls) :=
      Widget.start_within name fun id member => member
    exact within.lines_related Terminal.beside_agree (Terminal.notes_beside rfl) ⟨{}, rfl⟩
  · cases shown : action.text? with
    | none =>
      rw [Option.map_none, Option.getD_none, List.append_nil]
      exact last.lines_beside shown
    | some text =>
      obtain rfl := Widget.Action.eq_received shown
      have lines := (Panel.act_received lastNamed text).2
      have perfectLines := (Panel.act_received perfectLast text).2
      rw [lastSink] at lines
      rw [perfectSink, Sink.Record.showing_whole, last.widget] at perfectLines
      rw [lines, perfectLines]
      rfl
  · rw [meteredSink, perfectSink]
    exact sound.showAll texts

/-- A response that is the path as well, once on a sink that takes a byte at a time and once on one that takes none. -/
theorem Panel.faults_on_a_shared_response_are_contained :
    let controls : Controls := ⟨"r", "q", "r", "s"⟩
    let pieces : Sink.Record := { chunk := some 1 }
    let broken : Sink.Record := { chunk := some 0, flushFault := some "flush broken" }
    let actions : List Widget.Action :=
      [.received "früh", .attach, .opened 0, .dispatch (.setPath "/"), .dispatch (.submit "request"),
        .dropReceiver 0, .dispatch (.submit "late")]
    let metered :=
      Panel.fresh "console" controls ({ controls, sink := { sink := pieces } } : Terminal (Sink.Metered Sink.Record))
    let terminal := Panel.fresh "console" controls ({ controls, sink := broken } : Terminal Sink.Record)
    Sink.NeverFails pieces ∧ (metered.run actions).view.sink.bytes = Utf8.encode "früh\n".toList ∧
      (terminal.outcomes actions).map Except.toBool = [true, true, true, true, true, true, false] ∧
      (terminal.run actions).widget.channels = [⟨["request"], false⟩] ∧
      View.value (terminal.run actions).view "r" = "/" ∧ View.value (terminal.run actions).view "q" = "late" ∧
      ((terminal.run actions).act (.received "ping")).lines =
        [⟨.debug, .widget, "Connection console received 4 bytes"⟩,
          ⟨.error, .terminal, "Failed to write response: failed to write whole buffer"⟩,
          ⟨.error, .terminal, "Failed to flush response: flush broken"⟩] := by
  intro controls pieces broken actions metered terminal
  have sound : Sink.NeverFails pieces := Sink.Record.neverFails (by decide) rfl rfl
  obtain ⟨-, -, -, -, -, -, -, bytes⟩ := Panel.sink_faults_are_contained "console" controls pieces actions
  obtain ⟨outcomes, widget, page, -, -, lines, -⟩ :=
    Panel.sink_faults_are_contained "console" controls broken actions
  refine ⟨sound, ?_, ?_, ?_, ?_, ?_, ?_⟩
  · rw [bytes sound]
    decide +kernel +zetaReduce
  · rw [outcomes]
    decide +kernel +zetaReduce
  · rw [widget]
    decide +kernel +zetaReduce
  · rw [(page "r").2]
    decide +kernel +zetaReduce
  · rw [(page "q").2]
    decide +kernel +zetaReduce
  · rw [lines]
    decide +kernel +zetaReduce

end RelayConsole
