import RelayConsole.Proofs.Panel.Gating
import RelayConsole.Proofs.Panel.Related
import RelayConsole.Proofs.Text.Utf8
import RelayConsole.Proofs.View.Metered

namespace RelayConsole

variable {S : Type} [Sink S]

theorem Terminal.setDisabled_eq (terminal : Terminal S) (id : String) (disabled : Bool) :
    ∃ enabled, View.perform terminal (.setDisabled id disabled) = { terminal with enabled := enabled } := by
  change ∃ enabled, terminal.setDisabled id disabled = { terminal with enabled := enabled }
  unfold setDisabled
  split
  · exact ⟨_, rfl⟩
  · split <;> exact ⟨_, rfl⟩

/-- A terminal shows what a page in memory keeps, after so many messages: all but the response is the same,
and what the page has on its response has gone into the sink. -/
structure Terminal.Mirrors (controls : Controls) (messages : Nat) (terminal : Terminal (Sink.Metered S))
    (memory : Memory) : Prop where
  named : terminal.controls = controls
  isDisabled : ∀ id, View.isDisabled terminal id = View.isDisabled memory id
  value : ∀ id, id ≠ controls.response → View.value terminal id = View.value memory id
  bytes : terminal.sink.bytes = Utf8.encode (View.value memory controls.response).toList
  flushes : terminal.sink.flushes = messages
  sound : Sink.NeverFails terminal.sink.sink
  alerts : terminal.alerts = memory.alerts

variable {controls : Controls} {messages : Nat} {terminal : Terminal (Sink.Metered S)} {memory : Memory}

theorem Terminal.Mirrors.isDisabled_perform (mirrors : terminal.Mirrors controls messages memory)
    (command : View.Command) (id : String) :
    View.isDisabled (View.perform terminal command) id = View.isDisabled (View.perform memory command) id := by
  rw [View.KeepsFlags.isDisabled_perform, View.KeepsFlags.isDisabled_perform, mirrors.isDisabled]

theorem Terminal.Mirrors.setDisabled (mirrors : terminal.Mirrors controls messages memory) (id : String)
    (disabled : Bool) :
    Mirrors controls messages (View.perform terminal (.setDisabled id disabled))
      (View.perform memory (.setDisabled id disabled)) := by
  have flags := mirrors.isDisabled_perform (.setDisabled id disabled)
  have kept (other : String) :
      View.value (View.perform memory (.setDisabled id disabled)) other = View.value memory other := by
    simp only [Memory.view_perform, Memory.perform, Memory.view_value, Memory.control_put]
    split
    · rename_i same; rw [same, Memory.Control.value_setDisabled]
    · rfl
  obtain ⟨enabled, same⟩ := terminal.setDisabled_eq id disabled
  rw [same] at flags ⊢
  exact ⟨mirrors.named, flags, fun other apart => (mirrors.value other apart).trans (kept other).symm,
    by rw [kept]; exact mirrors.bytes, mirrors.flushes, mirrors.sound, mirrors.alerts⟩

theorem Terminal.Mirrors.setValue (mirrors : terminal.Mirrors controls messages memory) {id : String}
    (apart : id ≠ controls.response) (text : String) :
    Mirrors controls messages (View.perform terminal (.setValue id text))
      (View.perform memory (.setValue id text)) where
  named := mirrors.named
  isDisabled := mirrors.isDisabled_perform (.setValue id text)
  value other elsewhere := by
    change ((terminal.values.put id text).find? other).getD "" = _
    simp only [Memory.view_perform, Memory.perform, Memory.view_value, Memory.control_put, Keyed.find?_put]
    split
    · rfl
    · exact mirrors.value other elsewhere
  bytes := by
    simp only [Memory.view_perform, Memory.perform, Memory.view_value, Memory.control_put, if_neg apart.symm]
    exact mirrors.bytes
  flushes := mirrors.flushes
  sound := mirrors.sound
  alerts := mirrors.alerts

/-- A message goes into the sink as it goes onto the response, and the sink is flushed once. -/
theorem Terminal.Mirrors.message (mirrors : terminal.Mirrors controls messages memory) (text : String) :
    Mirrors controls (messages + 1)
      (View.perform (View.perform terminal (.appendValue controls.response text))
        (.scrollToEnd controls.response))
      (View.perform (View.perform memory (.appendValue controls.response text))
        (.scrollToEnd controls.response)) := by
  obtain ⟨after, written, sound⟩ := mirrors.sound.writeAll (Utf8.encode text.toList)
  have appended : View.perform terminal (.appendValue controls.response text) =
      { terminal with
        sink := ⟨after, terminal.sink.bytes ++ Utf8.encode text.toList, terminal.sink.flushes⟩ } := by
    change terminal.perform _ = _
    simp only [perform, mirrors.named, if_true, Terminal.written, written]
  have flushed : View.perform (View.perform terminal (.appendValue controls.response text))
        (.scrollToEnd controls.response) =
      { terminal with
        sink := ⟨(Sink.flush after).1, terminal.sink.bytes ++ Utf8.encode text.toList,
          terminal.sink.flushes + 1⟩ } := by
    rw [appended]
    change Terminal.perform _ _ = _
    simp only [perform, mirrors.named, if_true]
    rfl
  rw [flushed]
  refine ⟨mirrors.named, fun id => ?_, fun id apart => ?_, ?_, congrArg (· + 1) mirrors.flushes,
    sound.next .flush, mirrors.alerts⟩
  · rw [View.isDisabled_kept _ rfl, View.isDisabled_kept _ rfl]
    exact mirrors.isDisabled id
  · simp only [Memory.view_perform, Memory.perform, Memory.view_value, Memory.control_put, if_neg apart]
    exact mirrors.value id apart
  · simp only [Memory.view_perform, Memory.perform, Memory.view_value, Memory.control_put, if_true,
      String.toList_append, Utf8.encode_append, mirrors.bytes]

/-- What an action other than a message may ask keeps the terminal a mirror of the page, as long as nothing
is typed on the response. -/
theorem Terminal.mirrors_agree (apart : controls.path ≠ controls.response ∧ controls.request ≠ controls.response)
    {action : Widget.Action} (silent : action.text? = none) :
    View.Agree (Mirrors (S := S) controls messages) (action.MayCall controls) where
  isDisabled start _ := start.isDisabled _
  value start may := by
    obtain rfl := may
    exact start.value _ apart.2
  perform {terminal memory command} start may := by
    cases command with
    | setDisabled id disabled => exact start.setDisabled id disabled
    | setValue id text =>
      rcases may with rfl | rfl
      · exact start.setValue apart.1 text
      · exact start.setValue apart.2 text
    | appendValue id text | scrollToEnd id =>
      obtain ⟨-, shown, rfl⟩ := may
      cases silent
    | alert text =>
      exact ⟨start.named, start.isDisabled, start.value, start.bytes, start.flushes, start.sound,
        congrArg (· ++ [text]) start.alerts⟩

theorem Terminal.mirrors_fresh {sink : S} (sound : Sink.NeverFails sink) :
    Mirrors controls 0 { controls, sink := { sink } } {} where
  named := rfl
  isDisabled _ := rfl
  value _ _ := rfl
  bytes := rfl
  flushes := rfl
  sound := sound
  alerts := rfl

theorem Panel.outcome_received {V : Type} [View V] (panel : Panel V) (text : String) :
    panel.outcome (.received text) = .ok () :=
  congrArg Prod.snd (panel.widget.play_received text panel.view).1

/-- A message is one more of those that the terminal has shown, any other action none. -/
theorem Panel.Related.step_mirrored {panel : Panel (Terminal (Sink.Metered S))} {page : Panel Memory}
    (apart : controls.path ≠ controls.response ∧ controls.request ≠ controls.response)
    (named : panel.widget.controls = controls)
    (start : panel.Related (Terminal.Mirrors controls messages) page) (action : Widget.Action) :
    panel.outcome action = page.outcome action ∧
      (panel.step action).Related (Terminal.Mirrors controls (messages + action.text?.toList.length))
        (page.step action) := by
  cases shown : action.text? with
  | none =>
    exact start.step (by rw [named]; exact Terminal.mirrors_agree apart shown)
  | some text =>
    obtain rfl := Widget.Action.eq_received shown
    rw [panel.outcome_received, page.outcome_received, panel.step_received, page.step_received, start.widget,
      named]
    exact ⟨rfl, rfl, start.view.message (text ++ "\n")⟩

theorem Panel.run_mirrored (name : String) {sink : S} (sound : Sink.NeverFails sink)
    (apart : controls.path ≠ controls.response ∧ controls.request ≠ controls.response)
    (actions : List Widget.Action) :
    let panel := Panel.fresh name controls ({ controls, sink := { sink } } : Terminal (Sink.Metered S))
    let page := Panel.fresh name controls ({} : Memory)
    panel.outcomes actions = page.outcomes actions ∧
      (panel.run actions).Related (Terminal.Mirrors controls (actions.filterMap Widget.Action.text?).length)
        (page.run actions) := by
  intro panel page
  have fresh : panel.Related (Terminal.Mirrors controls 0) page :=
    Panel.fresh_related (Terminal.mirrors_agree apart rfl) (Terminal.mirrors_fresh sound)
  have named : (Panel.fresh name controls
      ({ controls, sink := { sink } } : Terminal (Sink.Metered S))).widget.controls = controls := by
    rw [Panel.fresh_eq]
  have both := Panel.run_related
    (fun past panel page => panel.widget.controls = controls ∧
      panel.Related (Terminal.Mirrors controls (past.filterMap Widget.Action.text?).length) page)
    ⟨named, fresh⟩ (fun {past panel page} action start => ?_) actions
  · exact ⟨both.1, both.2.2⟩
  · obtain ⟨named, start⟩ := start
    obtain ⟨same, next⟩ := start.step_mirrored apart named action
    refine ⟨same, (panel.step_controls action).trans named, ?_⟩
    rw [List.filterMap_append, List.length_append]
    have one : ([action].filterMap Widget.Action.text?).length = action.text?.toList.length := by
      rw [List.filterMap_cons, List.filterMap_nil]
      cases action.text? <;> rfl
    rw [one]
    exact next

/-- A widget on a terminal with a sink that never fails does the same as over a page in memory, and its controls
show the same but for the response. The sink takes the text of that response on the page, and is flushed once for
every message. -/
theorem Panel.terminal_shows_what_memory_keeps {S : Type} [Sink S] (name : String) {controls : Controls}
    (apart : controls.response ≠ controls.path ∧ controls.response ≠ controls.request) {sink : S}
    (sound : Sink.NeverFails sink) (actions : List Widget.Action) :
    let terminal := Panel.fresh name controls ({ controls, sink } : Terminal S)
    let metered := Panel.fresh name controls ({ controls, sink := { sink } } : Terminal (Sink.Metered S))
    let page := Panel.fresh name controls ({} : Memory)
    terminal.outcomes actions = page.outcomes actions ∧
      (terminal.run actions).widget = (page.run actions).widget ∧
      (∀ id, View.isDisabled (terminal.run actions).view id = View.isDisabled (page.run actions).view id) ∧
      (∀ id, id ≠ controls.response →
        View.value (terminal.run actions).view id = View.value (page.run actions).view id) ∧
      (terminal.run actions).view.alerts = (page.run actions).view.alerts ∧
      (terminal.run actions).view = (metered.run actions).view.unmetered ∧
      (metered.run actions).view.sink.bytes =
        Utf8.encode (View.value (page.run actions).view controls.response).toList ∧
      (metered.run actions).view.sink.flushes = (actions.filterMap Widget.Action.text?).length := by
  intro terminal metered page
  obtain ⟨told, carried⟩ := Panel.run_carry Terminal.carries_unmetered name controls
    { controls, sink := { sink } } actions
  obtain ⟨outcomes, mirrored⟩ := Panel.run_mirrored name sound ⟨apart.1.symm, apart.2.symm⟩ actions
  have unmetered : (terminal.run actions).view = (metered.run actions).view.unmetered := carried.view
  refine ⟨told.symm.trans outcomes, carried.widget.trans mirrored.widget.symm, fun id => ?_, fun id other => ?_,
    ?_, unmetered, mirrored.view.bytes, mirrored.view.flushes⟩
  · rw [unmetered, Terminal.carries_unmetered.isDisabled]
    exact mirrored.view.isDisabled id
  · rw [unmetered, Terminal.carries_unmetered.value]
    exact mirrored.view.value id other
  · rw [unmetered]
    exact mirrored.view.alerts

theorem Panel.terminal_shows_messages_in_pieces :
    let controls : Controls := ⟨"p", "q", "r", "r"⟩
    let sink : Sink.Record := { chunk := some 1 }
    let actions : List Widget.Action :=
      [.received "früh", .attach, .opened 0, .dispatch (.submit "request"), .dropReceiver 0,
        .dispatch (.submit "late"), .received "", .closed 1]
    let terminal := Panel.fresh "console" controls ({ controls, sink } : Terminal Sink.Record)
    let metered :=
      Panel.fresh "console" controls ({ controls, sink := { sink } } : Terminal (Sink.Metered Sink.Record))
    (controls.response ≠ controls.path ∧ controls.response ≠ controls.request) ∧ Sink.NeverFails sink ∧
      (terminal.outcomes actions).map Except.toBool = [true, true, true, true, true, false, true, true] ∧
      View.value (terminal.run actions).view "q" = "late" ∧
      (metered.run actions).view.sink.bytes = Utf8.encode "früh\n\n".toList ∧
      (metered.run actions).view.sink.flushes = 2 := by
  intro controls sink actions terminal metered
  have apart : controls.response ≠ controls.path ∧ controls.response ≠ controls.request := by decide
  have sound : Sink.NeverFails sink := Sink.Record.neverFails (by decide) rfl rfl
  obtain ⟨outcomes, -, -, values, -, -, bytes, flushes⟩ :=
    Panel.terminal_shows_what_memory_keeps "console" apart sound actions
  refine ⟨apart, sound, ?_, ?_, ?_, ?_⟩
  · rw [outcomes]
    decide +kernel +zetaReduce
  · rw [values "q" (by decide)]
    decide +kernel +zetaReduce
  · rw [bytes]
    decide +kernel +zetaReduce
  · rw [flushes]
    rfl

end RelayConsole
