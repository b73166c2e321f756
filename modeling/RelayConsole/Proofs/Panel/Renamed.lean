import RelayConsole.Proofs.Panel.Related
import RelayConsole.Proofs.View.Renamed

namespace RelayConsole

/-- The names of two consoles side by side, one pair for each part that a control plays. -/
def Controls.paired (controls other : Controls) : List (String × String) :=
  [(controls.path, other.path), (controls.request, other.request), (controls.response, other.response),
    (controls.send, other.send)]

/-- Where one console has two parts played by one control, so has the other. -/
def Controls.SamePattern (controls other : Controls) : Prop :=
  ∀ pair ∈ controls.paired other, ∀ another ∈ controls.paired other, pair.1 = another.1 ↔ pair.2 = another.2

instance (controls other : Controls) : Decidable (Controls.SamePattern controls other) :=
  inferInstanceAs (Decidable (∀ pair ∈ _, ∀ another ∈ _, _))

theorem Controls.long_samePattern_short : Controls.long.SamePattern Controls.short := by
  decide

/-- A name of one console and the name of the same control of the other. -/
def Controls.Correspond (controls other : Controls) (id name : String) : Prop :=
  (id, name) ∈ controls.paired other

theorem Controls.SamePattern.oneToOne {controls other : Controls} (pattern : controls.SamePattern other)
    {id name key another : String} (same : controls.Correspond other id name)
    (further : controls.Correspond other key another) : id = key ↔ name = another :=
  pattern _ same _ further

theorem Controls.correspond_path (controls other : Controls) : controls.Correspond other controls.path other.path := by
  simp [Correspond, paired]

theorem Controls.correspond_request (controls other : Controls) :
    controls.Correspond other controls.request other.request := by
  simp [Correspond, paired]

theorem Controls.correspond_response (controls other : Controls) :
    controls.Correspond other controls.response other.response := by
  simp [Correspond, paired]

theorem Controls.correspond_send (controls other : Controls) : controls.Correspond other controls.send other.send := by
  simp [Correspond, paired]

theorem Controls.correspond_gated (controls other : Controls) :
    List.Forall₂ (controls.Correspond other) controls.gated other.gated :=
  .cons (controls.correspond_path other) (.cons (controls.correspond_request other)
    (.cons (controls.correspond_send other) .nil))

theorem Controls.correspond_target (controls other : Controls) (event : Widget.Event) :
    controls.Correspond other (event.target controls) (event.target other) := by
  cases event with
  | setPath text => exact controls.correspond_path other
  | setRequest text => exact controls.correspond_request other
  | click | submit text => exact controls.correspond_send other

/-- The same widget under another name and with other names for its controls. -/
def Widget.renamed (widget : Widget) (name : String) (controls : Controls) : Widget :=
  { widget with name, controls }

variable {name : String} {controls : Controls}

theorem Widget.transmit_renamed (widget : Widget) (frame : String) :
    (widget.renamed name controls).transmit frame = (widget.transmit frame).map (·.renamed name controls) := by
  simp only [transmit, renamed]
  cases widget.outlet with
  | none => rfl
  | some number =>
    dsimp only
    cases (widget.channels[number]?).bind (·.send? frame) <;> rfl

/-- What an action comes to under other names. -/
def Widget.Result.Renamed (name : String) (controls : Controls) (result other : Widget × Except Failure Unit) : Prop :=
  other = (result.1.renamed name controls, result.2)

theorem Widget.send_renamed (widget : Widget) :
    widget.send.Renamed (widget.controls.Correspond controls) (Result.Renamed name controls)
      (widget.renamed name controls).send := by
  refine .askValue (widget.controls.correspond_request controls) fun request => ?_
  rw [widget.transmit_renamed]
  cases widget.transmit request with
  | error failure => exact .done rfl
  | ok after => exact .perform (.setValue (widget.controls.correspond_request controls) "") (.done rfl)

theorem Widget.submit_renamed (widget : Widget) (text : String) :
    (widget.submit text).Renamed (widget.controls.Correspond controls) (Result.Renamed name controls)
      ((widget.renamed name controls).submit text) :=
  .perform (.setValue (widget.controls.correspond_request controls) text) widget.send_renamed

theorem Widget.dispatch_renamed (widget : Widget) (event : Widget.Event) :
    (widget.dispatch event).Renamed (widget.controls.Correspond controls) (Result.Renamed name controls)
      ((widget.renamed name controls).dispatch event) := by
  refine .askDisabled (widget.controls.correspond_target controls event) fun disabled => ?_
  cases disabled with
  | true => exact .log _ _ (.done rfl)
  | false =>
    cases event with
    | setPath text => exact .perform (.setValue (widget.controls.correspond_path controls) text) (.done rfl)
    | setRequest text => exact .perform (.setValue (widget.controls.correspond_request controls) text) (.done rfl)
    | click => exact widget.send_renamed
    | submit text => exact widget.submit_renamed text

theorem Widget.onOpen_renamed (widget : Widget) (now : Int) :
    (widget.onOpen now).Renamed (widget.controls.Correspond controls)
      (fun result other => other = result.renamed name controls) ((widget.renamed name controls).onOpen now) := by
  unfold onOpen
  by_cases waits : widget.phase = .connecting
  · rw [if_pos waits, if_pos (show (widget.renamed name controls).phase = .connecting from waits)]
    refine (Dialogue.renamed_setDisabled false (widget.controls.correspond_gated controls)).bind fun _ _ _ => ?_
    exact (Dialogue.renamed_say _ _).bind fun _ _ _ => .done rfl
  · rw [if_neg waits, if_neg (show ¬ (widget.renamed name controls).phase = .connecting from waits)]
    exact (Dialogue.renamed_say _ _).bind fun _ _ _ => .done rfl

theorem Widget.onClose_renamed (widget : Widget) (now : Int) :
    (widget.onClose now).Renamed (widget.controls.Correspond controls)
      (fun result other => other = result.renamed name controls) ((widget.renamed name controls).onClose now) := by
  refine (Dialogue.renamed_setDisabled true (widget.controls.correspond_gated controls)).bind fun _ _ _ => ?_
  by_cases closed : widget.phase = .closed
  · rw [if_pos closed, if_pos (show (widget.renamed name controls).phase = .closed from closed)]
    exact .done rfl
  · rw [if_neg closed, if_neg (show ¬ (widget.renamed name controls).phase = .closed from closed)]
    exact (Dialogue.renamed_say _ _).bind fun _ _ _ => .done rfl

theorem Widget.onMessage_renamed (widget : Widget) (text : String) :
    (widget.onMessage text).Renamed (widget.controls.Correspond controls) Eq
      ((widget.renamed name controls).onMessage text) := by
  have response := widget.controls.correspond_response controls
  refine (Dialogue.renamed_say _ _).bind fun _ _ _ => ?_
  exact (Dialogue.renamed_command (.appendValue response _)).bind fun _ _ _ =>
    Dialogue.renamed_command (.scrollToEnd response)

/-- Whatever happens to a widget, it asks the same of its view under other names. -/
theorem Widget.act_renamed (widget : Widget) (action : Widget.Action) :
    (widget.act action).Renamed (widget.controls.Correspond controls) (Result.Renamed name controls)
      ((widget.renamed name controls).act action) := by
  cases action with
  | attach | reattach | detach | dropReceiver => exact .done rfl
  | send => exact widget.send_renamed
  | submit text => exact widget.submit_renamed text
  | dispatch event => exact widget.dispatch_renamed event
  | opened now =>
    refine (widget.onOpen_renamed now).bind fun result other same => ?_
    subst same
    exact .done rfl
  | closed now =>
    refine (widget.onClose_renamed now).bind fun result other same => ?_
    subst same
    exact .done rfl
  | received text => exact (widget.onMessage_renamed text).bind fun _ _ _ => .done rfl
  | failed failure =>
    have notice : (widget.onFailure failure).Renamed (widget.controls.Correspond controls) Eq
        ((widget.renamed name controls).onFailure failure) :=
      (Dialogue.renamed_say _ _).bind fun _ _ _ => Dialogue.renamed_command (.alert failure.alertText)
    exact notice.bind fun _ _ _ => .done rfl

/-- Two panels that differ in nothing but names. -/
structure Panel.Renamed (name : String) (controls : Controls) (panel page : Panel Memory) : Prop where
  widget : page.widget = panel.widget.renamed name controls
  view : panel.view.Renamed (panel.widget.controls.Correspond controls) page.view

theorem Panel.Renamed.step {panel page : Panel Memory} (start : panel.Renamed name controls page)
    (pattern : panel.widget.controls.SamePattern controls) (action : Widget.Action) :
    panel.outcome action = page.outcome action ∧ (panel.step action).Renamed name controls (page.step action) := by
  have agree := Memory.renamed_agree pattern.oneToOne
  obtain ⟨result, view⟩ := (panel.widget.act_renamed action).play agree start.view
  rw [← start.widget] at result view
  refine ⟨(congrArg Prod.snd result).symm, congrArg Prod.fst result, ?_⟩
  rw [panel.step_controls]
  exact view

theorem Panel.fresh_renamed (own : String) {used : Controls} (pattern : used.SamePattern controls) :
    (Panel.fresh own used ({} : Memory)).Renamed name controls (Panel.fresh name controls ({} : Memory)) := by
  have agree := Memory.renamed_agree pattern.oneToOne
  have start : Memory.Renamed (used.Correspond controls) {} {} := ⟨fun _ _ _ => rfl, rfl⟩
  have gated := (Dialogue.renamed_setDisabled true (used.correspond_gated controls)).play agree start
  rw [Panel.fresh_eq, Panel.fresh_eq, ← Dialogue.play_setDisabled_view, ← Dialogue.play_setDisabled_view]
  exact ⟨rfl, gated.2⟩

theorem Panel.run_renamed (own name : String) {controls other : Controls} (pattern : controls.SamePattern other)
    (actions : List Widget.Action) :
    let panel := Panel.fresh own controls ({} : Memory)
    let page := Panel.fresh name other ({} : Memory)
    panel.outcomes actions = page.outcomes actions ∧ (panel.run actions).Renamed name other (page.run actions) := by
  intro panel page
  have named : panel.widget.controls = controls := by
    change (Panel.fresh own controls ({} : Memory)).widget.controls = controls
    rw [Panel.fresh_eq]
  have start : panel.widget.controls = controls ∧ panel.Renamed name other page :=
    ⟨named, Panel.fresh_renamed own pattern⟩
  obtain ⟨outcomes, -, renamed⟩ := Panel.run_related
    (fun _ panel page => panel.widget.controls = controls ∧ panel.Renamed name other page) start
    (fun {_ panel page} action related => by
      obtain ⟨kept, renamed⟩ := related
      obtain ⟨same, next⟩ := renamed.step (by rw [kept]; exact pattern) action
      exact ⟨same, (panel.step_controls action).trans kept, next⟩) actions
  exact ⟨outcomes, renamed⟩

/-- With two namings that share names in the same places, whatever happens to a new widget over a page in memory has
the same outcomes, frames and notices, and leaves the same on each control as on the one that plays its part under
the other name. -/
theorem Panel.names_do_not_matter (own name : String) {controls other : Controls}
    (pattern : controls.SamePattern other) (actions : List Widget.Action) :
    let panel := Panel.fresh own controls ({} : Memory)
    let page := Panel.fresh name other ({} : Memory)
    panel.outcomes actions = page.outcomes actions ∧
      (page.run actions).widget = (panel.run actions).widget.renamed name other ∧
      (page.run actions).widget.channels = (panel.run actions).widget.channels ∧
      (page.run actions).view.alerts = (panel.run actions).view.alerts ∧
      ∀ pair ∈ controls.paired other,
        (page.run actions).view.control pair.2 = (panel.run actions).view.control pair.1 := by
  intro panel page
  have named : (panel.run actions).widget.controls = controls := by
    change ((Panel.fresh own controls ({} : Memory)).run actions).widget.controls = controls
    rw [Panel.run_controls, Panel.fresh_eq]
  obtain ⟨outcomes, renamed⟩ := Panel.run_renamed own name pattern actions
  have frames : (page.run actions).widget.channels = ((panel.run actions).widget.renamed name other).channels :=
    congrArg Widget.channels renamed.widget
  refine ⟨outcomes, renamed.widget, frames, renamed.view.alerts, fun pair member => ?_⟩
  refine renamed.view.control _ _ ?_
  rw [named]
  exact member

theorem Panel.names_do_not_matter_where_one_is_shared :
    let controls : Controls := ⟨"", "req", "", "send"⟩
    let other : Controls := ⟨"p", "q", "p", "s"⟩
    let actions : List Widget.Action :=
      [.received "früh", .attach, .opened 0, .dispatch (.setPath "/"), .received "a", .dispatch (.submit "b"),
        .dropReceiver 0, .dispatch (.submit "c"), .closed 1, .failed .notConnected]
    let page := Panel.fresh "two" other ({} : Memory)
    controls.SamePattern other ∧
      (page.outcomes actions).map Except.toBool = [true, true, true, true, true, true, true, false, true, true] ∧
      (page.run actions).widget.phase = .closed ∧
      (page.run actions).widget.channels = [⟨["b"], false⟩] ∧
      (page.run actions).view.alerts = ["Error WebSocket error: Not connected"] ∧
      (page.run actions).view.control "p" = ⟨"/a\n", true, 3, 1, 1⟩ ∧
      (page.run actions).view.control "q" = ⟨"c", true, 0, 1, 1⟩ ∧
      (((Panel.fresh "two" Controls.short ({} : Memory)).run actions).view.control "r").value = "früh\na\n" := by
  intro controls other actions page
  have pattern : controls.SamePattern other := by decide
  obtain ⟨outcomes, widget, frames, alerts, control⟩ := names_do_not_matter "one" "two" pattern actions
  obtain ⟨-, -, -, -, short⟩ := names_do_not_matter "one" "two" Controls.long_samePattern_short actions
  refine ⟨pattern, ?_, ?_, ?_, ?_, ?_, ?_, ?_⟩
  · rw [← outcomes]
    decide +kernel +zetaReduce
  · rw [widget]
    decide +kernel +zetaReduce
  · rw [frames]
    decide +kernel +zetaReduce
  · rw [alerts]
    decide +kernel +zetaReduce
  · rw [control ("", "p") (by decide)]
    decide +kernel +zetaReduce
  · rw [control ("req", "q") (by decide)]
    decide +kernel +zetaReduce
  · rw [short ("resp", "r") (by decide)]
    decide +kernel +zetaReduce

end RelayConsole
