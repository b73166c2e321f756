import RelayConsole.Proofs.Panel.Steps
import RelayConsole.Proofs.View.Document

namespace RelayConsole

variable {V : Type} [View V]

/-- The gated controls take input exactly while the connection is open. -/
def Panel.Gated (panel : Panel V) : Prop :=
  ∀ id ∈ panel.widget.controls.gated, View.isDisabled panel.view id = decide (panel.widget.phase ≠ .opened)

theorem Panel.Gated.disabled {panel : Panel V} (gated : panel.Gated) (apart : panel.widget.phase ≠ .opened)
    {id : String} (member : id ∈ panel.widget.controls.gated) : View.isDisabled panel.view id = true := by
  rw [gated id member, decide_eq_true apart]

theorem Panel.Gated.enabled {panel : Panel V} (gated : panel.Gated) (opened : panel.widget.phase = .opened)
    {id : String} (member : id ∈ panel.widget.controls.gated) : View.isDisabled panel.view id = false := by
  rw [gated id member, opened]
  rfl

section Flags

variable [View.KeepsFlags V]

theorem View.isDisabled_kept (view : V) {command : View.Command} {id : String}
    (other : command.flag? id = none) :
    View.isDisabled (View.perform view command) id = View.isDisabled view id := by
  rw [View.KeepsFlags.isDisabled_perform, other, Option.getD_none]

theorem Widget.send_flags (widget : Widget) (view : V) (id : String) :
    View.isDisabled (widget.send.play view).view id = View.isDisabled view id := by
  rw [widget.send_view]
  split
  · rfl
  · exact View.isDisabled_kept view rfl

/-- What is typed on a view changes no flag, and a frame that is sent only clears a value. -/
theorem Widget.dispatch_flags (widget : Widget) (event : Widget.Event) (view : V) (id : String) :
    View.isDisabled ((widget.act (.dispatch event)).play view).view id = View.isDisabled view id := by
  simp only [act, dispatch, Dialogue.play]
  split
  · rfl
  · cases event with
    | setPath text => exact View.isDisabled_kept view rfl
    | setRequest text => exact View.isDisabled_kept view rfl
    | click => exact widget.send_flags view id
    | submit text => exact (widget.send_flags _ id).trans (View.isDisabled_kept view rfl)

/-- No action but those that open and close a connection changes a flag. -/
theorem Panel.step_flags (panel : Panel V) {action : Widget.Action}
    (other : ∀ now, action ≠ .opened now ∧ action ≠ .closed now) (id : String) :
    View.isDisabled (panel.step action).view id = View.isDisabled panel.view id := by
  cases action with
  | attach | reattach | detach | dropReceiver => rfl
  | opened now => exact ((other now).1 rfl).elim
  | closed now => exact ((other now).2 rfl).elim
  | received text =>
    rw [panel.step_received]
    exact (View.isDisabled_kept _ rfl).trans (View.isDisabled_kept _ rfl)
  | failed failure =>
    rw [panel.step_failed]
    exact View.isDisabled_kept _ rfl
  | send => exact panel.widget.send_flags panel.view id
  | submit text => exact (panel.widget.send_flags _ id).trans (View.isDisabled_kept panel.view rfl)
  | dispatch event => exact panel.widget.dispatch_flags event panel.view id

theorem Panel.fresh_gated (name : String) (controls : Controls) (view : V) :
    (Panel.fresh name controls view).Gated := by
  intro id member
  rw [Panel.fresh_eq] at member ⊢
  exact View.isDisabled_gate_of_mem view true member

theorem Panel.Gated.step {panel : Panel V} (gated : panel.Gated) (action : Widget.Action) :
    (panel.step action).Gated := by
  intro id member
  rw [panel.step_controls] at member
  rcases action.marks with ⟨now, rfl⟩ | ⟨now, rfl⟩ | other
  · rw [panel.step_opened]
    by_cases connecting : panel.widget.phase = .connecting
    · simp only [Widget.live, if_pos connecting, View.isDisabled_gate_of_mem panel.view false member]
      rfl
    · simp only [Widget.live, if_neg connecting]
      exact gated id member
  · rw [panel.step_closed]
    simp only [Widget.shut_phase, View.isDisabled_gate_of_mem panel.view true member]
    rfl
  · obtain ⟨outlet, channels, same⟩ := panel.step_widget other
    rw [panel.step_flags other, same]
    exact gated id member

theorem Panel.Gated.run {panel : Panel V} (gated : panel.Gated) (actions : List Widget.Action) :
    (panel.run actions).Gated :=
  Panel.run_keeps Panel.Gated (fun _ action _ before => before.step action) gated

end Flags

/-- Whatever has happened to a new widget, and whatever its controls are named: as long as its view changes no
flag by itself, the path, the request and the send control are enabled while the connection is open, and
disabled before that and afterwards. The page in memory and the one on a terminal are such views. -/
theorem Panel.controls_are_enabled_exactly_while_open :
    (∀ {V : Type} [View V] [View.KeepsFlags V] (name : String) (controls : Controls) (view : V)
        (actions : List Widget.Action),
      let panel := (Panel.fresh name controls view).run actions
      ∀ id ∈ [controls.path, controls.request, controls.send],
        (panel.widget.phase = .opened → View.isDisabled panel.view id = false) ∧
          (panel.widget.phase = .connecting ∨ panel.widget.phase = .closed →
            View.isDisabled panel.view id = true)) ∧
      View.KeepsFlags Memory ∧ ∀ (S : Type) [Sink S], View.KeepsFlags (Terminal S) := by
  refine ⟨?_, inferInstance, fun S _ => inferInstance⟩
  intro V _ _ name controls view actions panel id member
  have gated : panel.Gated := (Panel.fresh_gated name controls view).run actions
  have named : panel.widget.controls = controls := by
    rw [Panel.run_controls, Panel.fresh_eq]
  have within : id ∈ panel.widget.controls.gated := by
    rw [named]
    exact member
  refine ⟨fun opened => gated.enabled opened within, fun apart => gated.disabled ?_ within⟩
  rcases apart with connecting | closed
  · rw [connecting]
    decide
  · rw [closed]
    decide

theorem Panel.shared_name_is_enabled_while_open :
    let panel := (Panel.fresh "console" ⟨"", "x", "x", "x"⟩ ({} : Memory)).run
      [.attach, .received "early", .opened 0, .dispatch (.submit "request"), .opened 1]
    View.isDisabled panel.view "x" = false ∧
      View.isDisabled (panel.step (.closed 2)).view "x" = true := by
  intro panel
  have gating := Panel.controls_are_enabled_exactly_while_open.1 "console" ⟨"", "x", "x", "x"⟩ ({} : Memory)
  refine ⟨(gating _ "x" (by decide)).1 rfl, ?_⟩
  exact (gating [.attach, .received "early", .opened 0, .dispatch (.submit "request"), .opened 1, .closed 2] "x"
    (by decide)).2 (Or.inr rfl)

end RelayConsole
