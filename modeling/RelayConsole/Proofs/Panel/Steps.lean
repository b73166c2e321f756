import RelayConsole.Panel
import RelayConsole.Proofs.Widget.Frames

namespace RelayConsole

variable {V : Type} [View V]

/-- Whether an action sends without asking if the control is enabled. -/
def Widget.Action.isDirect : Widget.Action → Bool
  | .send | .submit _ => true
  | _ => false

def Widget.Action.text? : Widget.Action → Option String
  | .received text => some text
  | _ => none

theorem Widget.Action.eq_received {action : Widget.Action} {text : String} (shown : action.text? = some text) :
    action = .received text := by
  cases action with
  | received payload => exact congrArg _ (Option.some.inj shown)
  | _ => cases shown

/-- Actions by the mark that they may leave: one of opening, one of closing, or none. -/
theorem Widget.Action.marks (action : Widget.Action) :
    (∃ now, action = .opened now) ∨ (∃ now, action = .closed now) ∨
      ∀ now, action ≠ .opened now ∧ action ≠ .closed now := by
  cases action with
  | opened now => exact Or.inl ⟨now, rfl⟩
  | closed now => exact Or.inr (Or.inl ⟨now, rfl⟩)
  | _ => exact Or.inr (Or.inr fun now => ⟨by simp, by simp⟩)

theorem Panel.fresh_eq (name : String) (controls : Controls) (view : V) :
    Panel.fresh name controls view = ⟨{ name, controls }, View.gate view true controls.gated⟩ := by
  obtain ⟨widget, shown⟩ := Widget.play_start name controls view
  rw [fresh, widget, shown]

theorem Panel.run_append (panel : Panel V) (before after : List Widget.Action) :
    panel.run (before ++ after) = (panel.run before).run after :=
  List.foldl_append

theorem Panel.step_opened (panel : Panel V) (now : Int) :
    panel.step (.opened now) =
      ⟨panel.widget.live now,
        if panel.widget.phase = .connecting then View.gate panel.view false panel.widget.controls.gated
        else panel.view⟩ := by
  obtain ⟨result, view⟩ := panel.widget.play_opened now panel.view
  rw [step, act, result, view]

/-- Opening is of no interest to a widget that does not wait for it. -/
theorem Panel.step_opened_again {panel : Panel V} (late : panel.widget.phase ≠ .connecting) (now : Int) :
    panel.step (.opened now) = panel := by
  rw [panel.step_opened, Widget.live, if_neg late, if_neg late]

theorem Panel.step_closed (panel : Panel V) (now : Int) :
    panel.step (.closed now) =
      ⟨panel.widget.shut now, View.gate panel.view true panel.widget.controls.gated⟩ := by
  obtain ⟨result, view⟩ := panel.widget.play_closed now panel.view
  rw [step, act, result, view]

theorem Panel.step_received (panel : Panel V) (text : String) :
    panel.step (.received text) =
      { panel with
        view :=
          View.perform (View.perform panel.view (.appendValue panel.widget.controls.response (text ++ "\n")))
            (.scrollToEnd panel.widget.controls.response) } := by
  obtain ⟨result, view⟩ := panel.widget.play_received text panel.view
  rw [step, act, result, view]

theorem Panel.step_failed (panel : Panel V) (failure : Failure) :
    panel.step (.failed failure) =
      { panel with view := View.perform panel.view (.alert failure.alertText) } := by
  obtain ⟨result, view⟩ := panel.widget.play_failed failure panel.view
  rw [step, act, result, view]

theorem Widget.send_widget (widget : Widget) (view : V) :
    ∃ channels, (widget.send.play view).result.1 = { widget with channels := channels } := by
  rw [widget.send_result]
  split
  · exact ⟨_, rfl⟩
  · rename_i sent
    obtain ⟨_, _, _, _, _, same⟩ := Widget.transmit_ok.mp sent
    exact ⟨_, same⟩

/-- Only what opens and closes a connection leaves a mark on the widget itself; all else concerns the channels. -/
theorem Panel.step_widget (panel : Panel V) {action : Widget.Action}
    (other : ∀ now, action ≠ .opened now ∧ action ≠ .closed now) :
    ∃ outlet channels, (panel.step action).widget =
      { panel.widget with outlet := outlet, channels := channels } := by
  cases action with
  | attach | reattach | detach | dropReceiver => exact ⟨_, _, rfl⟩
  | opened now => exact ((other now).1 rfl).elim
  | closed now => exact ((other now).2 rfl).elim
  | received text =>
    rw [panel.step_received]
    exact ⟨_, _, rfl⟩
  | failed failure =>
    rw [panel.step_failed]
    exact ⟨_, _, rfl⟩
  | send =>
    obtain ⟨channels, same⟩ := panel.widget.send_widget panel.view
    exact ⟨_, channels, same⟩
  | submit text =>
    obtain ⟨channels, same⟩ := panel.widget.send_widget
      (View.perform panel.view (.setValue panel.widget.controls.request text))
    exact ⟨_, channels, same⟩
  | dispatch event =>
    obtain ⟨channels, same⟩ := panel.widget.dispatch_widget event panel.view
    exact ⟨_, channels, same⟩

theorem Panel.step_controls (panel : Panel V) (action : Widget.Action) :
    (panel.step action).widget.controls = panel.widget.controls := by
  rcases action.marks with ⟨now, rfl⟩ | ⟨now, rfl⟩ | other
  · rw [panel.step_opened]
    exact panel.widget.live_controls now
  · rw [panel.step_closed]
    exact panel.widget.shut_controls now
  · obtain ⟨outlet, channels, same⟩ := panel.step_widget other
    rw [same]

/-- What every action keeps holds after any actions. -/
theorem Panel.run_keeps (holds : Panel V → Prop) {actions : List Widget.Action}
    (kept : ∀ panel, ∀ action ∈ actions, holds panel → holds (panel.step action)) {panel : Panel V}
    (first : holds panel) : holds (panel.run actions) := by
  induction actions generalizing panel with
  | nil => exact first
  | cons action rest ih =>
    exact ih (fun panel later member => kept panel later (List.mem_cons_of_mem action member))
      (kept panel action List.mem_cons_self first)

theorem Panel.run_controls (panel : Panel V) (actions : List Widget.Action) :
    (panel.run actions).widget.controls = panel.widget.controls :=
  Panel.run_keeps (fun later => later.widget.controls = panel.widget.controls)
    (fun later action _ same => (later.step_controls action).trans same) rfl

end RelayConsole
