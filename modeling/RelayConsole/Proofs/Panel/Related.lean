import RelayConsole.Proofs.Panel.Steps
import RelayConsole.Proofs.Widget.Calls

namespace RelayConsole

variable {V W : Type} [View V] [View W]

/-- What everything that an action may ask keeps true of a view is true after the action. -/
theorem Panel.step_keeps (panel : Panel V) {action : Widget.Action} (holds : V → Prop)
    (kept : ∀ view command, action.MayCall panel.widget.controls (.command command) → holds view →
      holds (View.perform view command))
    (start : holds panel.view) : holds (panel.step action).view :=
  (panel.widget.act_within action).play_keeps kept start

/-- What is told to whoever asked for the actions, one after the other. -/
def Panel.outcomes (panel : Panel V) (actions : List Widget.Action) : List (Except Failure Unit) :=
  (panel.along actions).map fun entry => entry.1.outcome entry.2

/-- Two panels with the same widget, their views related. -/
structure Panel.Related (related : V → W → Prop) (panel : Panel V) (other : Panel W) : Prop where
  widget : other.widget = panel.widget
  view : related panel.view other.view

/-- An action has the same outcome on views that agree on what it may ask. -/
theorem Panel.Related.step {related : V → W → Prop} {panel : Panel V} {other : Panel W}
    (start : panel.Related related other) {action : Widget.Action}
    (agree : View.Agree related (action.MayCall panel.widget.controls)) :
    panel.outcome action = other.outcome action ∧ (panel.step action).Related related (other.step action) := by
  obtain ⟨result, view⟩ := (panel.widget.act_within action).play_related agree start.view
  simp only [outcome, Panel.step, act, start.widget]
  exact ⟨congrArg Prod.snd result, ⟨congrArg Prod.fst result.symm, view⟩⟩

theorem Panel.fresh_related {related : V → W → Prop} {name : String} {controls : Controls}
    (agree : View.Agree related (Widget.Action.attach.MayCall controls)) {view : V} {other : W}
    (start : related view other) :
    (Panel.fresh name controls view).Related related (Panel.fresh name controls other) := by
  have within : (Widget.start name controls).Within (Widget.Action.attach.MayCall controls) :=
    Widget.start_within name fun id member => member
  obtain ⟨result, views⟩ := within.play_related agree start
  exact ⟨result.symm, views⟩

/-- What relates two panels, given what has happened to both, relates them after any actions if it does so
at first and after one more action. -/
theorem Panel.run_related {panel : Panel V} {other : Panel W}
    (holds : List Widget.Action → Panel V → Panel W → Prop) (start : holds [] panel other)
    (kept : ∀ {past : List Widget.Action} {panel : Panel V} {other : Panel W} (action : Widget.Action),
      holds past panel other → panel.outcome action = other.outcome action ∧
        holds (past ++ [action]) (panel.step action) (other.step action))
    (actions : List Widget.Action) :
    panel.outcomes actions = other.outcomes actions ∧
      holds actions (panel.run actions) (other.run actions) := by
  induction actions generalizing holds panel other with
  | nil => exact ⟨rfl, start⟩
  | cons action rest ih =>
    obtain ⟨same, next⟩ := kept action start
    obtain ⟨later, last⟩ := ih (fun past => holds (action :: past)) next fun following => kept following
    refine ⟨?_, last⟩
    change panel.outcome action :: (panel.step action).outcomes rest = _
    rw [same, later]
    rfl

/-- Whatever happens to a panel, it happens in the same way on a view that stands for its own. -/
theorem Panel.run_carry {carry : V → W} (carries : View.Carries carry) (name : String) (controls : Controls)
    (view : V) (actions : List Widget.Action) :
    let panel := Panel.fresh name controls view
    let other := Panel.fresh name controls (carry view)
    panel.outcomes actions = other.outcomes actions ∧
      (panel.run actions).Related (fun view other => other = carry view) (other.run actions) :=
  Panel.run_related (fun _ => Panel.Related fun view other => other = carry view)
    (Panel.fresh_related carries.agree rfl) (fun _ start => start.step carries.agree) actions

end RelayConsole
