import RelayConsole.Proofs.Session.History
import RelayConsole.View.Memory

namespace RelayConsole

variable {V : Type} [View V]

/-- All gated controls are disabled, as they are before the connection is there. -/
def Session.Shut (session : Session V) : Prop :=
  ∀ id ∈ session.widget.controls.gated, View.isDisabled session.view id = true

@[simp]
theorem Session.fresh_widget (config : Session.Config) (name : String) (controls : Controls) (view : V) :
    (Session.fresh config name controls view).widget = { name, controls } :=
  (Widget.play_start name controls view).1

@[simp]
theorem Session.fresh_view (config : Session.Config) (name : String) (controls : Controls) (view : V) :
    (Session.fresh config name controls view).view = View.gate view true controls.gated :=
  (Widget.play_start name controls view).2

theorem Session.fresh_shut [View.KeepsFlags V] (config : Session.Config) (name : String) (controls : Controls)
    (view : V) : (Session.fresh config name controls view).Shut := by
  intro id member
  rw [fresh_widget] at member
  rw [fresh_view]
  exact View.isDisabled_gate_of_mem view true member

/-- A session over an empty page in memory, with its daemon on the same host. -/
def Session.loopback : Session Memory :=
  Session.fresh { page := "http://[::1]/" } "console" Controls.long {}

theorem Session.Moves.untouched {session after : Session V} {step : Session.Step}
    (moves : Session.Moves session step after) (shut : session.Shut) (idle : session.writer = none)
    (waiting : after.isWaiting = true) :
    after.widget = session.widget ∧ after.view = session.view ∧ after.writer = none := by
  cases moves with
  | still | skipped | tried | answered => exact ⟨rfl, rfl, idle⟩
  | @heard event =>
    obtain ⟨result, view⟩ := Widget.dispatch_disabled (shut _ (event.target_mem_gated session.widget.controls))
    exact ⟨congrArg Prod.fst result, view, idle⟩
  | showed relaying => simp only [isWaiting, relaying, Bool.false_eq_true] at waiting
  | left | leftEarly | gaveUp | opened | joined => cases waiting
  | handed _ present | lost _ present | ceased _ present | closed _ present =>
    rw [idle] at present
    cases present

theorem Session.Reach.untouched {start session : Session V} {past : List (Session V × Session.Step)}
    (reach : Session.Reach start past session) (shut : start.Shut) (idle : start.writer = none)
    (waiting : session.isWaiting = true) :
    session.widget = start.widget ∧ session.view = start.view ∧ session.writer = none := by
  induction reach with
  | start => exact ⟨rfl, rfl, idle⟩
  | @next past session step previous ih =>
    have moves := session.step_moves step
    obtain ⟨widget, view, writer⟩ := ih (moves.waiting_before waiting)
    have still : session.Shut := by
      unfold Shut
      rw [widget, view]
      exact shut
    obtain ⟨nextWidget, nextView, nextWriter⟩ := moves.untouched still writer waiting
    exact ⟨nextWidget.trans widget, nextView.trans view, nextWriter⟩

section Fresh

variable {config : Session.Config} {name : String} {controls : Controls} {view : V}
variable {past : List (Session V × Session.Step)} {session : Session V}

theorem Session.Reach.controls_fresh (reach : Session.Reach (Session.fresh config name controls view) past session) :
    session.widget.controls = controls := by
  rw [reach.controls, Session.fresh_widget]

/-- Whatever has happened to a fresh session that still waits, its widget is new and its controls are shut. -/
theorem Session.Reach.untouched_fresh [View.KeepsFlags V]
    (reach : Session.Reach (Session.fresh config name controls view) past session)
    (waiting : session.isWaiting = true) :
    session.widget = { name, controls } ∧ session.view = View.gate view true controls.gated ∧
      session.writer = none := by
  have untouched := reach.untouched (Session.fresh_shut config name controls view) rfl waiting
  rwa [Session.fresh_widget, Session.fresh_view] at untouched

end Fresh

end RelayConsole
