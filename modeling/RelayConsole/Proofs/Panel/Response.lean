import Mathlib.Data.List.Induction
import RelayConsole.Proofs.Panel.Related
import RelayConsole.Proofs.View.Document

namespace RelayConsole

/-- Nothing but a message changes what the response shows, since all that is typed goes elsewhere. -/
theorem Panel.shown_step (panel : Panel Memory) {action : Widget.Action}
    (apart : panel.widget.controls.response ≠ panel.widget.controls.path ∧
      panel.widget.controls.response ≠ panel.widget.controls.request)
    (silent : action.text? = none) :
    ((panel.step action).view.control panel.widget.controls.response).shown =
      (panel.view.control panel.widget.controls.response).shown := by
  refine panel.step_keeps
    (fun memory => (memory.control panel.widget.controls.response).shown =
      (panel.view.control panel.widget.controls.response).shown)
    (fun memory command may same => ?_) rfl
  cases command with
  | setDisabled id disabled =>
    have shown := memory.shown_gate disabled [id] panel.widget.controls.response
    exact shown.trans same
  | setValue id text =>
    have elsewhere : panel.widget.controls.response ≠ id := by
      rcases may with rfl | rfl
      · exact apart.1
      · exact apart.2
    rw [Memory.view_perform, Memory.shown_setValue, if_neg elsewhere]
    exact same
  | appendValue | scrollToEnd =>
    obtain ⟨-, text, rfl⟩ := may
    cases silent
  | alert text => exact same

theorem Panel.shown_step_received (panel : Panel Memory) (text : String) :
    ((panel.step (.received text)).view.control panel.widget.controls.response).shown =
      let value := (panel.view.control panel.widget.controls.response).value ++ (text ++ "\n")
      (value, value.utf8ByteSize) := by
  rw [panel.step_received, Memory.view_perform, Memory.view_perform, Memory.shown_message, if_pos rfl]

/-- What the response shows after any actions: the messages among them in order below what it showed before,
each on a line of its own, and scrolled to the end if there is one. -/
theorem Panel.shown_run {panel : Panel Memory}
    (apart : panel.widget.controls.response ≠ panel.widget.controls.path ∧
      panel.widget.controls.response ≠ panel.widget.controls.request)
    (actions : List Widget.Action) :
    ((panel.run actions).view.control panel.widget.controls.response).shown =
      (panel.view.control panel.widget.controls.response).logged (actions.filterMap Widget.Action.text?) := by
  induction actions using List.reverseRecOn with
  | nil => rfl
  | append_singleton earlier action ih =>
    have named := panel.run_controls earlier
    have last : panel.run (earlier ++ [action]) = (panel.run earlier).step action :=
      panel.run_append earlier [action]
    rw [last, List.filterMap_append, List.filterMap_cons, List.filterMap_nil]
    cases shown : action.text? with
    | none =>
      have same := (panel.run earlier).shown_step (by rw [named]; exact apart) shown
      rw [named] at same
      rw [same, ih]
      simp only [List.append_nil]
    | some text =>
      obtain rfl := Widget.Action.eq_received shown
      have grown := (panel.run earlier).shown_step_received text
      rw [named] at grown
      rw [grown, Memory.Control.logged_append, ← ih]
      rfl

/-- The response is a log. After any actions on a widget in any state it holds what it held before and then the
messages among them, in order and each on a line of its own; no other action changes it. Once a message has come
it stays scrolled to its end, counted in bytes. A new widget leaves it as it finds it. -/
theorem Panel.response_grows_by_messages (panel : Panel Memory)
    (apart : panel.widget.controls.response ≠ panel.widget.controls.path ∧
      panel.widget.controls.response ≠ panel.widget.controls.request)
    (actions : List Widget.Action) :
    let final := panel.run actions
    let texts := actions.filterMap Widget.Action.text?
    let before := panel.view.control panel.widget.controls.response
    let after := final.view.control panel.widget.controls.response
    after.value = before.value ++ String.join (texts.map (· ++ "\n")) ∧
      (texts ≠ [] → after.scrollTop = after.value.utf8ByteSize) ∧
      (texts = [] → after.scrollTop = before.scrollTop) ∧
      (∀ action, (∀ text, action ≠ .received text) →
        ((final.step action).view.control panel.widget.controls.response).value = after.value) ∧
      ∀ (name : String) (memory : Memory),
        ((Panel.fresh name panel.widget.controls memory).view.control panel.widget.controls.response).shown =
          (memory.control panel.widget.controls.response).shown := by
  intro final texts before after
  have shown : after.shown = before.logged texts := Panel.shown_run apart actions
  have value : after.value = (before.logged texts).1 := congrArg Prod.fst shown
  refine ⟨value.trans (before.value_logged texts), fun some => ?_, fun none => ?_, fun action other => ?_, ?_⟩
  · have scrolled : after.scrollTop = (before.logged texts).2 := congrArg Prod.snd shown
    rw [scrolled, value, Memory.Control.logged, if_neg some]
  · have scrolled : after.scrollTop = (before.logged texts).2 := congrArg Prod.snd shown
    rw [scrolled, Memory.Control.logged, if_pos none]
    rfl
  · have silent : action.text? = Option.none := by
      cases action with
      | received text => exact (other text rfl).elim
      | _ => rfl
    have named : final.widget.controls = panel.widget.controls := panel.run_controls actions
    have same := final.shown_step (by rw [named]; exact apart) silent
    rw [named] at same
    exact congrArg Prod.fst same
  · intro name memory
    rw [Panel.fresh_eq]
    exact memory.shown_gate true panel.widget.controls.gated panel.widget.controls.response

/-- Messages before the opening and after the end, one of them empty and one of two lines, on a response that
is the send control as well. -/
theorem Panel.response_grows_in_every_phase :
    let controls : Controls := ⟨"p", "q", "s", "s"⟩
    let memory : Memory := ({} : Memory).perform (.setValue "s" "earlier\n")
    let panel := Panel.fresh "console" controls memory
    let actions : List Widget.Action :=
      [.received "früh", .attach, .opened 0, .dispatch (.submit "request"), .received "", .dropReceiver 0,
        .send, .closed 1, .received "first\nsecond", .submit "late", .failed .notConnected]
    (panel.widget.controls.response ≠ panel.widget.controls.path ∧
        panel.widget.controls.response ≠ panel.widget.controls.request) ∧
      ((panel.run actions).view.control "s").value = "earlier\nfrüh\n\nfirst\nsecond\n" ∧
      ((panel.run actions).view.control "s").scrollTop = 28 := by
  intro controls memory panel actions
  have fresh : panel = _ := Panel.fresh_eq "console" controls memory
  have apart : panel.widget.controls.response ≠ panel.widget.controls.path ∧
      panel.widget.controls.response ≠ panel.widget.controls.request := by
    rw [fresh]
    decide
  have named : panel.widget.controls = controls := by rw [fresh]
  have log := Panel.response_grows_by_messages panel apart actions
  dsimp only at log
  obtain ⟨value, scrolled, -, -, unchanged⟩ := log
  rw [named] at value scrolled unchanged
  have start : (panel.view.control "s").value = (memory.control "s").value :=
    congrArg Prod.fst (unchanged "console" memory)
  refine ⟨apart, ?_, ?_⟩
  · rw [value, start]
    decide +kernel +zetaReduce
  · rw [scrolled (by decide), value, start]
    decide +kernel +zetaReduce

end RelayConsole
