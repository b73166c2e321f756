import Mathlib.Data.List.Basic
import RelayConsole.Proofs.Panel.Gating

namespace RelayConsole

variable {V : Type} [View V]

theorem Panel.mem_along {panel : Panel V} {actions : List Widget.Action} {entry : Panel V × Widget.Action}
    (member : entry ∈ panel.along actions) :
    ∃ before after, actions = before ++ entry.2 :: after ∧ entry.1 = panel.run before := by
  induction actions generalizing panel with
  | nil => cases member
  | cons action rest ih =>
    rcases List.mem_cons.mp member with here | later
    · rw [here]
      exact ⟨[], rest, rfl, rfl⟩
    · obtain ⟨before, after, parts, reached⟩ := ih later
      exact ⟨action :: before, after, by rw [parts, List.cons_append], reached⟩

/-- The frame that an action puts on a channel by dispatching an event, with the channel's number. -/
def Panel.queued? (panel : Panel V) : Widget.Action → Option (Nat × String)
  | .dispatch event => panel.widget.accepted? panel.view event
  | _ => none

/-- The frames that were put on a channel by dispatching events. -/
def Panel.queuedOn (number : Nat) (past : List (Panel V × Widget.Action)) : List String :=
  past.filterMap fun entry =>
    (entry.1.queued? entry.2).bind fun queued => if queued.1 = number then some queued.2 else none

theorem Panel.queuedOn_cons (number : Nat) (panel : Panel V) (action : Widget.Action)
    (rest : List (Panel V × Widget.Action)) :
    Panel.queuedOn number ((panel, action) :: rest) =
      Panel.queuedOn number [(panel, action)] ++ Panel.queuedOn number rest := by
  simp only [queuedOn, ← List.filterMap_append, List.singleton_append]

theorem Panel.step_framesOn (panel : Panel V) {action : Widget.Action} (indirect : action.isDirect = false)
    (number : Nat) :
    (panel.step action).widget.framesOn number =
      panel.widget.framesOn number ++ Panel.queuedOn number [(panel, action)] := by
  have silent {widget : Widget} (same : widget.framesOn number = panel.widget.framesOn number) :
      widget.framesOn number = panel.widget.framesOn number ++ [] := by
    rw [same, List.append_nil]
  cases action with
  | attach => exact silent (panel.widget.framesOn_attach number)
  | reattach | detach => exact silent rfl
  | dropReceiver dropped => exact silent (panel.widget.framesOn_dropReceiver dropped number)
  | opened now =>
    rw [panel.step_opened]
    exact silent (Widget.framesOn_of_channels (panel.widget.live_channels now) number)
  | closed now =>
    rw [panel.step_closed]
    exact silent (Widget.framesOn_of_channels (panel.widget.shut_channels now) number)
  | received text =>
    rw [panel.step_received]
    exact silent rfl
  | failed failure =>
    rw [panel.step_failed]
    exact silent rfl
  | send | submit => cases indirect
  | dispatch event =>
    have grown := panel.widget.framesOn_dispatch event panel.view number
    refine grown.trans (congrArg _ ?_)
    simp only [queuedOn, queued?, List.filterMap_cons, List.filterMap_nil]
    cases (panel.widget.accepted? panel.view event).bind _ <;> rfl

theorem Panel.run_framesOn (panel : Panel V) {actions : List Widget.Action}
    (indirect : ∀ action ∈ actions, action.isDirect = false) (number : Nat) :
    (panel.run actions).widget.framesOn number =
      panel.widget.framesOn number ++ Panel.queuedOn number (panel.along actions) := by
  induction actions generalizing panel with
  | nil => exact (List.append_nil _).symm
  | cons action rest ih =>
    have first := panel.step_framesOn (indirect action List.mem_cons_self) number
    have later := ih (panel.step action) fun next member => indirect next (List.mem_cons_of_mem action member)
    rw [along, Panel.queuedOn_cons, ← List.append_assoc, ← first]
    exact later

theorem Panel.Gated.dispatch_idle {panel : Panel V} (gated : panel.Gated)
    (apart : panel.widget.phase ≠ .opened) (event : Widget.Event) :
    panel.outcome (.dispatch event) = .ok () ∧ panel.step (.dispatch event) = panel := by
  obtain ⟨result, view⟩ := Widget.dispatch_disabled
    (gated.disabled apart (event.target_mem_gated panel.widget.controls))
  constructor
  · rw [Panel.outcome, Panel.act, result]
  · rw [Panel.step, Panel.act, result, view]

theorem Panel.Gated.queued?_idle {panel : Panel V} (gated : panel.Gated)
    (apart : panel.widget.phase ≠ .opened) (action : Widget.Action) : panel.queued? action = none := by
  cases action with
  | dispatch event =>
    have disabled := gated.disabled apart (event.target_mem_gated panel.widget.controls)
    simp only [queued?, Widget.accepted?, Widget.frame?, disabled, if_true]
  | _ => rfl

/-- Whatever happens to a new widget on a view that changes no flag by itself, as long as nobody sends past its
controls: all frames on all channels are those of events that were dispatched while the connection was open.
Before and after that, an event succeeds without any effect. -/
theorem Panel.sends_only_while_open [View.KeepsFlags V] (name : String) (controls : Controls) (view : V)
    (actions : List Widget.Action) (indirect : ∀ action ∈ actions, action.isDirect = false) :
    let start := Panel.fresh name controls view
    let final := start.run actions
    (∀ number, final.widget.framesOn number =
        Panel.queuedOn number ((start.along actions).filter fun entry => entry.1.widget.phase = .opened)) ∧
      (final.widget.phase ≠ .opened → ∀ event,
        final.outcome (.dispatch event) = .ok () ∧ final.step (.dispatch event) = final) := by
  intro start final
  have gated (before : List Widget.Action) : (start.run before).Gated :=
    (Panel.fresh_gated name controls view).run before
  refine ⟨fun number => ?_, (gated actions).dispatch_idle⟩
  have empty : start.widget.framesOn number = [] := by
    simp only [start, Panel.fresh_eq, Widget.framesOn, List.getElem?_nil, Option.map_none, Option.getD_none]
  rw [start.run_framesOn indirect, empty, List.nil_append, queuedOn, queuedOn, List.filterMap_filter]
  refine List.filterMap_congr fun entry member => ?_
  obtain ⟨before, after, -, reached⟩ := Panel.mem_along member
  by_cases opened : entry.1.widget.phase = .opened
  · simp only [opened, decide_true, if_true]
  · have idle : entry.1.queued? entry.2 = none := by
      rw [reached] at opened ⊢
      exact (gated before).queued?_idle opened entry.2
    simp only [opened, decide_false, idle, Option.bind_none, Bool.false_eq_true, if_false]

theorem Panel.sends_between_opening_and_close :
    let start := Panel.fresh "console" Controls.long ({} : Memory)
    let actions : List Widget.Action :=
      [.attach, .dispatch (.submit "early"), .opened 0, .dispatch (.submit "first"), .attach,
        .dispatch (.setRequest "second"), .dispatch .click, .reattach 0, .dispatch (.submit "third"), .closed 1,
        .opened 2, .dispatch (.submit "late")]
    (start.run actions).widget.framesOn 0 = ["first", "third"] ∧ (start.run actions).widget.framesOn 1 = ["second"] ∧
      (start.run actions).step (.dispatch .click) = start.run actions := by
  intro start actions
  obtain ⟨frames, idle⟩ := Panel.sends_only_while_open "console" Controls.long ({} : Memory) actions (by decide)
  refine ⟨(frames 0).trans ?_, (frames 1).trans ?_, (idle (by decide +kernel) .click).2⟩
  · decide +kernel
  · decide +kernel

end RelayConsole
