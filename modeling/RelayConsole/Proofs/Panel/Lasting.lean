import RelayConsole.Proofs.Panel.Sending
import RelayConsole.Proofs.Widget.Page

namespace RelayConsole

/-- A widget has a moment of opening from the opening on. -/
structure Widget.Dated (widget : Widget) : Prop where
  waits : widget.phase = .connecting → widget.openedAt = none
  opened : widget.phase = .opened → widget.openedAt.isSome = true

theorem Widget.Dated.live {widget : Widget} (dated : widget.Dated) (now : Int) : (widget.live now).Dated := by
  unfold Widget.live
  split
  · exact ⟨(nomatch ·), fun _ => rfl⟩
  · exact dated

theorem Widget.Dated.shut {widget : Widget} (dated : widget.Dated) (now : Int) : (widget.shut now).Dated := by
  unfold Widget.shut
  split
  · exact dated
  · exact ⟨(nomatch ·), (nomatch ·)⟩

theorem Widget.Dated.live_openedAt {widget : Widget} (dated : widget.Dated)
    (before : widget.openedAt.isSome = true) (now : Int) : widget.live now = widget := by
  refine if_neg fun waits => ?_
  rw [dated.waits waits] at before
  cases before

theorem Widget.shut_openedAt (widget : Widget) (now : Int) : (widget.shut now).openedAt = widget.openedAt := by
  unfold shut
  split <;> rfl

section Marks

variable {V : Type} [View V]

theorem Panel.fresh_dated (name : String) (controls : Controls) (view : V) :
    (Panel.fresh name controls view).widget.Dated := by
  rw [Panel.fresh_eq]
  exact ⟨fun _ => rfl, (nomatch ·)⟩

theorem Panel.run_dated {panel : Panel V} (dated : panel.widget.Dated) (actions : List Widget.Action) :
    (panel.run actions).widget.Dated := by
  refine Panel.run_keeps (fun panel => panel.widget.Dated) (fun panel action _ dated => ?_) dated
  rcases action.marks with ⟨now, rfl⟩ | ⟨now, rfl⟩ | other
  · rw [panel.step_opened]
    exact dated.live now
  · rw [panel.step_closed]
    exact dated.shut now
  · obtain ⟨outlet, channels, same⟩ := panel.step_widget other
    rw [same]
    exact ⟨dated.waits, dated.opened⟩

/-- A moment of opening is never replaced by another one. -/
theorem Panel.run_openedAt {panel : Panel V} (dated : panel.widget.Dated)
    (before : panel.widget.openedAt.isSome = true) (actions : List Widget.Action) :
    (panel.run actions).widget.openedAt = panel.widget.openedAt := by
  refine (Panel.run_keeps
    (fun later => later.widget.Dated ∧ later.widget.openedAt = panel.widget.openedAt)
    (fun later action _ kept => ?_) ⟨dated, rfl⟩).2
  obtain ⟨dated, same⟩ := kept
  refine ⟨Panel.run_dated dated [action], ?_⟩
  rcases action.marks with ⟨now, rfl⟩ | ⟨now, rfl⟩ | other
  · rw [later.step_opened, dated.live_openedAt (same ▸ before) now, same]
  · rw [later.step_closed, Widget.shut_openedAt, same]
  · obtain ⟨outlet, channels, unmarked⟩ := later.step_widget other
    rw [unmarked]
    exact same

/-- A widget that is closed keeps all but its channels. -/
theorem Panel.run_closed_widget {panel : Panel V} (closed : panel.widget.phase = .closed)
    (actions : List Widget.Action) :
    ∃ outlet channels, (panel.run actions).widget =
      { panel.widget with outlet := outlet, channels := channels } := by
  refine Panel.run_keeps
    (fun later => ∃ outlet channels, later.widget =
      { panel.widget with outlet := outlet, channels := channels })
    (fun later action _ kept => ?_) ⟨_, _, rfl⟩
  obtain ⟨outlet, channels, same⟩ := kept
  have still : later.widget.phase = .closed := by rw [same]; exact closed
  rcases action.marks with ⟨now, rfl⟩ | ⟨now, rfl⟩ | other
  · rw [later.step_opened, Widget.live, if_neg (by rw [still]; decide)]
    exact ⟨outlet, channels, same⟩
  · rw [later.step_closed, Widget.shut, if_pos still]
    exact ⟨outlet, channels, same⟩
  · obtain ⟨nextOutlet, nextChannels, next⟩ := later.step_widget other
    exact ⟨nextOutlet, nextChannels, by rw [next, same]⟩

theorem Panel.run_closed {panel : Panel V} (closed : panel.widget.phase = .closed)
    (actions : List Widget.Action) : (panel.run actions).widget.phase = .closed := by
  obtain ⟨outlet, channels, same⟩ := Panel.run_closed_widget closed actions
  rw [same]
  exact closed

/-- Whoever comes to be open was never open before, and gets a moment of opening. -/
theorem Panel.run_opening (panel : Panel V) (dated : panel.widget.Dated) (actions : List Widget.Action) :
    (if panel.widget.phase ≠ .opened ∧ (panel.run actions).widget.phase = .opened then 1 else 0) +
        panel.widget.openedAt.isSome.toNat ≤ (panel.run actions).widget.openedAt.isSome.toNat := by
  split
  · rename_i opening
    have never : panel.widget.openedAt = none := by
      cases phase : panel.widget.phase with
      | connecting => exact dated.waits phase
      | opened => exact (opening.1 phase).elim
      | closed => cases (Panel.run_closed phase actions).symm.trans opening.2
    rw [never, (Panel.run_dated dated actions).opened opening.2]
    exact Nat.le_refl 1
  · cases before : panel.widget.openedAt.isSome with
    | false => exact Nat.zero_le _
    | true =>
      rw [Panel.run_openedAt dated before, before]
      exact Nat.le_refl 1

end Marks

/-- No action but those that open and close a connection touches the gating of a page. -/
theorem Panel.step_gating (panel : Panel Memory) {action : Widget.Action}
    (other : ∀ now, action ≠ .opened now ∧ action ≠ .closed now) (id : String) :
    ((panel.step action).view.control id).gating = (panel.view.control id).gating := by
  cases action with
  | attach | reattach | detach | dropReceiver => rfl
  | opened now => exact ((other now).1 rfl).elim
  | closed now => exact ((other now).2 rfl).elim
  | received text =>
    rw [panel.step_received]
    exact (panel.view.written_message _ _).gating id
  | failed failure =>
    rw [panel.step_failed]
    rfl
  | send => exact (panel.widget.send_written panel.view).gating id
  | submit text => exact (panel.widget.submit_written text panel.view).gating id
  | dispatch event => exact (panel.widget.dispatch_written event panel.view).gating id

/-- Each gated control was enabled once if the connection was ever there, and otherwise never. -/
def Panel.Counted (memory : Memory) (panel : Panel Memory) : Prop :=
  ∀ id ∈ panel.widget.controls.gated, (panel.view.control id).enabledCount =
    (memory.control id).enabledCount + panel.widget.openedAt.isSome.toNat

/-- The gating of the gated controls goes with the state of the widget: each was enabled once if the connection
was ever there, and disabled once since if it is over. -/
def Panel.Tallied (memory : Memory) (panel : Panel Memory) : Prop :=
  ∀ id ∈ panel.widget.controls.gated, (panel.view.control id).gating =
    (decide (panel.widget.phase ≠ .opened),
      (memory.control id).enabledCount + panel.widget.openedAt.isSome.toNat,
      ((memory.control id).setDisabled true).disabledCount +
        (panel.widget.openedAt.isSome && decide (panel.widget.phase = .closed)).toNat)

theorem Panel.Tallied.counted {memory : Memory} {panel : Panel Memory} (tallied : panel.Tallied memory) :
    panel.Counted memory :=
  fun id member => congrArg (·.2.1) (tallied id member)

theorem Panel.fresh_tallied (name : String) (controls : Controls) (memory : Memory) :
    (Panel.fresh name controls memory).Tallied memory := by
  intro id member
  rw [Panel.fresh_eq] at member ⊢
  have inside : id ∈ controls.gated := member
  rw [Memory.control_gate, if_pos inside, Memory.Control.gating, Memory.Control.disabled_setDisabled,
    Memory.Control.enabledCount_disable]
  rfl

/-- Only an open connection has enabled controls to disable, and it has a moment of opening. -/
theorem Panel.Tallied.step {memory : Memory} {panel : Panel Memory} (tallied : panel.Tallied memory)
    (dated : panel.widget.Dated) (action : Widget.Action) : (panel.step action).Tallied memory := by
  intro id member
  rw [panel.step_controls] at member
  have before := tallied id member
  rcases action.marks with ⟨now, rfl⟩ | ⟨now, rfl⟩ | other
  · rw [panel.step_opened]
    by_cases waits : panel.widget.phase = .connecting
    · simp only [Memory.Control.gating, waits, dated.waits waits, Prod.mk.injEq] at before
      obtain ⟨shut, enabled, disabled⟩ := before
      simp only [Widget.live, if_pos waits, Memory.control_gate, if_pos member,
        Memory.Control.gating_setDisabled, shut, enabled, disabled]
      rfl
    · simp only [Widget.live, if_neg waits]
      exact before
  · rw [panel.step_closed]
    simp only [Memory.control_gate, if_pos member, Memory.Control.gating_setDisabled, Widget.shut_phase,
      Widget.shut_openedAt]
    simp only [Memory.Control.gating, Prod.mk.injEq] at before
    obtain ⟨flag, enabled, disabled⟩ := before
    rw [flag, enabled, disabled]
    cases phase : panel.widget.phase with
    | connecting => rw [dated.waits phase]; rfl
    | opened => rw [dated.opened phase]; rfl
    | closed => cases panel.widget.openedAt <;> rfl
  · obtain ⟨outlet, channels, same⟩ := panel.step_widget other
    rw [panel.step_gating other id, before, same]

theorem Panel.Tallied.run {memory : Memory} {panel : Panel Memory} (tallied : panel.Tallied memory)
    (dated : panel.widget.Dated) (actions : List Widget.Action) : (panel.run actions).Tallied memory := by
  refine (Panel.run_keeps (fun panel => panel.Tallied memory ∧ panel.widget.Dated)
    (fun panel action _ kept => ?_) ⟨tallied, dated⟩).1
  obtain ⟨tallied, dated⟩ := kept
  exact ⟨tallied.step dated action, Panel.run_dated dated [action]⟩

/-- A panel on which nothing has happened but that messages were shown, each on a line of its own. -/
structure Panel.Rests (before : Panel Memory) (texts : List String) (after : Panel Memory) : Prop where
  widget : ∃ outlet channels, after.widget = { before.widget with outlet := outlet, channels := channels }
  frames : ∀ number, after.widget.framesOn number = before.widget.framesOn number
  gating : ∀ id, (after.view.control id).gating = (before.view.control id).gating
  others : ∀ id, id ≠ before.widget.controls.response → after.view.control id = before.view.control id
  response : (after.view.control before.widget.controls.response).value =
    (before.view.control before.widget.controls.response).value ++ String.join (texts.map (· ++ "\n"))

theorem Panel.Rests.of_control {before after : Panel Memory}
    (widget : ∃ outlet channels, after.widget = { before.widget with outlet := outlet, channels := channels })
    (frames : ∀ number, after.widget.framesOn number = before.widget.framesOn number)
    (control : ∀ id, after.view.control id = before.view.control id) : before.Rests [] after where
  widget := widget
  frames := frames
  gating id := by rw [control]
  others id _ := control id
  response := by rw [control, List.map_nil, String.join_nil, String.append_empty]

theorem Panel.Rests.refl (panel : Panel Memory) : panel.Rests [] panel :=
  .of_control ⟨_, _, rfl⟩ (fun _ => rfl) fun _ => rfl

theorem Panel.Rests.trans {first second third : Panel Memory} {texts more : List String}
    (left : first.Rests texts second) (right : second.Rests more third) :
    first.Rests (texts ++ more) third := by
  obtain ⟨outlet, channels, same⟩ := left.widget
  obtain ⟨nextOutlet, nextChannels, next⟩ := right.widget
  have named : second.widget.controls = first.widget.controls := by rw [same]
  have others := right.others
  have response := right.response
  rw [named] at others response
  refine ⟨⟨nextOutlet, nextChannels, by rw [next, same]⟩, fun number => ?_, fun id => ?_, fun id apart => ?_, ?_⟩
  · rw [right.frames, left.frames]
  · rw [right.gating, left.gating]
  · rw [others id apart, left.others id apart]
  · rw [response, left.response, List.map_append, String.join_append, String.append_assoc]

/-- After a connection is closed, a session can do nothing to its panel but show messages. -/
theorem Panel.Gated.step_closed {panel : Panel Memory} (gated : panel.Gated)
    (closed : panel.widget.phase = .closed) {action : Widget.Action} (indirect : action.isDirect = false) :
    panel.Rests action.text?.toList (panel.step action) := by
  have apart : panel.widget.phase ≠ .opened := by rw [closed]; decide
  have frames (number : Nat) :
      (panel.step action).widget.framesOn number = panel.widget.framesOn number := by
    rw [panel.step_framesOn indirect, queuedOn, List.filterMap_cons, gated.queued?_idle apart action]
    exact List.append_nil _
  cases action with
  | attach | reattach | detach | dropReceiver => exact .of_control ⟨_, _, rfl⟩ frames fun _ => rfl
  | send | submit => cases indirect
  | dispatch event =>
    obtain ⟨-, same⟩ := gated.dispatch_idle apart event
    rw [same]
    exact .refl panel
  | failed failure =>
    rw [panel.step_failed] at frames ⊢
    exact .of_control ⟨_, _, rfl⟩ frames fun _ => rfl
  | opened now =>
    have late : panel.widget.phase ≠ .connecting := by rw [closed]; decide
    rw [Panel.step_opened_again late]
    exact .refl panel
  | closed now =>
    rw [panel.step_closed] at frames ⊢
    refine .of_control ⟨panel.widget.outlet, panel.widget.channels, if_pos closed⟩ frames fun id => ?_
    rw [Memory.control_gate]
    split
    · rename_i member
      exact if_pos (gated.disabled apart member)
    · rfl
  | received text =>
    rw [panel.step_received] at frames ⊢
    refine ⟨⟨_, _, rfl⟩, frames, (panel.view.written_message _ _).gating, fun id apart => ?_, ?_⟩
    · simp only [Memory.view_perform, Memory.perform, Memory.control_put, if_neg apart]
    · simp only [Memory.view_perform, Memory.perform, Memory.control_put, if_true, Widget.Action.text?,
        Option.toList_some, List.map_cons, List.map_nil, String.join_cons, String.join_nil, String.append_empty]

theorem Panel.Gated.run_closed {panel : Panel Memory} (gated : panel.Gated)
    (closed : panel.widget.phase = .closed) {actions : List Widget.Action}
    (indirect : ∀ action ∈ actions, action.isDirect = false) :
    panel.Rests (actions.filterMap Widget.Action.text?) (panel.run actions) := by
  induction actions generalizing panel with
  | nil => exact .refl panel
  | cons action rest ih =>
    have first := gated.step_closed closed (indirect action List.mem_cons_self)
    have later := ih (gated.step action) (Panel.run_closed closed [action])
      fun next member => indirect next (List.mem_cons_of_mem action member)
    have both := first.trans later
    rw [List.filterMap_cons]
    cases text : action.text? with
    | none =>
      rw [text] at both
      exact both
    | some shown =>
      rw [text] at both
      exact both

end RelayConsole
