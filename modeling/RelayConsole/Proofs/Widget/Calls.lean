import RelayConsole.Proofs.View.Related
import RelayConsole.Proofs.Widget.Acts

namespace RelayConsole

/-- What an action may ask of a view: each control in its role, the response only for a message and a
notice only after a failure. -/
def Widget.Action.MayCall (controls : Controls) (action : Widget.Action) : View.Call → Prop
  | .isDisabled id => id ∈ controls.gated
  | .value id => id = controls.request
  | .command (.setDisabled id _) => id ∈ controls.gated
  | .command (.setValue id _) => id = controls.path ∨ id = controls.request
  | .command (.appendValue id _) => id = controls.response ∧ ∃ text, action = .received text
  | .command (.scrollToEnd id) => id = controls.response ∧ ∃ text, action = .received text
  | .command (.alert _) => ∃ failure, action = .failed failure

theorem Widget.start_within {allowed : View.Call → Prop} (name : String) {controls : Controls}
    (may : ∀ id ∈ controls.gated, allowed (.command (.setDisabled id true))) :
    (start name controls).Within allowed :=
  (Dialogue.within_setDisabled may).bind fun _ => Dialogue.within_pure _

theorem Widget.send_within (widget : Widget) (action : Widget.Action) :
    widget.send.Within (action.MayCall widget.controls) := by
  refine ⟨rfl, fun request => ?_⟩
  dsimp only
  split
  · trivial
  · exact ⟨Or.inr rfl, trivial⟩

theorem Widget.submit_within (widget : Widget) (text : String) (action : Widget.Action) :
    (widget.submit text).Within (action.MayCall widget.controls) :=
  ⟨Or.inr rfl, widget.send_within action⟩

theorem Widget.dispatch_within (widget : Widget) (event : Widget.Event) (action : Widget.Action) :
    (widget.dispatch event).Within (action.MayCall widget.controls) := by
  refine ⟨event.target_mem_gated widget.controls, fun disabled => ?_⟩
  cases disabled with
  | true => trivial
  | false =>
    cases event with
    | setPath text => exact ⟨Or.inl rfl, trivial⟩
    | setRequest text => exact ⟨Or.inr rfl, trivial⟩
    | click => exact widget.send_within action
    | submit text => exact widget.submit_within text action

/-- Whatever happens to a widget, it asks its view for nothing beyond the roles of its controls. -/
theorem Widget.act_within (widget : Widget) (action : Widget.Action) :
    (widget.act action).Within (action.MayCall widget.controls) := by
  have gating (disabled : Bool) :
      (Dialogue.setDisabled disabled widget.controls.gated).Within (action.MayCall widget.controls) :=
    Dialogue.within_setDisabled fun _ member => member
  cases action with
  | attach | reattach | detach | dropReceiver => trivial
  | send => exact widget.send_within _
  | submit text => exact widget.submit_within text _
  | dispatch event => exact widget.dispatch_within event _
  | opened now =>
    refine Dialogue.Within.bind ?_ fun _ => Dialogue.within_pure _
    unfold onOpen
    split
    · exact (gating false).bind fun _ => (Dialogue.within_say _).bind fun _ => Dialogue.within_pure _
    · exact (Dialogue.within_say _).bind fun _ => Dialogue.within_pure _
  | closed now =>
    refine Dialogue.Within.bind ?_ fun _ => Dialogue.within_pure _
    refine (gating true).bind fun _ => ?_
    split
    · exact Dialogue.within_pure _
    · exact (Dialogue.within_say _).bind fun _ => Dialogue.within_pure _
  | received text =>
    have message : (widget.onMessage text).Within ((Action.received text).MayCall widget.controls) :=
      (Dialogue.within_say _).bind fun _ =>
        (Dialogue.within_command ⟨rfl, text, rfl⟩).bind fun _ => Dialogue.within_command ⟨rfl, text, rfl⟩
    exact message.bind fun _ => Dialogue.within_pure _
  | failed failure =>
    have notice : (widget.onFailure failure).Within ((Action.failed failure).MayCall widget.controls) :=
      (Dialogue.within_say _).bind fun _ => Dialogue.within_command ⟨failure, rfl⟩
    exact notice.bind fun _ => Dialogue.within_pure _

end RelayConsole
