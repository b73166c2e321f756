import RelayConsole.Proofs.View.Course
import RelayConsole.Proofs.Widget.Calls

namespace RelayConsole

/-- What can become of a new widget, with the actions that befell it and all calls that it made to its view, each
with the action that it was made for; those of its making are for none. The view may be anything: the widget knows
of it what it is answered, and any answer is a way to go on. -/
inductive Widget.Reach (name : String) (controls : Controls) :
    List Widget.Action → List (Option Widget.Action × View.Call) → Widget → Prop
  | start {calls : List View.Call} {widget : Widget} (course : (Widget.start name controls).Course calls widget) :
      Reach name controls [] (calls.map fun call => (none, call)) widget
  | next {actions : List Widget.Action} {made : List (Option Widget.Action × View.Call)} {widget after : Widget}
      {calls : List View.Call} {outcome : Except Failure Unit} (before : Reach name controls actions made widget)
      (action : Widget.Action) (course : (widget.act action).Course calls (after, outcome)) :
      Reach name controls (actions ++ [action]) (made ++ calls.map fun call => (some action, call)) after

section Controls

theorem Widget.start_yields (name : String) (controls : Controls) :
    (start name controls).Yields fun widget => widget.controls = controls :=
  (Dialogue.yields_any _).bind fun _ _ => rfl

theorem Widget.send_yields (widget : Widget) :
    widget.send.Yields fun result => result.1.controls = widget.controls := by
  intro request
  dsimp only
  split
  · rfl
  · rename_i sent
    obtain ⟨_, _, _, _, _, rfl⟩ := Widget.transmit_ok.mp sent
    rfl

theorem Widget.dispatch_yields (widget : Widget) (event : Widget.Event) :
    (widget.dispatch event).Yields fun result => result.1.controls = widget.controls := by
  intro disabled
  cases disabled with
  | true => rfl
  | false =>
    cases event with
    | setPath | setRequest => rfl
    | click | submit => exact widget.send_yields

theorem Widget.onOpen_yields (widget : Widget) (now : Int) :
    (widget.onOpen now).Yields fun after => after.controls = widget.controls := by
  unfold onOpen
  split
  · exact (Dialogue.yields_any _).bind fun _ _ => (Dialogue.yields_any _).bind fun _ _ => rfl
  · exact (Dialogue.yields_any _).bind fun _ _ => rfl

theorem Widget.onClose_yields (widget : Widget) (now : Int) :
    (widget.onClose now).Yields fun after => after.controls = widget.controls := by
  refine (Dialogue.yields_any _).bind fun _ _ => ?_
  split
  · rfl
  · exact (Dialogue.yields_any _).bind fun _ _ => rfl

/-- Whatever happens to a widget and whatever its view says to that, it keeps its controls. -/
theorem Widget.act_yields (widget : Widget) (action : Widget.Action) :
    (widget.act action).Yields fun result => result.1.controls = widget.controls := by
  cases action with
  | attach | reattach | detach | dropReceiver => rfl
  | send => exact widget.send_yields
  | submit text => exact widget.send_yields
  | dispatch event => exact widget.dispatch_yields event
  | opened now => exact (widget.onOpen_yields now).bind fun _ kept => kept
  | closed now => exact (widget.onClose_yields now).bind fun _ kept => kept
  | received | failed => exact (Dialogue.yields_any _).bind fun _ _ => rfl

end Controls

section Roles

variable {name : String} {controls : Controls} {actions : List Widget.Action}
  {made : List (Option Widget.Action × View.Call)} {widget : Widget}

theorem Widget.Reach.keeps_controls (reach : Widget.Reach name controls actions made widget) :
    widget.controls = controls := by
  induction reach with
  | start course => exact course.yielded (Widget.start_yields name controls)
  | @next _ _ widget _ _ _ _ action course ih => exact (course.yielded (widget.act_yields action)).trans ih

/-- In its making a widget disables its controls and asks nothing. -/
theorem Widget.Reach.made_start (reach : Widget.Reach name controls actions made widget) {call : View.Call}
    (member : (none, call) ∈ made) : ∃ id ∈ controls.gated, call = .command (.setDisabled id true) := by
  induction reach with
  | @start calls _ course =>
    have disables : ∀ call ∈ calls, ∃ id ∈ controls.gated, call = .command (.setDisabled id true) :=
      course.allowed (Widget.start_within name fun id inside => ⟨id, inside, rfl⟩)
    obtain ⟨asked, within, same⟩ := List.mem_map.mp member
    obtain rfl := congrArg Prod.snd same
    exact disables asked within
  | next _ action _ ih =>
    rcases List.mem_append.mp member with earlier | here
    · exact ih earlier
    · obtain ⟨_, _, same⟩ := List.mem_map.mp here
      cases congrArg Prod.fst same

/-- Each call that a widget makes for an action is one that the action may make by the roles of the controls that
it was made with, since no action replaces them. -/
theorem Widget.Reach.made_action (reach : Widget.Reach name controls actions made widget) {action : Widget.Action}
    {call : View.Call} (member : (some action, call) ∈ made) : action ∈ actions ∧ action.MayCall controls call := by
  induction reach with
  | start course =>
    obtain ⟨_, _, same⟩ := List.mem_map.mp member
    cases congrArg Prod.fst same
  | @next _ _ widget _ _ _ before last course ih =>
    rcases List.mem_append.mp member with earlier | here
    · exact ⟨List.mem_append_left _ (ih earlier).1, (ih earlier).2⟩
    · obtain ⟨asked, within, same⟩ := List.mem_map.mp here
      obtain rfl := Option.some.inj (congrArg Prod.fst same)
      obtain rfl := congrArg Prod.snd same
      have may := course.allowed (widget.act_within last) asked within
      rw [before.keeps_controls] at may
      exact ⟨List.mem_append_right _ (List.mem_singleton_self last), may⟩

/-- Whether a widget is made or something happens to it, it calls for nothing beyond the roles of its controls. -/
theorem Widget.Reach.roles (reach : Widget.Reach name controls actions made widget) {call : View.Call}
    (member : call ∈ made.map Prod.snd) : ∃ action : Widget.Action, action.MayCall controls call := by
  obtain ⟨⟨maker, _⟩, within, rfl⟩ := List.mem_map.mp member
  cases maker with
  | none =>
    obtain ⟨id, inside, rfl⟩ := reach.made_start within
    exact ⟨.attach, inside⟩
  | some action => exact ⟨action, (reach.made_action within).2⟩

end Roles

end RelayConsole
