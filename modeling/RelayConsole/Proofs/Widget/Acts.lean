import RelayConsole.Proofs.View.Gate

namespace RelayConsole

variable {V : Type} [View V]

/-- The widget once its connection is over; only the first end leaves a mark. -/
def Widget.shut (widget : Widget) (now : Int) : Widget :=
  if widget.phase = .closed then widget else { widget with phase := .closed, closedAt := some now }

/-- The widget once its connection is there; that is of interest only to one that waits for it. -/
def Widget.live (widget : Widget) (now : Int) : Widget :=
  if widget.phase = .connecting then { widget with phase := .opened, openedAt := some now } else widget

@[simp]
theorem Widget.shut_controls (widget : Widget) (now : Int) : (widget.shut now).controls = widget.controls := by
  unfold shut
  split <;> rfl

@[simp]
theorem Widget.shut_outlet (widget : Widget) (now : Int) : (widget.shut now).outlet = widget.outlet := by
  unfold shut
  split <;> rfl

@[simp]
theorem Widget.shut_phase (widget : Widget) (now : Int) : (widget.shut now).phase = .closed := by
  unfold shut
  split
  · assumption
  · rfl

@[simp]
theorem Widget.live_controls (widget : Widget) (now : Int) : (widget.live now).controls = widget.controls := by
  unfold live
  split <;> rfl

@[simp]
theorem Widget.live_outlet (widget : Widget) (now : Int) : (widget.live now).outlet = widget.outlet := by
  unfold live
  split <;> rfl

/-- The frame that an event asks to send: none if its control is disabled or it is about something else.
What is typed last is read back, since a view may make something else of it. -/
def Widget.frame? (widget : Widget) (view : V) (event : Widget.Event) : Option String :=
  if View.isDisabled view (event.target widget.controls) then none
  else
    match event with
    | .setPath _ => none
    | .setRequest _ => none
    | .click => some (View.value view widget.controls.request)
    | .submit text =>
      some (View.value (View.perform view (.setValue widget.controls.request text)) widget.controls.request)

/-- A frame is taken exactly by an attached channel on which somebody receives. -/
theorem Widget.transmit_ok {widget after : Widget} {frame : String} :
    widget.transmit frame = .ok after ↔
      ∃ number channel, widget.outlet = some number ∧ widget.channels[number]? = some channel ∧
        channel.receiving = true ∧
        after = { widget with
          channels := widget.channels.set number { channel with frames := channel.frames ++ [frame] } } := by
  constructor
  · intro sent
    unfold transmit at sent
    split at sent
    · cases sent
    · rename_i number outlet
      split at sent
      · cases sent
      · rename_i taken found
        obtain ⟨channel, present, accepted⟩ := Option.bind_eq_some_iff.mp found
        simp only [Channel.send?, Option.ite_none_right_eq_some, Option.some.injEq] at accepted
        obtain ⟨receiving, rfl⟩ := accepted
        exact ⟨number, channel, outlet, present, receiving, (Except.ok.inj sent).symm⟩
  · rintro ⟨number, channel, outlet, present, receiving, rfl⟩
    simp only [transmit, outlet, present, Option.bind_some, Channel.send?, receiving, if_true]

theorem Widget.send_result (widget : Widget) (view : V) :
    (widget.send.play view).result =
      match widget.transmit (View.value view widget.controls.request) with
      | .error failure => (widget, .error failure)
      | .ok after => (after, .ok ()) := by
  simp only [send, Dialogue.play]
  cases widget.transmit (View.value view widget.controls.request) <;> rfl

/-- The request is cleared only once its text was taken as a frame. -/
theorem Widget.send_view (widget : Widget) (view : V) :
    (widget.send.play view).view =
      match widget.transmit (View.value view widget.controls.request) with
      | .error _ => view
      | .ok _ => View.perform view (.setValue widget.controls.request "") := by
  simp only [send, Dialogue.play]
  cases widget.transmit (View.value view widget.controls.request) <;> rfl

theorem Widget.dispatch_result (widget : Widget) (event : Widget.Event) (view : V) :
    ((widget.act (.dispatch event)).play view).result =
      match widget.frame? view event with
      | none => (widget, .ok ())
      | some frame =>
        match widget.transmit frame with
        | .error failure => (widget, .error failure)
        | .ok after => (after, .ok ()) := by
  simp only [act, dispatch, Dialogue.play, frame?]
  cases disabled : View.isDisabled view (event.target widget.controls) with
  | true => simp only [if_true, Dialogue.play]
  | false =>
    cases event with
    | setPath text => rfl
    | setRequest text => rfl
    | click => exact widget.send_result view
    | submit text => exact widget.send_result _

theorem Widget.dispatch_widget (widget : Widget) (event : Widget.Event) (view : V) :
    ∃ channels, ((widget.act (.dispatch event)).play view).result.1 = { widget with channels := channels } := by
  rw [widget.dispatch_result]
  split
  · exact ⟨_, rfl⟩
  · split
    · exact ⟨_, rfl⟩
    · rename_i sent
      obtain ⟨_, _, _, _, _, same⟩ := Widget.transmit_ok.mp sent
      exact ⟨_, same⟩

/-- What an event makes of the view. A frame that nobody takes leaves what is typed. -/
theorem Widget.dispatch_view (widget : Widget) (event : Widget.Event) (view : V) :
    ((widget.act (.dispatch event)).play view).view =
      if View.isDisabled view (event.target widget.controls) then view
      else
        let typed := match event with
          | .setPath text => View.perform view (.setValue widget.controls.path text)
          | .setRequest text => View.perform view (.setValue widget.controls.request text)
          | .click => view
          | .submit text => View.perform view (.setValue widget.controls.request text)
        match widget.frame? view event with
        | none => typed
        | some frame =>
          match widget.transmit frame with
          | .error _ => typed
          | .ok _ => View.perform typed (.setValue widget.controls.request "") := by
  simp only [act, dispatch, Dialogue.play, frame?]
  cases disabled : View.isDisabled view (event.target widget.controls) with
  | true => simp only [if_true, Dialogue.play]
  | false =>
    cases event with
    | setPath text => rfl
    | setRequest text => rfl
    | click => exact widget.send_view view
    | submit text => exact widget.send_view _

theorem Widget.dispatch_disabled {widget : Widget} {event : Widget.Event} {view : V}
    (disabled : View.isDisabled view (event.target widget.controls) = true) :
    ((widget.act (.dispatch event)).play view).result = (widget, .ok ()) ∧
      ((widget.act (.dispatch event)).play view).view = view := by
  have silent : widget.frame? view event = none := by simp only [frame?, disabled, if_true]
  constructor
  · rw [widget.dispatch_result, silent]
  · rw [widget.dispatch_view, if_pos disabled]

theorem Widget.Event.target_mem_gated (event : Widget.Event) (controls : Controls) :
    event.target controls ∈ controls.gated := by
  cases event <;> simp [target, Controls.gated]

theorem Widget.play_opened (widget : Widget) (now : Int) (view : V) :
    ((widget.act (.opened now)).play view).result = (widget.live now, .ok ()) ∧
      ((widget.act (.opened now)).play view).view =
        if widget.phase = .connecting then View.gate view false widget.controls.gated else view := by
  by_cases waits : widget.phase = .connecting
  · simp only [act, onOpen, live, if_pos waits, Dialogue.play_bind, Dialogue.play_say, Dialogue.play_pure,
      Dialogue.play_setDisabled_view, and_self]
  · simp only [act, onOpen, live, if_neg waits, Dialogue.play_bind, Dialogue.play_say, Dialogue.play_pure,
      and_self]

theorem Widget.play_closed (widget : Widget) (now : Int) (view : V) :
    ((widget.act (.closed now)).play view).result = (widget.shut now, .ok ()) ∧
      ((widget.act (.closed now)).play view).view = View.gate view true widget.controls.gated := by
  by_cases closed : widget.phase = .closed
  · simp only [act, onClose, shut, if_pos closed, Dialogue.play_bind, Dialogue.play_pure,
      Dialogue.play_setDisabled_view, and_self]
  · simp only [act, onClose, shut, if_neg closed, Dialogue.play_bind, Dialogue.play_say, Dialogue.play_pure,
      Dialogue.play_setDisabled_view, and_self]

theorem Widget.play_received (widget : Widget) (text : String) (view : V) :
    ((widget.act (.received text)).play view).result = (widget, .ok ()) ∧
      ((widget.act (.received text)).play view).view =
        View.perform (View.perform view (.appendValue widget.controls.response (text ++ "\n")))
          (.scrollToEnd widget.controls.response) := by
  simp only [act, onMessage, Dialogue.play_bind, Dialogue.play_say, Dialogue.play_command, Dialogue.play_pure,
    and_self]

theorem Widget.play_failed (widget : Widget) (failure : Failure) (view : V) :
    ((widget.act (.failed failure)).play view).result = (widget, .ok ()) ∧
      ((widget.act (.failed failure)).play view).view = View.perform view (.alert failure.alertText) := by
  simp only [act, onFailure, Dialogue.play_bind, Dialogue.play_say, Dialogue.play_command, Dialogue.play_pure,
    and_self]

theorem Widget.play_start (name : String) (controls : Controls) (view : V) :
    ((start name controls).play view).result = { name, controls } ∧
      ((start name controls).play view).view = View.gate view true controls.gated := by
  simp only [start, Dialogue.play_bind, Dialogue.play_pure, Dialogue.play_setDisabled_view, and_self]

end RelayConsole
