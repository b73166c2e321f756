import Mathlib.Data.List.Basic
import RelayConsole.Panel
import RelayConsole.Proofs.View.Typing
import RelayConsole.Proofs.Widget.Desk

namespace RelayConsole

/-- The widget once a frame was sent on one of its channels. -/
def Widget.posted (widget : Widget) (number : Nat) (frame : String) : Widget :=
  { widget with
    channels := widget.channels.modify number fun channel =>
      { channel with frames := channel.frames ++ [frame] } }

/-- A frame is refused for want of a channel or of somebody who receives on it, and is sent otherwise. -/
theorem Widget.transmit_eq (widget : Widget) (frame : String) :
    widget.transmit frame =
      match widget.outlet with
      | none => .error .notConnected
      | some number =>
        if widget.isReceived then .ok (widget.posted number frame) else .error (.sending "channel closed") := by
  cases attached : widget.outlet with
  | none => simp only [transmit, attached]
  | some number =>
    cases present : widget.channels[number]? with
    | none => simp [transmit, isReceived, attached, present]
    | some channel =>
      have changed : (widget.posted number frame).channels =
          widget.channels.set number { channel with frames := channel.frames ++ [frame] } := by
        rw [posted, List.modify_eq_set_getElem?, present]
        rfl
      cases receiving : channel.receiving with
      | false => simp [transmit, isReceived, attached, present, Channel.send?, receiving]
      | true =>
        have received : widget.isReceived = true := by simp [isReceived, attached, present, receiving]
        simp only [received, if_true, Widget.transmit_ok]
        exact ⟨number, channel, attached, present, receiving, by rw [← changed]; rfl⟩

/-- What sending a frame comes to. Where nobody receives it, it fails and the widget stays as it is, and what is to
be kept of the view is kept. Otherwise the frame is the last one on the attached channel, and the request is
cleared; nothing else changes. -/
structure Panel.Posts {V : Type} [View V] (typed : V → String → String → V → Prop) (panel : Panel V)
    (action : Widget.Action) (frame : String) (kept : V → Prop) : Prop where
  notConnected : panel.outcome action = .error .notConnected ↔ panel.widget.outlet = none
  closed : panel.outcome action = .error (.sending "channel closed") ↔
    panel.widget.outlet ≠ none ∧ panel.widget.isReceived = false
  ok : panel.outcome action = .ok () ↔ panel.widget.isReceived = true
  refused : panel.widget.isReceived = false →
    (panel.step action).widget = panel.widget ∧ kept (panel.step action).view
  sent : panel.widget.isReceived = true →
    ∃ number, panel.widget.outlet = some number ∧
      (panel.step action).widget = panel.widget.posted number frame ∧
      typed panel.view panel.widget.controls.request "" (panel.step action).view

/-- The text that an event asks to send, given what is typed as request. -/
def Widget.Event.toSend? (request : String) : Widget.Event → Option String
  | .setPath _ | .setRequest _ => none
  | .click => some request
  | .submit text => some text

section Posts

variable {V : Type} [View V] {typed : V → String → String → V → Prop}

theorem Panel.send_refused {panel : Panel V} {failure : Failure}
    (refused : panel.widget.transmit (View.value panel.view panel.widget.controls.request) = .error failure) :
    panel.outcome .send = .error failure ∧ panel.step .send = panel := by
  have result := panel.widget.send_result panel.view
  have view := panel.widget.send_view panel.view
  rw [refused] at result view
  refine ⟨congrArg Prod.snd result, ?_⟩
  change Panel.mk (panel.widget.send.play panel.view).result.1 (panel.widget.send.play panel.view).view = panel
  rw [result, view]

theorem Panel.send_accepted {panel : Panel V} {after : Widget}
    (accepted : panel.widget.transmit (View.value panel.view panel.widget.controls.request) = .ok after) :
    panel.outcome .send = .ok () ∧
      panel.step .send = ⟨after, View.perform panel.view (.setValue panel.widget.controls.request "")⟩ := by
  have result := panel.widget.send_result panel.view
  have view := panel.widget.send_view panel.view
  rw [accepted] at result view
  refine ⟨congrArg Prod.snd result, ?_⟩
  change Panel.mk (panel.widget.send.play panel.view).result.1 (panel.widget.send.play panel.view).view = _
  rw [result, view]

theorem Panel.posts_send (typing : View.Typing typed) (panel : Panel V) :
    panel.Posts typed .send (View.value panel.view panel.widget.controls.request) (· = panel.view) := by
  have transmitted := panel.widget.transmit_eq (View.value panel.view panel.widget.controls.request)
  cases attached : panel.widget.outlet with
  | none =>
    have unreceived : panel.widget.isReceived = false := by
      rw [Widget.isReceived, attached, Option.bind_none, Option.any_none]
    rw [attached] at transmitted
    obtain ⟨told, same⟩ := Panel.send_refused transmitted
    constructor <;> simp [told, same, attached, unreceived]
  | some number =>
    rw [attached] at transmitted
    cases received : panel.widget.isReceived with
    | false =>
      simp only [received, Bool.false_eq_true, if_false] at transmitted
      obtain ⟨told, same⟩ := Panel.send_refused transmitted
      constructor <;> simp [told, same, attached, received]
    | true =>
      simp only [received, if_true] at transmitted
      obtain ⟨told, after⟩ := Panel.send_accepted transmitted
      have cleared := typing.setValue panel.view panel.widget.controls.request ""
      constructor <;> simp [told, after, attached, received, cleared]

/-- Typing a request and sending it is sending from the view on which it is typed. -/
theorem Panel.posts_submit [View.ReadsBack V] (typing : View.Typing typed) (panel : Panel V) (text : String) :
    panel.Posts typed (.submit text) text (typed panel.view panel.widget.controls.request text) := by
  let ready : Panel V :=
    { panel with view := View.perform panel.view (.setValue panel.widget.controls.request text) }
  have typedText : typed panel.view panel.widget.controls.request text ready.view :=
    typing.setValue panel.view panel.widget.controls.request text
  have posts := ready.posts_send typing
  rw [View.ReadsBack.value_setValue] at posts
  refine ⟨posts.notConnected, posts.closed, posts.ok, fun unreceived => ?_, fun received => ?_⟩
  · obtain ⟨widget, view⟩ := posts.refused unreceived
    refine ⟨widget, ?_⟩
    change typed panel.view panel.widget.controls.request text (ready.step .send).view
    rw [view]
    exact typedText
  · obtain ⟨number, attached, widget, view⟩ := posts.sent received
    exact ⟨number, attached, widget, typing.again typedText view⟩

theorem Panel.Posts.keep {panel : Panel V} {action : Widget.Action} {frame : String} {kept more : V → Prop}
    (posts : panel.Posts typed action frame kept) (keeps : ∀ view, kept view → more view) :
    panel.Posts typed action frame more :=
  ⟨posts.notConnected, posts.closed, posts.ok,
    fun unreceived => (posts.refused unreceived).imp_right (keeps _), posts.sent⟩

theorem Panel.Posts.of_act {panel : Panel V} {action other : Widget.Action} {frame : String} {kept : V → Prop}
    (posts : panel.Posts typed action frame kept) (same : panel.act other = panel.act action) :
    panel.Posts typed other frame kept := by
  have told : panel.outcome other = panel.outcome action := congrArg (·.result.2) same
  have stepped : panel.step other = panel.step action :=
    congrArg (fun ending => Panel.mk ending.result.1 ending.view) same
  refine ⟨?_, ?_, ?_, ?_, ?_⟩
  · rw [told]
    exact posts.notConnected
  · rw [told]
    exact posts.closed
  · rw [told]
    exact posts.ok
  · rw [stepped]
    exact posts.refused
  · rw [stepped]
    exact posts.sent

/-- An event on an enabled control that asks to send leaves its text in the request if it fails. -/
theorem Panel.posts_dispatch [View.ReadsBack V] (typing : View.Typing typed) (panel : Panel V)
    {event : Widget.Event} {text : String}
    (enabled : View.isDisabled panel.view (event.target panel.widget.controls) = false)
    (asked : event.toSend? (View.value panel.view panel.widget.controls.request) = some text) :
    panel.Posts typed (.dispatch event) text (typed panel.view panel.widget.controls.request text) := by
  have played : panel.act (.dispatch event) = (panel.widget.apply event).play panel.view := by
    simp only [act, Widget.act, Widget.dispatch, Dialogue.play, enabled, Bool.false_eq_true, if_false]
  cases event with
  | setPath | setRequest => cases asked
  | click =>
    obtain rfl := Option.some.inj asked
    have untouched : ∀ view, view = panel.view →
        typed panel.view panel.widget.controls.request (View.value panel.view panel.widget.controls.request) view := by
      rintro view rfl
      exact typing.same panel.view panel.widget.controls.request
    exact ((panel.posts_send typing).keep untouched).of_act played
  | submit given =>
    obtain rfl := Option.some.inj asked
    exact (panel.posts_submit typing given).of_act played

theorem Panel.dispatch_silent {panel : Panel V} {event : Widget.Event} {request : String}
    (silent : event.toSend? request = none) : panel.outcome (.dispatch event) = .ok () := by
  cases event with
  | setPath text | setRequest text =>
    simp only [outcome, act, Widget.act, Widget.dispatch, Dialogue.play]
    split <;> rfl
  | click | submit => cases silent

end Posts

/-- Sending is all or nothing, on both kinds of page and in every state of the widget. -/
theorem Panel.sending_is_all_or_nothing :
    (∀ panel : Panel Memory,
      let request := panel.widget.controls.request
      panel.Posts Memory.Typed .send (View.value panel.view request) (· = panel.view) ∧
        ∀ text, panel.Posts Memory.Typed (.submit text) text (panel.view.Typed request text)) ∧
      ∀ {S : Type} [Sink S] (panel : Panel (Terminal S)),
        let request := panel.widget.controls.request
        panel.Posts Terminal.Typed .send (View.value panel.view request) (· = panel.view) ∧
          ∀ text, panel.Posts Terminal.Typed (.submit text) text (panel.view.Typed request text) :=
  ⟨fun panel => ⟨panel.posts_send Memory.typing, panel.posts_submit Memory.typing⟩,
    fun panel => ⟨panel.posts_send Terminal.typing, panel.posts_submit Terminal.typing⟩⟩

end RelayConsole
