import RelayConsole.Proofs.View.Carried
import RelayConsole.Session.Basic

namespace RelayConsole

variable {V W : Type}

/-- The same session over another view. -/
def Session.carry (carry : V → W) (session : Session V) : Session W :=
  { session with view := carry session.view }

variable [View V] [View W] {carry : V → W}

section Turns

variable (carries : View.Carries carry) (session : Session V)

include carries

theorem Session.act_carry (action : Widget.Action) :
    (session.carry carry).act action = ((session.act action).1.carry carry, (session.act action).2) := by
  simp only [act, Session.carry, Dialogue.play_carry carries]

theorem Session.dispatch_carry (event : Widget.Event) :
    (session.carry carry).dispatch event = (session.dispatch event).carry carry := by
  rw [dispatch, dispatch, session.act_carry carries]
  obtain ⟨after, outcome⟩ := session.act (.dispatch event)
  cases outcome <;> rfl

theorem Session.giveUp_carry (failure : Failure) :
    (session.carry carry).giveUp failure = (session.giveUp failure).carry carry := by
  rw [giveUp, giveUp, session.act_carry carries]
  rfl

theorem Session.begin_carry (status : Nat) (now : Int) :
    (session.carry carry).begin status now = (session.begin status now).carry carry := by
  let told := session.say .debug ("Handshake completed with status " ++ Transport.statusText status)
  have ready : (told.carry carry).act .attach = _ := told.act_carry carries .attach
  have opened := (told.act .attach).1.act_carry carries (.opened now)
  change { (((told.carry carry).act .attach).1.act (.opened now)).1 with
    stage := .relaying, writer := some { channel := session.widget.channels.length } } = _
  rw [ready, opened]
  rfl

theorem Session.attempt_carry : (session.carry carry).attempt = session.attempt.carry carry := by
  have same : (session.carry carry).config.prepare = session.config.prepare := rfl
  rw [Session.attempt, Session.attempt, same]
  cases session.config.prepare with
  | error failure => exact session.giveUp_carry carries failure
  | ok url => rfl

theorem Session.wait_carry (attempt : Session.Attempt) (now : Int) :
    (session.carry carry).wait attempt now = (session.wait attempt now).carry carry := by
  obtain ⟨config, widget, view, stage, events, gone, items, writer, log⟩ := session
  cases events with
  | cons event rest =>
    exact Session.dispatch_carry carries ⟨config, widget, view, stage, rest, gone, items, writer, log⟩ event
  | nil =>
    cases gone with
    | true =>
      let session : Session V := ⟨config, widget, view, stage, [], true, items, writer, log⟩
      let told := session.say .info ("Event source gone before connection " ++ widget.name ++ " opened")
      have closed : (told.carry carry).act (.closed now) = _ := told.act_carry carries (.closed now)
      change { ((told.carry carry).act (.closed now)).1 with stage := .finished (.ok ()) } = _
      rw [closed]
      rfl
    | false =>
      cases attempt with
      | idle => exact Session.attempt_carry carries _
      | underWay => rfl
      | settled outcome =>
        cases outcome with
        | error error => exact Session.giveUp_carry carries _ (.ofTransport error)
        | ok status => exact Session.begin_carry carries _ status now

theorem Session.leave_carry (now : Int) :
    (session.carry carry).leave now = (session.leave now).carry carry := by
  rw [leave, leave, session.act_carry carries, (session.act (.closed now)).1.act_carry carries]
  rfl

theorem Session.receive_carry (now : Int) (item : Session.Inbound) :
    (session.carry carry).receive now item = (session.receive now item).carry carry := by
  cases item with
  | text payload =>
    rw [receive, receive, session.act_carry carries]
  | binary | ping | pong => rfl
  | close frame => exact Session.leave_carry carries (session.say .info _) now
  | fault error => exact Session.leave_carry carries (session.say .error _) now
  | ended => exact session.leave_carry carries now

theorem Session.relayEvent_carry (now : Int) :
    (session.carry carry).relayEvent now = (session.relayEvent now).carry carry := by
  obtain ⟨config, widget, view, stage, events, gone, items, writer, log⟩ := session
  cases events with
  | cons event rest =>
    exact Session.dispatch_carry carries ⟨config, widget, view, stage, rest, gone, items, writer, log⟩ event
  | nil =>
    cases gone with
    | true =>
      exact Session.leave_carry carries
        (Session.say ⟨config, widget, view, stage, [], true, items, writer, log⟩ .info _) now
    | false => rfl

theorem Session.relayItem_carry (now : Int) :
    (session.carry carry).relayItem now = (session.relayItem now).carry carry := by
  obtain ⟨config, widget, view, stage, events, gone, items, writer, log⟩ := session
  cases items with
  | cons item rest =>
    exact Session.receive_carry carries ⟨config, widget, view, stage, events, gone, rest, writer, log⟩ now item
  | nil => rfl

theorem Session.turn_carry (eventsFirst : Bool) (now : Int) :
    (session.carry carry).turn eventsFirst now = (session.turn eventsFirst now).carry carry := by
  have relay := session.relayEvent_carry carries now
  have other := session.relayItem_carry carries now
  obtain ⟨config, widget, view, stage, events, gone, items, writer, log⟩ := session
  cases stage with
  | waiting attempt => exact Session.wait_carry carries _ attempt now
  | relaying =>
    simp only [turn, Session.carry, hasEvent] at relay other ⊢
    by_cases chosen : ((!events.isEmpty || gone) && (eventsFirst || items.isEmpty)) = true
    · simpa only [chosen, if_true] using relay
    · simpa only [chosen, Bool.false_eq_true, if_false] using other
  | draining =>
    cases writer with
    | none => rfl
    | some writer =>
      simp only [turn, Session.carry]
      split <;> rfl
  | finished result => rfl

omit [View V] [View W] carries in
theorem Session.write_carry (fault : Option Transport.Error) :
    (session.carry carry).write fault = (session.write fault).carry carry := by
  obtain ⟨config, widget, view, stage, events, gone, items, writer, log⟩ := session
  cases writer with
  | none => rfl
  | some writer =>
    obtain ⟨channel, taken, sent, closings, writerStage⟩ := writer
    cases writerStage with
    | writing =>
      simp only [write, Session.carry, nextFrame?]
      split
      · cases fault <;> rfl
      · by_cases attached : widget.outlet = some channel
        · simp only [attached, if_true]
        · simp only [attached, if_false]
    | closing => cases fault <;> rfl
    | ended => rfl

theorem Session.step_carry (step : Session.Step) :
    (session.carry carry).step step = (session.step step).carry carry := by
  cases step with
  | operator event =>
    obtain ⟨config, widget, view, stage, events, gone, items, writer, log⟩ := session
    cases gone <;> rfl
  | operatorGone | arrive => rfl
  | settle outcome =>
    simp only [Session.step, Session.carry]
    split <;> rfl
  | turn eventsFirst now => exact session.turn_carry carries eventsFirst now
  | write fault => exact session.write_carry fault

end Turns

/-- Whatever happens to a session, it happens in the same way over the other view. -/
theorem Session.run_carry (carries : View.Carries carry) (session : Session V) (steps : List Session.Step) :
    (session.carry carry).run steps = (session.run steps).carry carry := by
  induction steps generalizing session with
  | nil => rfl
  | cons step rest ih =>
    have first := session.step_carry carries step
    calc (session.carry carry).run (step :: rest) = ((session.step step).carry carry).run rest := by
          rw [← first]; rfl
      _ = (session.run (step :: rest)).carry carry := ih (session.step step)

end RelayConsole
