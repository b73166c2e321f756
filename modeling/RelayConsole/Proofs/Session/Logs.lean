import RelayConsole.Proofs.Session.Moves

namespace RelayConsole

variable {V : Type}

def Session.relog (session : Session V) (log : List Log.Line) : Session V :=
  { session with log }

def Session.unlogged (session : Session V) : Session V :=
  session.relog []

theorem Session.eq_relog {session other : Session V} (same : session.unlogged = other.unlogged) :
    session = other.relog session.log :=
  calc session = session.unlogged.relog session.log := rfl
    _ = other.relog session.log := by rw [same]; rfl

section Logs

variable (session : Session V) (log : List Log.Line)

theorem Session.unlogged_write (fault : Option Transport.Error) :
    ((session.relog log).write fault).unlogged = (session.write fault).unlogged := by
  obtain ⟨config, widget, view, stage, events, gone, items, writer, before⟩ := session
  cases writer with
  | none => rfl
  | some writer =>
    obtain ⟨channel, taken, sent, closings, writerStage⟩ := writer
    cases writerStage with
    | writing =>
      simp only [write, relog, nextFrame?]
      split
      · cases fault <;> rfl
      · by_cases attached : widget.outlet = some channel
        · simp only [attached, if_true, unlogged, relog]
        · simp only [attached, if_false, unlogged, relog]
    | closing => cases fault <;> rfl
    | ended => rfl

variable [View V]

theorem Session.unlogged_dispatch (event : Widget.Event) :
    ((session.relog log).dispatch event).unlogged = (session.dispatch event).unlogged := by
  obtain ⟨_, first⟩ := (session.relog log).dispatch_eq event
  obtain ⟨_, second⟩ := session.dispatch_eq event
  rw [first, second]
  rfl

theorem Session.unlogged_leave (now : Int) :
    ((session.relog log).leave now).unlogged = (session.leave now).unlogged := by
  obtain ⟨_, first⟩ := (session.relog log).leave_eq now
  obtain ⟨_, second⟩ := session.leave_eq now
  rw [first, second]
  rfl

theorem Session.unlogged_giveUp (failure : Failure) :
    ((session.relog log).giveUp failure).unlogged = (session.giveUp failure).unlogged := by
  obtain ⟨_, first⟩ := (session.relog log).giveUp_eq failure
  obtain ⟨_, second⟩ := session.giveUp_eq failure
  rw [first, second]
  rfl

theorem Session.unlogged_begin (status : Nat) (now : Int) :
    ((session.relog log).begin status now).unlogged = (session.begin status now).unlogged := by
  obtain ⟨_, first⟩ := (session.relog log).begin_eq status now
  obtain ⟨_, second⟩ := session.begin_eq status now
  rw [first, second]
  rfl

theorem Session.unlogged_attempt : (session.relog log).attempt.unlogged = session.attempt.unlogged := by
  have same : (session.relog log).config.prepare = session.config.prepare := rfl
  cases ready : session.config.prepare with
  | error failure =>
    simp only [Session.attempt, same, ready]
    exact session.unlogged_giveUp log failure
  | ok url =>
    simp only [Session.attempt, same, ready]
    rfl

theorem Session.unlogged_wait (attempt : Session.Attempt) (now : Int) :
    ((session.relog log).wait attempt now).unlogged = (session.wait attempt now).unlogged := by
  obtain ⟨config, widget, view, stage, events, gone, items, writer, before⟩ := session
  cases events with
  | cons event rest =>
    exact Session.unlogged_dispatch ⟨config, widget, view, stage, rest, gone, items, writer, before⟩ log event
  | nil =>
    cases gone with
    | true => rfl
    | false =>
      cases attempt with
      | idle => exact Session.unlogged_attempt _ log
      | underWay => rfl
      | settled outcome =>
        cases outcome with
        | error error => exact Session.unlogged_giveUp _ log (.ofTransport error)
        | ok status => exact Session.unlogged_begin _ log status now

theorem Session.unlogged_receive (now : Int) (item : Session.Inbound) :
    (Session.receive (session.relog log) now item).unlogged = (Session.receive session now item).unlogged := by
  cases item with
  | text | binary | ping | pong => rfl
  | close | fault | ended => exact Session.unlogged_leave _ _ now

theorem Session.unlogged_relayEvent (now : Int) :
    ((session.relog log).relayEvent now).unlogged = (session.relayEvent now).unlogged := by
  obtain ⟨config, widget, view, stage, events, gone, items, writer, before⟩ := session
  cases events with
  | cons event rest =>
    exact Session.unlogged_dispatch ⟨config, widget, view, stage, rest, gone, items, writer, before⟩ log event
  | nil =>
    cases gone with
    | true =>
      exact Session.unlogged_leave
        (Session.say ⟨config, widget, view, stage, [], true, items, writer, before⟩ _ _) (log ++ [_]) now
    | false => rfl

theorem Session.unlogged_relayItem (now : Int) :
    ((session.relog log).relayItem now).unlogged = (session.relayItem now).unlogged := by
  obtain ⟨config, widget, view, stage, events, gone, items, writer, before⟩ := session
  cases items with
  | cons item rest =>
    exact Session.unlogged_receive ⟨config, widget, view, stage, events, gone, rest, writer, before⟩ log now item
  | nil => rfl

theorem Session.unlogged_turn (eventsFirst : Bool) (now : Int) :
    ((session.relog log).turn eventsFirst now).unlogged = (session.turn eventsFirst now).unlogged := by
  have relay := session.unlogged_relayEvent log now
  have other := session.unlogged_relayItem log now
  obtain ⟨config, widget, view, stage, events, gone, items, writer, before⟩ := session
  cases stage with
  | waiting attempt => exact Session.unlogged_wait _ log attempt now
  | relaying =>
    simp only [turn, relog, hasEvent] at relay other ⊢
    by_cases chosen : ((!events.isEmpty || gone) && (eventsFirst || items.isEmpty)) = true
    · simpa only [chosen, if_true] using relay
    · simpa only [chosen, Bool.false_eq_true, if_false] using other
  | draining =>
    cases writer with
    | none => rfl
    | some writer =>
      simp only [turn, relog]
      by_cases ended : writer.stage = .ended
      · simp only [ended, if_true, unlogged, relog]
      · simp only [ended, if_false, unlogged, relog]
  | finished result => rfl

/-- What happens to a session does not depend on what it has logged. -/
theorem Session.unlogged_step (step : Session.Step) :
    ((session.relog log).step step).unlogged = (session.step step).unlogged := by
  cases step with
  | operator event =>
    obtain ⟨config, widget, view, stage, events, gone, items, writer, before⟩ := session
    cases gone <;> rfl
  | operatorGone => rfl
  | settle outcome =>
    simp only [Session.step, relog]
    split <;> rfl
  | arrive item => rfl
  | turn eventsFirst now => exact session.unlogged_turn log eventsFirst now
  | write fault => exact session.unlogged_write log fault

end Logs

theorem Session.unlogged_run [View V] {session other : Session V} (same : session.unlogged = other.unlogged)
    (steps : List Session.Step) : (session.run steps).unlogged = (other.run steps).unlogged := by
  induction steps generalizing session other with
  | nil => exact same
  | cons step rest ih =>
    have alike := other.unlogged_step session.log step
    rw [← Session.eq_relog same] at alike
    exact ih alike

end RelayConsole
