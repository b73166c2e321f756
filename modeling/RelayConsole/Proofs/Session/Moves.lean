import RelayConsole.Proofs.Widget.Acts
import RelayConsole.Session.Basic

namespace RelayConsole

/-- What a session looks at in one of its turns. -/
inductive Session.Taken where
  | event (event : Widget.Event)
  | item (item : Session.Inbound)
  deriving DecidableEq, Repr

def Session.Inbound.text? : Session.Inbound → Option String
  | .text payload => some payload
  | _ => none

def Session.Inbound.isEnd : Session.Inbound → Bool
  | .close _ | .fault _ | .ended => true
  | _ => false

section Looking

variable {V : Type}

def Session.isWaiting (session : Session V) : Bool :=
  match session.stage with
  | .waiting _ => true
  | _ => false

def Session.isRelaying (session : Session V) : Bool :=
  match session.stage with
  | .relaying => true
  | _ => false

def Session.isOver (session : Session V) : Bool :=
  match session.stage with
  | .draining | .finished _ => true
  | _ => false

/-- What a session takes from one of its queues in a step, if anything. -/
def Session.taken? (session : Session V) : Session.Step → Option Session.Taken
  | .turn eventsFirst _ =>
    match session.stage with
    | .waiting _ => session.waitingEvents.head?.map .event
    | .relaying =>
      if session.hasEvent && (eventsFirst || session.waitingItems.isEmpty) then
        session.waitingEvents.head?.map .event
      else session.waitingItems.head?.map .item
    | _ => none
  | _ => none

/-- The event that comes in from the operator in a step; after the operator has left, none does. -/
def Session.sent? (session : Session V) : Session.Step → Option Widget.Event
  | .operator event => if session.sourceGone then none else some event
  | _ => none

theorem Session.isWaiting_iff {session : Session V} :
    session.isWaiting = true ↔ ∃ attempt, session.stage = .waiting attempt := by
  cases stage : session.stage <;> simp [isWaiting, stage]

theorem Session.isRelaying_iff {session : Session V} :
    session.isRelaying = true ↔ session.stage = .relaying := by
  cases stage : session.stage <;> simp [isRelaying, stage]

theorem Session.not_relaying_of_waiting {session : Session V} (waiting : session.isWaiting = true) :
    session.isRelaying = false := by
  cases stage : session.stage <;> simp only [isWaiting, isRelaying, stage, Bool.false_eq_true] at waiting ⊢

theorem Session.taken?_turn {session : Session V} {step : Session.Step} {taken : Session.Taken}
    (took : session.taken? step = some taken) : ∃ eventsFirst now, step = .turn eventsFirst now := by
  cases step with
  | turn eventsFirst now => exact ⟨eventsFirst, now, rfl⟩
  | operator | operatorGone | settle | arrive | write => cases took

theorem Session.taken?_over {session : Session V} (ended : session.isOver = true) (step : Session.Step) :
    session.taken? step = none := by
  cases step with
  | turn eventsFirst now =>
    cases stage : session.stage with
    | draining | finished => simp only [taken?, stage]
    | waiting | relaying => simp only [isOver, stage, Bool.false_eq_true] at ended
  | operator | operatorGone | settle | arrive | write => rfl

theorem Session.taken?_waiting {session : Session V} {step : Session.Step} {taken : Session.Taken}
    (waiting : session.isWaiting = true) (took : session.taken? step = some taken) :
    ∃ event, taken = .event event := by
  obtain ⟨eventsFirst, now, rfl⟩ := session.taken?_turn took
  obtain ⟨attempt, stage⟩ := Session.isWaiting_iff.mp waiting
  simp only [taken?, stage, Option.map_eq_some_iff] at took
  obtain ⟨event, -, same⟩ := took
  exact ⟨event, same.symm⟩

theorem Session.queue_of_idle {session : Session V} {eventsFirst : Bool} {now : Int}
    (waiting : session.isWaiting = true) (idle : session.taken? (.turn eventsFirst now) = none) :
    session.waitingEvents = [] := by
  obtain ⟨attempt, stage⟩ := Session.isWaiting_iff.mp waiting
  simpa only [taken?, stage, Option.map_eq_none_iff, List.head?_eq_none_iff] using idle

end Looking

variable {V : Type} [View V]

/-- Everything that one step can do to a session, up to what it logs. What comes in from the daemon and the
log after a step are left open, since nothing depends on them. -/
inductive Session.Moves (session : Session V) (step : Session.Step) : Session V → Prop
  | still {events gone items log} (idle : session.taken? step = none)
      (queue : events = session.waitingEvents ++ (session.sent? step).toList)
      (lasting : session.sourceGone = true → gone = true) :
      Moves session step
        { session with waitingEvents := events, sourceGone := gone, waitingItems := items, log := log }
  | heard {event rest log} (took : session.taken? step = some (.event event))
      (queue : session.waitingEvents = event :: rest) :
      Moves session step
        { session with
          waitingEvents := rest
          widget := ((session.widget.act (.dispatch event)).play session.view).result.1
          view := ((session.widget.act (.dispatch event)).play session.view).view
          log := log }
  | showed {text rest log} (relaying : session.stage = .relaying)
      (took : session.taken? step = some (.item (.text text))) :
      Moves session step
        { session with
          waitingItems := rest
          view :=
            View.perform
              (View.perform session.view (.appendValue session.widget.controls.response (text ++ "\n")))
              (.scrollToEnd session.widget.controls.response)
          log := log }
  | skipped {item rest log} (relaying : session.stage = .relaying)
      (took : session.taken? step = some (.item item))
      (silent : item.text? = none) (more : item.isEnd = false) :
      Moves session step { session with waitingItems := rest, log := log }
  | left {eventsFirst now items log} (said : step = .turn eventsFirst now)
      (relaying : session.stage = .relaying)
      (cause : session.taken? step = none ∧ session.waitingEvents = [] ∧ session.sourceGone = true ∨
        ∃ item, session.taken? step = some (.item item) ∧ item.isEnd = true) :
      Moves session step
        { session with
          waitingItems := items
          widget := (session.widget.shut now).detach
          view := View.gate session.view true session.widget.controls.gated
          stage := .draining
          log := log }
  | leftEarly {eventsFirst now attempt log} (said : step = .turn eventsFirst now)
      (waiting : session.stage = .waiting attempt) (idle : session.taken? step = none)
      (queue : session.waitingEvents = []) (gone : session.sourceGone = true) :
      Moves session step
        { session with
          widget := session.widget.shut now
          view := View.gate session.view true session.widget.controls.gated
          stage := .finished (.ok ())
          log := log }
  | gaveUp {eventsFirst now attempt failure log} (said : step = .turn eventsFirst now)
      (waiting : session.stage = .waiting attempt) (idle : session.taken? step = none)
      (queue : session.waitingEvents = []) (present : session.sourceGone = false)
      (cause : attempt = .idle ∧ session.config.prepare = .error failure ∨
        ∃ error, attempt = .settled (.error error) ∧ failure = .ofTransport error) :
      Moves session step
        { session with
          view := View.perform session.view (.alert failure.alertText)
          stage := .finished (.error failure)
          log := log }
  | tried {eventsFirst now url log} (said : step = .turn eventsFirst now)
      (waiting : session.stage = .waiting .idle)
      (idle : session.taken? step = none) (ready : session.config.prepare = .ok url) :
      Moves session step { session with stage := .waiting .underWay, log := log }
  | answered {outcome} (waiting : session.stage = .waiting .underWay) (said : step = .settle outcome) :
      Moves session step { session with stage := .waiting (.settled outcome) }
  | opened {eventsFirst now status log} (said : step = .turn eventsFirst now)
      (waiting : session.stage = .waiting (.settled (.ok status))) (idle : session.taken? step = none)
      (queue : session.waitingEvents = []) (present : session.sourceGone = false) :
      Moves session step
        { session with
          widget := session.widget.attach.live now
          view :=
            if session.widget.phase = .connecting then
              View.gate session.view false session.widget.controls.gated
            else session.view
          stage := .relaying
          writer := some { channel := session.widget.channels.length }
          log := log }
  | joined {eventsFirst now} (said : step = .turn eventsFirst now) (draining : session.stage = .draining)
      (ended : ∀ writer, session.writer = some writer → writer.stage = .ended) :
      Moves session step { session with stage := .finished (.ok ()) }
  | handed {writer frame} (said : step = .write none) (present : session.writer = some writer)
      (writing : writer.stage = .writing) (next : session.nextFrame? writer = some frame) :
      Moves session step
        { session with writer := some { writer with taken := writer.taken + 1, sent := writer.sent ++ [frame] } }
  | lost {writer frame error log} (said : step = .write (some error)) (present : session.writer = some writer)
      (writing : writer.stage = .writing) (next : session.nextFrame? writer = some frame) :
      Moves session step
        { session with writer := some { writer with taken := writer.taken + 1, stage := .closing }, log := log }
  | ceased {writer fault} (said : step = .write fault) (present : session.writer = some writer)
      (writing : writer.stage = .writing) (done : session.nextFrame? writer = none)
      (apart : session.widget.outlet ≠ some writer.channel) :
      Moves session step { session with writer := some { writer with stage := .closing } }
  | closed {writer fault log} (said : step = .write fault) (present : session.writer = some writer)
      (closing : writer.stage = .closing) :
      Moves session step
        { session with
          widget := session.widget.dropReceiver writer.channel
          writer := some { writer with closings := writer.closings + 1, stage := .ended }
          log := log }

theorem Session.act_eq (session : Session V) {action : Widget.Action} {widget : Widget} {view : V}
    {outcome : Except Failure Unit}
    (played : ((session.widget.act action).play session.view).result = (widget, outcome) ∧
      ((session.widget.act action).play session.view).view = view) :
    ∃ log, session.act action = ({ session with widget := widget, view := view, log := log }, outcome) := by
  obtain ⟨result, shown⟩ := played
  exact ⟨_, by simp only [act, result, shown]; rfl⟩

theorem Session.dispatch_eq (session : Session V) (event : Widget.Event) :
    ∃ log, session.dispatch event =
      { session with
        widget := ((session.widget.act (.dispatch event)).play session.view).result.1
        view := ((session.widget.act (.dispatch event)).play session.view).view
        log := log } := by
  obtain ⟨log, acted⟩ := session.act_eq (show
    ((session.widget.act (.dispatch event)).play session.view).result = (_, _) ∧ _ = _ from ⟨rfl, rfl⟩)
  unfold dispatch
  rw [acted]
  split
  · rename_i same
    obtain ⟨rfl, -⟩ := Prod.mk.inj same
    exact ⟨log, rfl⟩
  · rename_i same
    obtain ⟨rfl, -⟩ := Prod.mk.inj same
    exact ⟨_, rfl⟩

theorem Session.leave_eq (session : Session V) (now : Int) :
    ∃ log, session.leave now =
      { session with
        widget := (session.widget.shut now).detach
        view := View.gate session.view true session.widget.controls.gated
        stage := .draining
        log := log } := by
  obtain ⟨log, acted⟩ := session.act_eq (session.widget.play_closed now session.view)
  exact ⟨_, by rw [leave, acted]; rfl⟩

theorem Session.giveUp_eq (session : Session V) (failure : Failure) :
    ∃ log, session.giveUp failure =
      { session with
        view := View.perform session.view (.alert failure.alertText)
        stage := .finished (.error failure)
        log := log } := by
  obtain ⟨log, acted⟩ := session.act_eq (session.widget.play_failed failure session.view)
  exact ⟨_, by rw [giveUp, acted]⟩

theorem Session.begin_eq (session : Session V) (status : Nat) (now : Int) :
    ∃ log, session.begin status now =
      { session with
        widget := session.widget.attach.live now
        view :=
          if session.widget.phase = .connecting then
            View.gate session.view false session.widget.controls.gated
          else session.view
        stage := .relaying
        writer := some { channel := session.widget.channels.length }
        log := log } := by
  let told := session.say .debug ("Handshake completed with status " ++ Transport.statusText status)
  let ready := (told.act .attach).1
  obtain ⟨_, acted⟩ := ready.act_eq (ready.widget.play_opened now ready.view)
  rw [begin, acted]
  exact ⟨_, rfl⟩

theorem Session.Moves.same {session : Session V} {step : Session.Step} (idle : session.taken? step = none)
    (silent : session.sent? step = none) : Session.Moves session step session :=
  .still idle (by rw [silent, Option.toList_none, List.append_nil]) id

theorem Session.wait_moves {session : Session V} {attempt : Session.Attempt} (eventsFirst : Bool) (now : Int)
    (waiting : session.stage = .waiting attempt) :
    Session.Moves session (.turn eventsFirst now) (session.wait attempt now) := by
  have taken : session.taken? (.turn eventsFirst now) = session.waitingEvents.head?.map .event := by
    simp only [taken?, waiting]
  unfold wait
  cases queue : session.waitingEvents with
  | cons event rest =>
    obtain ⟨log, same⟩ := Session.dispatch_eq { session with waitingEvents := rest } event
    simp only [same]
    exact .heard (by simp only [taken, queue, List.head?_cons, Option.map_some]) queue
  | nil =>
    have idle : session.taken? (.turn eventsFirst now) = none := by
      simp only [taken, queue, List.head?_nil, Option.map_none]
    by_cases gone : session.sourceGone = true
    · simp only [if_pos gone]
      let told := session.say .info ("Event source gone before connection " ++ session.widget.name ++ " opened")
      obtain ⟨log, acted⟩ := told.act_eq (told.widget.play_closed now told.view)
      rw [acted]
      exact .leftEarly rfl waiting idle queue gone
    · simp only [if_neg gone]
      have present : session.sourceGone = false := by simpa only [Bool.not_eq_true] using gone
      cases attempt with
      | idle =>
        unfold Session.attempt
        cases ready : session.config.prepare with
        | error failure =>
          obtain ⟨log, same⟩ := session.giveUp_eq failure
          simp only [same]
          exact .gaveUp rfl waiting idle queue present (Or.inl ⟨rfl, ready⟩)
        | ok url => exact .tried rfl waiting idle ready
      | underWay => exact .same idle rfl
      | settled outcome =>
        cases outcome with
        | error error =>
          obtain ⟨log, same⟩ := session.giveUp_eq (.ofTransport error)
          simp only [same]
          exact .gaveUp rfl waiting idle queue present (Or.inr ⟨error, rfl, rfl⟩)
        | ok status =>
          obtain ⟨log, same⟩ := session.begin_eq status now
          simp only [same]
          exact .opened rfl waiting idle queue present

theorem Session.receive_moves {session : Session V} {eventsFirst : Bool} {now : Int} {item : Session.Inbound}
    (rest : List Session.Inbound) (relaying : session.stage = .relaying)
    (took : session.taken? (.turn eventsFirst now) = some (.item item)) :
    Session.Moves session (.turn eventsFirst now)
      (Session.receive { session with waitingItems := rest } now item) := by
  have leaves (log : List Log.Line) (last : item.isEnd = true) :
      Session.Moves session (.turn eventsFirst now)
        (Session.leave { session with waitingItems := rest, log := log } now) := by
    obtain ⟨_, same⟩ := Session.leave_eq { session with waitingItems := rest, log := log } now
    rw [same]
    exact .left rfl relaying (Or.inr ⟨item, took, last⟩)
  cases item with
  | text payload =>
    obtain ⟨log, acted⟩ := Session.act_eq { session with waitingItems := rest }
      (session.widget.play_received payload session.view)
    simp only [receive, acted]
    exact .showed relaying took
  | binary size => exact .skipped relaying took rfl rfl
  | ping => exact .skipped relaying took rfl rfl
  | pong => exact .skipped relaying took rfl rfl
  | close frame => exact leaves _ rfl
  | fault error => exact leaves _ rfl
  | ended => exact leaves _ rfl

theorem Session.relay_moves {session : Session V} (eventsFirst : Bool) (now : Int)
    (relaying : session.stage = .relaying) :
    Session.Moves session (.turn eventsFirst now) (session.turn eventsFirst now) := by
  unfold turn
  simp only [relaying]
  by_cases chosen : (session.hasEvent && (eventsFirst || session.waitingItems.isEmpty)) = true
  · have taken : session.taken? (.turn eventsFirst now) = session.waitingEvents.head?.map .event := by
      simp only [taken?, relaying, if_pos chosen]
    rw [if_pos chosen, relayEvent]
    cases queue : session.waitingEvents with
    | cons event rest =>
      obtain ⟨log, same⟩ := Session.dispatch_eq { session with waitingEvents := rest } event
      simp only [same]
      exact .heard (by simp only [taken, queue, List.head?_cons, Option.map_some]) queue
    | nil =>
      have gone : session.sourceGone = true := by
        simpa only [hasEvent, queue, List.isEmpty_nil, Bool.not_true, Bool.false_or, Bool.and_eq_true] using
          (Bool.and_eq_true_iff.mp chosen).1
      simp only [if_pos gone]
      obtain ⟨log, same⟩ := Session.leave_eq
        (session.say .info ("Event source gone, closing connection " ++ session.widget.name)) now
      rw [same]
      have idle : session.taken? (.turn eventsFirst now) = none := by
        simp only [taken, queue, List.head?_nil, Option.map_none]
      exact .left rfl relaying (Or.inl ⟨idle, queue, gone⟩)
  · have taken : session.taken? (.turn eventsFirst now) = session.waitingItems.head?.map .item := by
      simp only [taken?, relaying, if_neg chosen]
    rw [if_neg chosen, relayItem]
    cases queue : session.waitingItems with
    | cons item rest =>
      exact Session.receive_moves rest relaying
        (by simp only [taken, queue, List.head?_cons, Option.map_some])
    | nil => exact .same (by simp only [taken, queue, List.head?_nil, Option.map_none]) rfl

theorem Session.write_moves (session : Session V) (fault : Option Transport.Error) :
    Session.Moves session (.write fault) (session.write fault) := by
  have idle : session.taken? (.write fault) = none := rfl
  unfold write
  split
  · exact .same idle rfl
  · rename_i writer present
    split
    · rename_i writing
      split
      · rename_i frame next
        split
        · exact .handed rfl present writing next
        · exact .lost rfl present writing next
      · rename_i done
        by_cases attached : session.widget.outlet = some writer.channel
        · rw [if_pos attached]
          exact .same idle rfl
        · rw [if_neg attached]
          exact .ceased rfl present writing done attached
    · rename_i closing
      cases fault <;> exact .closed rfl present closing
    · exact .same idle rfl

theorem Session.step_moves (session : Session V) (step : Session.Step) :
    Session.Moves session step (session.step step) := by
  cases step with
  | operator event =>
    simp only [Session.step]
    split
    · rename_i gone
      exact .same rfl (if_pos gone)
    · rename_i present
      exact .still rfl (by rw [sent?, if_neg present, Option.toList_some]) id
  | operatorGone => exact .still rfl (List.append_nil _).symm (fun _ => rfl)
  | settle outcome =>
    simp only [Session.step]
    split
    · rename_i waiting
      exact .answered waiting rfl
    · exact .same rfl rfl
  | arrive item => exact .still rfl (List.append_nil _).symm id
  | turn eventsFirst now =>
    cases stage : session.stage with
    | waiting attempt =>
      simp only [Session.step, turn, stage]
      exact Session.wait_moves eventsFirst now stage
    | relaying => exact Session.relay_moves eventsFirst now stage
    | draining =>
      have idle : session.taken? (.turn eventsFirst now) = none := by simp only [taken?, stage]
      simp only [Session.step, turn, stage]
      split
      · rename_i writer present
        by_cases ended : writer.stage = .ended
        · rw [if_pos ended]
          refine .joined rfl stage ?_
          intro other same
          rw [present, Option.some.injEq] at same
          rw [← same, ended]
        · rw [if_neg ended]
          exact .same idle rfl
      · rename_i absent
        exact .joined rfl stage (by simp only [absent, reduceCtorEq, false_implies, implies_true])
    | finished result =>
      simp only [Session.step, turn, stage]
      exact .same (by simp only [taken?, stage]) rfl
  | write fault => exact session.write_moves fault

theorem Session.Moves.of_event {session after : Session V} {step : Session.Step} {event : Widget.Event}
    (moves : Session.Moves session step after) (took : session.taken? step = some (.event event)) :
    ∃ rest log, session.waitingEvents = event :: rest ∧
      after = { session with
        waitingEvents := rest
        widget := ((session.widget.act (.dispatch event)).play session.view).result.1
        view := ((session.widget.act (.dispatch event)).play session.view).view
        log := log } := by
  have busy {outcome : Option Session.Taken} (other : session.taken? step = outcome)
      (apart : some (.event event) ≠ outcome) : False := apart (took.symm.trans other)
  cases moves with
  | heard given queue =>
    cases took.symm.trans given
    exact ⟨_, _, queue, rfl⟩
  | still idle | leftEarly _ _ idle | gaveUp _ _ idle | tried _ _ idle | opened _ _ idle =>
    exact (busy idle (by simp)).elim
  | showed _ other | skipped _ other => exact (busy other (by simp)).elim
  | left _ _ cause =>
    rcases cause with ⟨idle, _⟩ | ⟨item, other, _⟩
    · exact (busy idle (by simp)).elim
    · exact (busy other (by simp)).elim
  | joined said draining =>
    subst said
    simp only [taken?, draining, reduceCtorEq] at took
  | answered _ said | handed said | lost said | ceased said | closed said =>
    subst said
    cases took

end RelayConsole
