import RelayConsole.Proofs.Session.Waiting
import RelayConsole.Proofs.Session.Writing

namespace RelayConsole

section Looking

variable {V : Type}

/-- Whether a session sees in a step that the operator has left: it looks at the operator's side, and there is
no event any more. -/
def Session.seesGone (session : Session V) : Session.Step → Bool
  | .turn eventsFirst _ =>
    session.waitingEvents.isEmpty && session.sourceGone &&
      (session.isWaiting || (session.isRelaying && (eventsFirst || session.waitingItems.isEmpty)))
  | _ => false

/-- Whether the network was asked for the connection and relaying has not begun. -/
def Session.isTrying (session : Session V) : Bool :=
  match session.stage with
  | .waiting .underWay | .waiting (.settled _) => true
  | _ => false

/-- Whether the network answered the attempt with an outcome. -/
def Session.Answered (past : List (Session V × Session.Step)) (outcome : Except Transport.Error Nat) : Prop :=
  ∃ entry ∈ past, entry.1.stage = .waiting .underWay ∧ entry.2 = .settle outcome

theorem Session.isOver_of_not {session : Session V} (waiting : session.isWaiting = false)
    (relaying : session.isRelaying = false) : session.isOver = true := by
  cases stage : session.stage <;>
    simp only [isWaiting, isRelaying, isOver, stage, Bool.true_eq_false] at waiting relaying ⊢

theorem Session.not_waiting_of_over {session : Session V} (ended : session.isOver = true) :
    session.isWaiting = false := by
  cases stage : session.stage <;> simp only [isWaiting, isOver, stage, Bool.false_eq_true] at ended ⊢

theorem Session.over_of_result {session : Session V} {result : Except Failure Unit}
    (ended : session.result? = some result) : session.isOver = true := by
  cases stage : session.stage <;> simp only [result?, isOver, stage, reduceCtorEq] at ended ⊢

theorem Session.seesGone_over {session : Session V} (ended : session.isOver = true) (step : Session.Step) :
    session.seesGone step = false := by
  cases step with
  | turn eventsFirst now =>
    cases stage : session.stage <;> simp [seesGone, isWaiting, isRelaying, isOver, stage] at ended ⊢
  | operator | operatorGone | settle | arrive | write => rfl

theorem Session.not_trying {session : Session V}
    (idle : session.stage = .waiting .idle ∨ session.isOver = true) :
    session.isTrying = false := by
  rcases idle with idle | ended
  · simp only [isTrying, idle]
  · cases stage : session.stage <;> simp only [isTrying, isOver, stage, Bool.false_eq_true] at ended ⊢

/-- What still happens once a session neither waits nor relays: nothing to its view, and nothing to its widget
but that its channels are let go. -/
structure Session.Settles (session after : Session V) : Prop where
  view : after.view = session.view
  widget : ∃ channels, after.widget = { session.widget with channels := channels }
  stage : after.stage = session.stage ∨ session.stage = .draining ∧ after.stage = .finished (.ok ())
  writer : after.writer.isSome = session.writer.isSome
  alone : session.writer = none → after.widget = session.widget

theorem Session.Settles.refl (session : Session V) : session.Settles session :=
  ⟨rfl, ⟨_, rfl⟩, Or.inl rfl, rfl, fun _ => rfl⟩

end Looking

variable {V : Type} [View V]

theorem Session.Reach.of_mem {start session : Session V} {past : List (Session V × Session.Step)}
    (reach : Session.Reach start past session) {entry : Session V × Session.Step} (member : entry ∈ past) :
    ∃ before, Session.Reach start before entry.1 := by
  induction reach with
  | start => cases member
  | @next past session step previous ih =>
    rcases List.mem_append.mp member with earlier | here
    · exact ih earlier
    · rw [List.mem_singleton.mp here]
      exact ⟨past, previous⟩

theorem Session.Reach.waiting_along {start session : Session V} {past : List (Session V × Session.Step)}
    (reach : Session.Reach start past session) (waiting : session.isWaiting = true) :
    ∀ entry ∈ past, entry.1.isWaiting = true ∧ (entry.1.step entry.2).isWaiting = true := by
  induction reach with
  | start =>
    intro entry member
    cases member
  | @next past session step previous ih =>
    have before := (session.step_moves step).waiting_before waiting
    intro entry member
    rcases List.mem_append.mp member with earlier | here
    · exact ih before entry earlier
    · rw [List.mem_singleton.mp here]
      exact ⟨before, waiting⟩

/-- Whoever sees that the operator has left does not go on. -/
theorem Session.step_seen {session : Session V} {step : Session.Step} (seen : session.seesGone step = true) :
    (session.step step).isOver = true := by
  cases step with
  | operator | operatorGone | settle | arrive | write => cases seen
  | turn eventsFirst now =>
    simp only [seesGone, Bool.and_eq_true, Bool.or_eq_true, List.isEmpty_iff] at seen
    obtain ⟨⟨queue, gone⟩, waiting | ⟨relaying, chosen⟩⟩ := seen
    · obtain ⟨attempt, stage⟩ := Session.isWaiting_iff.mp waiting
      simp only [Session.step, turn, stage, wait, queue, gone, if_true, isOver]
    · have stage := Session.isRelaying_iff.mp relaying
      obtain ⟨log, same⟩ := Session.leave_eq
        (session.say .info ("Event source gone, closing connection " ++ session.widget.name)) now
      have looks : (session.hasEvent && (eventsFirst || session.waitingItems.isEmpty)) = true := by
        simp only [hasEvent, gone, Bool.or_true, Bool.true_and, Bool.or_eq_true, List.isEmpty_iff]
        exact chosen
      simp only [Session.step, turn, stage, if_pos looks, relayEvent, queue, gone, if_true, same, isOver]

/-- The three ways in which a session stops waiting and relaying. -/
inductive Session.Decision (session : Session V) (step : Session.Step) (after : Session V) : Prop
  | refused {attempt failure} (waiting : session.stage = .waiting attempt)
      (unseen : session.seesGone step = false)
      (cause : attempt = .idle ∧ session.config.prepare = .error failure ∨
        ∃ error, attempt = .settled (.error error) ∧ failure = .ofTransport error)
      (widget : after.widget = session.widget)
      (view : after.view = View.perform session.view (.alert failure.alertText))
      (writer : after.writer = session.writer) (stage : after.stage = .finished (.error failure))
  | early {now} (waiting : session.isWaiting = true) (seen : session.seesGone step = true)
      (widget : after.widget = session.widget.shut now)
      (view : after.view = View.gate session.view true session.widget.controls.gated)
      (writer : after.writer = session.writer) (stage : after.stage = .finished (.ok ()))
  | served {now} (relaying : session.isRelaying = true)
      (cause : session.seesGone step = true ∨
        ∃ item, session.taken? step = some (.item item) ∧ item.isEnd = true)
      (widget : after.widget = (session.widget.shut now).detach)
      (view : after.view = View.gate session.view true session.widget.controls.gated)
      (writer : after.writer = session.writer) (stage : after.stage = .draining)

theorem Session.Moves.decision {session after : Session V} {step : Session.Step}
    (moves : Session.Moves session step after) (active : session.isOver = false) (ends : after.isOver = true) :
    Session.Decision session step after := by
  cases moves with
  | still | heard | showed | skipped | handed | lost | ceased | closed => cases active.symm.trans ends
  | tried | answered | opened => cases ends
  | joined _ draining => simp only [isOver, draining, Bool.true_eq_false] at active
  | gaveUp said waiting _ _ present cause =>
    subst said
    exact .refused waiting (by simp [seesGone, present]) cause rfl rfl rfl rfl
  | leftEarly said waiting _ queue gone =>
    subst said
    have waits : session.isWaiting = true := by simp only [isWaiting, waiting]
    exact .early waits (by simp [seesGone, queue, gone, waits]) rfl rfl rfl rfl
  | @left eventsFirst now items log said relaying cause =>
    subst said
    have relays : session.isRelaying = true := by simp only [isRelaying, relaying]
    refine .served relays ?_ rfl rfl rfl rfl
    rcases cause with ⟨idle, queue, gone⟩ | last
    · refine Or.inl ?_
      by_cases looks : (eventsFirst || session.waitingItems.isEmpty) = true
      · simp only [seesGone, queue, gone, relays, looks, List.isEmpty_nil, Bool.and_self, Bool.or_true]
      · have items : session.waitingItems = [] := by
          simpa [taken?, relaying, hasEvent, gone, looks] using idle
        simp [items] at looks
    · exact Or.inr last

/-- A way that leads to the end has one step that decides, the one after which the session is over for the
first time. -/
theorem Session.Reach.decision {start session : Session V} {past : List (Session V × Session.Step)}
    (reach : Session.Reach start past session) (waiting : start.isWaiting = true)
    (ended : session.isOver = true) :
    ∃ before decider step rest, past = before ++ (decider, step) :: rest ∧ Session.Reach start before decider ∧
      decider.isOver = false ∧ (decider.step step).isOver = true ∧
      Session.Reach (decider.step step) rest session := by
  induction reach with
  | start =>
    rw [Session.not_waiting_of_over ended] at waiting
    cases waiting
  | @next past session step previous ih =>
    by_cases already : session.isOver = true
    · obtain ⟨before, decider, decision, rest, parts, reached, active, ends, later⟩ := ih already
      refine ⟨before, decider, decision, rest ++ [(session, step)], ?_, reached, active, ends, .next step later⟩
      rw [parts, List.append_assoc, List.cons_append]
    · refine ⟨past, session, step, [], rfl, previous, ?_, ended, .start⟩
      simpa only [Bool.not_eq_true] using already

theorem Session.Moves.settles {session after : Session V} {step : Session.Step}
    (moves : Session.Moves session step after) (ended : session.isOver = true) : session.Settles after := by
  have waits {attempt : Session.Attempt} (waiting : session.stage = .waiting attempt) : False := by
    simp only [isOver, waiting, Bool.false_eq_true] at ended
  have relays (relaying : session.stage = .relaying) : False := by
    simp only [isOver, relaying, Bool.false_eq_true] at ended
  cases moves with
  | still => exact ⟨rfl, ⟨_, rfl⟩, Or.inl rfl, rfl, fun _ => rfl⟩
  | heard took => cases (Session.taken?_over ended step).symm.trans took
  | showed relaying | skipped relaying | left _ relaying => exact (relays relaying).elim
  | leftEarly _ waiting | gaveUp _ waiting | tried _ waiting | answered waiting | opened _ waiting =>
    exact (waits waiting).elim
  | joined _ draining => exact ⟨rfl, ⟨_, rfl⟩, Or.inr ⟨draining, rfl⟩, rfl, fun _ => rfl⟩
  | handed _ present | lost _ present | ceased _ present | closed _ present =>
    exact ⟨rfl, ⟨_, rfl⟩, Or.inl rfl, by rw [present]; rfl, fun idle => by cases present.symm.trans idle⟩

theorem Session.Reach.settles {start session : Session V} {past : List (Session V × Session.Step)}
    (reach : Session.Reach start past session) (ended : start.isOver = true) :
    start.Settles session ∧ session.isOver = true := by
  induction reach with
  | start => exact ⟨Session.Settles.refl start, ended⟩
  | @next past session step previous ih =>
    obtain ⟨earlier, settled⟩ := ih
    have moves := session.step_moves step
    have now := moves.settles settled
    obtain ⟨first, before⟩ := earlier.widget
    obtain ⟨second, after⟩ := now.widget
    have stage : (session.step step).stage = start.stage ∨
        start.stage = .draining ∧ (session.step step).stage = .finished (.ok ()) := by
      rcases now.stage with same | ⟨draining, finished⟩
      · rw [same]
        exact earlier.stage
      · rcases earlier.stage with same | ⟨draining, -⟩
        · exact Or.inr ⟨same.symm.trans draining, finished⟩
        · exact Or.inr ⟨draining, finished⟩
    refine ⟨⟨now.view.trans earlier.view, ⟨second, by rw [after, before]⟩, stage,
      now.writer.trans earlier.writer, ?_⟩, moves.over settled⟩
    intro idle
    have still : session.writer = none := by simpa only [idle, Option.isSome_none, Option.isSome_eq_false_iff,
      Option.isNone_iff_eq_none] using earlier.writer
    exact (now.alone still).trans (earlier.alone idle)

theorem Session.Moves.settled_before {session after : Session V} {step : Session.Step}
    {outcome : Except Transport.Error Nat} (moves : Session.Moves session step after)
    (settled : after.stage = .waiting (.settled outcome)) :
    session.stage = .waiting (.settled outcome) ∨
      session.stage = .waiting .underWay ∧ step = .settle outcome := by
  cases moves with
  | still | heard | showed | skipped | handed | lost | ceased | closed => exact Or.inl settled
  | left | leftEarly | gaveUp | tried | opened | joined => cases settled
  | answered waiting said =>
    cases settled
    exact Or.inr ⟨waiting, said⟩

theorem Session.Reach.answered {start session : Session V} {past : List (Session V × Session.Step)}
    (reach : Session.Reach start past session) (idle : start.stage = .waiting .idle)
    {outcome : Except Transport.Error Nat} (settled : session.stage = .waiting (.settled outcome)) :
    Session.Answered past outcome := by
  induction reach with
  | start => cases idle.symm.trans settled
  | @next past session step previous ih =>
    rcases (session.step_moves step).settled_before settled with before | ⟨underWay, said⟩
    · obtain ⟨entry, member, answered⟩ := ih before
      exact ⟨entry, List.mem_append_left _ member, answered⟩
    · exact ⟨(session, step), List.mem_append_right _ (List.mem_singleton.mpr rfl), underWay, said⟩

theorem Session.Moves.relaying_before {session after : Session V} {step : Session.Step}
    (moves : Session.Moves session step after) (relaying : after.isRelaying = true) :
    session.isRelaying = true ∨ ∃ status, session.stage = .waiting (.settled (.ok status)) := by
  cases moves with
  | still | heard | showed | skipped | handed | lost | ceased | closed => exact Or.inl relaying
  | left | leftEarly | gaveUp | tried | answered | joined => cases relaying
  | opened _ waiting => exact Or.inr ⟨_, waiting⟩

theorem Session.Reach.accepted {start session : Session V} {past : List (Session V × Session.Step)}
    (reach : Session.Reach start past session) (idle : start.stage = .waiting .idle)
    (relaying : session.isRelaying = true) : ∃ status, Session.Answered past (.ok status) := by
  induction reach with
  | start => simp only [isRelaying, idle, Bool.false_eq_true] at relaying
  | @next past session step previous ih =>
    have later {status : Nat} (answered : Session.Answered past (.ok status)) :
        Session.Answered (past ++ [(session, step)]) (.ok status) := by
      obtain ⟨entry, member, answered⟩ := answered
      exact ⟨entry, List.mem_append_left _ member, answered⟩
    rcases (session.step_moves step).relaying_before relaying with before | ⟨status, settled⟩
    · obtain ⟨status, answered⟩ := ih before
      exact ⟨status, later answered⟩
    · exact ⟨status, later (previous.answered idle settled)⟩

/-- As long as the address or the subprotocol is unfit, the network is not asked for anything. -/
theorem Session.Moves.unasked {session after : Session V} {step : Session.Step} {failure : Failure}
    (moves : Session.Moves session step after) (unfit : session.config.prepare = .error failure)
    (before : session.stage = .waiting .idle ∨ session.isOver = true) :
    after.stage = .waiting .idle ∨ after.isOver = true := by
  rcases before with idle | ended
  · cases moves with
    | still | heard | handed | lost | ceased | closed => exact Or.inl idle
    | showed relaying | skipped relaying | left _ relaying | joined _ relaying => cases idle.symm.trans relaying
    | leftEarly | gaveUp => exact Or.inr rfl
    | tried _ _ _ ready => cases unfit.symm.trans ready
    | answered waiting | opened _ waiting => cases idle.symm.trans waiting
  · exact Or.inr (moves.over ended)

theorem Session.Reach.unasked {start session : Session V} {past : List (Session V × Session.Step)}
    (reach : Session.Reach start past session) (idle : start.stage = .waiting .idle) {failure : Failure}
    (unfit : start.config.prepare = .error failure) :
    session.stage = .waiting .idle ∨ session.isOver = true := by
  induction reach with
  | start => exact Or.inl idle
  | @next past session step previous ih =>
    exact (session.step_moves step).unasked (by rw [previous.config]; exact unfit) ih

end RelayConsole
