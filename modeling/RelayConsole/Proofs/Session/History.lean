import RelayConsole.Proofs.Session.Moves

namespace RelayConsole

section Past

variable {V : Type}

def Session.eventsTaken (past : List (Session V × Session.Step)) : List Widget.Event :=
  past.filterMap fun entry =>
    match entry.1.taken? entry.2 with
    | some (.event event) => some event
    | _ => none

def Session.eventsSent (past : List (Session V × Session.Step)) : List Widget.Event :=
  past.filterMap fun entry => entry.1.sent? entry.2

/-- What a session has taken from its queues while it was relaying. -/
def Session.relayed (past : List (Session V × Session.Step)) : List Session.Taken :=
  past.filterMap fun entry => if entry.1.isRelaying then entry.1.taken? entry.2 else none

@[simp]
theorem Session.relayed_nil : Session.relayed ([] : List (Session V × Session.Step)) = [] :=
  rfl

theorem Session.relayed_append (past more : List (Session V × Session.Step)) :
    Session.relayed (past ++ more) = Session.relayed past ++ Session.relayed more :=
  List.filterMap_append

theorem Session.relayed_cons (session : Session V) (step : Session.Step)
    (rest : List (Session V × Session.Step)) :
    Session.relayed ((session, step) :: rest) =
      (if session.isRelaying then session.taken? step else none).toList ++ Session.relayed rest := by
  simp only [relayed, List.filterMap_cons]
  cases if session.isRelaying then session.taken? step else none <;> rfl

end Past

variable {V : Type} [View V]

/-- Each of the steps with the session that it befalls. -/
def Session.along (session : Session V) : List Session.Step → List (Session V × Session.Step)
  | [] => []
  | step :: rest => (session, step) :: (session.step step).along rest

/-- The sessions that a session can become, each with all that has happened on the way. -/
inductive Session.Reach (start : Session V) : List (Session V × Session.Step) → Session V → Prop
  | start : Reach start [] start
  | next {past session} (step : Session.Step) : Reach start past session →
      Reach start (past ++ [(session, step)]) (session.step step)

theorem Session.Reach.run {start session : Session V} {past : List (Session V × Session.Step)}
    (reach : Session.Reach start past session) (steps : List Session.Step) :
    Session.Reach start (past ++ session.along steps) (session.run steps) := by
  induction steps generalizing past session with
  | nil =>
    rw [along, List.append_nil]
    exact reach
  | cons step rest ih =>
    have later := ih (.next step reach)
    rw [List.append_assoc, List.singleton_append] at later
    exact later

theorem Session.Reach.trans {start middle session : Session V} {before after : List (Session V × Session.Step)}
    (first : Session.Reach start before middle) (second : Session.Reach middle after session) :
    Session.Reach start (before ++ after) session := by
  induction second with
  | start =>
    rw [List.append_nil]
    exact first
  | next step _ ih =>
    rw [← List.append_assoc]
    exact .next step ih

theorem Session.reach_run (start : Session V) (steps : List Session.Step) :
    Session.Reach start (start.along steps) (start.run steps) :=
  Session.Reach.start.run steps

theorem Session.run_append (session : Session V) (before after : List Session.Step) :
    session.run (before ++ after) = (session.run before).run after :=
  List.foldl_append

theorem Session.along_append (session : Session V) (before after : List Session.Step) :
    session.along (before ++ after) = session.along before ++ (session.run before).along after := by
  induction before generalizing session with
  | nil => rfl
  | cons step rest ih =>
    simp only [List.cons_append, along, ih]
    rfl

theorem Session.mem_along {session : Session V} {steps : List Session.Step} {entry : Session V × Session.Step}
    (member : entry ∈ session.along steps) : entry.2 ∈ steps := by
  induction steps generalizing session with
  | nil => cases member
  | cons step rest ih =>
    rcases List.mem_cons.mp member with here | later
    · rw [here]
      exact List.mem_cons_self
    · exact List.mem_cons_of_mem step (ih later)

theorem Session.Moves.queue {session after : Session V} {step : Session.Step}
    (moves : Session.Moves session step after) :
    Session.eventsTaken [(session, step)] ++ after.waitingEvents =
      session.waitingEvents ++ (session.sent? step).toList := by
  have silent {taken : Session.Taken} (took : session.taken? step = some taken) : session.sent? step = none := by
    obtain ⟨eventsFirst, now, rfl⟩ := session.taken?_turn took
    rfl
  cases moves with
  | still idle queue _ => simp only [eventsTaken, List.filterMap, idle, queue, List.nil_append]
  | heard took queue => simp [eventsTaken, took, queue, silent took]
  | showed _ took => simp [eventsTaken, took, silent took]
  | skipped _ took => simp [eventsTaken, took, silent took]
  | left said _ cause =>
    subst said
    rcases cause with ⟨idle, _, _⟩ | ⟨item, took, _⟩
    · simp [eventsTaken, idle, sent?]
    · simp [eventsTaken, took, sent?]
  | leftEarly said _ idle | gaveUp said _ idle | tried said _ idle | opened said _ idle =>
    subst said
    simp [eventsTaken, idle, sent?]
  | joined said draining =>
    subst said
    simp [eventsTaken, taken?, draining, sent?]
  | answered _ said | handed said | lost said | ceased said | closed said =>
    subst said
    simp [eventsTaken, taken?, sent?]

/-- The events that came in are those taken, and then those still waiting. -/
theorem Session.Reach.queue {start session : Session V} {past : List (Session V × Session.Step)}
    (reach : Session.Reach start past session) :
    Session.eventsTaken past ++ session.waitingEvents = start.waitingEvents ++ Session.eventsSent past := by
  induction reach with
  | start => simp only [eventsTaken, eventsSent, List.filterMap_nil, List.nil_append, List.append_nil]
  | @next past session step previous ih =>
    have move := (session.step_moves step).queue
    have taken : eventsTaken (past ++ [(session, step)]) = eventsTaken past ++ eventsTaken [(session, step)] :=
      List.filterMap_append
    have sent : eventsSent (past ++ [(session, step)]) = eventsSent past ++ (session.sent? step).toList := by
      simp only [eventsSent, List.filterMap_append, List.filterMap_cons, List.filterMap_nil]
      cases session.sent? step <;> rfl
    calc eventsTaken (past ++ [(session, step)]) ++ (session.step step).waitingEvents
        = eventsTaken past ++ (session.waitingEvents ++ (session.sent? step).toList) := by
          rw [taken, List.append_assoc, move]
      _ = start.waitingEvents ++ eventsSent (past ++ [(session, step)]) := by
          rw [← List.append_assoc, ih, List.append_assoc, sent]

theorem Session.Moves.waiting_before {session after : Session V} {step : Session.Step}
    (moves : Session.Moves session step after)
    (waiting : after.isWaiting = true) : session.isWaiting = true := by
  cases moves with
  | still | heard | showed | skipped | handed | lost | ceased | closed => exact waiting
  | tried _ stage | answered stage => simp only [isWaiting, stage]
  | left | leftEarly | gaveUp | opened | joined => cases waiting

theorem Session.Moves.over {session after : Session V} {step : Session.Step}
    (moves : Session.Moves session step after) (ended : session.isOver = true) : after.isOver = true := by
  cases moves with
  | still | heard | showed | skipped | handed | lost | ceased | closed => exact ended
  | left | leftEarly | gaveUp | joined => rfl
  | tried _ stage | answered stage | opened _ stage => simp only [isOver, stage, Bool.false_eq_true] at ended

theorem Session.Moves.queue_of_decision {session after : Session V} {step : Session.Step}
    (moves : Session.Moves session step after) (waiting : session.isWaiting = true)
    (decided : after.isWaiting = false) : session.waitingEvents = [] := by
  cases moves with
  | leftEarly _ _ _ queue | gaveUp _ _ _ queue | opened _ _ _ queue => exact queue
  | still | heard | showed | skipped | handed | lost | ceased | closed => cases waiting.symm.trans decided
  | tried | answered => cases decided
  | left _ stage | joined _ stage => simp only [isWaiting, stage, Bool.false_eq_true] at waiting

theorem Session.Moves.config {session after : Session V} {step : Session.Step}
    (moves : Session.Moves session step after) : after.config = session.config := by
  cases moves <;> rfl

theorem Session.Moves.controls {session after : Session V} {step : Session.Step}
    (moves : Session.Moves session step after) : after.widget.controls = session.widget.controls := by
  cases moves with
  | still | showed | skipped | gaveUp | tried | answered | joined | handed | lost | ceased | closed => rfl
  | @heard event =>
    obtain ⟨channels, same⟩ := session.widget.dispatch_widget event session.view
    rw [same]
  | left => exact session.widget.shut_controls _
  | leftEarly => exact session.widget.shut_controls _
  | opened => exact session.widget.attach.live_controls _

theorem Session.Reach.config {start session : Session V} {past : List (Session V × Session.Step)}
    (reach : Session.Reach start past session) : session.config = start.config := by
  induction reach with
  | start => rfl
  | @next past session step previous ih => exact (session.step_moves step).config.trans ih

theorem Session.Reach.controls {start session : Session V} {past : List (Session V × Session.Step)}
    (reach : Session.Reach start past session) : session.widget.controls = start.widget.controls := by
  induction reach with
  | start => rfl
  | @next past session step previous ih => exact (session.step_moves step).controls.trans ih

end RelayConsole
