import RelayConsole.Proofs.Session.Frames

namespace RelayConsole

variable {V : Type}

/-- How a session and its writer hang together: a writer is there from the opening on, its channel is the
attached one as long as the session relays, and the session does not end before its writer. -/
def Session.Wired (session : Session V) : Prop :=
  match session.stage with
  | .waiting _ => session.writer = none
  | .relaying => ∃ writer, session.writer = some writer ∧ session.widget.outlet = some writer.channel
  | .draining => session.widget.outlet = none ∧ session.writer ≠ none
  | .finished _ => ∀ writer, session.writer = some writer → session.widget.outlet = none ∧ writer.stage = .ended

theorem Session.Wired.waiting {session : Session V} (wired : session.Wired)
    (waiting : session.isWaiting = true) :
    session.writer = none := by
  obtain ⟨attempt, stage⟩ := Session.isWaiting_iff.mp waiting
  simpa only [Wired, stage] using wired

theorem Session.Wired.of_idle {session : Session V} (waiting : session.isWaiting = true)
    (idle : session.writer = none) : session.Wired := by
  obtain ⟨attempt, stage⟩ := Session.isWaiting_iff.mp waiting
  simpa only [Wired, stage] using idle

theorem Session.Wired.relaying {session : Session V} (wired : session.Wired)
    (relaying : session.isRelaying = true) :
    ∃ writer, session.writer = some writer ∧ session.widget.outlet = some writer.channel := by
  simpa only [Wired, Session.isRelaying_iff.mp relaying] using wired

/-- Where a writer is there, an event is taken only while relaying. -/
theorem Session.Wired.relaying_of_event {session : Session V} {step : Session.Step} {event : Widget.Event}
    {writer : Session.Writer} (wired : session.Wired) (present : session.writer = some writer)
    (took : session.taken? step = some (.event event)) : session.isRelaying = true := by
  cases stage : session.stage with
  | waiting attempt =>
    have idle := wired.waiting (Session.isWaiting_iff.mpr ⟨attempt, stage⟩)
    cases idle.symm.trans present
  | relaying => simp only [isRelaying, stage]
  | draining | finished => cases (Session.taken?_over (by simp only [isOver, stage]) step).symm.trans took

/-- The channel of a writer is let go only at the end of relaying. -/
theorem Session.Wired.over {session : Session V} {writer : Session.Writer} (wired : session.Wired)
    (present : session.writer = some writer) (apart : session.widget.outlet ≠ some writer.channel) :
    session.isOver = true := by
  cases stage : session.stage with
  | waiting attempt =>
    simp only [Wired, stage] at wired
    cases present.symm.trans wired
  | relaying =>
    simp only [Wired, stage] at wired
    obtain ⟨other, same, attached⟩ := wired
    cases present.symm.trans same
    exact (apart attached).elim
  | draining | finished => simp only [isOver, stage]

theorem Session.Wired.ended {session : Session V} {writer : Session.Writer} {result : Except Failure Unit}
    (wired : session.Wired) (present : session.writer = some writer)
    (finished : session.result? = some result) :
    writer.stage = .ended := by
  cases stage : session.stage with
  | waiting | relaying | draining => simp only [result?, stage, reduceCtorEq] at finished
  | finished =>
    simp only [Wired, stage] at wired
    exact (wired writer present).2

/-- A writer that is not at its end may go on in any stage of the session that it can be found in. -/
theorem Session.Wired.rewrite {session after : Session V} {writer later : Session.Writer}
    (wired : session.Wired) (present : session.writer = some writer) (busy : writer.stage ≠ .ended)
    (stage : after.stage = session.stage)
    (outlet : after.widget.outlet = session.widget.outlet) (next : after.writer = some later)
    (channel : later.channel = writer.channel) : after.Wired := by
  unfold Wired at wired ⊢
  rw [stage, outlet, next]
  cases known : session.stage with
  | waiting attempt =>
    simp only [known] at wired
    cases present.symm.trans wired
  | relaying =>
    simp only [known] at wired ⊢
    obtain ⟨other, same, attached⟩ := wired
    cases present.symm.trans same
    exact ⟨later, rfl, by rw [attached, channel]⟩
  | draining =>
    simp only [known] at wired ⊢
    exact ⟨wired.1, Option.some_ne_none later⟩
  | finished result =>
    simp only [known] at wired
    exact (busy (wired writer present).2).elim

/-- What a writer has to do with the frames of its channel: it hands them over in order, and while it goes on
it has handed over all it has taken. -/
structure Session.Writer.Keeps (writer : Session.Writer) (frames : List String) : Prop where
  inOrder : writer.sent <+: frames
  exact : writer.stage = .writing → writer.sent = frames.take writer.taken ∧ writer.taken ≤ frames.length
  closings : writer.closings = if writer.stage = .ended then 1 else 0

theorem Session.Writer.Keeps.grow {writer : Session.Writer} {frames more : List String}
    (keeps : writer.Keeps frames) :
    writer.Keeps (frames ++ more) where
  inOrder := keeps.inOrder.trans (List.prefix_append frames more)
  exact writing := by
    obtain ⟨sent, bound⟩ := keeps.exact writing
    rw [List.take_append_of_le_length bound, List.length_append]
    exact ⟨sent, by omega⟩
  closings := keeps.closings

theorem Session.nextFrame?_eq (session : Session V) (writer : Session.Writer) :
    session.nextFrame? writer = (session.widget.framesOn writer.channel)[writer.taken]? := by
  simp only [nextFrame?, Widget.framesOn]
  cases session.widget.channels[writer.channel]? <;> rfl

variable [View V]

theorem Session.Moves.wired {session after : Session V} {step : Session.Step}
    (moves : Session.Moves session step after) (wired : session.Wired) : after.Wired := by
  cases moves with
  | still | showed | skipped => exact wired
  | @heard event =>
    obtain ⟨channels, same⟩ := session.widget.dispatch_widget event session.view
    simp only [Wired, same]
    exact wired
  | left _ relaying =>
    simp only [Wired, relaying] at wired
    obtain ⟨writer, present, _⟩ := wired
    exact ⟨rfl, by rw [present]; exact Option.some_ne_none writer⟩
  | leftEarly _ waiting | gaveUp _ waiting =>
    simp only [Wired, waiting] at wired
    intro writer present
    cases present.symm.trans wired
  | tried _ waiting | answered waiting =>
    simp only [Wired, waiting] at wired
    exact wired
  | opened =>
    exact ⟨_, rfl, session.widget.attach.live_outlet _⟩
  | joined _ draining ended =>
    simp only [Wired, draining] at wired
    exact fun writer present => ⟨wired.1, ended writer present⟩
  | handed _ present writing | lost _ present writing | ceased _ present writing =>
    exact wired.rewrite present (by rw [writing]; decide) rfl rfl rfl rfl
  | closed _ present closing => exact wired.rewrite present (by rw [closing]; decide) rfl rfl rfl rfl

theorem Session.Reach.wired {start session : Session V} {past : List (Session V × Session.Step)}
    (reach : Session.Reach start past session) (wired : start.Wired) : session.Wired := by
  induction reach with
  | start => exact wired
  | @next past session step previous ih => exact (session.step_moves step).wired ih

def Session.Faithful (session : Session V) : Prop :=
  ∀ writer, session.writer = some writer → writer.Keeps (session.widget.framesOn writer.channel)

/-- What is handed over next is the frame right after those already taken. -/
theorem Session.Moves.faithful {session after : Session V} {step : Session.Step}
    (moves : Session.Moves session step after) (faithful : session.Faithful) : after.Faithful := by
  have grown := moves.framesOn
  have unchanged (same : after.writer = session.writer) : after.Faithful := by
    intro writer present
    rw [grown]
    exact (faithful writer (same.symm.trans present)).grow
  cases moves with
  | still | heard | showed | skipped | left | leftEarly | gaveUp | tried | answered | joined =>
    exact unchanged rfl
  | opened =>
    intro writer present
    cases present
    rw [Widget.framesOn_opened]
    exact ⟨List.nil_prefix, fun _ => ⟨rfl, Nat.le_refl 0⟩, rfl⟩
  | @handed writer frame _ present writing next =>
    intro later same
    cases same
    have keeps := faithful writer present
    obtain ⟨sent, bound⟩ := keeps.exact writing
    rw [session.nextFrame?_eq] at next
    have within := (List.getElem?_eq_some_iff.mp next).1
    have extended :
        writer.sent ++ [frame] = (session.widget.framesOn writer.channel).take (writer.taken + 1) := by
      rw [List.take_add_one, next, sent]
      rfl
    exact ⟨by rw [extended]; exact List.take_prefix _ _, fun _ => ⟨extended, within⟩, by
      rw [keeps.closings]⟩
  | @lost writer frame error log _ present writing =>
    intro later same
    cases same
    have keeps := faithful writer present
    exact ⟨keeps.inOrder, by simp, by simp [keeps.closings, writing]⟩
  | @ceased writer fault _ present writing =>
    intro later same
    cases same
    have keeps := faithful writer present
    exact ⟨keeps.inOrder, by simp, by simp [keeps.closings, writing]⟩
  | @closed writer fault log _ present closing =>
    intro later same
    cases same
    have keeps := faithful writer present
    rw [Widget.framesOn_dropReceiver]
    exact ⟨keeps.inOrder, by simp, by simp [keeps.closings, closing]⟩

theorem Session.Reach.faithful {start session : Session V} {past : List (Session V × Session.Step)}
    (reach : Session.Reach start past session) (idle : start.writer = none) : session.Faithful := by
  induction reach with
  | start =>
    intro writer present
    cases present.symm.trans idle
  | @next past session step previous ih => exact (session.step_moves step).faithful ih

end RelayConsole
