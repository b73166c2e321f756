import RelayConsole.Proofs.Session.Waiting
import RelayConsole.Proofs.Session.Writing

namespace RelayConsole

variable {V : Type}

/-- Whether the writer fails to hand over a frame in a step. -/
def Session.LosesFrame (session : Session V) (step : Session.Step) : Prop :=
  ∃ writer frame error, step = .write (some error) ∧ session.writer = some writer ∧ writer.stage = .writing ∧
    session.nextFrame? writer = some frame

variable [View V]

/-- A writer that has left off without losing a frame has handed over all that is on its channel, to which
nothing is added any more. -/
def Session.Complete (session : Session V) : Prop :=
  ∀ writer, session.writer = some writer → writer.stage ≠ .writing →
    session.isOver = true ∧ writer.sent = session.widget.framesOn writer.channel

/-- Without a fault a writer leaves off only where its channel is let go and has no frame left. -/
theorem Session.Moves.complete {session after : Session V} {step : Session.Step}
    (moves : Session.Moves session step after) (wired : session.Wired) (faithful : session.Faithful)
    (kept : ¬ session.LosesFrame step) (complete : session.Complete) : after.Complete := by
  have grown := moves.framesOn
  have unchanged (same : after.writer = session.writer) : after.Complete := by
    intro writer present off
    obtain ⟨finished, all⟩ := complete writer (same.symm.trans present) off
    refine ⟨moves.over finished, ?_⟩
    rw [grown, Session.acceptedOn_idle _ (by simp [Session.taken?_over finished]), List.append_nil, all]
  cases moves with
  | still | heard | showed | skipped | left | leftEarly | gaveUp | tried | answered | joined =>
    exact unchanged rfl
  | opened =>
    intro writer present off
    cases present
    exact (off rfl).elim
  | handed _ present writing =>
    intro later same off
    cases same
    exact (off writing).elim
  | @lost writer frame error _ said present writing next =>
    exact (kept ⟨writer, frame, error, said, present, writing, next⟩).elim
  | @ceased writer fault _ present writing done apart =>
    intro later same off
    cases same
    obtain ⟨sent, bound⟩ := (faithful writer present).exact writing
    rw [session.nextFrame?_eq, List.getElem?_eq_none_iff] at done
    exact ⟨wired.over present apart, by rw [sent, List.take_of_length_le done]⟩
  | @closed writer fault log _ present closing =>
    intro later same off
    cases same
    obtain ⟨finished, all⟩ := complete writer present (by rw [closing]; decide)
    exact ⟨finished, by rw [Widget.framesOn_dropReceiver]; exact all⟩

theorem Session.Reach.complete {start session : Session V} {past : List (Session V × Session.Step)}
    (reach : Session.Reach start past session) (waiting : start.isWaiting = true) (idle : start.writer = none)
    (kept : ∀ entry ∈ past, ¬ entry.1.LosesFrame entry.2) : session.Complete := by
  induction reach with
  | start =>
    intro writer present
    cases present.symm.trans idle
  | @next past session step previous ih =>
    have earlier := ih fun entry member => kept entry (List.mem_append_left _ member)
    have here := kept (session, step) (List.mem_append_right _ (List.mem_singleton.mpr rfl))
    exact (session.step_moves step).complete (previous.wired (Session.Wired.of_idle waiting idle))
      (previous.faithful idle) here earlier

theorem Session.Moves.frozen {session after : Session V} {step : Session.Step} {writer : Session.Writer}
    (moves : Session.Moves session step after) (wired : session.Wired) (present : session.writer = some writer)
    (off : writer.stage ≠ .writing) :
    ∃ later, after.writer = some later ∧ later.stage ≠ .writing ∧ later.sent = writer.sent := by
  cases moves with
  | still | heard | showed | skipped | left | leftEarly | gaveUp | tried | answered | joined =>
    exact ⟨writer, present, off, rfl⟩
  | opened _ waiting =>
    have absent := wired.waiting (by simp only [isWaiting, waiting])
    cases present.symm.trans absent
  | handed _ same writing | lost _ same writing | ceased _ same writing =>
    cases present.symm.trans same
    exact (off writing).elim
  | closed _ same =>
    cases present.symm.trans same
    exact ⟨_, rfl, by simp, rfl⟩

theorem Session.run_frozen {session : Session V} {writer : Session.Writer} (wired : session.Wired)
    (present : session.writer = some writer) (off : writer.stage ≠ .writing) (steps : List Session.Step) :
    ∃ later, (session.run steps).writer = some later ∧ later.sent = writer.sent := by
  induction steps generalizing session writer with
  | nil => exact ⟨writer, present, rfl⟩
  | cons step rest ih =>
    have moves := session.step_moves step
    obtain ⟨next, nextPresent, nextOff, same⟩ := moves.frozen wired present off
    obtain ⟨later, laterPresent, all⟩ := ih (moves.wired wired) nextPresent nextOff
    exact ⟨later, laterPresent, all.trans same⟩

theorem Session.run_lost {session : Session V} {step : Session.Step} {writer : Session.Writer}
    (wired : session.Wired)
    (present : session.writer = some writer) (loses : session.LosesFrame step) (rest : List Session.Step) :
    ∃ later, ((session.step step).run rest).writer = some later ∧ later.sent = writer.sent := by
  obtain ⟨same, frame, error, rfl, found, writing, next⟩ := loses
  cases present.symm.trans found
  have off : (session.step (.write (some error))).writer =
      some { writer with taken := writer.taken + 1, stage := .closing } := by
    simp only [Session.step, write, present, writing, next]
  exact Session.run_frozen ((session.step_moves _).wired wired) off (by simp) rest

/-- A writer gets a channel of its own, on which nothing was sent before. -/
theorem Session.Moves.channel {session after : Session V} {step : Session.Step} {writer : Session.Writer}
    (moves : Session.Moves session step after) (present : after.writer = some writer) :
    (∃ earlier, session.writer = some earlier ∧ earlier.channel = writer.channel) ∨
      session.widget.framesOn writer.channel = [] := by
  cases moves with
  | still | heard | showed | skipped | left | leftEarly | gaveUp | tried | answered | joined =>
    exact Or.inl ⟨writer, present, rfl⟩
  | opened =>
    cases present
    exact Or.inr session.widget.framesOn_next
  | handed _ earlier | lost _ earlier | ceased _ earlier | closed _ earlier =>
    cases present
    exact Or.inl ⟨_, earlier, rfl⟩

theorem Session.Reach.unused {start session : Session V} {past : List (Session V × Session.Step)}
    (reach : Session.Reach start past session) (idle : start.writer = none) {writer : Session.Writer}
    (present : session.writer = some writer) : start.widget.framesOn writer.channel = [] := by
  induction reach generalizing writer with
  | start => cases present.symm.trans idle
  | @next past session step previous ih =>
    rcases (session.step_moves step).channel present with ⟨earlier, found, same⟩ | empty
    · rw [← same]
      exact ih found
    · rw [previous.framesOn] at empty
      exact (List.append_eq_nil_iff.mp empty).1

/-- What the writer hands over is at every moment the beginning of what was sent with success on its channel.
After a frame is lost it hands over nothing, and neither does it after it closed the socket, which it does at
most once. When the session ends it has closed the socket, and if no frame was lost it has handed over all. -/
theorem Session.writer_hands_over_in_order {start : Session V} (waiting : start.isWaiting = true)
    (idle : start.writer = none) (steps : List Session.Step) {writer : Session.Writer}
    (present : (start.run steps).writer = some writer) :
    writer.sent <+: Session.acceptedOn writer.channel (start.along steps) ∧
      (∀ before step rest earlier, steps = before ++ step :: rest → (start.run before).LosesFrame step →
        (start.run before).writer = some earlier → writer.sent = earlier.sent) ∧
      (writer.closings ≤ 1 ∧
        ∀ before rest earlier, steps = before ++ rest → (start.run before).writer = some earlier →
          earlier.closings = 1 → writer.sent = earlier.sent) ∧
      (∀ result, (start.run steps).result? = some result →
        writer.closings = 1 ∧
          ((∀ entry ∈ start.along steps, ¬ entry.1.LosesFrame entry.2) →
            writer.sent = Session.acceptedOn writer.channel (start.along steps))) := by
  have reach : Session.Reach start (start.along steps) (start.run steps) := start.reach_run steps
  have wiredAt (before : List Session.Step) : (start.run before).Wired :=
    (start.reach_run before).wired (Session.Wired.of_idle waiting idle)
  have accepted : (start.run steps).widget.framesOn writer.channel =
      Session.acceptedOn writer.channel (start.along steps) := by
    rw [reach.framesOn, reach.unused idle present, List.nil_append]
  have keeps := reach.faithful idle writer present
  refine ⟨?_, ?_, ⟨?_, ?_⟩, ?_⟩
  · rw [← accepted]
    exact keeps.inOrder
  · intro before step rest earlier parts loses found
    obtain ⟨later, same, sent⟩ := Session.run_lost (wiredAt before) found loses rest
    subst parts
    rw [Session.run_append] at present
    cases present.symm.trans same
    exact sent
  · rw [keeps.closings]
    split <;> omega
  · intro before rest earlier parts found closed
    have stage : earlier.stage = .ended := by
      have count := ((start.reach_run before).faithful idle earlier found).closings
      by_cases ended : earlier.stage = .ended
      · exact ended
      · rw [closed, if_neg ended] at count
        omega
    obtain ⟨later, same, sent⟩ := Session.run_frozen (wiredAt before) found (by rw [stage]; decide) rest
    subst parts
    rw [Session.run_append] at present
    cases present.symm.trans same
    exact sent
  · intro result finished
    have ended : writer.stage = .ended := (wiredAt steps).ended present finished
    refine ⟨by rw [keeps.closings, if_pos ended], fun kept => ?_⟩
    obtain ⟨-, all⟩ := reach.complete waiting idle kept writer present (by rw [ended]; decide)
    rw [all, accepted]

theorem Session.writer_hands_over_two_frames :
    let steps : List Session.Step :=
      [.turn true 0, .settle (.ok 101), .turn true 1, .operator (.submit "first"),
        .operator (.submit "second"), .turn true 2, .write none, .turn true 3, .operatorGone, .turn true 4,
        .write none, .write none, .write none, .turn true 5]
    Session.acceptedOn 0 (Session.loopback.along steps) = ["first", "second"] ∧
      (Session.loopback.run steps).result?.isSome = true := by
  intro steps
  have present : (Session.loopback.run steps).writer = some ⟨0, 2, ["first", "second"], 1, .ended⟩ := by
    decide +kernel
  have finished : (Session.loopback.run steps).result? = some (.ok ()) := rfl
  have kept : ∀ entry ∈ Session.loopback.along steps, ¬ entry.1.LosesFrame entry.2 := by
    rintro entry member ⟨_, _, _, said, _⟩
    have listed := Session.mem_along member
    rw [said] at listed
    simp [steps] at listed
  have all := ((Session.writer_hands_over_in_order rfl rfl steps present).2.2.2 _ finished).2 kept
  exact ⟨all.symm, by rw [finished]; rfl⟩

end RelayConsole
