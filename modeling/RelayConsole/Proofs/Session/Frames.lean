import RelayConsole.Proofs.Session.History
import RelayConsole.Proofs.Widget.Frames

namespace RelayConsole

variable {V : Type} [View V]

def Session.accepted? (session : Session V) (step : Session.Step) : Option (Nat × String) :=
  match session.taken? step with
  | some (.event event) => session.widget.accepted? session.view event
  | _ => none

/-- The frames that were sent with success on a channel. -/
def Session.acceptedOn (number : Nat) (past : List (Session V × Session.Step)) : List String :=
  past.filterMap fun entry =>
    (entry.1.accepted? entry.2).bind fun accepted => if accepted.1 = number then some accepted.2 else none

theorem Session.acceptedOn_append (number : Nat) (past : List (Session V × Session.Step))
    (session : Session V) (step : Session.Step) :
    Session.acceptedOn number (past ++ [(session, step)]) =
      Session.acceptedOn number past ++ Session.acceptedOn number [(session, step)] :=
  List.filterMap_append

theorem Session.acceptedOn_idle {session : Session V} {step : Session.Step} (number : Nat)
    (idle : ∀ event, session.taken? step ≠ some (.event event)) :
    Session.acceptedOn number [(session, step)] = [] := by
  have none : session.accepted? step = none := by
    unfold accepted?
    split
    · rename_i event took
      exact (idle event took).elim
    · rfl
  simp only [acceptedOn, List.filterMap, none, Option.bind_none]

theorem Session.Moves.framesOn {session after : Session V} {step : Session.Step}
    (moves : Session.Moves session step after) (number : Nat) :
    after.widget.framesOn number =
      session.widget.framesOn number ++ Session.acceptedOn number [(session, step)] := by
  have quiet (idle : ∀ event, session.taken? step ≠ some (.event event))
      (same : after.widget.framesOn number = session.widget.framesOn number) :
      after.widget.framesOn number =
        session.widget.framesOn number ++ Session.acceptedOn number [(session, step)] := by
    rw [Session.acceptedOn_idle number idle, List.append_nil, same]
  have unmoved {widget : Widget} (same : widget.channels = session.widget.channels) :
      widget.framesOn number = session.widget.framesOn number := Widget.framesOn_of_channels same number
  cases moves with
  | @heard event rest log took queue =>
    have accepted : session.accepted? step = session.widget.accepted? session.view event := by
      simp only [accepted?, took]
    simp only [session.widget.framesOn_dispatch, acceptedOn, List.filterMap, accepted]
    cases (session.widget.accepted? session.view event).bind _ <;> rfl
  | still idle | gaveUp _ _ idle | tried _ _ idle => exact quiet (by simp [idle]) rfl
  | showed _ took | skipped _ took => exact quiet (by simp [took]) rfl
  | left _ _ cause =>
    refine quiet ?_ (unmoved (session.widget.shut_channels _))
    rcases cause with ⟨idle, _⟩ | ⟨item, took, _⟩
    · simp [idle]
    · simp [took]
  | leftEarly _ _ idle => exact quiet (by simp [idle]) (unmoved (session.widget.shut_channels _))
  | opened _ _ idle =>
    refine quiet (by simp [idle]) ?_
    rw [Widget.framesOn_of_channels (session.widget.attach.live_channels _), Widget.framesOn_attach]
  | joined said draining =>
    subst said
    exact quiet (by simp [taken?, draining]) rfl
  | answered _ said | handed said | lost said | ceased said =>
    subst said
    exact quiet (by simp [taken?]) rfl
  | closed said =>
    subst said
    exact quiet (by simp [taken?]) (session.widget.framesOn_dropReceiver _ number)

/-- What is on a channel is what was on it at the start, and then all that was sent with success. -/
theorem Session.Reach.framesOn {start session : Session V} {past : List (Session V × Session.Step)}
    (reach : Session.Reach start past session) (number : Nat) :
    session.widget.framesOn number = start.widget.framesOn number ++ Session.acceptedOn number past := by
  induction reach with
  | start => exact (List.append_nil _).symm
  | @next past session step previous ih =>
    rw [(session.step_moves step).framesOn, ih, List.append_assoc, ← Session.acceptedOn_append]

end RelayConsole
