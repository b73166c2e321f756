import RelayConsole.Proofs.Session.Decision
import RelayConsole.Proofs.Widget.Page

namespace RelayConsole

theorem Session.Moves.opened_kept {memory : Memory} {session after : Session Memory} {step : Session.Step}
    (moves : Session.Moves session step after) (opened : session.widget.Opened memory session.view)
    (relaying : session.isRelaying = true) (still : after.isRelaying = true) :
    after.widget.Opened memory after.view := by
  cases moves with
  | still | skipped | handed | lost | ceased => exact opened
  | @heard event =>
    obtain ⟨channels, same⟩ := session.widget.dispatch_widget event session.view
    rw [same]
    exact opened.written (session.widget.dispatch_written event session.view) channels
  | showed => exact opened.written (session.view.written_message _ _) _
  | closed => exact opened.written (Memory.Written.refl session.view) _
  | left | leftEarly | gaveUp | tried | answered | joined => cases still
  | opened _ waiting => simp only [isRelaying, waiting, Bool.false_eq_true] at relaying

theorem Session.Moves.opened_first {memory : Memory} {session after : Session Memory} {step : Session.Step}
    (moves : Session.Moves session step after) (waiting : session.isWaiting = true)
    (connecting : session.widget.phase = .connecting)
    (shut : session.view = View.gate memory true session.widget.controls.gated)
    (relaying : after.isRelaying = true) :
    after.widget.Opened memory after.view := by
  cases moves with
  | opened =>
    simp only [if_pos connecting, shut]
    exact session.widget.attach.opened_live connecting memory _
  | still | heard | showed | skipped | handed | lost | ceased | closed =>
    cases (Session.not_relaying_of_waiting waiting).symm.trans relaying
  | left | leftEarly | gaveUp | tried | answered | joined => cases relaying

theorem Session.Reach.opened {config : Session.Config} {name : String} {controls : Controls} {memory : Memory}
    {past : List (Session Memory × Session.Step)} {session : Session Memory}
    (reach : Session.Reach (Session.fresh config name controls memory) past session)
    (relaying : session.isRelaying = true) : session.widget.Opened memory session.view := by
  induction reach with
  | start => cases relaying
  | @next past session step previous ih =>
    have moves := session.step_moves step
    by_cases before : session.isRelaying = true
    · exact moves.opened_kept (ih before) before relaying
    · rcases moves.relaying_before relaying with again | ⟨status, settled⟩
      · exact (before again).elim
      · have waiting : session.isWaiting = true := by simp only [isWaiting, settled]
        obtain ⟨widget, view, -⟩ := previous.untouched_fresh waiting
        exact moves.opened_first waiting (by rw [widget]) (by rw [view, widget]) relaying

/-- Why no connection came about. Without an address, or with a subprotocol that cannot be sent, the network
is not even asked. -/
def Session.Refused (config : Session.Config) (past : List (Session Memory × Session.Step))
    (failure : Failure) : Prop :=
  match config.endpoint with
  | .error unfit => failure = unfit ∧ ∀ entry ∈ past, entry.1.isTrying = false
  | .ok _ =>
    if Session.isHeaderText config.subprotocol then
      ∃ error, Session.Answered past (.error error) ∧ failure = .ofTransport error
    else
      failure = .validation ("subprotocol '" ++ config.subprotocol ++ "': failed to parse header value") ∧
        ∀ entry ∈ past, entry.1.isTrying = false

section Ends

variable {config : Session.Config} {name : String} {controls : Controls} {memory : Memory}
variable {before rest : List (Session Memory × Session.Step)} {decider session : Session Memory}
    {step : Session.Step}
variable (reached : Session.Reach (Session.fresh config name controls memory) before decider)
variable (later : Session.Reach (decider.step step) rest session)

include reached later

/-- If every address can be written into a request, the failure tells which of the three stages of connecting
it is from. The two that need no network stop the first attempt, so that no later stage is reached. -/
theorem Session.Reach.refused {attempt : Session.Attempt} {failure : Failure}
    (fit : ∀ url, config.endpoint = .ok url → Session.request url = .ok ())
    (waiting : decider.stage = .waiting attempt)
    (cause : attempt = .idle ∧ decider.config.prepare = .error failure ∨
      ∃ error, attempt = .settled (.error error) ∧ failure = .ofTransport error) :
    Session.Refused config (before ++ (decider, step) :: rest) failure := by
  have unasked {unfit : Failure} (failed : config.prepare = .error unfit) :
      ∀ entry ∈ before ++ (decider, step) :: rest, entry.1.isTrying = false := by
    intro entry member
    obtain ⟨past, reachable⟩ := ((reached.next step).trans later).of_mem
      (by rw [List.append_assoc]; exact member)
    exact Session.not_trying (reachable.unasked rfl failed)
  unfold Refused
  cases address : config.endpoint with
  | error unfit =>
    have failed : config.prepare = .error unfit := by simp only [Session.Config.prepare, address]
    rcases cause with ⟨-, other⟩ | ⟨error, rfl, -⟩
    · rw [reached.config] at other
      cases failed.symm.trans other
      exact ⟨rfl, unasked failed⟩
    · have idle := Session.not_trying (reached.unasked rfl failed)
      simp only [isTrying, waiting, Bool.true_eq_false] at idle
  | ok url =>
    simp only
    by_cases legal : Session.isHeaderText config.subprotocol = true
    · have ready : config.prepare = .ok url := by
        simp only [Session.Config.prepare, address, fit url address, legal, if_true]
      rw [if_pos legal]
      rcases cause with ⟨-, failed⟩ | ⟨error, rfl, told⟩
      · rw [reached.config] at failed
        cases failed.symm.trans ready
      · obtain ⟨entry, member, answered⟩ := reached.answered rfl waiting
        exact ⟨error, ⟨entry, List.mem_append_left _ member, answered⟩, told⟩
    · have failed : config.prepare =
          .error (.validation ("subprotocol '" ++ config.subprotocol ++ "': failed to parse header value")) := by
        simp only [Session.Config.prepare, address, fit url address, legal, Bool.false_eq_true, if_false]
      rw [if_neg legal]
      rcases cause with ⟨-, other⟩ | ⟨error, rfl, -⟩
      · rw [reached.config] at other
        cases failed.symm.trans other
        exact ⟨rfl, unasked failed⟩
      · have idle := Session.not_trying (reached.unasked rfl failed)
        simp only [isTrying, waiting, Bool.true_eq_false] at idle

variable (ends : (decider.step step).isOver = true)

include ends

/-- Nobody sees the operator leave before a decision that is not about that, nor after it. -/
theorem Session.Reach.unseen (waiting : decider.isWaiting = true) (unseen : decider.seesGone step = false) :
    ∀ entry ∈ before ++ (decider, step) :: rest, entry.1.seesGone entry.2 = false := by
  intro entry member
  rcases List.mem_append.mp member with early | late
  · rw [Bool.eq_false_iff]
    intro seen
    have still := (reached.waiting_along waiting entry early).2
    cases (Session.not_waiting_of_over (Session.step_seen seen)).symm.trans still
  · rcases List.mem_cons.mp late with here | late
    · rw [here]
      exact unseen
    · obtain ⟨past, reach⟩ := later.of_mem late
      exact Session.seesGone_over (reach.settles ends).2 entry.2

end Ends

end RelayConsole
