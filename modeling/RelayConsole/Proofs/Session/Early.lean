import RelayConsole.Proofs.Session.Logs
import RelayConsole.Proofs.Session.Waiting
import RelayConsole.Proofs.View.Document

namespace RelayConsole

variable {V : Type}

/-- Whether a step is about an event before the connection is there: that it comes in, or that it is taken. -/
def Session.isEarly (session : Session V) (step : Session.Step) : Bool :=
  session.isWaiting &&
    match step with
    | .operator _ => true
    | step => (session.taken? step).isSome

/-- What a session is without the events that wait for it before the connection is there. -/
def Session.hushed (session : Session V) : Session V :=
  { session.unlogged with waitingEvents := if session.isWaiting then [] else session.waitingEvents }

theorem Session.hushed_waiting (session : Session V) (waiting : session.isWaiting = true) :
    session.hushed = { session.unlogged with waitingEvents := [] } := by
  simp only [hushed, waiting, if_true]

theorem Session.hushed_of_empty {session : Session V} (queue : session.waitingEvents = []) :
    session.hushed = session.unlogged := by
  simp only [hushed, unlogged, relog, queue, ite_self]

theorem Session.hushed_over {session : Session V} (ended : session.isWaiting = false) :
    session.hushed = session.unlogged := by
  simp only [hushed, unlogged, relog, ended, Bool.false_eq_true, if_false]

variable [View V]

/-- The same steps less those that are about events before the connection is there. -/
def Session.silenced (session : Session V) : List Session.Step → List Session.Step
  | [] => []
  | step :: rest =>
    if session.isEarly step then (session.step step).silenced rest
    else step :: (session.step step).silenced rest

/-- As long as a session waits, its controls are shut and nobody writes. -/
def Session.Calm (session : Session V) : Prop :=
  session.isWaiting = true → session.Shut ∧ session.writer = none

theorem Session.Calm.step {session : Session V} (calm : session.Calm) (step : Session.Step) :
    (session.step step).Calm := by
  intro waiting
  have moves := session.step_moves step
  obtain ⟨shut, idle⟩ := calm (moves.waiting_before waiting)
  obtain ⟨widget, view, writer⟩ := moves.untouched shut idle waiting
  refine ⟨?_, writer⟩
  unfold Shut
  rw [widget, view]
  exact shut

theorem Session.hushed_early {session : Session V} {step : Session.Step} (calm : session.Calm)
    (early : session.isEarly step = true) : (session.step step).hushed = session.hushed := by
  simp only [isEarly, Bool.and_eq_true] at early
  obtain ⟨waiting, kind⟩ := early
  cases step with
  | operator event =>
    have after : (session.step (.operator event)).isWaiting = true := by
      simp only [Session.step]
      split <;> exact waiting
    rw [session.hushed_waiting waiting, Session.hushed_waiting _ after]
    simp only [Session.step]
    split <;> rfl
  | operatorGone | settle | arrive | write => cases kind
  | turn eventsFirst now =>
    obtain ⟨taken, took⟩ := Option.isSome_iff_exists.mp kind
    obtain ⟨event, rfl⟩ := Session.taken?_waiting waiting took
    obtain ⟨rest, log, -, same⟩ := (session.step_moves _).of_event took
    obtain ⟨result, view⟩ := Widget.dispatch_disabled
      ((calm waiting).1 _ (event.target_mem_gated session.widget.controls))
    rw [result, view] at same
    rw [same, session.hushed_waiting waiting]
    exact Session.hushed_waiting _ waiting

/-- A step that is not early does the same whether or not events wait for it; a turn finds none then. -/
theorem Session.hushed_step {session : Session V} {step : Session.Step} (calm : session.Calm)
    (late : session.isEarly step = false) :
    (session.hushed.step step).unlogged = (session.step step).hushed := by
  by_cases waiting : session.isWaiting = true
  · cases step with
    | operator event => simp only [isEarly, waiting, Bool.and_self, Bool.true_eq_false] at late
    | operatorGone =>
      rw [session.hushed_waiting waiting]
      exact (Session.hushed_waiting (session.step .operatorGone) waiting).symm
    | arrive item =>
      rw [session.hushed_waiting waiting]
      exact (Session.hushed_waiting (session.step (.arrive item)) waiting).symm
    | settle outcome =>
      have after : (session.step (.settle outcome)).isWaiting = true := by
        simp only [Session.step]
        split
        · rfl
        · exact waiting
      rw [session.hushed_waiting waiting, Session.hushed_waiting _ after]
      simp only [Session.step, unlogged, relog]
      split <;> rfl
    | write fault =>
      have idle : session.hushed.writer = none := (calm waiting).2
      simp only [Session.step, write, idle, (calm waiting).2]
      rfl
    | turn eventsFirst now =>
      have idle : session.taken? (.turn eventsFirst now) = none := by
        simpa only [isEarly, waiting, Bool.true_and, Option.isSome_eq_false_iff,
          Option.isNone_iff_eq_none] using late
      have queue : session.waitingEvents = [] := Session.queue_of_idle waiting idle
      have moved := (session.step_moves (.turn eventsFirst now)).queue
      simp only [eventsTaken, List.filterMap, idle, queue, sent?, List.nil_append, Option.toList_none] at moved
      rw [Session.hushed_of_empty queue, Session.hushed_of_empty moved]
      exact session.unlogged_step [] _
  · have ended : session.isWaiting = false := by simpa only [Bool.not_eq_true] using waiting
    have later : (session.step step).isWaiting = false := by
      rw [Bool.eq_false_iff]
      exact fun still => waiting ((session.step_moves step).waiting_before still)
    rw [Session.hushed_over ended, Session.hushed_over later]
    exact session.unlogged_step [] step

/-- Two runs side by side: the one whose early steps are left out is always what the other one is without the
events that wait for it, since an early step changes nothing but these. -/
theorem Session.hushed_run {session quiet : Session V} (calm : session.Calm)
    (alike : quiet.unlogged = session.hushed) (steps : List Session.Step) :
    (quiet.run (session.silenced steps)).unlogged = (session.run steps).hushed := by
  induction steps generalizing session quiet with
  | nil => exact alike
  | cons step rest ih =>
    rw [silenced]
    by_cases early : session.isEarly step = true
    · rw [if_pos early]
      exact ih (calm.step step) (alike.trans (Session.hushed_early calm early).symm)
    · rw [if_neg early]
      have late : session.isEarly step = false := by simpa only [Bool.not_eq_true] using early
      have same : quiet = session.hushed.relog quiet.log := Session.eq_relog alike
      have moved := session.hushed.unlogged_step quiet.log step
      rw [← same] at moved
      exact ih (calm.step step) (moved.trans (Session.hushed_step calm late))

theorem Session.silenced_silent {session quiet : Session V} (calm : session.Calm)
    (alike : quiet.unlogged = session.hushed) (steps : List Session.Step) :
    ∀ entry ∈ quiet.along (session.silenced steps),
      entry.1.isWaiting = true → ∀ event, entry.2 ≠ .operator event := by
  induction steps generalizing session quiet with
  | nil =>
    intro entry member
    cases member
  | cons step rest ih =>
    rw [silenced]
    by_cases early : session.isEarly step = true
    · rw [if_pos early]
      exact ih (calm.step step) (alike.trans (Session.hushed_early calm early).symm)
    · rw [if_neg early]
      have late : session.isEarly step = false := by simpa only [Bool.not_eq_true] using early
      have same : quiet = session.hushed.relog quiet.log := Session.eq_relog alike
      have moved := session.hushed.unlogged_step quiet.log step
      rw [← same] at moved
      intro entry member waiting event equal
      rcases List.mem_cons.mp member with here | later
      · subst here
        have waits : session.isWaiting = true := (congrArg isWaiting alike).symm.trans waiting
        simp only at equal
        simp only [isEarly, waits, equal, Bool.and_self, Bool.true_eq_false] at late
      · exact ih (calm.step step) (moved.trans (Session.hushed_step calm late)) entry later waiting event equal

theorem Session.fresh_calm [View.KeepsFlags V] (config : Session.Config) (name : String) (controls : Controls)
    (view : V) : (Session.fresh config name controls view).Calm :=
  fun _ => ⟨Session.fresh_shut config name controls view, rfl⟩

/-- Events before the connection is there leave no trace. Each that came in is taken before the turn in which the
session stops waiting, and all else ends as it does if they never come in and the turns that take them are left
out. As long as the session waits, its widget and its view do not change at all. -/
theorem Session.early_events_leave_no_trace [View.KeepsFlags V] (config : Session.Config) (name : String)
    (controls : Controls) (view : V) (steps : List Session.Step) :
    let start := Session.fresh config name controls view
    let full := start.run steps
    let quiet := start.run (start.silenced steps)
    (∀ step, full.isWaiting = true → (full.step step).isWaiting = false →
        full.waitingEvents = [] ∧
          Session.eventsTaken (start.along steps) = Session.eventsSent (start.along steps)) ∧
      (∀ entry ∈ start.along (start.silenced steps),
        entry.1.isWaiting = true → ∀ event, entry.2 ≠ .operator event) ∧
      (full.result? = quiet.result? ∧ full.widget = quiet.widget ∧ full.view = quiet.view ∧
        full.writer = quiet.writer) ∧
      (full.isWaiting = true → full.widget = start.widget ∧ full.view = start.view ∧ full.writer = none) := by
  intro start full quiet
  have calm : start.Calm := Session.fresh_calm config name controls view
  have reach : Session.Reach start (start.along steps) full := start.reach_run steps
  have alike : start.unlogged = start.hushed := (Session.hushed_of_empty rfl).symm
  have same : quiet.unlogged = full.hushed := Session.hushed_run calm alike steps
  refine ⟨?_, Session.silenced_silent calm alike steps, ?_, ?_⟩
  · intro step waiting decided
    have queue : full.waitingEvents = [] := (full.step_moves step).queue_of_decision waiting decided
    refine ⟨queue, ?_⟩
    have balance := reach.queue
    rw [queue, List.append_nil] at balance
    exact balance
  · exact ⟨(congrArg result? same).symm, (congrArg (·.widget) same).symm, (congrArg (·.view) same).symm,
      (congrArg (·.writer) same).symm⟩
  · exact reach.untouched (Session.fresh_shut config name controls view) rfl

theorem Session.early_submit_leaves_no_trace :
    let steps : List Session.Step :=
      [.turn true 0, .operator (.submit "early"), .settle (.ok 101), .turn true 1, .turn true 2]
    Session.loopback.silenced steps = [.turn true 0, .settle (.ok 101), .turn true 2] ∧
      (Session.loopback.run steps).isRelaying = true ∧
      (Session.loopback.run steps).view =
        (Session.loopback.run [.turn true 0, .settle (.ok 101), .turn true 2]).view := by
  intro steps
  have rest : Session.loopback.silenced steps = [.turn true 0, .settle (.ok 101), .turn true 2] := rfl
  have same := (Session.early_events_leave_no_trace { page := "http://[::1]/" } "console" Controls.long
    ({} : Memory) steps).2.2.1.2.2.1
  exact ⟨rest, by decide +kernel, by rw [← rest]; exact same⟩

end RelayConsole
