import RelayConsole.Proofs.Panel.Gating
import RelayConsole.Proofs.Session.Order
import RelayConsole.Session.Series

namespace RelayConsole

variable {V : Type} [View V]

/-- A session does to its widget and view only what can be done to any panel, and it never sends past the
controls. The texts that it shows are those of the messages that it takes while it relays. -/
theorem Session.Moves.acts {session after : Session V} {step : Session.Step}
    (moves : Session.Moves session step after) :
    ∃ actions, after.panel = session.panel.run actions ∧ (∀ action ∈ actions, action.isDirect = false) ∧
      actions.filterMap Widget.Action.text? =
        (Session.relayed [(session, step)]).filterMap Session.Taken.text? := by
  have silent (noText : (session.taken? step).bind Session.Taken.text? = none) :
      (Session.relayed [(session, step)]).filterMap Session.Taken.text? = [] := by
    rw [Session.relayed_cons, Session.relayed_nil, List.append_nil]
    cases took : session.taken? step with
    | none => rw [ite_self, Option.toList_none, List.filterMap_nil]
    | some taken =>
      rw [took, Option.bind_some] at noText
      split
      · rw [Option.toList_some, List.filterMap_cons, noText, List.filterMap_nil]
      · rw [Option.toList_none, List.filterMap_nil]
  have idles (idle : session.taken? step = none) :
      (Session.relayed [(session, step)]).filterMap Session.Taken.text? = [] :=
    silent (by rw [idle, Option.bind_none])
  have still (same : after.panel = session.panel)
      (noText : (Session.relayed [(session, step)]).filterMap Session.Taken.text? = []) :
      ∃ actions, after.panel = session.panel.run actions ∧ (∀ action ∈ actions, action.isDirect = false) ∧
        actions.filterMap Widget.Action.text? =
          (Session.relayed [(session, step)]).filterMap Session.Taken.text? :=
    ⟨[], same, by simp, noText.symm⟩
  cases moves with
  | still idle | tried _ _ idle => exact still rfl (idles idle)
  | skipped _ took noText => exact still rfl (silent (by rw [took]; exact noText))
  | answered _ said | handed said | lost said | ceased said =>
    subst said
    exact still rfl (idles rfl)
  | joined said draining =>
    subst said
    exact still rfl (idles (by simp only [taken?, draining]))
  | @heard event rest log took =>
    exact ⟨[.dispatch event], rfl, by simp [Widget.Action.isDirect], (silent (by rw [took]; rfl)).symm⟩
  | @showed text rest log relaying took =>
    refine ⟨[.received text], (session.panel.step_received text).symm, by simp [Widget.Action.isDirect], ?_⟩
    have relays : session.isRelaying = true := Session.isRelaying_iff.mpr relaying
    rw [Session.relayed_cons, if_pos relays, took]
    rfl
  | @left eventsFirst now items log said relaying cause =>
    refine ⟨[.closed now, .detach], ?_, by simp [Widget.Action.isDirect], (silent ?_).symm⟩
    · simp only [Panel.run, List.foldl_cons, List.foldl_nil, Panel.step_closed]
      rfl
    · rcases cause with ⟨idle, -⟩ | ⟨item, took, last⟩
      · rw [idle, Option.bind_none]
      · rw [took]
        cases item with
        | text | binary | ping | pong => cases last
        | close | fault | ended => rfl
  | @leftEarly eventsFirst now attempt log said waiting idle =>
    exact ⟨[.closed now], (session.panel.step_closed now).symm, by simp [Widget.Action.isDirect],
      (idles idle).symm⟩
  | @gaveUp eventsFirst now attempt failure log said waiting idle =>
    exact ⟨[.failed failure], (session.panel.step_failed failure).symm, by simp [Widget.Action.isDirect],
      (idles idle).symm⟩
  | @opened eventsFirst now status log said waiting idle =>
    refine ⟨[.attach, .opened now], ?_, by simp [Widget.Action.isDirect], (idles idle).symm⟩
    simp only [Panel.run, List.foldl_cons, List.foldl_nil, Panel.step_opened]
    rfl
  | @closed writer fault log said =>
    subst said
    exact ⟨[.dropReceiver writer.channel], rfl, by simp [Widget.Action.isDirect], (idles rfl).symm⟩

theorem Session.Reach.acts {start session : Session V} {past : List (Session V × Session.Step)}
    (reach : Session.Reach start past session) :
    ∃ actions, session.panel = start.panel.run actions ∧ (∀ action ∈ actions, action.isDirect = false) ∧
      actions.filterMap Widget.Action.text? = (Session.relayed past).filterMap Session.Taken.text? := by
  induction reach with
  | start => exact ⟨[], rfl, by simp, rfl⟩
  | @next past session step previous ih =>
    obtain ⟨before, reached, indirect, texts⟩ := ih
    obtain ⟨actions, moved, still, shown⟩ := (session.step_moves step).acts
    refine ⟨before ++ actions, ?_, ?_, ?_⟩
    · rw [Panel.run_append, ← reached, moved]
    · intro action member
      rcases List.mem_append.mp member with earlier | here
      · exact indirect action earlier
      · exact still action here
    · rw [List.filterMap_append, Session.relayed_append, List.filterMap_append, texts, shown]

theorem Session.Reach.gated [View.KeepsFlags V] {start session : Session V}
    {past : List (Session V × Session.Step)} (reach : Session.Reach start past session)
    (gated : start.panel.Gated) : session.panel.Gated := by
  obtain ⟨actions, reached, -⟩ := reach.acts
  rw [reached]
  exact gated.run actions

end RelayConsole
