import RelayConsole.Proofs.Session.Acts

namespace RelayConsole

def Widget.Event.submitted? : Widget.Event → Option String
  | .submit text => some text
  | _ => none

def Session.Step.event? : Session.Step → Option Widget.Event
  | .operator event => some event
  | _ => none

/-- The texts that a session has submitted to its widget while it was relaying. -/
def Session.submitted {V : Type} (past : List (Session V × Session.Step)) : List String :=
  ((Session.relayed past).filterMap Session.Taken.event?).filterMap Widget.Event.submitted?

theorem Session.submitted_append {V : Type} (past more : List (Session V × Session.Step)) :
    Session.submitted (past ++ more) = Session.submitted past ++ Session.submitted more := by
  simp only [submitted, Session.relayed_append, List.filterMap_append]

theorem Session.submitted_idle {V : Type} {session : Session V} {step : Session.Step}
    (idle : ∀ event, session.taken? step ≠ some (.event event)) :
    Session.submitted [(session, step)] = [] := by
  rw [submitted, Session.relayed_cons, Session.relayed_nil, List.append_nil]
  split
  · cases took : session.taken? step with
    | none => rfl
    | some taken =>
      cases taken with
      | event event => exact (idle event took).elim
      | item item => rfl
  · rfl

theorem Session.relayed_active {V : Type} {session : Session V} (active : session.isWaiting = false)
    (step : Session.Step) :
    (Session.relayed [(session, step)]).filterMap Session.Taken.event? =
      Session.eventsTaken [(session, step)] := by
  rw [Session.relayed_cons, Session.relayed_nil, List.append_nil]
  simp only [Session.eventsTaken, List.filterMap_cons, List.filterMap_nil]
  by_cases relaying : session.isRelaying = true
  · rw [if_pos relaying]
    cases session.taken? step with
    | none => rfl
    | some taken => cases taken <;> rfl
  · rw [if_neg relaying,
      Session.taken?_over (Session.isOver_of_not active (Bool.eq_false_iff.mpr relaying)) step]
    rfl

theorem Widget.isReceived_dropReceiver {widget : Widget} {number : Nat}
    (received : (widget.dropReceiver number).isReceived = true) : widget.isReceived = true := by
  simp only [isReceived, dropReceiver, Option.any_eq_true, Option.bind_eq_some_iff] at received ⊢
  obtain ⟨channel, ⟨outlet, attached, present⟩, receives⟩ := received
  rw [List.getElem?_modify] at present
  obtain ⟨before, found, same⟩ := Option.map_eq_some_iff.mp present
  refine ⟨before, ⟨outlet, attached, found⟩, ?_⟩
  rw [← same] at receives
  split at receives
  · cases receives
  · exact receives

theorem Widget.dispatch_unreceived {V : Type} [View V] {widget : Widget} (unreceived : widget.isReceived = false)
    (event : Widget.Event) (view : V) :
    ((widget.act (.dispatch event)).play view).result.1 = widget := by
  rw [widget.dispatch_result]
  split
  · rfl
  · split
    · rfl
    · rename_i sent
      obtain ⟨number, channel, attached, present, receives, -⟩ := Widget.transmit_ok.mp sent
      simp only [isReceived, attached, Option.bind_some, present, Option.any_some, receives,
        Bool.true_eq_false] at unreceived

theorem Widget.framesOn_submit {V : Type} [View V] [View.ReadsBack V] {widget : Widget} {view : V} {number : Nat}
    (text : String) (received : widget.isReceived = true) (attached : widget.outlet = some number)
    (enabled : View.isDisabled view widget.controls.send = false) :
    (((widget.act (.dispatch (.submit text))).play view).result.1).framesOn number =
      widget.framesOn number ++ [text] := by
  have asked : widget.frame? view (.submit text) = some text := by
    simp only [frame?, Event.target, enabled, Bool.false_eq_true, if_false, View.ReadsBack.value_setValue]
  rw [widget.framesOn_dispatch, Widget.accepted_received received attached, asked]
  simp only [Option.map_some, Option.bind_some, if_true, Option.toList_some]

/-- On the channel of a session stand the first of the texts that it has submitted, and all of them as long as
the channel is received. -/
def Session.Relays {V : Type} (session : Session V) (texts : List String) : Prop :=
  ∀ writer, session.writer = some writer →
    session.widget.framesOn writer.channel <+: texts ∧
      (session.isRelaying = true → session.widget.isReceived = true →
        session.widget.framesOn writer.channel = texts)

variable {V : Type} [View V]

/-- All steps but the one that opens and those that take an event leave the channel as it is, and no step makes
it received again. -/
theorem Session.Moves.relays [View.ReadsBack V] {session after : Session V} {step : Session.Step}
    {texts : List String} (moves : Session.Moves session step after)
    (typed : ∀ event, session.taken? step = some (.event event) → ∃ text, event = .submit text)
    (wired : session.Wired) (waits : session.isWaiting = true → texts = [])
    (enabled : session.isRelaying = true →
      ∀ id ∈ session.widget.controls.gated, View.isDisabled session.view id = false)
    (relays : session.Relays texts) : after.Relays (texts ++ Session.submitted [(session, step)]) := by
  have quiet (idle : ∀ event, session.taken? step ≠ some (.event event))
      (frames : ∀ writer, after.writer = some writer → ∃ earlier, session.writer = some earlier ∧
        after.widget.framesOn writer.channel = session.widget.framesOn earlier.channel)
      (lasting : after.isRelaying = true → after.widget.isReceived = true →
        session.isRelaying = true ∧ session.widget.isReceived = true) :
      after.Relays (texts ++ Session.submitted [(session, step)]) := by
    intro writer present
    obtain ⟨earlier, found, same⟩ := frames writer present
    obtain ⟨first, all⟩ := relays earlier found
    rw [Session.submitted_idle idle, List.append_nil, same]
    refine ⟨first, fun relaying received => ?_⟩
    obtain ⟨relayed, had⟩ := lasting relaying received
    exact all relayed had
  have absent {attempt : Session.Attempt} (waiting : session.stage = .waiting attempt) :
      session.writer = none :=
    wired.waiting (Session.isWaiting_iff.mpr ⟨attempt, waiting⟩)
  cases moves with
  | still idle =>
    exact quiet (by simp [idle]) (fun writer present => ⟨writer, present, rfl⟩) fun relaying received =>
      ⟨relaying, received⟩
  | showed relaying took | skipped relaying took =>
    exact quiet (by simp [took]) (fun writer present => ⟨writer, present, rfl⟩) fun relaying received =>
      ⟨relaying, received⟩
  | @heard event rest log took =>
    intro writer present
    have relaying : session.isRelaying = true := wired.relaying_of_event present took
    obtain ⟨other, found, attached⟩ := wired.relaying relaying
    cases present.symm.trans found
    obtain ⟨first, all⟩ := relays writer present
    obtain ⟨text, rfl⟩ := typed event took
    have submitted : Session.submitted [(session, step)] = [text] := by
      rw [Session.submitted, Session.relayed_cons, Session.relayed_nil, List.append_nil, if_pos relaying, took]
      rfl
    rw [submitted]
    cases received : session.widget.isReceived with
    | true =>
      have grown := Widget.framesOn_submit text received attached
        (enabled relaying _ (Widget.Event.target_mem_gated (.submit text) session.widget.controls))
      rw [all relaying received] at grown
      exact ⟨grown ▸ List.prefix_rfl, fun _ _ => grown⟩
    | false =>
      simp only [Widget.dispatch_unreceived received (.submit text) session.view, received,
        Bool.false_eq_true, false_implies, implies_true, and_true]
      exact first.trans (List.prefix_append texts [text])
  | left _ relaying cause =>
    refine quiet ?_ (fun writer present => ⟨writer, present, ?_⟩) (fun relaying => by cases relaying)
    · rcases cause with ⟨idle, -⟩ | ⟨item, took, -⟩
      · simp [idle]
      · simp [took]
    · exact Widget.framesOn_of_channels (session.widget.shut_channels _) _
  | leftEarly _ waiting | gaveUp _ waiting | tried _ waiting | answered waiting =>
    intro writer present
    cases (absent waiting).symm.trans present
  | @opened eventsFirst now status log said waiting idle =>
    intro writer present
    cases present
    have none : texts = [] := waits (Session.isWaiting_iff.mpr ⟨_, waiting⟩)
    have silent : Session.submitted [(session, step)] = [] := Session.submitted_idle (by simp [idle])
    simp only [silent, none, Widget.framesOn_opened, List.append_nil, List.prefix_rfl, implies_true, and_self]
  | joined said draining =>
    subst said
    exact quiet (by simp [taken?, draining]) (fun writer present => ⟨writer, present, rfl⟩)
      (fun relaying => by cases relaying)
  | handed said found | lost said found | ceased said found =>
    subst said
    refine quiet (by simp [taken?]) (fun writer present => ⟨_, found, ?_⟩) fun relaying received =>
      ⟨relaying, received⟩
    cases present
    rfl
  | closed said found =>
    subst said
    refine quiet (by simp [taken?]) (fun writer present => ⟨_, found, ?_⟩) fun relaying received =>
      ⟨relaying, Widget.isReceived_dropReceiver received⟩
    cases present
    exact session.widget.framesOn_dropReceiver _ _

theorem Session.Moves.phase_relaying {session after : Session V} {step : Session.Step}
    (moves : Session.Moves session step after)
    (waits : session.isWaiting = true → session.widget.phase = .connecting)
    (opened : session.isRelaying = true → session.widget.phase = .opened) (relaying : after.isRelaying = true) :
    after.widget.phase = .opened := by
  cases moves with
  | still | showed | skipped | handed | lost | ceased | closed => exact opened relaying
  | @heard event =>
    obtain ⟨channels, same⟩ := session.widget.dispatch_widget event session.view
    rw [same]
    exact opened relaying
  | left | leftEarly | gaveUp | tried | answered | joined => cases relaying
  | opened _ waiting =>
    have connecting : session.widget.attach.phase = .connecting :=
      waits (Session.isWaiting_iff.mpr ⟨_, waiting⟩)
    simp only [Widget.live, if_pos connecting]

section Fresh

variable {config : Session.Config} {name : String} {controls : Controls} {view : V}
variable {past : List (Session V × Session.Step)} {session : Session V}

theorem Session.Reach.phase_relaying [View.KeepsFlags V]
    (reach : Session.Reach (Session.fresh config name controls view) past session)
    (relaying : session.isRelaying = true) : session.widget.phase = .opened := by
  induction reach with
  | start => cases relaying
  | @next past session step previous ih =>
    refine (session.step_moves step).phase_relaying (fun waiting => ?_) ih relaying
    rw [(previous.untouched_fresh waiting).1]

/-- A fresh session to which nothing but texts is submitted relays them. -/
theorem Session.Reach.relays [View.KeepsFlags V] [View.ReadsBack V]
    (reach : Session.Reach (Session.fresh config name controls view) past session)
    (typed : ∀ event ∈ Session.eventsTaken past, ∃ text, event = .submit text) :
    session.Relays (Session.submitted past) := by
  induction reach with
  | start =>
    intro writer present
    cases present
  | @next past session step previous ih =>
    have parts : Session.eventsTaken (past ++ [(session, step)]) =
        Session.eventsTaken past ++ Session.eventsTaken [(session, step)] := List.filterMap_append
    rw [parts] at typed
    have taken : ∀ event, session.taken? step = some (.event event) → ∃ text, event = .submit text := by
      intro event took
      refine typed event (List.mem_append_right _ ?_)
      simp only [Session.eventsTaken, List.filterMap_cons, took, List.filterMap_nil, List.mem_singleton]
    have gated : session.panel.Gated := previous.gated (Panel.fresh_gated name controls view)
    rw [Session.submitted_append]
    refine (session.step_moves step).relays taken (previous.wired (Session.Wired.of_idle rfl rfl)) ?_ ?_
      (ih fun event member => typed event (List.mem_append_left _ member))
    · intro waiting
      rw [Session.submitted, previous.relayed_waiting waiting]
      rfl
    · exact fun relaying _ member => gated.enabled (previous.phase_relaying relaying) member

end Fresh

/-- The events that were taken before the connection was there came first. -/
theorem Session.Reach.relayed_suffix {start session : Session V} {past : List (Session V × Session.Step)}
    (reach : Session.Reach start past session) :
    (Session.relayed past).filterMap Session.Taken.event? <:+ Session.eventsTaken past := by
  induction reach with
  | start => exact List.suffix_rfl
  | @next past session step previous ih =>
    have parts : Session.eventsTaken (past ++ [(session, step)]) =
        Session.eventsTaken past ++ Session.eventsTaken [(session, step)] := List.filterMap_append
    rw [parts, Session.relayed_append, List.filterMap_append]
    by_cases waiting : session.isWaiting = true
    · have nothing : Session.relayed (past ++ [(session, step)]) = [] := by
        rw [Session.relayed_append, previous.relayed_waiting waiting, Session.relayed_cons,
          Session.not_relaying_of_waiting waiting]
        rfl
      rw [← List.filterMap_append, ← Session.relayed_append, nothing]
      exact List.nil_suffix
    · rw [Session.relayed_active (Bool.eq_false_iff.mpr waiting)]
      exact List.suffix_append_self_iff.mpr ih

theorem Session.Moves.gone {session after : Session V} {step : Session.Step}
    (moves : Session.Moves session step after) (gone : session.sourceGone = true) : after.sourceGone = true := by
  cases moves with
  | still _ _ lasting => exact lasting gone
  | _ => exact gone

theorem Session.eventsSent_gone {session : Session V} (gone : session.sourceGone = true)
    (steps : List Session.Step) : Session.eventsSent (session.along steps) = [] := by
  induction steps generalizing session with
  | nil => rfl
  | cons step rest ih =>
    have silent : session.sent? step = none := by
      cases step with
      | operator event => simp only [sent?, if_pos gone]
      | _ => rfl
    have later := ih ((session.step_moves step).gone gone)
    rw [along, eventsSent, List.filterMap_cons, silent]
    exact later

theorem Session.eventsSent_along (session : Session V) (steps : List Session.Step) :
    Session.eventsSent (session.along steps) <+: steps.filterMap Session.Step.event? := by
  induction steps generalizing session with
  | nil => exact List.prefix_rfl
  | cons step rest ih =>
    have later := ih (session.step step)
    by_cases gone : session.sourceGone = true
    · rw [Session.eventsSent_gone gone]
      exact List.nil_prefix
    · have same : session.sent? step = step.event? := by
        cases step with
        | operator event => simp only [sent?, if_neg gone, Step.event?]
        | _ => rfl
      rw [along, eventsSent, List.filterMap_cons, List.filterMap_cons, same]
      cases step.event? with
      | none => exact later
      | some event => exact List.cons_prefix_cons.mpr ⟨rfl, later⟩

/-- A fresh session to which the operator submits texts hands over one block of them: what came too early is
missing at the beginning, and at the end what came when the channel or its writer had stopped. -/
theorem Session.sent_infix_submitted [View.KeepsFlags V] [View.ReadsBack V] (config : Session.Config)
    (name : String) (controls : Controls) (view : V) {steps : List Session.Step}
    (typed : ∀ event ∈ steps.filterMap Session.Step.event?, ∃ text, event = .submit text)
    {writer : Session.Writer}
    (present : ((Session.fresh config name controls view).run steps).writer = some writer) :
    writer.sent <:+: (steps.filterMap Session.Step.event?).filterMap Widget.Event.submitted? := by
  let start := Session.fresh config name controls view
  have reach : Session.Reach start (start.along steps) (start.run steps) := start.reach_run steps
  have balance : Session.eventsTaken (start.along steps) ++ (start.run steps).waitingEvents =
      Session.eventsSent (start.along steps) := reach.queue
  have taken : Session.eventsTaken (start.along steps) <+: steps.filterMap Session.Step.event? := by
    refine List.IsPrefix.trans ?_ (start.eventsSent_along steps)
    rw [← balance]
    exact List.prefix_append _ _
  have relays := reach.relays fun event member => typed event (taken.subset member)
  have handed : writer.sent <+: Session.submitted (start.along steps) :=
    (reach.faithful rfl writer present).inOrder.trans (relays writer present).1
  have relayed : (Session.relayed (start.along steps)).filterMap Session.Taken.event? <:+:
      steps.filterMap Session.Step.event? :=
    reach.relayed_suffix.isInfix.trans taken.isInfix
  exact handed.isInfix.trans (relayed.filterMap _)

/-- Who sees that the operator has left before the connection is there will never have a writer. -/
theorem Session.Wired.never_opened {session : Session V} {step : Session.Step} (wired : session.Wired)
    (waiting : session.isWaiting = true) (seen : session.seesGone step = true) (rest : List Session.Step) :
    ((session.step step).run rest).writer = none := by
  have ended := Session.step_seen seen
  have absent := wired.waiting waiting
  have active : session.isOver = false := by
    rw [Bool.eq_false_iff]
    intro finished
    cases waiting.symm.trans (Session.not_waiting_of_over finished)
  have idle : (session.step step).writer = none := by
    cases (session.step_moves step).decision active ended with
    | refused _ unseen => cases seen.symm.trans unseen
    | early _ _ _ _ writer => exact writer.trans absent
    | served relaying => cases relaying.symm.trans (Session.not_relaying_of_waiting waiting)
  have settled := (((session.step step).reach_run rest).settles ended).1.writer
  rw [idle] at settled
  simpa only [Option.isSome_none, Option.isSome_eq_false_iff, Option.isNone_iff_eq_none] using settled

end RelayConsole
