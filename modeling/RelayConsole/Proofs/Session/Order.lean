import RelayConsole.Proofs.Session.Exits
import RelayConsole.Proofs.Widget.Desk

namespace RelayConsole

def Session.Taken.event? : Session.Taken → Option Widget.Event
  | .event given => some given
  | .item _ => none

def Session.Taken.text? : Session.Taken → Option String
  | .event _ => none
  | .item given => given.text?

/-- What the operator has made of the controls by the events among what was taken. -/
def Session.deskOf (controls : Controls) (memory : Memory) (taken : List Session.Taken) : Widget.Desk :=
  (taken.filterMap Session.Taken.event?).foldl Widget.Desk.after
    { path := (memory.control controls.path).value, request := (memory.control controls.request).value }

/-- The books of a session: its page and the channel with a number are what two separate accounts say, one of
the events and one of the messages among what was taken. -/
structure Session.Ledger (controls : Controls) (memory : Memory) (taken : List Session.Taken) (number : Nat)
    (widget : Widget) (page : Memory) : Prop where
  shows : ∀ id, (page.control id).shown =
    controls.shows memory (Session.deskOf controls memory taken) (taken.filterMap Session.Taken.text?) id
  sent : widget.framesOn number = (Session.deskOf controls memory taken).sent

theorem Session.Ledger.quiet {controls : Controls} {memory page after : Memory} {taken : List Session.Taken}
    {number : Nat} {widget next : Widget} (ledger : Session.Ledger controls memory taken number widget page)
    (new : Option Session.Taken) (noEvent : new.bind Session.Taken.event? = none)
    (noText : new.bind Session.Taken.text? = none)
    (shown : ∀ id, (after.control id).shown = (page.control id).shown)
    (frames : next.framesOn number = widget.framesOn number) :
    Session.Ledger controls memory (taken ++ new.toList) number next after := by
  have events : (taken ++ new.toList).filterMap Session.Taken.event? = taken.filterMap Session.Taken.event? := by
    cases new with
    | none => rw [Option.toList_none, List.append_nil]
    | some taken =>
      have silent : taken.event? = none := noEvent
      simp only [Option.toList_some, List.filterMap_append, List.filterMap_cons, silent, List.filterMap_nil,
        List.append_nil]
  have texts : (taken ++ new.toList).filterMap Session.Taken.text? = taken.filterMap Session.Taken.text? := by
    cases new with
    | none => rw [Option.toList_none, List.append_nil]
    | some taken =>
      have silent : taken.text? = none := noText
      simp only [Option.toList_some, List.filterMap_append, List.filterMap_cons, silent, List.filterMap_nil,
        List.append_nil]
  constructor
  · intro id
    rw [shown, ledger.shows, deskOf, deskOf, events, texts]
  · rw [frames, ledger.sent, deskOf, deskOf, events]

/-- The accounts begin with the step that opens, on a page that is as it was but for its gating. From then on the
control of every event that is taken is enabled, and its frame is received. -/
theorem Session.Moves.ledger {controls : Controls} {memory : Memory} {taken : List Session.Taken}
    {session after : Session Memory} {step : Session.Step} {writer : Session.Writer}
    (moves : Session.Moves session step after) (named : session.widget.controls = controls)
    (distinct : controls.Distinct) (wired : session.Wired)
    (fresh : session.isWaiting = true → taken = [] ∧ session.widget.phase = .connecting ∧
      session.view = View.gate memory true controls.gated)
    (opened : session.isRelaying = true → session.widget.Opened memory session.view)
    (received : session.isRelaying = true → session.widget.isReceived = true)
    (ledger : ∀ earlier, session.writer = some earlier →
      Session.Ledger controls memory taken earlier.channel session.widget session.view)
    (present : after.writer = some writer) :
    Session.Ledger controls memory (taken ++ (if session.isRelaying then session.taken? step else none).toList)
      writer.channel after.widget after.view := by
  have waits {attempt : Session.Attempt} (waiting : session.stage = .waiting attempt)
      (found : session.writer = some writer) : False := by
    have idle := wired.waiting (by simp only [isWaiting, waiting])
    cases idle.symm.trans found
  have idles (idle : session.taken? step = none) :
      (if session.isRelaying then session.taken? step else none) = none := by
    rw [idle, ite_self]
  subst named
  have grown {next : Session.Taken} (relaying : session.stage = .relaying)
      (took : session.taken? step = some next) :
      (if session.isRelaying then session.taken? step else none) = some next := by
    simp only [isRelaying, relaying, if_true, took]
  cases moves with
  | still idle =>
    rw [idles idle]
    exact (ledger writer present).quiet none rfl rfl (fun _ => rfl) rfl
  | @heard event rest log took =>
    have books := ledger writer present
    have relaying : session.isRelaying = true := wired.relaying_of_event present took
    obtain ⟨other, found, attached⟩ := wired.relaying relaying
    cases present.symm.trans found
    have active := opened relaying
    have page := active.dispatch_shows (received relaying) distinct books.shows event
    have frames := active.dispatch_sent (received relaying) distinct books.shows attached books.sent event
    rw [if_pos relaying, took]
    constructor
    · intro id
      simp only [page, deskOf, Option.toList_some, List.filterMap_append, List.filterMap_cons, Taken.event?,
        Taken.text?, List.filterMap_nil, List.append_nil, List.foldl_append, List.foldl_cons, List.foldl_nil]
    · simp only [frames, deskOf, Option.toList_some, List.filterMap_append, List.filterMap_cons, Taken.event?,
        List.filterMap_nil, List.foldl_append, List.foldl_cons, List.foldl_nil]
  | @showed text rest log relaying took =>
    have books := ledger writer present
    rw [grown relaying took]
    constructor
    · intro id
      simp only [Memory.view_perform]
      rw [Controls.shows_message books.shows]
      simp only [deskOf, Option.toList_some, List.filterMap_append, List.filterMap_cons, Taken.event?,
        Taken.text?, Inbound.text?, List.filterMap_nil, List.append_nil]
    · simp only [deskOf, Option.toList_some, List.filterMap_append, List.filterMap_cons, Taken.event?,
        List.filterMap_nil, List.append_nil]
      exact books.sent
  | skipped relaying took silent =>
    rw [grown relaying took]
    exact (ledger writer present).quiet _ rfl silent (fun _ => rfl) rfl
  | @left eventsFirst now items log said relaying cause =>
    have shown := session.view.shown_gate true session.widget.controls.gated
    have frames := Widget.framesOn_of_channels (session.widget.shut_channels now) writer.channel
    rcases cause with ⟨idle, -⟩ | ⟨item, took, last⟩
    · rw [idles idle]
      exact (ledger writer present).quiet none rfl rfl shown frames
    · rw [grown relaying took]
      have noText : item.text? = none := by
        cases item with
        | text | binary | ping | pong => cases last
        | close | fault | ended => rfl
      exact (ledger writer present).quiet _ rfl noText shown frames
  | leftEarly _ waiting | gaveUp _ waiting | tried _ waiting | answered waiting =>
    exact (waits waiting present).elim
  | @opened eventsFirst now status log said waiting idle =>
    obtain ⟨nothing, connecting, view⟩ := fresh (by simp only [isWaiting, waiting])
    cases present
    rw [idles idle, nothing]
    constructor
    · intro id
      simp only [if_pos connecting, view, Memory.shown_gate]
      exact (session.widget.controls.shows_start memory [] id).symm
    · rw [Widget.framesOn_opened]
      rfl
  | joined said draining =>
    subst said
    rw [idles (by simp only [taken?, draining])]
    exact (ledger writer present).quiet none rfl rfl (fun _ => rfl) rfl
  | handed said found | lost said found | ceased said found =>
    subst said
    cases present
    rw [idles rfl]
    exact (ledger _ found).quiet none rfl rfl (fun _ => rfl) rfl
  | closed said found =>
    subst said
    cases present
    rw [idles rfl]
    exact (ledger _ found).quiet none rfl rfl (fun _ => rfl) (session.widget.framesOn_dropReceiver _ _)

theorem Session.Reach.relayed_waiting {V : Type} [View V] {start session : Session V}
    {past : List (Session V × Session.Step)} (reach : Session.Reach start past session)
    (waiting : session.isWaiting = true) : Session.relayed past = [] := by
  rw [relayed, List.filterMap_eq_nil_iff]
  intro entry member
  rw [Session.not_relaying_of_waiting (reach.waiting_along waiting entry member).1, if_neg Bool.false_ne_true]

/-- Once the connection is there, the page and the channel are what the two accounts say, whatever has
happened in which order. -/
theorem Session.Reach.ledger {config : Session.Config} {name : String} {controls : Controls} {memory : Memory}
    {past : List (Session Memory × Session.Step)} {session : Session Memory}
    (reach : Session.Reach (Session.fresh config name controls memory) past session)
    (distinct : controls.Distinct)
    (received : ∀ entry ∈ past, entry.1.isRelaying = true → entry.1.widget.isReceived = true)
    {writer : Session.Writer} (present : session.writer = some writer) :
    Session.Ledger controls memory (Session.relayed past) writer.channel session.widget session.view := by
  induction reach generalizing writer with
  | start => cases present
  | @next past session step previous ih =>
    have wired : session.Wired := previous.wired (Session.Wired.of_idle rfl rfl)
    have fresh : session.isWaiting = true → Session.relayed past = [] ∧ session.widget.phase = .connecting ∧
        session.view = View.gate memory true controls.gated := by
      intro waiting
      obtain ⟨widget, view, -⟩ := previous.untouched_fresh waiting
      exact ⟨previous.relayed_waiting waiting, by rw [widget], view⟩
    have here := received (session, step) (List.mem_append_right _ (List.mem_singleton.mpr rfl))
    have before := fun entry member => received entry (List.mem_append_left _ member)
    rw [Session.relayed_append, Session.relayed_cons, Session.relayed_nil, List.append_nil]
    exact (session.step_moves step).ledger previous.controls_fresh distinct wired fresh previous.opened here
      (fun _ found => ih before found) present

/-- Once the connection is there, gating and notices depend on nothing but whether the session still relays. Where
it does not, it has left, since the two other decisions are made without a writer. -/
theorem Session.Reach.gating {config : Session.Config} {name : String} {controls : Controls} {memory : Memory}
    {past : List (Session Memory × Session.Step)} {session : Session Memory}
    (reach : Session.Reach (Session.fresh config name controls memory) past session) {writer : Session.Writer}
    (present : session.writer = some writer) :
    session.view.alerts = memory.alerts ∧ ∀ id, (session.view.control id).gating =
      if id ∈ controls.gated then
        let shut := ((memory.control id).setDisabled true).disabledCount
        if session.isRelaying then (false, (memory.control id).enabledCount + 1, shut)
        else (true, (memory.control id).enabledCount + 1, shut + 1)
      else (memory.control id).gating := by
  have named := reach.controls_fresh
  by_cases relaying : session.isRelaying = true
  · have opened := reach.opened relaying
    refine ⟨opened.alerts, fun id => ?_⟩
    by_cases member : id ∈ controls.gated
    · rw [if_pos member, if_pos relaying]
      exact opened.gating id (by rw [named]; exact member)
    · rw [if_neg member]
      exact opened.others id (by rw [named]; exact member)
  · have waiting : session.isWaiting = false := by
      rw [Bool.eq_false_iff]
      intro waits
      cases present.symm.trans ((reach.wired (Session.Wired.of_idle rfl rfl)).waiting waits)
    have ended : session.isOver = true :=
      Session.isOver_of_not waiting (by simpa only [Bool.not_eq_true] using relaying)
    obtain ⟨before, decider, step, rest, -, reached, active, ends, later⟩ := reach.decision rfl ended
    obtain ⟨settled, -⟩ := later.settles ends
    have busy (idle : (decider.step step).writer = none) : False := by
      have absent := settled.writer
      rw [present, idle] at absent
      cases absent
    have idle (waits : decider.isWaiting = true) : decider.writer = none :=
      (reached.wired (Session.Wired.of_idle rfl rfl)).waiting waits
    cases (decider.step_moves step).decision active ends with
    | refused waiting _ _ _ _ writer =>
      exact (busy (writer.trans (idle (by simp only [isWaiting, waiting])))).elim
    | early waiting _ _ _ writer => exact (busy (writer.trans (idle waiting))).elim
    | served relays _ _ view =>
      have opened := reached.opened relays
      rw [settled.view, view]
      refine ⟨by rw [Memory.alerts_gate, opened.alerts], fun id => ?_⟩
      rw [opened.gating_gate, reached.controls_fresh, if_neg relaying]

theorem Controls.distinct_of_nodup {controls : Controls}
    (different : [controls.path, controls.request, controls.response].Nodup) : controls.Distinct := by
  simp only [List.nodup_cons, List.mem_cons, List.not_mem_nil, or_false, not_or] at different
  exact ⟨different.1.1, different.1.2, different.2.1⟩

/-- As long as its channel is received while a session relays, the response is made of the messages alone and all
else of the events alone. So two sessions that take the same events and the same messages, each in their own order,
come to the same page and send the same frames. -/
theorem Session.order_does_not_matter (config : Session.Config) (name : String) (controls : Controls)
    (memory : Memory) (different : [controls.path, controls.request, controls.response].Nodup)
    (steps : List Session.Step) {writer : Session.Writer}
    (opened : ((Session.fresh config name controls memory).run steps).writer = some writer)
    (received : ∀ entry ∈ (Session.fresh config name controls memory).along steps,
      entry.1.isRelaying = true → entry.1.widget.isReceived = true) :
    let start := Session.fresh config name controls memory
    let final := start.run steps
    let events := (Session.relayed (start.along steps)).filterMap Session.Taken.event?
    let texts := (Session.relayed (start.along steps)).filterMap Session.Taken.text?
    let desk := events.foldl Widget.Desk.after
      { path := (memory.control controls.path).value, request := (memory.control controls.request).value }
    let response := final.view.control controls.response
    (response.value = (memory.control controls.response).value ++ String.join (texts.map (· ++ "\n")) ∧
      response.scrollTop =
        (if texts = [] then (memory.control controls.response).scrollTop else response.value.utf8ByteSize) ∧
      final.widget.framesOn writer.channel = desk.sent ∧
      (final.view.control controls.path).value =
        (events.filterMap Widget.Event.path?).getLastD (memory.control controls.path).value ∧
      (final.view.control controls.request).value = desk.request) ∧
    ∀ (others : List Session.Step) (other : Session.Writer), (start.run others).writer = some other →
      (∀ entry ∈ start.along others, entry.1.isRelaying = true → entry.1.widget.isReceived = true) →
      (Session.relayed (start.along others)).filterMap Session.Taken.event? = events →
      (Session.relayed (start.along others)).filterMap Session.Taken.text? = texts →
      (start.run others).widget.framesOn other.channel = final.widget.framesOn writer.channel ∧
        (start.run others).view.alerts = final.view.alerts ∧
        (∀ id, ((start.run others).view.control id).shown = (final.view.control id).shown) ∧
        ((start.run others).isRelaying = final.isRelaying →
          ∀ id, (start.run others).view.control id = final.view.control id) := by
  intro start final events texts desk response
  have distinct := Controls.distinct_of_nodup different
  have reach : Session.Reach start (start.along steps) final := start.reach_run steps
  have books := reach.ledger distinct received opened
  have value : response.value =
      (memory.control controls.response).value ++ String.join (texts.map (· ++ "\n")) :=
    (congrArg Prod.fst (books.shows controls.response)).trans (controls.shows_response_text memory _ texts)
  have path : (final.view.control controls.path).value = desk.path :=
    congrArg Prod.fst ((books.shows controls.path).trans (Controls.shows_path distinct memory _ texts))
  refine ⟨⟨value, ?_, books.sent, path.trans (Widget.Desk.path_foldl _ events), ?_⟩, ?_⟩
  · have shown := (books.shows controls.response).trans (controls.shows_response memory _ texts)
    by_cases silent : texts = []
    · simp only [if_pos silent] at shown ⊢
      exact congrArg Prod.snd shown
    · simp only [if_neg silent] at shown ⊢
      rw [value]
      exact congrArg Prod.snd shown
  · have shown := (books.shows controls.request).trans (Controls.shows_request distinct memory _ texts)
    exact congrArg Prod.fst shown
  · intro others other found heard sameEvents sameTexts
    have reached : Session.Reach start (start.along others) (start.run others) := start.reach_run others
    have theirs := reached.ledger distinct heard found
    have sameDesk : Session.deskOf controls memory (Session.relayed (start.along others)) =
        Session.deskOf controls memory (Session.relayed (start.along steps)) := by
      unfold deskOf
      rw [sameEvents]
    have shown (id : String) : ((start.run others).view.control id).shown = (final.view.control id).shown := by
      rw [theirs.shows, books.shows, sameDesk, sameTexts]
    obtain ⟨alerts, gating⟩ := reach.gating opened
    obtain ⟨otherAlerts, otherGating⟩ := reached.gating found
    refine ⟨by rw [theirs.sent, books.sent, sameDesk], by rw [alerts, otherAlerts], shown, ?_⟩
    intro alike id
    have same : ((start.run others).view.control id).gating = (final.view.control id).gating := by
      rw [gating, otherGating, alike]
    exact Memory.Control.eq_of_shown (shown id) same

theorem Session.order_of_question_and_answer :
    let steps (eventsFirst : Bool) : List Session.Step :=
      [.turn true 0, .settle (.ok 101), .turn true 1, .operator (.submit "question"), .arrive (.text "answer"),
        .turn eventsFirst 2, .turn eventsFirst 3]
    Session.relayed (Session.loopback.along (steps true)) =
        [.event (.submit "question"), .item (.text "answer")] ∧
      Session.relayed (Session.loopback.along (steps false)) =
        [.item (.text "answer"), .event (.submit "question")] ∧
      ∀ id, (Session.loopback.run (steps false)).view.control id =
        (Session.loopback.run (steps true)).view.control id := by
  intro steps
  have opened (eventsFirst : Bool) :
      (Session.loopback.run (steps eventsFirst)).writer = some { channel := 0 } := by
    cases eventsFirst <;> decide +kernel
  have heard (eventsFirst : Bool) : ((Session.loopback.along (steps eventsFirst)).all fun entry =>
      !entry.1.isRelaying || entry.1.widget.isReceived) = true := by
    cases eventsFirst <;> decide +kernel
  have received (eventsFirst : Bool) : ∀ entry ∈ Session.loopback.along (steps eventsFirst),
      entry.1.isRelaying = true → entry.1.widget.isReceived = true := by
    intro entry member relaying
    have here := List.all_eq_true.mp (heard eventsFirst) entry member
    simpa only [relaying, Bool.not_true, Bool.false_or] using here
  have first : Session.relayed (Session.loopback.along (steps true)) =
      [.event (.submit "question"), .item (.text "answer")] := by
    decide +kernel
  have second : Session.relayed (Session.loopback.along (steps false)) =
      [.item (.text "answer"), .event (.submit "question")] := by
    decide +kernel
  have both := (Session.order_does_not_matter { page := "http://[::1]/" } "console" Controls.long {} (by decide)
    (steps true) (opened true) (received true)).2 (steps false) _ (opened false) (received false)
  exact ⟨first, second, (both (by decide +kernel) (by decide +kernel)).2.2.2 (by decide +kernel)⟩

section Orders

variable {V : Type} [View V]

def Session.Taken.isEnd : Session.Taken → Bool
  | .event _ => false
  | .item given => given.isEnd

/-- Steps in which something comes in and is taken at once. -/
def Session.Taken.steps : Session.Taken → List Session.Step
  | .event given => [.operator given, .turn true 0]
  | .item given => [.arrive given, .turn false 0]

/-- A session that relays, and for which nothing waits. -/
structure Session.Ready (session : Session V) : Prop where
  stage : session.stage = .relaying
  events : session.waitingEvents = []
  items : session.waitingItems = []
  present : session.sourceGone = false

theorem Session.Ready.take {session : Session V} (ready : session.Ready) (next : Session.Taken) :
    Session.relayed (session.along next.steps) = [next] ∧
      (next.isEnd = false → (session.run next.steps).Ready) := by
  have relaying : session.isRelaying = true := by simp only [isRelaying, ready.stage]
  cases next with
  | event given =>
    have asked : session.step (.operator given) = { session with waitingEvents := [given] } := by
      simp only [Session.step, ready.present, ready.events, Bool.false_eq_true, if_false, List.nil_append]
    have took :
        Session.taken? { session with waitingEvents := [given] } (.turn true 0) = some (.event given) := by
      simp only [taken?, ready.stage, hasEvent, List.isEmpty_cons, Bool.not_false, Bool.true_or,
        Bool.and_self, if_true, List.head?_cons, Option.map_some]
    constructor
    · have relays : Session.isRelaying { session with waitingEvents := [given] } = true := relaying
      simp only [Taken.steps, along, Session.relayed_cons, asked, took, relays, if_true, Option.toList_some]
      rw [show session.taken? (.operator given) = none from rfl, ite_self, Session.relayed_nil]
      rfl
    · intro _
      obtain ⟨rest, log, queue, after⟩ := (Session.step_moves _ _).of_event took
      simp only [List.cons.injEq] at queue
      simp only [Taken.steps, run, List.foldl_cons, List.foldl_nil, asked, after]
      exact ⟨ready.stage, queue.2.symm, ready.items, ready.present⟩
  | item given =>
    have came : session.step (.arrive given) = { session with waitingItems := [given] } := by
      simp only [Session.step, ready.items, List.nil_append]
    have took :
        Session.taken? { session with waitingItems := [given] } (.turn false 0) = some (.item given) := by
      simp only [taken?, ready.stage, hasEvent, ready.events, ready.present, List.isEmpty_nil, Bool.not_true,
        Bool.or_self, Bool.false_and, Bool.false_eq_true, if_false, List.head?_cons, Option.map_some]
    constructor
    · have relays : Session.isRelaying { session with waitingItems := [given] } = true := relaying
      simp only [Taken.steps, along, Session.relayed_cons, came, took, relays, if_true, Option.toList_some]
      rw [show session.taken? (.arrive given) = none from rfl, ite_self, Session.relayed_nil]
      rfl
    · intro more
      have turned : Session.step { session with waitingItems := [given] } (.turn false 0) =
          Session.receive { session with waitingItems := [] } 0 given := by
        simp only [Session.step, turn, ready.stage, hasEvent, ready.events, ready.present, List.isEmpty_nil,
          Bool.not_true, Bool.or_self, Bool.false_and, Bool.false_eq_true, if_false, relayItem]
      simp only [Taken.steps, run, List.foldl_cons, List.foldl_nil, came, turned]
      cases given with
      | text | binary | ping | pong => exact ⟨ready.stage, ready.events, rfl, ready.present⟩
      | close | fault | ended => cases more

theorem Session.Ready.order {session : Session V} (ready : session.Ready) (order : List Session.Taken)
    (last : ∀ taken ∈ order.dropLast, taken.isEnd = false) :
    Session.relayed (session.along (order.flatMap Session.Taken.steps)) = order := by
  induction order generalizing session with
  | nil => rfl
  | cons next rest ih =>
    obtain ⟨taken, on⟩ := ready.take next
    have split := session.along_append next.steps (rest.flatMap Session.Taken.steps)
    have parts : Session.relayed (session.along ((next :: rest).flatMap Session.Taken.steps)) =
        next :: Session.relayed ((session.run next.steps).along (rest.flatMap Session.Taken.steps)) := by
      rw [List.flatMap_cons, split, Session.relayed_append, taken, List.singleton_append]
    cases rest with
    | nil => rw [parts]; rfl
    | cons second more =>
      have goes : next.isEnd = false := last next (by simp)
      rw [parts, ih (on goes) fun taken member => last taken (by
        rw [List.dropLast_cons_of_ne_nil (List.cons_ne_nil second more)]
        exact List.mem_cons_of_mem next member)]

/-- Any order of events and items is the order of some run, as long as nothing follows the end: the two sides
wait for each other in no way. -/
theorem Session.every_order_occurs (config : Session.Config) (name : String) (controls : Controls) (view : V)
    {url : Url} (fit : config.prepare = .ok url) (order : List Session.Taken)
    (last : ∀ taken ∈ order.dropLast, taken.isEnd = false) :
    ∃ steps, Session.relayed ((Session.fresh config name controls view).along steps) = order := by
  let start := Session.fresh config name controls view
  let opening : List Session.Step := [.turn true 0, .settle (.ok 101), .turn true 0]
  have ready : start.config.prepare = .ok url := fit
  have tried : ∃ log, start.attempt = { start with stage := .waiting .underWay, log := log } := by
    simp only [Session.attempt, ready]
    exact ⟨_, rfl⟩
  obtain ⟨log, tried⟩ := tried
  obtain ⟨later, begun⟩ :=
    Session.begin_eq { start with stage := .waiting (.settled (.ok 101)), log := log } 101 0
  have first : start.step (.turn true 0) = { start with stage := .waiting .underWay, log := log } := tried
  have reached : start.run opening =
      Session.begin { start with stage := .waiting (.settled (.ok 101)), log := log } 101 0 := by
    simp only [run, opening, List.foldl_cons, List.foldl_nil, first]
    rfl
  have idle : (start.run opening).Ready := by
    rw [reached, begun]
    exact ⟨rfl, rfl, rfl, rfl⟩
  have nothing : Session.relayed (start.along opening) = [] := by
    simp only [opening, along, first]
    rfl
  refine ⟨opening ++ order.flatMap Session.Taken.steps, ?_⟩
  rw [start.along_append, Session.relayed_append, nothing, idle.order order last, List.nil_append]

end Orders

end RelayConsole
