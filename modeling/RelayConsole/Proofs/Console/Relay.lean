import RelayConsole.Console.Basic
import RelayConsole.Proofs.Session.Logs
import RelayConsole.Proofs.Session.Submitting

namespace RelayConsole

/-- A reader yields the lines before the first one that is no text. -/
theorem Reader.lines_ofLines (lines : List (List UInt8)) :
    (Reader.ofLines lines).lines =
      (lines.takeWhile fun line => (Utf8.decode? line).isSome).filterMap fun line =>
        (Utf8.decode? line).map String.ofList := by
  induction lines with
  | nil => rfl
  | cons line rest ih =>
    cases decoded : Utf8.decode? line with
    | none => simp only [ofLines, decoded, Option.isSome_none, List.takeWhile_cons_of_neg, List.filterMap_nil,
        Bool.false_eq_true, not_false_eq_true]
    | some text => simp only [ofLines, decoded, ih, Option.isSome_some, List.takeWhile_cons_of_pos,
        List.filterMap_cons, Option.map_some]

variable {S : Type} [Sink S]

/-- The lines that are still to be read. -/
def Console.unread (console : Console S) : List String :=
  (console.reader.map (·.lines)).getD []

/-- The frames that were handed to the socket. -/
def Console.handed (console : Console S) : List String :=
  (console.session.writer.map (·.sent)).getD []

/-- What happens to the session of a console. -/
def Console.passes? (console : Console S) : Console.Step → Option Session.Step
  | .read => console.reader.map fun reader =>
    match reader.lines with
    | line :: _ => .operator (.submit line)
    | [] => .operatorGone
  | .settle outcome => some (.settle outcome)
  | .arrive item => some (.arrive item)
  | .turn eventsFirst now => some (.turn eventsFirst now)
  | .write fault => some (.write fault)

def Console.course (console : Console S) : List Console.Step → List Session.Step
  | [] => []
  | step :: rest => (console.passes? step).toList ++ (console.step step).course rest

theorem Console.session_step (console : Console S) (step : Console.Step) :
    (console.step step).session.unlogged = (console.session.run (console.passes? step).toList).unlogged := by
  cases step with
  | read =>
    obtain ⟨filter, reader, session⟩ := console
    cases reader with
    | none => rfl
    | some reader =>
      obtain ⟨lines, broken⟩ := reader
      cases lines <;> rfl
  | settle | arrive | turn | write => rfl

theorem Console.session_run (console : Console S) (steps : List Console.Step) :
    (console.run steps).session.unlogged = (console.session.run (console.course steps)).unlogged := by
  induction steps generalizing console with
  | nil => rfl
  | cons step rest ih =>
    rw [course, Session.run_append]
    exact (ih (console.step step)).trans (Session.unlogged_run (console.session_step step) _)

theorem Console.course_append (console : Console S) (before after : List Console.Step) :
    console.course (before ++ after) = console.course before ++ (console.run before).course after := by
  induction before generalizing console with
  | nil => rfl
  | cons step rest ih =>
    rw [List.cons_append, course, course, ih, List.append_assoc]
    rfl

/-- The lines that were to be read are those that were submitted, and then those still to be read. -/
theorem Console.step_unread (console : Console S) (step : Console.Step) :
    (console.passes? step).toList.filterMap Session.Step.event? ++ (console.step step).unread.map .submit =
      console.unread.map .submit := by
  cases step with
  | read =>
    obtain ⟨filter, reader, session⟩ := console
    cases reader with
    | none => rfl
    | some reader =>
      obtain ⟨lines, broken⟩ := reader
      cases lines <;> rfl
  | settle | arrive | turn | write => rfl

theorem Console.course_unread (console : Console S) (steps : List Console.Step) :
    (console.course steps).filterMap Session.Step.event? ++ (console.run steps).unread.map .submit =
      console.unread.map .submit := by
  induction steps generalizing console with
  | nil => rfl
  | cons step rest ih =>
    have later := ih (console.step step)
    rw [course, List.filterMap_append, List.append_assoc]
    exact (congrArg _ later).trans (console.step_unread step)

theorem Console.course_typed (console : Console S) (steps : List Console.Step) :
    ∀ event ∈ (console.course steps).filterMap Session.Step.event?, ∃ text, event = .submit text := by
  intro event member
  have among := List.mem_append_left ((console.run steps).unread.map .submit) member
  rw [console.course_unread] at among
  obtain ⟨text, -, same⟩ := List.mem_map.mp among
  exact ⟨text, same.symm⟩

theorem Console.course_texts (console : Console S) (steps : List Console.Step) :
    ((console.course steps).filterMap Session.Step.event?).filterMap Widget.Event.submitted? ++
      (console.run steps).unread = console.unread := by
  have texts (lines : List String) :
      (lines.map Widget.Event.submit).filterMap Widget.Event.submitted? = lines := by
    rw [List.filterMap_map]
    exact List.filterMap_some
  have read := congrArg (List.filterMap Widget.Event.submitted?) (console.course_unread steps)
  rwa [List.filterMap_append, texts, texts] at read

/-- A console with a whole input before it, and with a fresh session. -/
structure Console.Ready (console : Console S) (input : List UInt8) : Prop where
  reader : console.reader = some (Reader.ofBytes input)
  session : ∃ config name controls terminal,
    console.session.unlogged = (Session.fresh config name controls terminal).unlogged

theorem Console.start_ready {env : List (String × String)} {folder : Settings.Folder} {input : List UInt8}
    {name : String} {sink : S} {console : Console S}
    (started : Console.start env folder (Reader.ofBytes input) name sink = .ok console) :
    console.Ready input := by
  simp only [start, bind, Except.bind] at started
  split at started
  · cases started
  · rename_i settings loaded
    split at started
    · cases started
    · cases started
      exact ⟨rfl, settings.config, name, settings.controls, { controls := settings.controls, sink }, rfl⟩

/-- Whatever happens to a console, the frames that it hands over are one block of the lines of its input before
the first that is no text: none is left out in between, none comes twice and none is changed. If the input ends
before the connection is there, no frame is handed over at all. -/
theorem Console.hands_over_one_block_of_lines {console : Console S} {input : List UInt8}
    (ready : console.Ready input) (steps : List Console.Step) :
    let lines := ((Lines.split 10 13 input).takeWhile fun line => (Utf8.decode? line).isSome).filterMap
      fun line => (Utf8.decode? line).map String.ofList
    (∃ first count, (console.run steps).handed = (lines.drop first).take count) ∧
      (∀ early eventsFirst now late, steps = early ++ .turn eventsFirst now :: late →
        (console.run early).session.isWaiting = true →
        (console.run early).session.seesGone (.turn eventsFirst now) = true →
        (console.run steps).handed = []) := by
  intro lines
  obtain ⟨reader, config, name, controls, terminal, fresh⟩ := ready
  let start := Session.fresh config name controls terminal
  have unread : console.unread = lines := by
    rw [unread, reader, Option.map_some, Option.getD_some, Reader.ofBytes, Reader.lines_ofLines]
  have followed (taken : List Console.Step) :
      (console.run taken).session.unlogged = (start.run (console.course taken)).unlogged :=
    (console.session_run taken).trans (Session.unlogged_run fresh _)
  have writer (taken : List Console.Step) :
      (console.run taken).session.writer = (start.run (console.course taken)).writer :=
    congrArg (·.writer) (followed taken)
  constructor
  · rw [handed, writer]
    cases present : (start.run (console.course steps)).writer with
    | none => exact ⟨0, 0, rfl⟩
    | some writer =>
      obtain ⟨before, after, block⟩ := Session.sent_infix_submitted config name controls terminal
        (console.course_typed steps) present
      refine ⟨before.length, writer.sent.length, ?_⟩
      rw [← unread, ← console.course_texts steps, ← block]
      simp
  · intro early eventsFirst now late parts waiting seen
    let reached := start.run (console.course early)
    have waits : reached.isWaiting = true :=
      (congrArg Session.isWaiting (followed early)).symm.trans waiting
    have sees : reached.seesGone (.turn eventsFirst now) = true :=
      (congrArg (Session.seesGone · (.turn eventsFirst now)) (followed early)).symm.trans seen
    have wired : reached.Wired := (start.reach_run _).wired (Session.Wired.of_idle rfl rfl)
    have course : console.course steps = console.course early ++
        .turn eventsFirst now :: ((console.run early).step (.turn eventsFirst now)).course late := by
      rw [parts, console.course_append]
      rfl
    rw [handed, writer, course, Session.run_append]
    exact congrArg (fun writer => (writer.map (·.sent)).getD []) (wired.never_opened waits sees _)

/-- Of four lines the first comes too early, and the fourth is no text. If the connection is there only after
the input has ended, it comes too late. -/
theorem Console.hands_over_an_empty_line :
    let input : List UInt8 := [97, 10, 98, 13, 10, 10, 255]
    let started : Except Failure (Console Sink.Record) :=
      Console.start [("APP_PAGE__URL", "http://[::1]/")] (fun _ => none) (Reader.ofBytes input) "console" {}
    let steps : List Console.Step :=
      [.read, .turn true 0, .turn true 1, .settle (.ok 101), .turn true 2, .read, .read, .turn true 3,
        .turn true 4, .read, .write none, .write none]
    let early : List Console.Step :=
      [.turn true 0, .read, .read, .read, .read, .turn true 1, .turn true 2, .turn true 3]
    ∃ console, started = .ok console ∧ (console.run steps).handed = ["b", ""] ∧
      (∃ first count, ["b", ""] = (["a", "b", ""].drop first).take count) ∧
      (console.run (early ++ .turn true 4 :: [.settle (.ok 101), .turn true 5, .write none])).handed = [] := by
  intro input started steps early
  have handed : started.toOption.map (fun console => (console.run steps).handed) = some ["b", ""] := by
    decide +kernel
  have ends : started.toOption.map (fun console =>
      ((console.run early).session.isWaiting, (console.run early).session.seesGone (.turn true 4))) =
        some (true, true) := by
    decide +kernel
  cases outcome : started with
  | error failure =>
    rw [outcome] at handed
    cases handed
  | ok console =>
    rw [outcome] at handed ends
    have block : (console.run steps).handed = ["b", ""] := Option.some.inj handed
    obtain ⟨waiting, seen⟩ := Prod.mk.inj (Option.some.inj ends)
    have ready : console.Ready input := Console.start_ready outcome
    obtain ⟨first, count, lines⟩ := (Console.hands_over_one_block_of_lines ready steps).1
    rw [block] at lines
    refine ⟨console, rfl, block, ⟨first, count, lines.trans ?_⟩, ?_⟩
    · exact congrArg (fun lines : List String => (lines.drop first).take count) (by decide +kernel)
    · exact (Console.hands_over_one_block_of_lines ready _).2 early true 4 _ rfl waiting seen

end RelayConsole
