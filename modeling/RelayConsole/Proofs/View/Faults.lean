import RelayConsole.Proofs.View.Document
import RelayConsole.Proofs.View.Metered
import RelayConsole.Proofs.View.Related

namespace RelayConsole

/-- Why something failed, if it did. -/
def Sink.fault? : Except String Unit → Option String
  | .ok _ => none
  | .error reason => some reason

/-- What comes of showing a message: the sink as it is then, how the writing went and how the flushing. -/
structure Sink.Showing (S : Type) where
  sink : S
  written : Except String Unit
  flushed : Except String Unit

/-- One line for a write that failed and one for a flush that failed. -/
def Sink.Showing.complaints {S : Type} (showing : Sink.Showing S) : List Log.Line :=
  ((fault? showing.written).map fun reason =>
      ⟨.error, .terminal, "Failed to write response: " ++ reason⟩).toList ++
    ((fault? showing.flushed).map fun reason =>
      ⟨.error, .terminal, "Failed to flush response: " ++ reason⟩).toList

variable {S T : Type} [Sink S] [Sink T]

/-- A message is written on a line of its own, and the sink is flushed whatever came of that. -/
def Sink.showing (sink : S) (text : String) : Sink.Showing S :=
  let written := Sink.writeAll sink (Utf8.encode (text ++ "\n").toList)
  let flushed := Sink.flush written.1
  ⟨flushed.1, written.2, flushed.2⟩

/-- The sink after several messages. -/
def Sink.showAll (sink : S) (texts : List String) : S :=
  texts.foldl (fun sink text => (Sink.showing sink text).sink) sink

/-- The bytes of messages, each on a line of its own. -/
def Sink.bytesOf (texts : List String) : List UInt8 :=
  texts.flatMap fun text => Utf8.encode (text ++ "\n").toList

theorem Sink.showAll_append (sink : S) (first second : List String) :
    Sink.showAll sink (first ++ second) = Sink.showAll (Sink.showAll sink first) second :=
  List.foldl_append

theorem Sink.NeverFails.showing {metered : Sink.Metered S} (sound : NeverFails metered.sink) (text : String) :
    ∃ after, (Sink.showing metered text).sink =
        ⟨after, metered.bytes ++ Utf8.encode (text ++ "\n").toList, metered.flushes + 1⟩ ∧ NeverFails after := by
  obtain ⟨after, written, works⟩ := sound.writeAll (Utf8.encode (text ++ "\n").toList)
  refine ⟨(Sink.flush after).1, ?_, works.next .flush⟩
  simp only [Sink.showing, written]
  rfl

theorem Sink.NeverFails.showAll {metered : Sink.Metered S} (sound : NeverFails metered.sink)
    (texts : List String) :
    (Sink.showAll metered texts).bytes = metered.bytes ++ Sink.bytesOf texts := by
  induction texts generalizing metered with
  | nil => exact (List.append_nil _).symm
  | cons text rest ih =>
    obtain ⟨after, shown, works⟩ := sound.showing text
    have next : NeverFails (Sink.showing metered text).sink.sink := by
      rw [shown]
      exact works
    change (Sink.showAll (Sink.showing metered text).sink rest).bytes = _
    rw [ih next, shown, List.append_assoc]
    rfl

/-- A sink that takes all bytes at once, and without a fault, takes them all. -/
theorem Sink.Record.writeAll_whole (taken : List UInt8) (flushes : Nat) (bytes : List UInt8) :
    Sink.writeAll ({ bytes := taken, flushes } : Sink.Record) bytes =
      ({ bytes := taken ++ bytes, flushes }, .ok ()) := by
  cases bytes with
  | nil => simp only [Sink.writeAll, List.append_nil]
  | cons byte rest =>
    have wrote : Sink.write ({ bytes := taken, flushes } : Sink.Record) (byte :: rest) =
        ({ bytes := taken ++ byte :: rest, flushes }, .ok (rest.length + 1)) := by
      simp only [Sink.write, Option.getD_none, List.take_length]
      rfl
    simp only [Sink.writeAll, wrote, List.drop_length]

theorem Sink.Record.showing_whole (taken : List UInt8) (flushes : Nat) (text : String) :
    Sink.showing ({ bytes := taken, flushes } : Sink.Record) text =
      ⟨{ bytes := taken ++ Utf8.encode (text ++ "\n").toList, flushes := flushes + 1 }, .ok (), .ok ()⟩ := by
  simp only [Sink.showing, writeAll_whole, Sink.flush]

theorem Sink.Record.showAll_whole (taken : List UInt8) (flushes : Nat) (texts : List String) :
    Sink.showAll ({ bytes := taken, flushes } : Sink.Record) texts =
      { bytes := taken ++ Sink.bytesOf texts, flushes := flushes + texts.length } := by
  induction texts generalizing taken flushes with
  | nil =>
    rw [Sink.bytesOf, List.flatMap_nil, List.append_nil]
    rfl
  | cons text rest ih =>
    change Sink.showAll (Sink.showing _ text).sink rest = _
    rw [showing_whole, ih, List.append_assoc, Nat.add_assoc, Nat.add_comm 1]
    rfl

/-- The same page on another sink. -/
def Terminal.onto (terminal : Terminal S) (sink : T) : Terminal T :=
  { terminal with sink := sink }

/-- Two terminals differ in nothing but their sinks. -/
def Terminal.Beside (terminal : Terminal S) (other : Terminal T) : Prop :=
  ∃ sink, other = terminal.onto sink

/-- Whatever a command does on one sink it does on the other, but for the sink itself. -/
theorem Terminal.perform_onto (terminal : Terminal S) (sink : T) (command : View.Command) :
    (terminal.perform command).Beside ((terminal.onto sink).perform command) := by
  cases command with
  | setDisabled id disabled =>
    refine ⟨sink, ?_⟩
    simp only [perform, setDisabled]
    cases disabled with
    | true => rfl
    | false =>
      change (if terminal.enabled.contains id then _ else _) = _
      split <;> rfl
  | setValue id text => exact ⟨sink, rfl⟩
  | alert text => exact ⟨sink, rfl⟩
  | appendValue id text =>
    by_cases here : id = terminal.controls.response
    · have own : terminal.perform (.appendValue id text) = { terminal with sink := (terminal.written text).1 } :=
        if_pos here
      exact ⟨((terminal.onto sink).written text).1, (if_pos here).trans (by rw [own]; rfl)⟩
    · have own : terminal.perform (.appendValue id text) =
          { terminal with values := terminal.values.put id (terminal.value id ++ text) } := if_neg here
      exact ⟨sink, (if_neg here).trans (by rw [own]; rfl)⟩
  | scrollToEnd id =>
    by_cases here : id = terminal.controls.response
    · have own : terminal.perform (.scrollToEnd id) = { terminal with sink := (Sink.flush terminal.sink).1 } :=
        if_pos here
      exact ⟨(Sink.flush sink).1, (if_pos here).trans (by rw [own]; rfl)⟩
    · have own : terminal.perform (.scrollToEnd id) = terminal := if_neg here
      exact ⟨sink, (if_neg here).trans (by rw [own])⟩

theorem Terminal.beside_agree {allowed : View.Call → Prop} :
    View.Agree (Terminal.Beside (S := S) (T := T)) allowed where
  isDisabled start _ := by
    obtain ⟨sink, rfl⟩ := start
    rfl
  value start _ := by
    obtain ⟨sink, rfl⟩ := start
    rfl
  perform {terminal other command} start _ := by
    obtain ⟨sink, rfl⟩ := start
    exact terminal.perform_onto sink command

end RelayConsole
