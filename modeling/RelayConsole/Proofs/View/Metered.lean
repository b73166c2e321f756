import RelayConsole.Proofs.View.Carried
import RelayConsole.View.Terminal

namespace RelayConsole

/-- What can be asked of a sink. -/
inductive Sink.Request where
  | write (bytes : List UInt8)
  | flush
  deriving DecidableEq, Repr

variable {S : Type} [Sink S]

/-- What becomes of a sink that something is asked of. -/
def Sink.after (sink : S) : Sink.Request → S
  | .write bytes => (Sink.write sink bytes).1
  | .flush => (Sink.flush sink).1

/-- Whatever was asked of the sink before, it takes some of the bytes it is given and can be flushed. -/
def Sink.NeverFails (sink : S) : Prop :=
  ∀ requests : List Sink.Request,
    (∀ bytes, bytes ≠ [] → ∃ taken, 0 < taken ∧ taken ≤ bytes.length ∧
      (Sink.write (requests.foldl Sink.after sink) bytes).2 = .ok taken) ∧
    (Sink.flush (requests.foldl Sink.after sink)).2 = .ok ()

theorem Sink.NeverFails.next {sink : S} (sound : NeverFails sink) (request : Sink.Request) :
    NeverFails (Sink.after sink request) :=
  fun requests => sound (request :: requests)

theorem Sink.NeverFails.write {sink : S} (sound : NeverFails sink) {bytes : List UInt8}
    (some : bytes ≠ []) :
    ∃ taken, 0 < taken ∧ taken ≤ bytes.length ∧ (Sink.write sink bytes).2 = .ok taken :=
  (sound []).1 bytes some

/-- A sink with a meter: the bytes that it has taken, and how often it was flushed. -/
structure Sink.Metered (S : Type) where
  sink : S
  bytes : List UInt8 := []
  flushes : Nat := 0

instance : Sink (Sink.Metered S) where
  write metered bytes :=
    let written := Sink.write metered.sink bytes
    ({ metered with
        sink := written.1
        bytes := metered.bytes ++ bytes.take (written.2.toOption.getD 0) }, written.2)
  flush metered :=
    let flushed := Sink.flush metered.sink
    ({ metered with sink := flushed.1, flushes := metered.flushes + 1 }, flushed.2)

theorem Sink.write_metered {metered after : Sink.Metered S} {bytes : List UInt8} {result : Except String Nat}
    (wrote : write metered bytes = (after, result)) :
    write metered.sink bytes = (after.sink, result) ∧
      after.bytes = metered.bytes ++ bytes.take (result.toOption.getD 0) ∧
      after.flushes = metered.flushes := by
  obtain ⟨rfl, rfl⟩ := Prod.mk.inj wrote
  exact ⟨rfl, rfl, rfl⟩

/-- The meter changes nothing about the writing. -/
theorem Sink.writeAll_metered (metered : Sink.Metered S) (bytes : List UInt8) :
    writeAll metered.sink bytes = ((writeAll metered bytes).1.sink, (writeAll metered bytes).2) := by
  induction metered, bytes using Sink.writeAll.induct with
  | case1 metered => simp only [writeAll]
  | case2 metered byte rest after reason wrote => simp only [writeAll, wrote, (write_metered wrote).1]
  | case3 metered byte rest after wrote => simp only [writeAll, wrote, (write_metered wrote).1]
  | case4 metered byte rest after taken wrote ih =>
    simp only [writeAll, wrote, (write_metered wrote).1, ih]

/-- A sink that never fails takes all that it is given, in order. -/
theorem Sink.NeverFails.writeAll {metered : Sink.Metered S} (sound : NeverFails metered.sink)
    (bytes : List UInt8) :
    ∃ after, Sink.writeAll metered bytes = (⟨after, metered.bytes ++ bytes, metered.flushes⟩, .ok ()) ∧
      NeverFails after := by
  induction metered, bytes using Sink.writeAll.induct with
  | case1 metered => exact ⟨metered.sink, by simp only [Sink.writeAll, List.append_nil], sound⟩
  | case2 metered byte rest after reason wrote =>
    obtain ⟨taken, _, _, took⟩ := sound.write (List.cons_ne_nil byte rest)
    rw [(write_metered wrote).1] at took
    cases took
  | case3 metered byte rest after wrote =>
    obtain ⟨taken, positive, _, took⟩ := sound.write (List.cons_ne_nil byte rest)
    rw [(write_metered wrote).1] at took
    cases took
    omega
  | case4 metered byte rest after taken wrote ih =>
    obtain ⟨inner, noted, counted⟩ := write_metered wrote
    have next : NeverFails after.sink := by
      have later := sound.next (.write (byte :: rest))
      rwa [Sink.after, inner] at later
    obtain ⟨last, written, works⟩ := ih next
    refine ⟨last, ?_, works⟩
    change after.bytes = metered.bytes ++ (byte :: rest.take taken) at noted
    simp only [Sink.writeAll, wrote, written, noted, counted, List.append_assoc, List.cons_append,
      List.take_append_drop]

/-- A sink that keeps what it takes, in pieces of at least one byte and without faults, never fails. -/
theorem Sink.Record.neverFails {record : Sink.Record} (chunk : record.chunk ≠ some 0)
    (write : record.writeFault = none) (flush : record.flushFault = none) : NeverFails record := by
  intro requests
  induction requests generalizing record with
  | nil =>
    have took (bytes : List UInt8) : (Sink.write record bytes).2 =
        .ok (min (record.chunk.getD bytes.length) bytes.length) := by
      simp only [Sink.write, write, List.length_take]
    refine ⟨fun bytes nonempty => ⟨_, ?_, Nat.min_le_right _ _, took bytes⟩, ?_⟩
    · have positive : 0 < bytes.length := List.length_pos_iff.mpr nonempty
      cases size : record.chunk with
      | none => simpa only [Option.getD_none, Nat.min_self] using positive
      | some most =>
        have large : most ≠ 0 := fun zero => chunk (by rw [size, zero])
        simp only [Option.getD_some]
        omega
    · simp only [List.foldl_nil, Sink.flush, flush]
  | cons request rest ih =>
    cases request with
    | write bytes =>
      refine ih ?_ ?_ ?_ <;> simp only [Sink.after, Sink.write, write]
      all_goals assumption
    | flush => exact ih chunk write flush

/-- A terminal without the meter of its sink. -/
def Terminal.unmetered (terminal : Terminal (Sink.Metered S)) : Terminal S :=
  { terminal with sink := terminal.sink.sink }

theorem Terminal.carries_unmetered : View.Carries (Terminal.unmetered (S := S)) where
  isDisabled _ _ := rfl
  value _ _ := rfl
  perform terminal command := by
    change terminal.unmetered.perform command = (terminal.perform command).unmetered
    cases command with
    | setDisabled id disabled =>
      simp only [perform, setDisabled]
      cases disabled with
      | true => rfl
      | false =>
        change (if terminal.enabled.contains id then _ else _) = _
        split <;> rfl
    | setValue | alert => rfl
    | appendValue id text =>
      change (if id = terminal.controls.response then _ else _) = unmetered (if _ then _ else _)
      split
      · simp only [unmetered, written, Sink.writeAll_metered]
      · rfl
    | scrollToEnd id =>
      change (if id = terminal.controls.response then _ else _) = unmetered (if _ then _ else _)
      split <;> rfl
  notes terminal command := by
    change terminal.unmetered.notes command = terminal.notes command
    cases command with
    | setDisabled | setValue | alert | scrollToEnd => rfl
    | appendValue id text =>
      simp only [notes, written, unmetered, Sink.writeAll_metered]

end RelayConsole
