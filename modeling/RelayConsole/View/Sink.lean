namespace RelayConsole

/-- A place for bytes. A write takes some of the bytes at the head, or fails; one that is interrupted is made again
and counts as what it comes to. -/
class Sink (S : Type) where
  write : S → List UInt8 → S × Except String Nat
  flush : S → S × Except String Unit

/-- Writes again until all bytes are taken, a write fails or takes none. -/
def Sink.writeAll {S : Type} [Sink S] (sink : S) (bytes : List UInt8) : S × Except String Unit :=
  match bytes with
  | [] => (sink, .ok ())
  | byte :: rest =>
    match Sink.write sink (byte :: rest) with
    | (after, .error reason) => (after, .error reason)
    | (after, .ok 0) => (after, .error "failed to write whole buffer")
    | (after, .ok (taken + 1)) => writeAll after (rest.drop taken)
termination_by bytes.length
decreasing_by
  simp only [List.length_drop, List.length_cons]
  omega

/-- A sink that keeps what it takes: at most so many bytes a write, and with faults if so told. -/
structure Sink.Record where
  bytes : List UInt8 := []
  flushes : Nat := 0
  chunk : Option Nat := none
  writeFault : Option String := none
  flushFault : Option String := none
  deriving DecidableEq, Repr

instance : Sink Sink.Record where
  write sink bytes :=
    match sink.writeFault with
    | some reason => (sink, .error reason)
    | none =>
      let taken := bytes.take (sink.chunk.getD bytes.length)
      ({ sink with bytes := sink.bytes ++ taken }, .ok taken.length)
  flush sink :=
    ({ sink with flushes := sink.flushes + 1 },
      match sink.flushFault with
      | some reason => .error reason
      | none => .ok ())

end RelayConsole
