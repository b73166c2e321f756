import RelayConsole.Text.Lines
import RelayConsole.Text.Utf8

namespace RelayConsole

/-- The lines that are still to be read from standard input, and whether one follows that is no text. -/
structure Reader where
  lines : List String
  broken : Bool
  deriving DecidableEq, Repr

/-- The lines of an input as far as they are text. -/
def Reader.ofLines : List (List UInt8) → Reader
  | [] => ⟨[], false⟩
  | line :: rest =>
    match Utf8.decode? line with
    | none => ⟨[], true⟩
    | some text =>
      let reader := ofLines rest
      { reader with lines := String.ofList text :: reader.lines }

/-- Splits an input into lines. -/
def Reader.ofBytes (bytes : List UInt8) : Reader :=
  ofLines (Lines.split 10 13 bytes)

end RelayConsole
