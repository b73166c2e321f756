import RelayConsole.Controls
import RelayConsole.Keyed
import RelayConsole.Text.Utf8
import RelayConsole.View.Basic
import RelayConsole.View.Sink

namespace RelayConsole

/-- A page on a terminal: what is appended to the response goes to a sink, the rest is kept. -/
structure Terminal (S : Type) where
  controls : Controls
  sink : S
  values : Keyed String := {}
  enabled : List String := []
  alerts : List String := []
  deriving DecidableEq, Repr

variable {S : Type} [Sink S]

def Terminal.value (terminal : Terminal S) (id : String) : String :=
  (terminal.values.find? id).getD ""

def Terminal.isDisabled (terminal : Terminal S) (id : String) : Bool :=
  !terminal.enabled.contains id

/-- What becomes of the sink when a text is appended to the response. -/
def Terminal.written (terminal : Terminal S) (text : String) : S × Except String Unit :=
  Sink.writeAll terminal.sink (Utf8.encode text.toList)

def Terminal.setDisabled (terminal : Terminal S) (id : String) (disabled : Bool) : Terminal S :=
  if disabled then { terminal with enabled := terminal.enabled.filter (· ≠ id) }
  else if terminal.enabled.contains id then terminal
  else { terminal with enabled := id :: terminal.enabled }

def Terminal.perform (terminal : Terminal S) : View.Command → Terminal S
  | .setDisabled id disabled => terminal.setDisabled id disabled
  | .setValue id text => { terminal with values := terminal.values.put id text }
  | .appendValue id text =>
    if id = terminal.controls.response then { terminal with sink := (terminal.written text).1 }
    else { terminal with values := terminal.values.put id (terminal.value id ++ text) }
  | .scrollToEnd id =>
    if id = terminal.controls.response then { terminal with sink := (Sink.flush terminal.sink).1 }
    else terminal
  | .alert text => { terminal with alerts := terminal.alerts ++ [text] }

/-- A fault of the sink is logged and nothing more. -/
def Terminal.faultNotes (action : String) : Except String Unit → List Log.Line
  | .ok _ => []
  | .error reason => [⟨.error, .terminal, "Failed to " ++ action ++ " response: " ++ reason⟩]

def Terminal.notes (terminal : Terminal S) : View.Command → List Log.Line
  | .setDisabled id disabled =>
    if terminal.isDisabled id = disabled then []
    else [⟨.debug, .terminal, "Control '" ++ id ++ "' " ++ if disabled then "disabled" else "enabled"⟩]
  | .appendValue id text =>
    if id = terminal.controls.response then faultNotes "write" (terminal.written text).2 else []
  | .scrollToEnd id =>
    if id = terminal.controls.response then faultNotes "flush" (Sink.flush terminal.sink).2 else []
  | _ => []

instance : View (Terminal S) where
  isDisabled := Terminal.isDisabled
  value := Terminal.value
  perform := Terminal.perform
  notes := Terminal.notes

end RelayConsole
