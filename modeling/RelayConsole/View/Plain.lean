import RelayConsole.Keyed
import RelayConsole.View.Basic

namespace RelayConsole

/-- A page that keeps nothing but values and flags, and appends to a value by reading and writing it. -/
structure Plain where
  values : Keyed String := {}
  disabled : Keyed Bool := {}
  deriving DecidableEq, Repr

def Plain.value (plain : Plain) (id : String) : String :=
  (plain.values.find? id).getD ""

def Plain.isDisabled (plain : Plain) (id : String) : Bool :=
  (plain.disabled.find? id).getD true

def Plain.perform (plain : Plain) : View.Command → Plain
  | .setDisabled id disabled => { plain with disabled := plain.disabled.put id disabled }
  | .setValue id text => { plain with values := plain.values.put id text }
  | .appendValue id text => { plain with values := plain.values.put id (plain.value id ++ text) }
  | .scrollToEnd _ => plain
  | .alert _ => plain

instance : View Plain where
  isDisabled := Plain.isDisabled
  value := Plain.value
  perform := Plain.perform
  notes _ _ := []

/-- The calls that a call comes down to: appending is reading and writing. -/
def Plain.parts (plain : Plain) : View.Call → List View.Call
  | .command (.appendValue id text) => [.value id, .command (.setValue id (plain.value id ++ text))]
  | call => [call]

end RelayConsole
