import RelayConsole.Keyed
import RelayConsole.View.Basic

namespace RelayConsole

/-- A control of the page in memory, with the number of times it was enabled and disabled. -/
structure Memory.Control where
  value : String := ""
  disabled : Bool := true
  scrollTop : Nat := 0
  enabledCount : Nat := 0
  disabledCount : Nat := 0
  deriving DecidableEq, Repr

/-- A page in memory. Controls that nothing was done to yet are empty and disabled. -/
structure Memory where
  controls : Keyed Memory.Control := {}
  alerts : List String := []
  deriving DecidableEq, Repr

def Memory.control (memory : Memory) (id : String) : Memory.Control :=
  (memory.controls.find? id).getD {}

def Memory.put (memory : Memory) (id : String) (control : Memory.Control) : Memory :=
  { memory with controls := memory.controls.put id control }

/-- Setting the flag counts only where it changes. -/
def Memory.Control.setDisabled (control : Memory.Control) (disabled : Bool) : Memory.Control :=
  if control.disabled = disabled then control
  else if disabled then { control with disabled, disabledCount := control.disabledCount + 1 }
  else { control with disabled, enabledCount := control.enabledCount + 1 }

def Memory.perform (memory : Memory) : View.Command → Memory
  | .setDisabled id disabled => memory.put id ((memory.control id).setDisabled disabled)
  | .setValue id text => memory.put id { memory.control id with value := text }
  | .appendValue id text =>
    memory.put id { memory.control id with value := (memory.control id).value ++ text }
  | .scrollToEnd id =>
    memory.put id { memory.control id with scrollTop := (memory.control id).value.utf8ByteSize }
  | .alert text => { memory with alerts := memory.alerts ++ [text] }

instance : View Memory where
  isDisabled memory id := (memory.control id).disabled
  value memory id := (memory.control id).value
  perform := Memory.perform
  notes _ _ := []

end RelayConsole
