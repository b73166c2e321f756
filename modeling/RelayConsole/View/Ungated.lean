import RelayConsole.View.Memory

namespace RelayConsole

/-- A page in memory whose controls take input although they are marked as disabled. -/
structure Ungated where
  memory : Memory := {}
  deriving DecidableEq, Repr

instance : View Ungated where
  isDisabled _ _ := false
  value page id := (page.memory.control id).value
  perform page command := ⟨page.memory.perform command⟩
  notes _ _ := []

end RelayConsole
