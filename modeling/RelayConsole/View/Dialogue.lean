import RelayConsole.View.Basic

namespace RelayConsole

/-- A conversation with a view that ends in a result: what is asked next may depend on the answers so far. -/
inductive Dialogue (α : Type) where
  | done (result : α)
  | log (line : Log.Line) (rest : Dialogue α)
  | perform (command : View.Command) (rest : Dialogue α)
  | askDisabled (id : String) (rest : Bool → Dialogue α)
  | askValue (id : String) (rest : String → Dialogue α)

def Dialogue.bind {α β : Type} : Dialogue α → (α → Dialogue β) → Dialogue β
  | .done result, next => next result
  | .log line rest, next => .log line (rest.bind next)
  | .perform command rest, next => .perform command (rest.bind next)
  | .askDisabled id rest, next => .askDisabled id fun answer => (rest answer).bind next
  | .askValue id rest, next => .askValue id fun answer => (rest answer).bind next

instance : Monad Dialogue where
  pure := .done
  bind := Dialogue.bind

/-- What a conversation has come to. -/
structure Dialogue.Ending (α V : Type) where
  result : α
  view : V
  lines : List Log.Line

variable {α V : Type} [View V]

/-- Holds a conversation with a view. -/
def Dialogue.play : Dialogue α → V → Dialogue.Ending α V
  | .done result, view => ⟨result, view, []⟩
  | .log line rest, view =>
    let ending := rest.play view
    { ending with lines := line :: ending.lines }
  | .perform command rest, view =>
    let ending := rest.play (View.perform view command)
    { ending with lines := View.notes view command ++ ending.lines }
  | .askDisabled id rest, view => (rest (View.isDisabled view id)).play view
  | .askValue id rest, view => (rest (View.value view id)).play view

/-- All that the view is asked in a conversation, each time with the view as it then is. -/
def Dialogue.calls : Dialogue α → V → List (V × View.Call)
  | .done _, _ => []
  | .log _ rest, view => rest.calls view
  | .perform command rest, view => (view, .command command) :: rest.calls (View.perform view command)
  | .askDisabled id rest, view => (view, .isDisabled id) :: (rest (View.isDisabled view id)).calls view
  | .askValue id rest, view => (view, .value id) :: (rest (View.value view id)).calls view

end RelayConsole
