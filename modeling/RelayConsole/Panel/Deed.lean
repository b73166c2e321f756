import RelayConsole.Panel
import RelayConsole.View.Calls

namespace RelayConsole

/-- What can be done to a panel: something happens to its widget, or its view is called past the widget. -/
inductive Panel.Deed where
  | act (action : Widget.Action)
  | call (call : View.Call)
  deriving DecidableEq, Repr

variable {V : Type} [View V]

/-- What is told to whoever did it. -/
def Panel.response (panel : Panel V) : Panel.Deed → Except Failure View.Answer
  | .act action => (panel.outcome action).map fun _ => .done
  | .call call => .ok (View.answer panel.view call)

def Panel.next (panel : Panel V) : Panel.Deed → Panel V
  | .act action => panel.step action
  | .call call => { panel with view := View.after panel.view call }

/-- One deed after the other. -/
def Panel.follow (panel : Panel V) (deeds : List Panel.Deed) : Panel V :=
  deeds.foldl next panel

/-- What is told to whoever did the deeds, one after the other. -/
def Panel.responses (panel : Panel V) : List Panel.Deed → List (Except Failure View.Answer)
  | [] => []
  | deed :: rest => panel.response deed :: (panel.next deed).responses rest

end RelayConsole
