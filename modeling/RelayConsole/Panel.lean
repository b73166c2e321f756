import RelayConsole.Widget

namespace RelayConsole

/-- A widget at work on its view. -/
structure Panel (V : Type) where
  widget : Widget
  view : V

variable {V : Type} [View V]

/-- A panel with a new widget. -/
def Panel.fresh (name : String) (controls : Controls) (view : V) : Panel V :=
  let ending := (Widget.start name controls).play view
  ⟨ending.result, ending.view⟩

def Panel.act (panel : Panel V) (action : Widget.Action) : Dialogue.Ending (Widget × Except Failure Unit) V :=
  (panel.widget.act action).play panel.view

/-- What is told to whoever asked for an action. -/
def Panel.outcome (panel : Panel V) (action : Widget.Action) : Except Failure Unit :=
  (panel.act action).result.2

def Panel.step (panel : Panel V) (action : Widget.Action) : Panel V :=
  ⟨(panel.act action).result.1, (panel.act action).view⟩

/-- One action after the other. -/
def Panel.run (panel : Panel V) (actions : List Widget.Action) : Panel V :=
  actions.foldl step panel

/-- Each of the actions with the panel that it befalls. -/
def Panel.along (panel : Panel V) : List Widget.Action → List (Panel V × Widget.Action)
  | [] => []
  | action :: rest => (panel, action) :: (panel.step action).along rest

end RelayConsole
