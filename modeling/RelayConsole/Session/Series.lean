import RelayConsole.Panel
import RelayConsole.Session.Basic

namespace RelayConsole

/-- One session: where it connects, and all that happens to it. -/
structure Session.Call where
  config : Session.Config
  steps : List Session.Step

variable {V : Type}

/-- The widget and its view as a session leaves them. -/
def Session.panel (session : Session V) : Panel V :=
  ⟨session.widget, session.view⟩

/-- A session over a widget as it is found. -/
def Panel.session (panel : Panel V) (config : Session.Config) : Session V :=
  { config, widget := panel.widget, view := panel.view }

variable [View V]

/-- What a session over a widget has come to. -/
def Panel.attend (panel : Panel V) (call : Session.Call) : Session V :=
  (panel.session call.config).run call.steps

/-- One session after the other over the same widget, each over what the one before has left. -/
def Panel.serve (panel : Panel V) (calls : List Session.Call) : Panel V :=
  calls.foldl (fun panel call => (panel.attend call).panel) panel

/-- Each of the calls with the widget and the view that it finds. -/
def Panel.visits (panel : Panel V) : List Session.Call → List (Panel V × Session.Call)
  | [] => []
  | call :: rest => (panel, call) :: (panel.attend call).panel.visits rest

end RelayConsole
