namespace RelayConsole

/-- The names of the four controls that a console uses. -/
structure Controls where
  path : String
  request : String
  response : String
  send : String
  deriving DecidableEq, Repr

/-- The two naming schemes of hosting pages. -/
inductive Controls.Scheme where
  | long
  | short
  deriving DecidableEq, Repr

def Controls.long : Controls :=
  ⟨"path", "req", "resp", "send"⟩

def Controls.short : Controls :=
  ⟨"p", "q", "r", "s"⟩

def Controls.ofScheme : Controls.Scheme → Controls
  | .long => long
  | .short => short

/-- The controls that are disabled while there is no open connection. -/
def Controls.gated (controls : Controls) : List String :=
  [controls.path, controls.request, controls.send]

end RelayConsole
