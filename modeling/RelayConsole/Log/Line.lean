namespace RelayConsole

inductive Log.Level where
  | error
  | warn
  | info
  | debug
  deriving DecidableEq, Repr

/-- Higher ranks say more. -/
def Log.Level.rank : Log.Level → Nat
  | .error => 1
  | .warn => 2
  | .info => 3
  | .debug => 4

def Log.Level.text : Log.Level → String
  | .error => "ERROR"
  | .warn => "WARN"
  | .info => "INFO"
  | .debug => "DEBUG"

/-- The part of the program that a line comes from. -/
inductive Log.Source where
  | program
  | session
  | widget
  | terminal
  deriving DecidableEq, Repr

/-- The name by which a filter selects a part. -/
def Log.Source.target : Log.Source → String
  | .program => "otdb_console"
  | .session => "otdb_console::websocket::client"
  | .widget => "otdb_console::websocket::connection"
  | .terminal => "otdb_console::ui::terminal"

structure Log.Line where
  level : Log.Level
  source : Log.Source
  message : String
  deriving DecidableEq, Repr

def Log.Line.text (line : Log.Line) : String :=
  line.level.text ++ " " ++ line.message

end RelayConsole
