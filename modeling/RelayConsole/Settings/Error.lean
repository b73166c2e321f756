import RelayConsole.Text.Quoted

namespace RelayConsole

/-- Why the settings cannot be had. -/
inductive Settings.Error where
  | frozen
  | missing (property : String)
  | malformed (reason : String) (file : Option String)
  | mistyped (found expected : String) (property origin : Option String)
  | invalid (reason : String)
  | foreign (reason : String)
  deriving DecidableEq, Repr

def Settings.Error.message : Settings.Error → String
  | .frozen => "configuration is frozen"
  | .missing property => "configuration property " ++ Quoted.text property ++ " not found"
  | .malformed reason file => reason ++ (file.map (" in " ++ ·)).getD ""
  | .mistyped found expected property origin =>
    "invalid type: " ++ found ++ ", expected " ++ expected ++
      (property.map fun key => " for key \x60" ++ key ++ "\x60").getD "" ++ (origin.map (" in " ++ ·)).getD ""
  | .invalid reason => reason
  | .foreign reason => reason

end RelayConsole
