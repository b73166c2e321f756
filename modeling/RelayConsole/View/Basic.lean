import RelayConsole.Log.Line

namespace RelayConsole

/-- What can be done to the controls of a page. -/
inductive View.Command where
  | setDisabled (id : String) (disabled : Bool)
  | setValue (id text : String)
  | appendValue (id text : String)
  | scrollToEnd (id : String)
  | alert (text : String)
  deriving DecidableEq, Repr

/-- Everything that a view can be asked. -/
inductive View.Call where
  | isDisabled (id : String)
  | value (id : String)
  | command (command : View.Command)
  deriving DecidableEq, Repr

/-- A page of controls, each found by its name. -/
class View (V : Type) where
  isDisabled : V → String → Bool
  value : V → String → String
  perform : V → View.Command → V
  /-- What the view itself logs while it performs a command. -/
  notes : V → View.Command → List Log.Line

/-- What a command makes of a control's disabled flag, if it is a command about that. -/
def View.Command.flag? (id : String) : View.Command → Option Bool
  | .setDisabled control disabled => if id = control then some disabled else none
  | _ => none

/-- Whether a control is disabled is decided by the last command that set it and by nothing else. -/
class View.KeepsFlags (V : Type) [View V] : Prop where
  isDisabled_perform (view : V) (command : View.Command) (id : String) :
    View.isDisabled (View.perform view command) id = (command.flag? id).getD (View.isDisabled view id)

/-- What is set as a value is read back. -/
class View.ReadsBack (V : Type) [View V] : Prop where
  value_setValue (view : V) (id text : String) : View.value (View.perform view (.setValue id text)) id = text

end RelayConsole
