import RelayConsole.View.Dialogue

namespace RelayConsole

/-- What a view says to a call. -/
inductive View.Answer where
  | flag (disabled : Bool)
  | text (value : String)
  | done
  deriving DecidableEq, Repr

/-- A call as a conversation of its own. -/
def View.Call.dialogue : View.Call → Dialogue View.Answer
  | .isDisabled id => .askDisabled id fun disabled => .done (.flag disabled)
  | .value id => .askValue id fun value => .done (.text value)
  | .command order => .perform order (.done .done)

variable {V : Type} [View V]

/-- What a view says to a call made to it directly. -/
def View.answer (view : V) (call : View.Call) : View.Answer :=
  (call.dialogue.play view).result

def View.after (view : V) (call : View.Call) : V :=
  (call.dialogue.play view).view

/-- What the view itself logs at a call. -/
def View.remarks (view : V) (call : View.Call) : List Log.Line :=
  (call.dialogue.play view).lines

/-- One call after the other. -/
def View.serve (view : V) (calls : List View.Call) : V :=
  calls.foldl View.after view

/-- Each of the calls with the view that it is made to. -/
def View.along (view : V) : List View.Call → List (V × View.Call)
  | [] => []
  | call :: rest => (view, call) :: View.along (View.after view call) rest

/-- What is said to the calls, one after the other. -/
def View.answers (view : V) (calls : List View.Call) : List View.Answer :=
  (View.along view calls).map fun entry => View.answer entry.1 entry.2

/-- All that the view logs during the calls. -/
def View.log (view : V) (calls : List View.Call) : List Log.Line :=
  (View.along view calls).flatMap fun entry => View.remarks entry.1 entry.2

/-- Whether a call turns the flag of a control: it was the other way before and is this way after. -/
def View.turned (view : V) (id : String) (disabled : Bool) (call : View.Call) : Bool :=
  View.isDisabled view id == !disabled && View.isDisabled (View.after view call) id == disabled

/-- At how many of the calls the flag of a control was turned this way. -/
def View.turns (view : V) (id : String) (disabled : Bool) (calls : List View.Call) : Nat :=
  (View.along view calls).countP fun entry => View.turned entry.1 id disabled entry.2

end RelayConsole
