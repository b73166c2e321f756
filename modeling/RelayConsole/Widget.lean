import RelayConsole.Channel
import RelayConsole.Controls
import RelayConsole.Failure
import RelayConsole.View.Dialogue

namespace RelayConsole

inductive Widget.Phase where
  | connecting
  | opened
  | closed
  deriving DecidableEq, Repr

def Widget.Phase.inspect : Widget.Phase → String
  | .connecting => "Connecting"
  | .opened => "Open"
  | .closed => "Closed"

/-- What the operator of the controls does. -/
inductive Widget.Event where
  | setPath (text : String)
  | setRequest (text : String)
  | click
  | submit (text : String)
  deriving DecidableEq, Repr

def Widget.Event.inspect : Widget.Event → String
  | .setPath text => "SetPath(" ++ Quoted.text text ++ ")"
  | .setRequest text => "SetRequest(" ++ Quoted.text text ++ ")"
  | .click => "Click"
  | .submit text => "Submit(" ++ Quoted.text text ++ ")"

/-- The control that an event is about. -/
def Widget.Event.target (controls : Controls) : Widget.Event → String
  | .setPath _ => controls.path
  | .setRequest _ => controls.request
  | .click => controls.send
  | .submit _ => controls.send

/-- A console's part in one connection. Moments are in milliseconds; `outlet` is the number of the channel
that is attached. -/
structure Widget where
  name : String
  controls : Controls
  phase : Widget.Phase := .connecting
  outlet : Option Nat := none
  channels : List Channel := []
  openedAt : Option Int := none
  closedAt : Option Int := none
  deriving DecidableEq, Repr

def Widget.note (level : Log.Level) (message : String) : Log.Line :=
  ⟨level, .widget, message⟩

def Dialogue.command (command : View.Command) : Dialogue Unit :=
  .perform command (.done ())

def Dialogue.say (line : Log.Line) : Dialogue Unit :=
  .log line (.done ())

/-- Disables or enables controls one after the other. -/
def Dialogue.setDisabled (disabled : Bool) : List String → Dialogue Unit
  | [] => .done ()
  | id :: rest => .perform (.setDisabled id disabled) (setDisabled disabled rest)

/-- A new widget disables its controls. -/
def Widget.start (name : String) (controls : Controls) : Dialogue Widget := do
  Dialogue.setDisabled true controls.gated
  return { name, controls }

/-- Makes a new channel and sends on it from now on. -/
def Widget.attach (widget : Widget) : Widget :=
  { widget with outlet := some widget.channels.length, channels := widget.channels ++ [{}] }

/-- Sends again on one of the channels there are. -/
def Widget.reattach (widget : Widget) (number : Nat) : Widget :=
  { widget with outlet := if number < widget.channels.length then some number else widget.outlet }

def Widget.detach (widget : Widget) : Widget :=
  { widget with outlet := none }

/-- Nobody receives on a channel any more. -/
def Widget.dropReceiver (widget : Widget) (number : Nat) : Widget :=
  { widget with channels := widget.channels.modify number ({ · with receiving := false }) }

/-- The connection is open; only a widget that still waits for that takes notice. -/
def Widget.onOpen (widget : Widget) (now : Int) : Dialogue Widget :=
  if widget.phase = .connecting then do
    Dialogue.setDisabled false widget.controls.gated
    Dialogue.say (note .info ("Connection " ++ widget.name ++ " open"))
    return { widget with phase := .opened, openedAt := some now }
  else do
    Dialogue.say (note .warn
      ("Ignoring open on connection " ++ widget.name ++ " in state " ++ widget.phase.inspect))
    return widget

/-- Shows a message on a line of its own. -/
def Widget.onMessage (widget : Widget) (text : String) : Dialogue Unit := do
  Dialogue.say (note .debug
    ("Connection " ++ widget.name ++ " received " ++ toString text.utf8ByteSize ++ " bytes"))
  Dialogue.command (.appendValue widget.controls.response (text ++ "\n"))
  Dialogue.command (.scrollToEnd widget.controls.response)

/-- How a connection ended: whole seconds after it opened, or before it did. -/
def Widget.ending (widget : Widget) (now : Int) : String :=
  match widget.openedAt with
  | some opened => "closed after " ++ toString ((now - opened).tdiv 1000) ++ "s"
  | none => "closed before opening"

/-- The connection is over, however often that is said. -/
def Widget.onClose (widget : Widget) (now : Int) : Dialogue Widget := do
  Dialogue.setDisabled true widget.controls.gated
  if widget.phase = .closed then return widget
  else
    Dialogue.say (note .info ("Connection " ++ widget.name ++ " " ++ widget.ending now))
    return { widget with phase := .closed, closedAt := some now }

/-- The channels after a frame was sent on the attached one. -/
def Widget.transmit (widget : Widget) (frame : String) : Except Failure Widget :=
  match widget.outlet with
  | none => .error .notConnected
  | some number =>
    match (widget.channels[number]?).bind (·.send? frame) with
    | none => .error (.sending "channel closed")
    | some channel => .ok { widget with channels := widget.channels.set number channel }

/-- Sends what is typed in the request control as one frame and clears the control. -/
def Widget.send (widget : Widget) : Dialogue (Widget × Except Failure Unit) :=
  .askValue widget.controls.request fun request =>
    match widget.transmit request with
    | .error failure => .done (widget, .error failure)
    | .ok after => .perform (.setValue widget.controls.request "") (.done (after, .ok ()))

/-- Types a request and sends it. -/
def Widget.submit (widget : Widget) (text : String) : Dialogue (Widget × Except Failure Unit) :=
  .perform (.setValue widget.controls.request text) widget.send

/-- What an event does when its control is enabled. -/
def Widget.apply (widget : Widget) : Widget.Event → Dialogue (Widget × Except Failure Unit)
  | .setPath text => .perform (.setValue widget.controls.path text) (.done (widget, .ok ()))
  | .setRequest text => .perform (.setValue widget.controls.request text) (.done (widget, .ok ()))
  | .click => widget.send
  | .submit text => widget.submit text

/-- Applies an event unless its control is disabled. -/
def Widget.dispatch (widget : Widget) (event : Widget.Event) : Dialogue (Widget × Except Failure Unit) :=
  let target := event.target widget.controls
  .askDisabled target fun disabled =>
    if disabled then
      .log (note .debug ("Dropping " ++ event.inspect ++ ": control '" ++ target ++ "' is disabled"))
        (.done (widget, .ok ()))
    else widget.apply event

/-- No connection came about: the user gets a notice. -/
def Widget.onFailure (widget : Widget) (failure : Failure) : Dialogue Unit := do
  Dialogue.say (note .error ("Failed to open connection " ++ widget.name ++ ": " ++ failure.message))
  Dialogue.command (.alert failure.alertText)

/-- Everything that can happen to a widget. -/
inductive Widget.Action where
  | attach
  | reattach (number : Nat)
  | detach
  | dropReceiver (number : Nat)
  | opened (now : Int)
  | received (text : String)
  | closed (now : Int)
  | send
  | submit (text : String)
  | dispatch (event : Widget.Event)
  | failed (failure : Failure)
  deriving DecidableEq, Repr

/-- What happens to a widget, with the outcome for whoever asked for it. -/
def Widget.act (widget : Widget) : Widget.Action → Dialogue (Widget × Except Failure Unit)
  | .attach => .done (widget.attach, .ok ())
  | .reattach number => .done (widget.reattach number, .ok ())
  | .detach => .done (widget.detach, .ok ())
  | .dropReceiver number => .done (widget.dropReceiver number, .ok ())
  | .opened now => do return (← widget.onOpen now, .ok ())
  | .received text => do
    widget.onMessage text
    return (widget, .ok ())
  | .closed now => do return (← widget.onClose now, .ok ())
  | .send => widget.send
  | .submit text => widget.submit text
  | .dispatch event => widget.dispatch event
  | .failed failure => do
    widget.onFailure failure
    return (widget, .ok ())

end RelayConsole
