import RelayConsole.Session.Config
import RelayConsole.Session.Inbound
import RelayConsole.Widget

namespace RelayConsole

/-- How far the connection has come while it is not yet open: not begun, begun, or with an outcome that
nobody has looked at. A success carries the status of the response. -/
inductive Session.Attempt where
  | idle
  | underWay
  | settled (outcome : Except Transport.Error Nat)

/-- What a session is doing: waiting for its connection, relaying, waiting for the writer to finish, or
nothing any more. -/
inductive Session.Stage where
  | waiting (attempt : Session.Attempt)
  | relaying
  | draining
  | finished (result : Except Failure Unit)

/-- What the writer does next: hand over frames, close the socket, or nothing any more. -/
inductive Session.WriterStage where
  | writing
  | closing
  | ended
  deriving DecidableEq, Repr

/-- The writer takes the frames of one channel and hands them to the socket. -/
structure Session.Writer where
  channel : Nat
  taken : Nat := 0
  sent : List String := []
  closings : Nat := 0
  stage : Session.WriterStage := .writing
  deriving DecidableEq, Repr

/-- One connection of a console, from the first attempt to the end. `waitingEvents` and `waitingItems` have
come in from the operator and the daemon and are not yet looked at. -/
structure Session (V : Type) where
  config : Session.Config
  widget : Widget
  view : V
  stage : Session.Stage := .waiting .idle
  waitingEvents : List Widget.Event := []
  sourceGone : Bool := false
  waitingItems : List Session.Inbound := []
  writer : Option Session.Writer := none
  log : List Log.Line := []

/-- What can happen to a session: the operator does something or leaves, the network answers the attempt or
brings an item, the session gets its turn, the writer gets its turn. In its turn a relaying session looks
at the side it is told to look at first. A fault befalls whatever the writer does. -/
inductive Session.Step where
  | operator (event : Widget.Event)
  | operatorGone
  | settle (outcome : Except Transport.Error Nat)
  | arrive (item : Session.Inbound)
  | turn (eventsFirst : Bool) (now : Int)
  | write (fault : Option Transport.Error)

def Session.note (level : Log.Level) (message : String) : Log.Line :=
  ⟨level, .session, message⟩

variable {V : Type} [View V]

def Session.say (session : Session V) (level : Log.Level) (message : String) : Session V :=
  { session with log := session.log ++ [note level message] }

/-- A session over a new widget as it stands before anything has happened. -/
def Session.fresh (config : Session.Config) (name : String) (controls : Controls) (view : V) : Session V :=
  let ending := (Widget.start name controls).play view
  { config, widget := ending.result, view := ending.view, log := ending.lines }

/-- Lets something happen to the widget. -/
def Session.act (session : Session V) (action : Widget.Action) : Session V × Except Failure Unit :=
  let ending := (session.widget.act action).play session.view
  ({ session with widget := ending.result.1, view := ending.view, log := session.log ++ ending.lines },
    ending.result.2)

/-- Gives an event to the widget; if it fails, that is logged. -/
def Session.dispatch (session : Session V) (event : Widget.Event) : Session V :=
  match session.act (.dispatch event) with
  | (after, .ok _) => after
  | (after, .error failure) =>
    after.say .warn ("Event on connection " ++ session.widget.name ++ " failed: " ++ failure.message)

/-- The session ends because there is no connection. -/
def Session.giveUp (session : Session V) (failure : Failure) : Session V :=
  { (session.act (.failed failure)).1 with stage := .finished (.error failure) }

/-- The connection is there: a writer is set up for it, and relaying begins. -/
def Session.begin (session : Session V) (status : Nat) (now : Int) : Session V :=
  let ready := (session.say .debug ("Handshake completed with status " ++ Transport.statusText status)).act .attach
  { (ready.1.act (.opened now)).1 with
    stage := .relaying, writer := some { channel := session.widget.channels.length } }

/-- Begins the attempt, if everything that can be checked beforehand is in order. -/
def Session.attempt (session : Session V) : Session V :=
  match session.config.prepare with
  | .error failure => session.giveUp failure
  | .ok url =>
    { session.say .info ("Connecting to " ++ toString url ++ " (" ++ session.config.subprotocol ++ ")") with
      stage := .waiting .underWay }

/-- A turn before the connection is open: events come first, and each is handled before the attempt is
looked at. -/
def Session.wait (session : Session V) (attempt : Session.Attempt) (now : Int) : Session V :=
  match session.waitingEvents with
  | event :: rest => { session with waitingEvents := rest }.dispatch event
  | [] =>
    if session.sourceGone then
      let told := session.say .info
        ("Event source gone before connection " ++ session.widget.name ++ " opened")
      { (told.act (.closed now)).1 with stage := .finished (.ok ()) }
    else
      match attempt with
      | .idle => session.attempt
      | .underWay => session
      | .settled (.error error) => session.giveUp (.ofTransport error)
      | .settled (.ok status) => session.begin status now

/-- Relaying is over: the widget is closed and its channel let go. -/
def Session.leave (session : Session V) (now : Int) : Session V :=
  { ((session.act (.closed now)).1.act .detach).1 with stage := .draining }

/-- Looks at an item from the daemon. -/
def Session.receive (session : Session V) (now : Int) : Session.Inbound → Session V
  | .text payload => (session.act (.received payload)).1
  | .binary size =>
    session.say .warn
      ("Dropping " ++ toString size ++ " byte binary frame on connection " ++ session.widget.name)
  | .ping => session
  | .pong => session
  | .close frame =>
    (session.say .info ("Server closed connection " ++ session.widget.name ++ ": " ++
      match frame with
      | some frame => "Some(" ++ frame.inspect ++ ")"
      | none => "None")).leave now
  | .fault error => (session.say .error ("Error receiving WebSocket message: " ++ error.message)).leave now
  | .ended => session.leave now

/-- Whether there is anything to look at on the operator's side. -/
def Session.hasEvent (session : Session V) : Bool :=
  !session.waitingEvents.isEmpty || session.sourceGone

/-- Looks at the operator's side. -/
def Session.relayEvent (session : Session V) (now : Int) : Session V :=
  match session.waitingEvents with
  | event :: rest => { session with waitingEvents := rest }.dispatch event
  | [] =>
    if session.sourceGone then
      (session.say .info ("Event source gone, closing connection " ++ session.widget.name)).leave now
    else session

/-- Looks at the daemon's side. -/
def Session.relayItem (session : Session V) (now : Int) : Session V :=
  match session.waitingItems with
  | item :: rest => { session with waitingItems := rest }.receive now item
  | [] => session

/-- A turn of the session. -/
def Session.turn (session : Session V) (eventsFirst : Bool) (now : Int) : Session V :=
  match session.stage with
  | .waiting attempt => session.wait attempt now
  | .relaying =>
    if session.hasEvent && (eventsFirst || session.waitingItems.isEmpty) then session.relayEvent now
    else session.relayItem now
  | .draining =>
    match session.writer with
    | some writer => if writer.stage = .ended then { session with stage := .finished (.ok ()) } else session
    | none => { session with stage := .finished (.ok ()) }
  | .finished _ => session

/-- The next frame for the writer. -/
def Session.nextFrame? (session : Session V) (writer : Session.Writer) : Option String :=
  (session.widget.channels[writer.channel]?).bind (·.frames[writer.taken]?)

/-- A turn of the writer: it hands over the next frame, or begins to close once a frame failed or the
channel is let go with no frame left, or closes the socket and stops receiving. -/
def Session.write (session : Session V) (fault : Option Transport.Error) : Session V :=
  match session.writer with
  | none => session
  | some writer =>
    match writer.stage with
    | .writing =>
      match session.nextFrame? writer with
      | some frame =>
        match fault with
        | none =>
          { session with writer := some { writer with taken := writer.taken + 1, sent := writer.sent ++ [frame] } }
        | some error =>
          { session.say .error ("Error sending WebSocket message: " ++ error.message) with
            writer := some { writer with taken := writer.taken + 1, stage := .closing } }
      | none =>
        if session.widget.outlet = some writer.channel then session
        else { session with writer := some { writer with stage := .closing } }
    | .closing =>
      let told := match fault with
        | some error => session.say .debug ("Error closing WebSocket connection: " ++ error.message)
        | none => session
      { told with
        widget := session.widget.dropReceiver writer.channel
        writer := some { writer with closings := writer.closings + 1, stage := .ended } }
    | .ended => session

/-- One thing happens. What nobody waits for is lost. -/
def Session.step (session : Session V) : Session.Step → Session V
  | .operator event =>
    if session.sourceGone then session
    else { session with waitingEvents := session.waitingEvents ++ [event] }
  | .operatorGone => { session with sourceGone := true }
  | .settle outcome =>
    match session.stage with
    | .waiting .underWay => { session with stage := .waiting (.settled outcome) }
    | _ => session
  | .arrive item => { session with waitingItems := session.waitingItems ++ [item] }
  | .turn eventsFirst now => session.turn eventsFirst now
  | .write fault => session.write fault

/-- One thing after the other happens. -/
def Session.run (session : Session V) (steps : List Session.Step) : Session V :=
  steps.foldl step session

/-- What the session came to, once it is over. -/
def Session.result? (session : Session V) : Option (Except Failure Unit) :=
  match session.stage with
  | .finished result => some result
  | _ => none

end RelayConsole
