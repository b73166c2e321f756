import RelayConsole.Console.Reader
import RelayConsole.Log.Filter
import RelayConsole.Session.Basic
import RelayConsole.Settings.Assignments
import RelayConsole.Settings.Basic
import RelayConsole.View.Terminal

namespace RelayConsole

/-- A console at work: a reader that submits each line of standard input, and the session that takes what it
submits. `reader` is none once the reader has stopped. -/
structure Console (S : Type) where
  filter : Log.Filter
  reader : Option Reader
  session : Session (Terminal S)

/-- What can happen to a console: the reader gets its turn, or something happens to the session. -/
inductive Console.Step where
  | read
  | settle (outcome : Except Transport.Error Nat)
  | arrive (item : Session.Inbound)
  | turn (eventsFirst : Bool) (now : Int)
  | write (fault : Option Transport.Error)

variable {S : Type} [Sink S]

def Console.note (level : Log.Level) (message : String) : Log.Line :=
  ⟨level, .program, message⟩

/-- A turn of the reader: it submits the next line, or stops at the end of the input or at a line that is no
text. It goes on when the session is over, and nobody takes what it submits then. -/
def Console.read (console : Console S) : Console S :=
  match console.reader with
  | none => console
  | some ⟨line :: rest, broken⟩ =>
    { console with
      reader := some ⟨rest, broken⟩
      session := console.session.step (.operator (.submit line)) }
  | some ⟨[], broken⟩ =>
    let told := if broken then
        [note .warn "Failed to read stdin: stream did not contain valid UTF-8"]
      else []
    { console with
      reader := none
      session := { console.session.step .operatorGone with log := console.session.log ++ told } }

/-- One thing happens. -/
def Console.step (console : Console S) : Console.Step → Console S
  | .read => console.read
  | .settle outcome => { console with session := console.session.step (.settle outcome) }
  | .arrive item => { console with session := console.session.step (.arrive item) }
  | .turn eventsFirst now => { console with session := console.session.step (.turn eventsFirst now) }
  | .write fault => { console with session := console.session.step (.write fault) }

/-- One thing after the other happens. -/
def Console.run (console : Console S) (steps : List Console.Step) : Console S :=
  steps.foldl step console

/-- A session over a fresh page on a terminal, named for its log. -/
def Console.sessionOf (settings : Settings) (name : String) (sink : S) : Session (Terminal S) :=
  .fresh settings.config name settings.controls { controls := settings.controls, sink }

/-- What filters the log: a variable made for that, unless it is no filter, or else a setting. -/
def Console.filterOf (env : List (String × String)) (settings : Settings) : Except Failure Log.Filter :=
  match (env.lookup "RUST_LOG").bind fun text => (Log.Filter.read text).toOption with
  | some filter => .ok filter
  | none => (Log.Filter.read settings.logLevel).mapError fun fault => .settings ("log.level: " ++ fault.message)

/-- The variables together with those that a file assigns. -/
def Console.variablesOf (env : List (String × String)) (folder : Settings.Folder) : List (String × String) :=
  Settings.Assignments.add env (((folder ".env").map Settings.Assignments.read).getD [])

/-- A console as it stands before anything has happened. -/
def Console.start (env : List (String × String)) (folder : Settings.Folder) (input : Reader) (name : String)
    (sink : S) : Except Failure (Console S) := do
  let env := variablesOf env folder
  let settings ← (Settings.load env folder).mapError .ofSettings
  let filter ← filterOf env settings
  let session := sessionOf settings name sink
  let greeting := note .info ("otdb-console 0.1.0 starting (" ++ settings.environment ++ " environment)")
  return { filter, reader := some input, session := { session with log := greeting :: session.log } }

/-- The whole log, with the farewell after a good end, as far as it is let through. -/
def Console.log (console : Console S) : List Log.Line :=
  let farewell := match console.session.result? with
    | some (.ok _) => [note .info ("Session " ++ console.session.widget.name ++ " finished")]
    | _ => []
  (console.session.log ++ farewell).filter console.filter.passes

/-- The line that tells of a failure at the end. -/
def Console.complaint (failure : Failure) : String :=
  "Error: " ++ failure.inspect

/-- What is told apart from the log: the alerts, and the failure that ended the session. -/
def Console.complaints (console : Console S) : List String :=
  console.session.view.alerts ++
    match console.session.result? with
    | some (.error failure) => [complaint failure]
    | _ => []

/-- The status that the program ends with. -/
def Console.status (console : Console S) : Nat :=
  match console.session.result? with
  | some (.error _) => 1
  | _ => 0

/-- All that happens on a host without a network: the attempt is made and fails. -/
def Console.offline : List Console.Step :=
  [.turn true 0, .settle (.error Transport.noNetwork), .turn true 0]

end RelayConsole
