import RelayConsole.Endpoint
import RelayConsole.Settings.Error
import RelayConsole.Transport

namespace RelayConsole

/-- What a user of the console is told when something fails. -/
inductive Failure where
  | connection (reason : String)
  | sending (reason : String)
  | notConnected
  | address (reason : String)
  | settings (reason : String)
  | validation (reason : String)
  deriving DecidableEq, Repr

def Failure.message : Failure → String
  | .connection reason => "WebSocket error: Connection error: " ++ reason
  | .sending reason => "WebSocket error: Message sending failed: " ++ reason
  | .notConnected => "WebSocket error: Not connected"
  | .address reason => "URL error: " ++ reason
  | .settings reason => "Configuration error: " ++ reason
  | .validation reason => "Validation error: " ++ reason

/-- The notice shown when no connection comes about. -/
def Failure.alertText (failure : Failure) : String :=
  "Error " ++ failure.message

/-- The failure with its kind, as the program prints it when it ends with one. -/
def Failure.inspect : Failure → String
  | .connection reason => "WebSocketError(ConnectionError(" ++ Quoted.text reason ++ "))"
  | .sending reason => "WebSocketError(SendError(" ++ Quoted.text reason ++ "))"
  | .notConnected => "WebSocketError(NotConnected)"
  | .address reason => "UrlError(" ++ Quoted.text reason ++ ")"
  | .settings reason => "ConfigError(" ++ Quoted.text reason ++ ")"
  | .validation reason => "ValidationError(" ++ Quoted.text reason ++ ")"

def Failure.ofUrl (error : Url.Error) : Failure :=
  .address error.message

def Failure.ofEndpoint (error : Endpoint.Error) : Failure :=
  .address error.message

def Failure.ofSettings (error : Settings.Error) : Failure :=
  .settings error.message

/-- A fault of the address is told as such, all others as faults of the connection. -/
def Failure.ofTransport (error : Transport.Error) : Failure :=
  if error.isAddress then .address error.message else .connection error.message

end RelayConsole
