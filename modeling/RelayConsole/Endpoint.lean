import RelayConsole.Text.Position
import RelayConsole.Url.Reading

namespace RelayConsole

/-- How the address of the hosting page becomes the address of the socket. -/
inductive Endpoint.Mode where
  | parity
  | parsed
  deriving DecidableEq, Repr

/-- Why a page address yields no socket address. -/
inductive Endpoint.Error where
  | unreadable (cause : Url.Error)
  | unfitScheme (scheme : List Char)
  | noHost (page : List Char)
  | unreadableResult (address : List Char) (cause : Url.Error)
  deriving DecidableEq, Repr

def Endpoint.Error.message : Endpoint.Error → String
  | .unreadable cause => cause.message
  | .unfitScheme scheme => "page scheme '" ++ String.ofList scheme ++ "' cannot host a WebSocket"
  | .noHost page => "page address '" ++ String.ofList page ++ "' has no host"
  | .unreadableResult address cause =>
    "derived address '" ++ String.ofList address ++ "': " ++ cause.message

/-- The scheme of the socket, told from the first letters of the page address alone. -/
def Endpoint.socketScheme (page : List Char) : List Char :=
  if "https".toList.isPrefixOf page then "wss".toList else "ws".toList

/-- How many characters of the page address count as its scheme. -/
def Endpoint.offset (page : List Char) : Nat :=
  if "https".toList.isPrefixOf page then 8 else if "http".toList.isPrefixOf page then 7 else 0

/-- What stands between the page's scheme and its next slash. -/
def Endpoint.hostByOffset (page : List Char) : List Char :=
  (page.drop (offset page)).takeWhile (· ≠ '/')

/-- The socket address put together without reading the page address. -/
def Endpoint.byOffset (page suffix : List Char) : List Char :=
  socketScheme page ++ "://".toList ++ hostByOffset page ++ '/' :: suffix

/-- The scheme of the socket with its slashes, and the page address behind its own scheme as its bytes are
sliced; none if that is cut within a character. -/
def Endpoint.partsBySlice? (page : List Char) : Option (List Char × List Char) :=
  if "https".toList.isPrefixOf page then (Text.skip? page 8).map ("wss://".toList, ·)
  else if "http".toList.isPrefixOf page then (Text.skip? page 7).map ("ws://".toList, ·)
  else some ("ws://".toList, page)

/-- The socket address `byOffset` as the bytes of the page address give it. -/
def Endpoint.bySlice? (page suffix : List Char) : Option (List Char) :=
  (partsBySlice? page).map fun (scheme, rest) =>
    scheme ++ (rest.splitOn '/').head?.getD [] ++ '/' :: suffix

/-- The socket's scheme for a page's. -/
def Endpoint.schemeFor? (scheme : List Char) : Option (List Char) :=
  if scheme = "https".toList then some "wss".toList
  else if scheme = "http".toList then some "ws".toList
  else none

/-- The socket address of a scheme at a host, all slashes at the head of the suffix being one. -/
def Endpoint.compose (scheme : List Char) (host : Url.Host) (port : Option Nat) (suffix : List Char) : List Char :=
  scheme ++ "://".toList ++ host.text ++ Url.portText port ++ '/' :: suffix.dropWhile (· = '/')

/-- The socket address at the host of the page, which has to be a web page. -/
def Endpoint.byParsing (page suffix : List Char) : Except Endpoint.Error Url :=
  match Url.read page with
  | .error cause => .error (.unreadable cause)
  | .ok url =>
    match schemeFor? url.scheme with
    | none => .error (.unfitScheme url.scheme)
    | some scheme =>
      match url.host with
      | none => .error (.noHost page)
      | some host => (Url.read (compose scheme host url.port suffix)).mapError .unreadable

/-- The socket address of a page. -/
def Endpoint.derive (mode : Endpoint.Mode) (page suffix : List Char) : Except Endpoint.Error Url :=
  match mode with
  | .parity => (Url.read (byOffset page suffix)).mapError (.unreadableResult (byOffset page suffix))
  | .parsed => byParsing page suffix

end RelayConsole
