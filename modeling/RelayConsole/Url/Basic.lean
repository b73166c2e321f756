import RelayConsole.Url.Host

namespace RelayConsole

/-- The path of an address: segments after slashes, or, where no slash begins it, a text of its own. -/
inductive Url.Path where
  | segments (list : List (List Char))
  | opaqueText (text : List Char)
  deriving DecidableEq, Repr

def Url.Path.text : Url.Path → List Char
  | .segments list => list.flatMap ('/' :: ·)
  | .opaqueText text => text

/-- An absolute address. The port is none where it is the scheme's own. -/
structure Url where
  scheme : List Char
  username : List Char
  password : List Char
  host : Option Url.Host
  port : Option Nat
  path : Url.Path
  query : Option (List Char)
  fragment : Option (List Char)
  deriving DecidableEq, Repr

/-- Schemes whose addresses always name a host. -/
def Url.isWeb (scheme : List Char) : Bool :=
  scheme ∈ ["http", "https", "ws", "wss", "ftp"].map String.toList

def Url.defaultPort? (scheme : List Char) : Option Nat :=
  if scheme ∈ ["http", "ws"].map String.toList then some 80
  else if scheme ∈ ["https", "wss"].map String.toList then some 443
  else if scheme = "ftp".toList then some 21
  else none

/-- The port a connection to the address uses. -/
def Url.effectivePort? (url : Url) : Option Nat :=
  url.port.or (defaultPort? url.scheme)

/-- User name and password before the host, with the at sign; nothing if both are empty. -/
def Url.userinfoText (username password : List Char) : List Char :=
  if username.isEmpty ∧ password.isEmpty then []
  else username ++ (if password.isEmpty then [] else ':' :: password) ++ ['@']

def Url.portText : Option Nat → List Char
  | some port => ':' :: Digits.text 10 port
  | none => []

def Url.authorityText (url : Url) : List Char :=
  match url.host with
  | some host => ['/', '/'] ++ userinfoText url.username url.password ++ host.text ++ portText url.port
  | none => []

def Url.markedText (mark : Char) : Option (List Char) → List Char
  | some text => mark :: text
  | none => []

def Url.text (url : Url) : List Char :=
  url.scheme ++ [':'] ++ url.authorityText ++ url.path.text ++ markedText '?' url.query ++
    markedText '#' url.fragment

instance : ToString Url where
  toString url := String.ofList url.text

end RelayConsole
