import RelayConsole.Failure

namespace RelayConsole

/-- Where a console connects and how it introduces itself. -/
structure Session.Config where
  page : String
  suffix : String := ""
  subprotocol : String := "otdb"
  mode : Endpoint.Mode := .parity
  deriving DecidableEq, Repr

/-- The address of the socket. -/
def Session.Config.endpoint (config : Session.Config) : Except Failure Url :=
  (Endpoint.derive config.mode config.page.toList config.suffix.toList).mapError .ofEndpoint

/-- Characters that a domain name may hold but a request for it may not. -/
def Session.isUnfitForRequest (c : Char) : Bool :=
  c ∈ ['"', '\x60', '\x7b', '\x7d']

/-- Whether an address can be written into a request. -/
def Session.request (url : Url) : Except Transport.Error Unit :=
  if 65534 < url.text.length then .error (.badRequest "uri too long")
  else if (url.host.map Url.Host.text).any (·.any isUnfitForRequest) then
    .error (.badRequest "invalid uri character")
  else .ok ()

/-- Whether a text can stand in a header: no controls but tabs. -/
def Session.isHeaderText (text : String) : Bool :=
  text.toList.all fun c => c = '\t' || (0x20 ≤ c.toNat && c.toNat ≠ 0x7F)

/-- The address to connect to, once everything that can be checked without the network is in order. -/
def Session.Config.prepare (config : Session.Config) : Except Failure Url :=
  match config.endpoint with
  | .error failure => .error failure
  | .ok url =>
    match Session.request url with
    | .error error => .error (.ofTransport error)
    | .ok _ =>
      if Session.isHeaderText config.subprotocol then .ok url
      else .error (.validation ("subprotocol '" ++ config.subprotocol ++ "': failed to parse header value"))

end RelayConsole
