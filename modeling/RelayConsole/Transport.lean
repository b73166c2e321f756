import RelayConsole.Text.Quoted

namespace RelayConsole

/-- What can go wrong on the socket or on the way to it. -/
inductive Transport.Error where
  | closedNormally
  | alreadyClosed
  | io (reason : String)
  | bufferFull
  | badUtf8
  | attack
  | tooManyHeaders
  | tooLong (size limit : Nat)
  | reset
  | badOpcode (code : Nat)
  | reservedBits
  | maskedFrame
  | strayContinuation
  | fragmentedControl
  | longControl
  | keyMismatch
  | noUpgrade
  | noConnectionUpgrade
  | handshakeCut
  | refusedWith (status : Nat)
  | badRequest (reason : String)
  | noTls
  | noHost
  | emptyHost
  | noPath
  | unfitScheme
  | unreachable (address : String)
  deriving DecidableEq, Repr

/-- The registered phrase of a response status. -/
def Transport.phrase? : Nat → Option String
  | 100 => "Continue" | 101 => "Switching Protocols" | 102 => "Processing" | 103 => "Early Hints"
  | 200 => "OK" | 201 => "Created" | 202 => "Accepted" | 203 => "Non Authoritative Information"
  | 204 => "No Content" | 205 => "Reset Content" | 206 => "Partial Content" | 207 => "Multi-Status"
  | 208 => "Already Reported" | 226 => "IM Used"
  | 300 => "Multiple Choices" | 301 => "Moved Permanently" | 302 => "Found" | 303 => "See Other"
  | 304 => "Not Modified" | 305 => "Use Proxy" | 307 => "Temporary Redirect" | 308 => "Permanent Redirect"
  | 400 => "Bad Request" | 401 => "Unauthorized" | 402 => "Payment Required" | 403 => "Forbidden"
  | 404 => "Not Found" | 405 => "Method Not Allowed" | 406 => "Not Acceptable"
  | 407 => "Proxy Authentication Required" | 408 => "Request Timeout" | 409 => "Conflict" | 410 => "Gone"
  | 411 => "Length Required" | 412 => "Precondition Failed" | 413 => "Payload Too Large"
  | 414 => "URI Too Long" | 415 => "Unsupported Media Type" | 416 => "Range Not Satisfiable"
  | 417 => "Expectation Failed" | 418 => "I'm a teapot" | 421 => "Misdirected Request"
  | 422 => "Unprocessable Entity" | 423 => "Locked" | 424 => "Failed Dependency" | 425 => "Too Early"
  | 426 => "Upgrade Required" | 428 => "Precondition Required" | 429 => "Too Many Requests"
  | 431 => "Request Header Fields Too Large" | 451 => "Unavailable For Legal Reasons"
  | 500 => "Internal Server Error" | 501 => "Not Implemented" | 502 => "Bad Gateway"
  | 503 => "Service Unavailable" | 504 => "Gateway Timeout" | 505 => "HTTP Version Not Supported"
  | 506 => "Variant Also Negotiates" | 507 => "Insufficient Storage" | 508 => "Loop Detected"
  | 510 => "Not Extended" | 511 => "Network Authentication Required"
  | _ => none

/-- A response status with its phrase. -/
def Transport.statusText (status : Nat) : String :=
  toString status ++ " " ++ (phrase? status).getD "<unknown status code>"

def Transport.Error.message : Transport.Error → String
  | .closedNormally => "Connection closed normally"
  | .alreadyClosed => "Trying to work with closed connection"
  | .io reason => "IO error: " ++ reason
  | .bufferFull => "Write buffer is full"
  | .badUtf8 => "UTF-8 encoding error"
  | .attack => "Attack attempt detected"
  | .tooManyHeaders => "Space limit exceeded: Too many headers"
  | .tooLong size limit => "Space limit exceeded: Message too long: " ++ toString size ++ " > " ++ toString limit
  | .reset => "WebSocket protocol error: Connection reset without closing handshake"
  | .badOpcode code => "WebSocket protocol error: Encountered invalid opcode: " ++ toString code
  | .reservedBits => "WebSocket protocol error: Reserved bits are non-zero"
  | .maskedFrame => "WebSocket protocol error: Received a masked frame from server"
  | .strayContinuation => "WebSocket protocol error: Continue frame but nothing to continue"
  | .fragmentedControl => "WebSocket protocol error: Fragmented control frame"
  | .longControl => "WebSocket protocol error: Control frame too big (payload must be 125 bytes or less)"
  | .keyMismatch => "WebSocket protocol error: Key mismatch in \"Sec-WebSocket-Accept\" header"
  | .noUpgrade => "WebSocket protocol error: No \"Upgrade: websocket\" header"
  | .noConnectionUpgrade => "WebSocket protocol error: No \"Connection: upgrade\" header"
  | .handshakeCut => "WebSocket protocol error: Handshake not finished"
  | .refusedWith status => "HTTP error: " ++ statusText status
  | .badRequest reason => "HTTP format error: " ++ reason
  | .noTls => "TLS support not compiled in"
  | .noHost => "No host name in the URL"
  | .emptyHost => "URL contains empty host name"
  | .noPath => "No path/query in URL"
  | .unfitScheme => "URL scheme not supported"
  | .unreachable address => "Unable to connect to " ++ address

/-- How every attempt ends on a host without a network. -/
def Transport.noNetwork : Transport.Error :=
  .io "Network is unreachable (os error 101)"

/-- Whether the fault lies in the address rather than in the connection. -/
def Transport.Error.isAddress : Transport.Error → Bool
  | .noTls | .noHost | .emptyHost | .noPath | .unfitScheme | .unreachable _ => true
  | _ => false

end RelayConsole
