import RelayConsole.Transport

namespace RelayConsole

/-- The daemon's reason for closing. -/
structure Session.CloseFrame where
  code : Nat
  reason : String
  deriving DecidableEq, Repr

/-- The name of a close code; ranges of codes keep their number. -/
def Session.CloseFrame.codeName (code : Nat) : String :=
  match code with
  | 1000 => "Normal" | 1001 => "Away" | 1002 => "Protocol" | 1003 => "Unsupported" | 1005 => "Status"
  | 1006 => "Abnormal" | 1007 => "Invalid" | 1008 => "Policy" | 1009 => "Size" | 1010 => "Extension"
  | 1011 => "Error" | 1012 => "Restart" | 1013 => "Again" | 1015 => "Tls"
  | _ =>
    let family :=
      if 1016 ≤ code ∧ code ≤ 2999 then "Reserved" else if 3000 ≤ code ∧ code ≤ 3999 then "Iana"
      else if 4000 ≤ code ∧ code ≤ 4999 then "Library" else "Bad"
    family ++ "(" ++ toString code ++ ")"

def Session.CloseFrame.inspect (frame : Session.CloseFrame) : String :=
  "CloseFrame \x7b code: " ++ codeName frame.code ++ ", reason: " ++ Quoted.text frame.reason ++ " \x7d"

/-- What comes from the daemon, one item after the other. -/
inductive Session.Inbound where
  | text (payload : String)
  | binary (size : Nat)
  | ping
  | pong
  | close (frame : Option Session.CloseFrame)
  | fault (error : Transport.Error)
  | ended
  deriving DecidableEq, Repr

end RelayConsole
