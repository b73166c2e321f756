import RelayConsole.Text.Digits
import RelayConsole.Text.Utf8

namespace RelayConsole

/-- Controls and everything beyond ASCII: written as percent escapes in every part of an address. -/
def Percent.control (c : Char) : Bool :=
  c.toNat < 0x20 || 0x7E < c.toNat

def Percent.fragment (c : Char) : Bool :=
  control c || c ∈ [' ', '"', '<', '>', '\x60']

def Percent.query (c : Char) : Bool :=
  control c || c ∈ [' ', '"', '#', '<', '>']

/-- In an address that names a host by its scheme the query escapes the apostrophe as well. -/
def Percent.specialQuery (c : Char) : Bool :=
  query c || c = '\''

def Percent.path (c : Char) : Bool :=
  fragment c || c ∈ ['#', '?', '\x7b', '\x7d']

def Percent.userinfo (c : Char) : Bool :=
  path c || c ∈ ['/', ':', ';', '=', '@', '[', '\\', ']', '^', '|']

/-- One byte as a percent sign and two capital hexadecimal digits. -/
def Percent.escape (byte : UInt8) : List Char :=
  '%' :: (Digits.padded 16 2 byte.toNat).map Char.toUpper

/-- Escapes the bytes of every character of a set and leaves the others. -/
def Percent.encode (set : Char → Bool) (text : List Char) : List Char :=
  text.flatMap fun c => if set c then (String.utf8EncodeChar c).flatMap escape else [c]

/-- The bytes of a text whose escapes are taken back; a percent sign without two hexadecimal digits
stands for itself. -/
def Percent.decode : List Char → List UInt8
  | [] => []
  | '%' :: h :: l :: rest =>
    match Digits.digit? 16 h, Digits.digit? 16 l with
    | some high, some low => UInt8.ofNat (high * 16 + low) :: decode rest
    | _, _ => '%'.toUInt8 :: decode (h :: l :: rest)
  | c :: rest => String.utf8EncodeChar c ++ decode rest

end RelayConsole
