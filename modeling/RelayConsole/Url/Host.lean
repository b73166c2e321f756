import RelayConsole.Domain.Ascii
import RelayConsole.Url.Ipv4
import RelayConsole.Url.Ipv6
import RelayConsole.Url.Percent

namespace RelayConsole

/-- Why a text is no address. -/
inductive Url.Error where
  | emptyHost
  | invalidDomain
  | invalidPort
  | invalidIpv4
  | invalidIpv6
  | invalidHostCharacter
  | relativeWithoutBase
  deriving DecidableEq, Repr

def Url.Error.message : Url.Error → String
  | .emptyHost => "empty host"
  | .invalidDomain => "invalid international domain name"
  | .invalidPort => "invalid port number"
  | .invalidIpv4 => "invalid IPv4 address"
  | .invalidIpv6 => "invalid IPv6 address"
  | .invalidHostCharacter => "invalid domain character"
  | .relativeWithoutBase => "relative URL without a base"

inductive Url.Host where
  | name (text : List Char)
  | ipv4 (address : Nat)
  | ipv6 (groups : List Nat)
  deriving DecidableEq, Repr

def Url.Host.text : Url.Host → List Char
  | .name text => text
  | .ipv4 address => Ipv4.text address
  | .ipv6 groups => '[' :: Ipv6.text groups ++ [']']

/-- An IPv6 address in brackets. -/
def Url.Host.bracketed (text : List Char) : Except Url.Error Url.Host :=
  match text.reverse with
  | ']' :: inner =>
    match Ipv6.read? inner.reverse with
    | some groups => .ok (.ipv6 groups)
    | none => .error .invalidIpv6
  | _ => .error .invalidIpv6

/-- The host of an address whose scheme implies one: a domain name, or an IPv4 address in any spelling. -/
def Url.Host.read : List Char → Except Url.Error Url.Host
  | '[' :: rest => bracketed rest
  | text =>
    match (Utf8.decode? (Percent.decode text)).bind Domain.toAscii? with
    | none => .error .invalidDomain
    | some [] => .error .emptyHost
    | some domain =>
      if Ipv4.endsInNumber domain then
        match Ipv4.read? domain with
        | some address => .ok (.ipv4 address)
        | none => .error .invalidIpv4
      else .ok (.name domain)

/-- Characters that no host holds. -/
def Url.Host.isForbidden (c : Char) : Bool :=
  c ∈ ['\x00', '\t', '\n', '\r', ' ', '#', '/', ':', '<', '>', '?', '@', '[', '\\', ']', '^', '|']

/-- The host of any other address is taken as written. -/
def Url.Host.readOpaque : List Char → Except Url.Error Url.Host
  | '[' :: rest => bracketed rest
  | text =>
    if text.any isForbidden then .error .invalidHostCharacter
    else .ok (.name (Percent.encode Percent.control text))

end RelayConsole
