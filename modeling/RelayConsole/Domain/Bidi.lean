import RelayConsole.Unicode.DirectionTable

namespace RelayConsole

/-- The direction class of a character, with `l` for left-to-right. -/
def Bidi.kind (c : Char) : Char :=
  (Unicode.kind? Unicode.directionTable c).getD 'l'

/-- Characters that make a domain name one of mixed direction. -/
def Bidi.isRightToLeft (c : Char) : Bool :=
  kind c ∈ ['r', 'j', 'n']

/-- The last class of a label that is no mark. -/
def Bidi.lastKind? (kinds : List Char) : Option Char :=
  (kinds.reverse.dropWhile (· = 'm')).head?

/-- A label that can stand in a name of mixed direction without moving its neighbours. -/
def Bidi.isLabel (label : List Char) : Bool :=
  let kinds := label.map kind
  let last := lastKind? kinds
  match kinds with
  | [] => true
  | 'l' :: _ =>
    kinds.all (· ∈ ['l', 'u', 'p', 'q', 't', 'o', 'y', 'm']) && (last = some 'l' || last = some 'u')
  | first :: _ =>
    (first = 'r' || first = 'j') && kinds.all (· ∈ ['r', 'j', 'n', 'u', 'p', 'q', 't', 'o', 'y', 'm']) &&
      (last = some 'r' || last = some 'j' || last = some 'u' || last = some 'n') &&
      !('u' ∈ kinds && 'n' ∈ kinds)

end RelayConsole
