import RelayConsole.Unicode.JoiningTable
import RelayConsole.Unicode.Normal

namespace RelayConsole

def Joiner.kind? (c : Char) : Option Char :=
  Unicode.kind? Unicode.joiningTable c

/-- The nearest character that takes part in joining. -/
def Joiner.neighbour? (side : List Char) : Option Char :=
  (side.map kind?).find? (· ≠ some 't') |>.join

/-- Whether an invisible joiner or non-joiner has something to do where it stands: after a sign that
suppresses a vowel, or, for the non-joiner, between letters that would join. `before` is reversed. -/
def Joiner.isUseful (before : List Char) (c : Char) (after : List Char) : Bool :=
  (before.head?.map Normal.combiningClass = some 9) ||
    (c = '\u200C' && (neighbour? before = some 'l' || neighbour? before = some 'u') &&
      (neighbour? after = some 'r' || neighbour? after = some 'u'))

/-- A label whose invisible joiners all have something to do. -/
def Joiner.isLabel (before : List Char) : List Char → Bool
  | [] => true
  | c :: rest =>
    (if c = '\u200C' || c = '\u200D' then isUseful before c rest else true) && isLabel (c :: before) rest

end RelayConsole
