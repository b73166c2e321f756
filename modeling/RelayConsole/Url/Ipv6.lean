import RelayConsole.Text.Digits

namespace RelayConsole

/-- A group of one to four hexadecimal digits. -/
def Ipv6.group? (text : List Char) : Option Nat :=
  if text.length ≤ 4 then Digits.read? 16 text else none

/-- A number up to 255 without a leading zero. -/
def Ipv6.byte? (text : List Char) : Option Nat := do
  let n ← Digits.read? 10 text
  if n ≤ 255 ∧ (text.head? = some '0' → text.length = 1) then some n else none

/-- The two groups that an address ends in when they are written as four decimal numbers. -/
def Ipv6.dotted? (text : List Char) : Option (List Nat) := do
  match ← (text.splitOn '.').mapM byte? with
  | [a, b, c, d] => some [a * 256 + b, c * 256 + d]
  | _ => none

/-- Groups between colons; `ending` tells whether the last one may be written with dots. -/
def Ipv6.groups? (ending : Bool) : List (List Char) → Option (List Nat)
  | [] => some []
  | [last] => if ending && last.contains '.' then dotted? last else (group? last).map ([·])
  | group :: rest => do return (← group? group) :: (← groups? ending rest)

/-- What stands before and after the first two colons in a row. -/
def Ipv6.cutAtGap? : List Char → Option (List Char × List Char)
  | ':' :: ':' :: rest => some ([], rest)
  | c :: rest => (cutAtGap? rest).map fun (before, after) => (c :: before, after)
  | [] => none

/-- The groups of a possibly empty side of the gap. -/
def Ipv6.side? (ending : Bool) (text : List Char) : Option (List Nat) :=
  if text.isEmpty then some [] else groups? ending (text.splitOn ':')

/-- The eight groups of an address; a gap stands for at least one group of zero. -/
def Ipv6.read? (text : List Char) : Option (List Nat) :=
  match cutAtGap? text with
  | some (before, after) => do
    let front ← side? false before
    let back ← side? true after
    if front.length + back.length ≤ 7 then
      some (front ++ List.replicate (8 - front.length - back.length) 0 ++ back)
    else none
  | none => do
    let all ← groups? true (text.splitOn ':')
    if all.length = 8 then some all else none

/-- The length of the run of zeros at the head. -/
def Ipv6.zeros (groups : List Nat) : Nat :=
  (groups.takeWhile (· = 0)).length

/-- Start and length of the first of the longest runs of zeros. -/
def Ipv6.longestGap : List Nat → Nat × Nat
  | [] => (0, 0)
  | group :: rest =>
    let (start, length) := longestGap rest
    if length ≤ zeros (group :: rest) then (0, zeros (group :: rest)) else (start + 1, length)

/-- Groups in lower case hexadecimal with colons, the first of the longest runs of two or more zeros left out. -/
def Ipv6.text (groups : List Nat) : List Char :=
  let joined := fun part => List.intercalate [':'] (part.map (Digits.text 16))
  let (start, length) := longestGap groups
  if 2 ≤ length then joined (groups.take start) ++ [':', ':'] ++ joined (groups.drop (start + length))
  else joined groups

end RelayConsole
