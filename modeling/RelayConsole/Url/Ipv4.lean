import RelayConsole.Text.Digits

namespace RelayConsole

/-- A part of a dotted address: hexadecimal after `0x`, octal after another leading zero, else decimal.
A bare `0x` counts as zero. -/
def Ipv4.part? : List Char → Option Nat
  | [] => none
  | '0' :: 'x' :: digits => if digits.isEmpty then some 0 else Digits.read? 16 digits
  | '0' :: 'X' :: digits => if digits.isEmpty then some 0 else Digits.read? 16 digits
  | ['0'] => some 0
  | '0' :: digits => Digits.read? 8 digits
  | digits => Digits.read? 10 digits

/-- The parts between dots, without the empty one that a final dot leaves. -/
def Ipv4.parts (name : List Char) : List (List Char) :=
  let all := name.splitOn '.'
  if 1 < all.length ∧ all.getLast? = some [] then all.dropLast else all

/-- Whether a host name has to be an address: its last part is a number. -/
def Ipv4.endsInNumber (name : List Char) : Bool :=
  match (parts name).getLast? with
  | some last => (!last.isEmpty && last.all (Digits.isDigit 10)) || (part? last).isSome
  | none => false

/-- One to three leading parts fill a byte each, the last fills the bytes that are left. -/
def Ipv4.join? (leading : List Nat) (last : Nat) : Option Nat :=
  if leading.length ≤ 3 ∧ leading.all (· ≤ 255) ∧ last < Nat.pow 256 (4 - leading.length) then
    some (leading.foldl (fun sum n => sum * 256 + n) 0 * Nat.pow 256 (4 - leading.length) + last)
  else none

/-- The number of an IPv4 address in any of its spellings. -/
def Ipv4.read? (name : List Char) : Option Nat := do
  let numbers ← (parts name).mapM part?
  join? numbers.dropLast (← numbers.getLast?)

/-- Four decimal numbers with dots. -/
def Ipv4.text (address : Nat) : List Char :=
  List.intercalate ['.'] ([3, 2, 1, 0].map fun i => Digits.text 10 (address / Nat.pow 256 i % 256))

end RelayConsole
