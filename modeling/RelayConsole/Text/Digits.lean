namespace RelayConsole

/-- The value of a digit, letters of either case standing for ten and more. -/
def Digits.value? (c : Char) : Option Nat :=
  if '0' ≤ c ∧ c ≤ '9' then some (c.toNat - '0'.toNat)
  else if 'a' ≤ c ∧ c ≤ 'z' then some (c.toNat - 'a'.toNat + 10)
  else if 'A' ≤ c ∧ c ≤ 'Z' then some (c.toNat - 'A'.toNat + 10)
  else none

/-- The value of a digit of the given base. -/
def Digits.digit? (base : Nat) (c : Char) : Option Nat :=
  (value? c).filter (· < base)

def Digits.isDigit (base : Nat) (c : Char) : Bool :=
  (digit? base c).isSome

/-- A numeral without sign, most significant digit first, added below what `high` already counts. -/
def Digits.fold? (base : Nat) : Nat → List Char → Option Nat
  | high, [] => some high
  | high, c :: rest =>
    match digit? base c with
    | some d => fold? base (high * base + d) rest
    | none => none

/-- The number a nonempty run of digits stands for. -/
def Digits.read? (base : Nat) : List Char → Option Nat
  | [] => none
  | text => fold? base 0 text

/-- A number's shortest numeral, letters in lower case. -/
def Digits.text (base n : Nat) : List Char :=
  Nat.toDigits base n

/-- A numeral filled up with zeros to a width. -/
def Digits.padded (base width n : Nat) : List Char :=
  (text base n).leftpad width '0'

end RelayConsole
