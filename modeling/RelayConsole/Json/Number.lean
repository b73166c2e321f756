import RelayConsole.Binary64.Numeral
import RelayConsole.Settings.Tree

namespace RelayConsole.Json

/-- The largest number of 64 bits. -/
def wordLimit : Nat :=
  18446744073709551615

/-- The topmost bit of such a number. -/
def signBit : Nat :=
  9223372036854775808

/-- As many leading digits as make a number of 64 bits, on top of what is read already, and the digits that
are too many. -/
def wordDigits : Nat → List Char → Nat × List Char
  | value, [] => (value, [])
  | value, c :: rest =>
    match Digits.digit? 10 c with
    | none => (value, c :: rest)
    | some digit =>
      if wordLimit < value * 10 + digit then (value, c :: rest)
      else wordDigits (value * 10 + digit) rest

/-- Multiplies or divides by a power of ten, in steps where it is out of range; none if the product is. -/
def scale? : Nat → Binary64 → Int → Option Binary64
  | 0, _, _ => none
  | fuel + 1, value, exponent =>
    if 308 < exponent then
      match value with
      | .finite _ 0 => some value
      | _ => none
    else if 0 ≤ exponent then
      match value.scaleUp exponent.toNat with
      | .infinite _ => none
      | value => some value
    else if -308 ≤ exponent then some (value.scaleDown (-exponent).toNat)
    else
      match value with
      | .finite _ 0 => some value
      | value => scale? fuel (value.scaleDown 308) (exponent + 308)

/-- The number of a word times a power of ten. The word is rounded first, then the power, then the product;
a number whose word is zero stays zero, and one out of range is refused. -/
def float? (negative : Bool) (word : Nat) (exponent : Int) : Option Binary64 :=
  if exponent < -2000 then some (.finite negative 0)
  else scale? 8 (.ofDecimal negative word 0) exponent

/-- Reads an exponent after its mark. -/
def exponent? (text : List Char) : Option (Int × List Char) :=
  let (negative, digits) := Numeral.sign text
  (Digits.read? 10 (digits.takeWhile (Digits.isDigit 10))).map fun value =>
    (if negative then -value else value, digits.dropWhile (Digits.isDigit 10))

/-- Reads what may follow the digits of a number: an exponent. -/
def ending? (negative : Bool) (word : Nat) (places : Int) (text : List Char) : Option (Binary64 × List Char) :=
  match text with
  | mark :: rest =>
    if mark = 'e' || mark = 'E' then do
      let (exponent, rest) ← exponent? rest
      return (← float? negative word (places + exponent), rest)
    else do return (← float? negative word places, text)
  | [] => do return (← float? negative word places, text)

/-- Reads the digits after a point. Those beyond 64 bits do not count, nor do any after one of them. -/
def fraction? (negative : Bool) (word : Nat) (places : Int) (text : List Char) : Option (Binary64 × List Char) :=
  let digits := text.takeWhile (Digits.isDigit 10)
  let (word, excess) := wordDigits word digits
  if digits = [] then none
  else ending? negative word (places - (digits.length - excess.length : Nat)) (text.dropWhile (Digits.isDigit 10))

/-- Whether a text goes on with a point or an exponent. -/
def goesOn : List Char → Bool
  | c :: _ => c = '.' || c = 'e' || c = 'E'
  | [] => false

/-- Reads the rest of a number that is no whole number. -/
def real? (negative : Bool) (word : Nat) (places : Int) (text : List Char) : Option (Binary64 × List Char) :=
  match text with
  | '.' :: rest => fraction? negative word places rest
  | text => ending? negative word places text

/-- A whole number of 64 bits. Without a minus its topmost bit counts as a sign; with one, what has no such
bit pattern becomes a float, as does zero. -/
def whole (negative : Bool) (word : Nat) : Settings.Scalar :=
  if negative then
    if word = 0 ∨ signBit < word then .float (.ofDecimal true word 0) else .integer (-word)
  else if word < signBit then .integer word
  else .integer ((word : Int) - wordLimit - 1)

/-- Reads a number. -/
def number? (text : List Char) : Option (Settings.Scalar × List Char) :=
  let (negative, text) := match text with
    | '-' :: rest => (true, rest)
    | text => (false, text)
  let digits := text.takeWhile (Digits.isDigit 10)
  let rest := text.dropWhile (Digits.isDigit 10)
  let (word, excess) := wordDigits 0 digits
  if digits = [] ∨ (digits.head? = some '0' ∧ 1 < digits.length) then none
  else if excess = [] ∧ !goesOn rest then some (whole negative word, rest)
  else (real? negative word excess.length rest).map fun (value, rest) => (.float value, rest)

end RelayConsole.Json
