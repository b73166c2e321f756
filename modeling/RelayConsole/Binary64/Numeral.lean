import RelayConsole.Binary64.Basic
import RelayConsole.Text.Cut
import RelayConsole.Text.Digits

namespace RelayConsole

/-- A sign at the head of a numeral, and what follows it. -/
def Numeral.sign : List Char → Bool × List Char
  | '-' :: rest => (true, rest)
  | '+' :: rest => (false, rest)
  | text => (false, text)

/-- A whole number with an optional sign. -/
def Numeral.integer? (text : List Char) : Option Int :=
  let (negative, digits) := sign text
  (Digits.read? 10 digits).map fun value => if negative then -value else value

/-- Whether a number fits into 64 bits with a sign. -/
def Numeral.fits (value : Int) : Bool :=
  -9223372036854775808 ≤ value && value ≤ 9223372036854775807

/-- An exponent: nothing, or a mark followed by a whole number. -/
def Numeral.exponent? : List Char → Option Int
  | [] => some 0
  | mark :: rest => if mark = 'e' || mark = 'E' then integer? rest else none

/-- Digits with an optional point among them or at either end, and an optional exponent. -/
def Numeral.decimal? (negative : Bool) (text : List Char) : Option Binary64 :=
  let whole := text.takeWhile (Digits.isDigit 10)
  let rest := text.dropWhile (Digits.isDigit 10)
  let (places, rest) := match rest with
    | '.' :: after => (after.takeWhile (Digits.isDigit 10), after.dropWhile (Digits.isDigit 10))
    | rest => ([], rest)
  match Digits.read? 10 (whole ++ places), exponent? rest with
  | some digits, some exponent => some (.ofDecimal negative digits (exponent - places.length))
  | _, _ => none

/-- A binary floating-point number: a decimal numeral or a word for infinity or for no number, in letters of
either case. -/
def Numeral.float? (text : List Char) : Option Binary64 :=
  let (negative, rest) := sign text
  let word := Text.lower rest
  if word = "inf".toList ∨ word = "infinity".toList then some (.infinite negative)
  else if word = "nan".toList then some .nan
  else decimal? negative rest

end RelayConsole
