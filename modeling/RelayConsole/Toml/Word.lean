import RelayConsole.Binary64.Numeral
import RelayConsole.Settings.Tree

namespace RelayConsole.Toml

/-- Characters of bare keys, and of everything else that is written without quotes. -/
def isWord (c : Char) : Bool :=
  c.isAlphanum || c = '-' || c = '_'

/-- The word at the head of a text, if there is one, and what follows it. -/
def word? (text : List Char) : Option (List Char × List Char) :=
  match text.takeWhile isWord with
  | [] => none
  | word => some (word, text.dropWhile isWord)

/-- Whether two underscores stand side by side. -/
def hasGap : List Char → Bool
  | '_' :: '_' :: _ => true
  | _ :: rest => hasGap rest
  | [] => false

/-- Reads digits, between any two of which one underscore may stand. Leading zeros may be forbidden. -/
def digits? (base : Nat) (zeros : Bool) (text : List Char) : Option (List Char × List Char) :=
  let isPart := fun c => c = '_' || Digits.isDigit base c
  let run := text.takeWhile isPart
  let digits := run.filter (· ≠ '_')
  if run = [] ∨ run.head? = some '_' ∨ run.getLast? = some '_' ∨ hasGap run then none
  else if !zeros ∧ digits.head? = some '0' ∧ 1 < digits.length then none
  else some (digits, text.dropWhile isPart)

/-- A minus at the head of a text. -/
def minus : List Char → Bool × List Char
  | '-' :: rest => (true, rest)
  | text => (false, text)

/-- A whole number in 64 bits, digits and nothing more. -/
def wholeOf? (base : Nat) (negative : Bool) (digits : List Char) : Option Settings.Scalar :=
  ((Digits.read? base digits).map fun value => if negative then -(value : Int) else value).bind fun value =>
    if Numeral.fits value then some (.integer value) else none

/-- A whole number by a word. -/
def whole? (base : Nat) (zeros : Bool) (negative : Bool) (word : List Char) : Option Settings.Scalar :=
  match digits? base zeros word with
  | some (digits, []) => wholeOf? base negative digits
  | _ => none

/-- Reads an exponent after its mark. Its sign and digits are part of the word, except that a plus ends the
word it follows. -/
def exponent? (word rest : List Char) : Option (Int × List Char) :=
  let (negative, digits) := minus word
  let read := fun digits rest =>
    match digits? 10 true digits with
    | some (digits, []) =>
      (Digits.read? 10 digits).map fun value => ((if negative then -(value : Int) else value), rest)
    | _ => none
  match word, rest with
  | [], '+' :: rest => (word? rest).bind fun (word, rest) => read word rest
  | _, rest => read digits rest

/-- A number within range that is no whole number. -/
def floatOf? (negative : Bool) (whole places : List Char) (exponent : Int) : Option Settings.Scalar :=
  match Digits.read? 10 (whole ++ places) with
  | some digits =>
    match Binary64.ofDecimal negative digits (exponent - places.length) with
    | .finite negative units => some (.float (.finite negative units))
    | _ => none
  | none => none

/-- Reads what may follow the digits of a number: an exponent. -/
def ending? (negative : Bool) (whole places after rest : List Char) : Option (Settings.Scalar × List Char) :=
  match after with
  | [] => (floatOf? negative whole places 0).map (·, rest)
  | mark :: word =>
    if mark = 'e' || mark = 'E' then do
      let (exponent, rest) ← exponent? word rest
      return (← floatOf? negative whole places exponent, rest)
    else none

/-- Reads a number that is no whole number: the word before a point, and the one after it. -/
def float? (word rest : List Char) : Option (Settings.Scalar × List Char) := do
  let (negative, digits) := minus word
  let (whole, after) ← digits? 10 false digits
  match after, rest with
  | [], '.' :: rest => do
    let (word, rest) ← word? rest
    let (places, after) ← digits? 10 true word
    ending? negative whole places after rest
  | after, rest => ending? negative whole [] after rest

/-- Reads a number by its first word. -/
def number? (word rest : List Char) : Option (Settings.Scalar × List Char) :=
  match word with
  | '0' :: 'x' :: digits => (whole? 16 true false digits).map (·, rest)
  | '0' :: 'o' :: digits => (whole? 8 true false digits).map (·, rest)
  | '0' :: 'b' :: digits => (whole? 2 true false digits).map (·, rest)
  | word =>
    let (negative, digits) := minus word
    if word.contains 'e' || word.contains 'E' || rest.head? = some '.' then float? word rest
    else if digits = "inf".toList then some (.float (.infinite negative), rest)
    else if digits = "nan".toList then some (.float .nan, rest)
    else (whole? 10 false negative digits).map (·, rest)

end RelayConsole.Toml
