import RelayConsole.Text.Digits
import RelayConsole.Unicode.Scalar

namespace RelayConsole.Toml

/-- Characters that stand for themselves between quotes. -/
def isPrintable (c : Char) : Bool :=
  c = '\t' || (0x20 ≤ c.toNat && c.toNat ≠ 0x7F)

/-- Reads a character by its number of so many digits. -/
def numbered? (width : Nat) (text : List Char) : Option (Char × List Char) :=
  if text.length < width then none
  else ((Digits.read? 16 (text.take width)).bind Unicode.scalar?).map (·, text.drop width)

/-- Reads what follows a backslash, apart from the end of a line. -/
def escaped? : List Char → Option (Char × List Char)
  | '"' :: rest => some ('"', rest)
  | '\\' :: rest => some ('\\', rest)
  | 'b' :: rest => some ('\x08', rest)
  | 'f' :: rest => some ('\x0c', rest)
  | 'n' :: rest => some ('\n', rest)
  | 'r' :: rest => some ('\r', rest)
  | 't' :: rest => some ('\t', rest)
  | 'u' :: rest => numbered? 4 rest
  | 'U' :: rest => numbered? 8 rest
  | _ => none

/-- A backslash at the end of a line takes the end and all blanks before the next word with it. -/
def foldedLine? (text : List Char) : Option (List Char) :=
  match text.dropWhile fun c => c = ' ' || c = '\t' with
  | '\n' :: rest => some (rest.dropWhile fun c => c = ' ' || c = '\t' || c = '\n')
  | _ => none

/-- Reads the end of a text of several lines after its first closing quote: two more, before which up to two
belong to the text. None if this is no end. -/
def closing? (quote : Char) : List Char → Option (List Char × List Char)
  | a :: b :: rest =>
    if a = quote ∧ b = quote then
      let extra := (rest.take 2).takeWhile (· = quote)
      some (extra, rest.drop extra.length)
    else none
  | _ => none

/-- Reads a text of one line up to its closing quote. Only between double quotes a backslash is special. -/
def line? (quote : Char) : Nat → List Char → Option (List Char × List Char)
  | _, [] => none
  | 0, _ => none
  | fuel + 1, c :: rest =>
    if c = quote then some ([], rest)
    else if c = '\\' ∧ quote = '"' then do
      let (c, rest) ← escaped? rest
      (line? quote fuel rest).map fun (text, rest) => (c :: text, rest)
    else if isPrintable c then (line? quote fuel rest).map fun (text, rest) => (c :: text, rest)
    else none

/-- Reads a text of several lines up to its closing quotes. -/
def lines? (quote : Char) : Nat → List Char → Option (List Char × List Char)
  | _, [] => none
  | 0, _ => none
  | fuel + 1, c :: rest =>
    if c = quote then
      match closing? quote rest with
      | some ending => some ending
      | none => (lines? quote fuel rest).map fun (text, rest) => (c :: text, rest)
    else if c = '\\' ∧ quote = '"' then
      match foldedLine? rest with
      | some rest => lines? quote fuel rest
      | none => do
        let (c, rest) ← escaped? rest
        (lines? quote fuel rest).map fun (text, rest) => (c :: text, rest)
    else if isPrintable c || c = '\n' then (lines? quote fuel rest).map fun (text, rest) => (c :: text, rest)
    else none

/-- Reads a text after its opening quote, with whether it may run over several lines. A line end right after
three opening quotes does not count. -/
def text? (quote : Char) (text : List Char) : Option (Bool × String × List Char) :=
  match List.isPrefixOf? [quote, quote] text with
  | some rest =>
    let rest := (List.isPrefixOf? ['\n'] rest).getD rest
    (lines? quote rest.length rest).map fun (content, rest) => (true, String.ofList content, rest)
  | none => (line? quote text.length text).map fun (content, rest) => (false, String.ofList content, rest)

end RelayConsole.Toml
