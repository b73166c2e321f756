import RelayConsole.Text.Digits
import RelayConsole.Unicode.Scalar

namespace RelayConsole.Json

/-- Reads four digits of base sixteen. -/
def unit? (text : List Char) : Option (Nat × List Char) :=
  if text.length < 4 then none
  else (Digits.read? 16 (text.take 4)).map (·, text.drop 4)

/-- Reads the number of a character, two halves together standing for one beyond sixteen bits. -/
def numbered? (text : List Char) : Option (Char × List Char) := do
  let (first, rest) ← unit? text
  if 0xD800 ≤ first ∧ first ≤ 0xDBFF then
    let rest ← List.isPrefixOf? ['\\', 'u'] rest
    let (second, rest) ← unit? rest
    if 0xDC00 ≤ second ∧ second ≤ 0xDFFF then
      return (← Unicode.scalar? (0x10000 + (first - 0xD800) * 0x400 + (second - 0xDC00)), rest)
    else none
  else return (← Unicode.scalar? first, rest)

/-- Reads what follows a backslash. -/
def escaped? : List Char → Option (Char × List Char)
  | '"' :: rest => some ('"', rest)
  | '\\' :: rest => some ('\\', rest)
  | '/' :: rest => some ('/', rest)
  | 'b' :: rest => some ('\x08', rest)
  | 'f' :: rest => some ('\x0c', rest)
  | 'n' :: rest => some ('\n', rest)
  | 'r' :: rest => some ('\r', rest)
  | 't' :: rest => some ('\t', rest)
  | 'u' :: rest => numbered? rest
  | _ => none

/-- Reads a text up to its closing quote. Each character uses up some of the text, so its length is fuel
enough. -/
def quoted? : Nat → List Char → Option (List Char × List Char)
  | _, '"' :: rest => some ([], rest)
  | fuel + 1, '\\' :: rest => do
    let (c, rest) ← escaped? rest
    let (text, rest) ← quoted? fuel rest
    return (c :: text, rest)
  | fuel + 1, c :: rest =>
    if c.toNat < 0x20 then none
    else (quoted? fuel rest).map fun (text, rest) => (c :: text, rest)
  | _, _ => none

/-- Reads a text after its opening quote. -/
def text? (text : List Char) : Option (String × List Char) :=
  (quoted? text.length text).map fun (content, rest) => (String.ofList content, rest)

end RelayConsole.Json
