import RelayConsole.Toml.Section
import RelayConsole.Toml.Moment
import RelayConsole.Toml.Quoted

namespace RelayConsole.Toml

open Settings (Tree)

def isBlank (c : Char) : Bool :=
  c = ' ' || c = '\t'

def skipBlanks (text : List Char) : List Char :=
  text.dropWhile isBlank

/-- Line ends of two characters become one. -/
def foldLineEnds : List Char → List Char
  | '\r' :: '\n' :: rest => '\n' :: foldLineEnds rest
  | c :: rest => c :: foldLineEnds rest
  | [] => []

/-- Reads the end of a line. The end of the document is one. -/
def lineEnd? : List Char → Option (List Char)
  | [] => some []
  | '\n' :: rest => some rest
  | _ => none

/-- Reads what may follow the last word of a line: blanks, a comment, and its end. -/
def restOfLine? (text : List Char) : Option (List Char) :=
  match skipBlanks text with
  | '#' :: rest => lineEnd? (rest.dropWhile fun c => c = '\t' || 0x20 ≤ c.toNat)
  | rest => lineEnd? rest

/-- Skips blanks, comments and ends of lines, of which there are no more than characters. -/
def skipLines? : Nat → List Char → Option (List Char)
  | 0, text => some text
  | fuel + 1, text =>
    match skipBlanks text with
    | '#' :: rest => (restOfLine? ('#' :: rest)).bind (skipLines? fuel)
    | '\n' :: rest => skipLines? fuel rest
    | rest => some rest

/-- Skips blanks, comments and ends of lines. -/
def skipGap? (text : List Char) : Option (List Char) :=
  skipLines? (text.length + 1) text

/-- Reads a part of a key: a word or a text of one line. -/
def keyPart? (text : List Char) : Option (String × List Char) :=
  match text with
  | c :: rest =>
    if c = '"' ∨ c = '\'' then
      match text? c rest with
      | some (false, content, rest) => some (content, rest)
      | _ => none
    else (word? text).map fun (word, rest) => (String.ofList word, rest)
  | [] => none

/-- Reads the parts of a key, with points between them, and the blanks after it. -/
def keyParts? : Nat → List Char → Option (List String × List Char)
  | 0, _ => none
  | fuel + 1, text => do
    let (part, rest) ← keyPart? (skipBlanks text)
    match skipBlanks rest with
    | '.' :: rest => (keyParts? fuel rest).map fun (parts, rest) => (part :: parts, rest)
    | rest => some ([part], rest)

/-- Reads a key and the blanks after it. -/
def key? (text : List Char) : Option (List String × List Char) :=
  keyParts? (text.length + 1) text

/-- Reads a value that is written without quotes. -/
def unquoted? (text : List Char) : Option (Settings.Scalar × List Char) := do
  let (word, rest) ← word? text
  if word = "true".toList then some (.flag true, rest)
  else if word = "false".toList then some (.flag false, rest)
  else if word = "inf".toList ∨ word = "nan".toList ∨ word.head?.any fun c => c = '-' || c.isDigit then
    if Moment.begins word || rest.head? = some ':' then moment? word rest else number? word rest
  else none

/-- Reads a value that holds no others. -/
def simple? (text : List Char) : Option (Settings.Scalar × List Char) :=
  match text with
  | '"' :: rest => (text? '"' rest).map fun (_, content, rest) => (.text content, rest)
  | '\'' :: rest => (text? '\'' rest).map fun (_, content, rest) => (.text content, rest)
  | '+' :: rest => (word? rest).bind fun (word, rest) => number? word rest
  | text => unquoted? text

mutual

/-- Reads a value. Every two calls use up some of the text, so twice its length is fuel enough. -/
def value? : Nat → List Char → Option (Tree × List Char)
  | 0, _ => none
  | fuel + 1, text =>
    match text with
    | '[' :: rest => (items? fuel rest).map fun (items, rest) => (.list items none, rest)
    | '\x7b' :: rest =>
      match skipBlanks rest with
      | '\x7d' :: rest => some (.table [] none, rest)
      | rest => do
        let (pairs, rest) ← pairs? fuel rest
        return (.table (← tableOfPairs? pairs) none, rest)
    | text => (simple? text).map fun (value, rest) => (.scalar value, rest)

/-- Reads the items of a list, the last of which may have a comma after it, and the closing bracket. -/
def items? : Nat → List Char → Option (List Tree × List Char)
  | 0, _ => none
  | fuel + 1, text =>
    match skipGap? text with
    | none => none
    | some (']' :: rest) => some ([], rest)
    | some text => do
      let (first, rest) ← value? fuel text
      match skipGap? rest with
      | some (',' :: rest) => (items? fuel rest).map fun (items, rest) => (first :: items, rest)
      | some (']' :: rest) => some ([first], rest)
      | _ => none

/-- Reads the keys and values of a table on one line, and the closing brace. -/
def pairs? : Nat → List Char → Option (List (List String × Tree) × List Char)
  | 0, _ => none
  | fuel + 1, text => do
    let (key, rest) ← key? text
    let rest ← List.isPrefixOf? ['='] rest
    let (value, rest) ← value? fuel (skipBlanks rest)
    match skipBlanks rest with
    | ',' :: rest => (pairs? fuel rest).map fun (pairs, rest) => ((key, value) :: pairs, rest)
    | '\x7d' :: rest => some ([(key, value)], rest)
    | _ => none

end

/-- A line of a document that says something. -/
inductive Line where
  | header (path : List String) (repeated : Bool)
  | pair (key : List String) (value : Tree)

/-- Reads a header after its first bracket. -/
def header? (text : List Char) : Option (Line × List Char) := do
  let repeated := text.head? = some '['
  let (path, rest) ← key? (if repeated then text.drop 1 else text)
  let rest ← List.isPrefixOf? (if repeated then [']', ']'] else [']']) rest
  return (.header path repeated, ← restOfLine? rest)

/-- Reads a line that says something. -/
def Line.read? (text : List Char) : Option (Line × List Char) :=
  match text with
  | '[' :: rest => header? rest
  | text => do
    let (key, rest) ← key? text
    let rest ← List.isPrefixOf? ['='] rest
    let (value, rest) ← value? (2 * text.length + 2) (skipBlanks rest)
    return (.pair key value, ← restOfLine? rest)

/-- Reads all lines that say something, of which there are no more than characters. -/
def Line.readAll? : Nat → List Char → Option (List Line)
  | 0, _ => none
  | fuel + 1, text =>
    match skipGap? text with
    | none => none
    | some [] => some []
    | some text => do
      let (line, rest) ← Line.read? text
      return line :: (← readAll? fuel rest)

/-- The sections of a document, of which the first has no header. -/
def sections? (path : List String) (repeated : Bool) (pairs : List (List String × Tree)) :
    List Line → Option (List (List String × Section))
  | [] => (tableOfPairs? pairs).map fun entries => [(path, ⟨repeated, entries⟩)]
  | .pair key value :: rest => sections? path repeated (pairs ++ [(key, value)]) rest
  | .header next again :: rest => do
    let entries ← tableOfPairs? pairs
    return (path, ⟨repeated, entries⟩) :: (← sections? next again [] rest)

/-- Reads a document, which is a table. -/
def read? (text : List Char) : Option Tree := do
  let text := foldLineEnds ((List.isPrefixOf? ['\ufeff'] text).getD text)
  let lines ← Line.readAll? (text.length + 1) text
  return .table (← document? (← sections? [] false [] lines)) none

end RelayConsole.Toml
