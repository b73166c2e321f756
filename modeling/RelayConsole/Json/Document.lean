import RelayConsole.Json.Number
import RelayConsole.Json.Quoted

namespace RelayConsole.Json

open Settings (Tree)

def isBlank (c : Char) : Bool :=
  c = ' ' || c = '\t' || c = '\n' || c = '\r'

def skipBlanks (text : List Char) : List Char :=
  text.dropWhile isBlank

/-- Reads a value that holds no others. -/
def simple? (text : List Char) : Option (Tree × List Char) :=
  match text with
  | 'n' :: 'u' :: 'l' :: 'l' :: rest => some (.nil none, rest)
  | 't' :: 'r' :: 'u' :: 'e' :: rest => some (.scalar (.flag true), rest)
  | 'f' :: 'a' :: 'l' :: 's' :: 'e' :: rest => some (.scalar (.flag false), rest)
  | '"' :: rest => (text? rest).map fun (content, rest) => (.scalar (.text content), rest)
  | text => (number? text).map fun (value, rest) => (.scalar value, rest)

/-- How deep values may stand in each other. -/
def maxDepth : Nat :=
  127

mutual

/-- Reads a value with others in it up to a depth. Every two calls use up some of the text, so twice its
length is fuel enough. -/
def value? : Nat → Nat → List Char → Option (Tree × List Char)
  | 0, _, _ => none
  | fuel + 1, depth, text =>
    match skipBlanks text with
    | '[' :: rest =>
      if depth = 0 then none
      else
        match skipBlanks rest with
        | ']' :: rest => some (.list [] none, rest)
        | rest => (items? fuel (depth - 1) rest).map fun (items, rest) => (.list items none, rest)
    | '\x7b' :: rest =>
      if depth = 0 then none
      else
        match skipBlanks rest with
        | '\x7d' :: rest => some (.table [] none, rest)
        | rest => (entries? fuel (depth - 1) [] rest).map fun (entries, rest) => (.table entries none, rest)
    | text => simple? text

/-- Reads the items of a list, of which there is at least one, and its closing bracket. -/
def items? : Nat → Nat → List Char → Option (List Tree × List Char)
  | 0, _, _ => none
  | fuel + 1, depth, text => do
    let (first, rest) ← value? fuel depth text
    match skipBlanks rest with
    | ',' :: rest => (items? fuel depth rest).map fun (items, rest) => (first :: items, rest)
    | ']' :: rest => some ([first], rest)
    | _ => none

/-- Reads the entries of a table, of which there is at least one, and its closing brace. A later entry takes
the place of an earlier one of its name. -/
def entries? : Nat → Nat → List (String × Tree) → List Char → Option (List (String × Tree) × List Char)
  | 0, _, _, _ => none
  | fuel + 1, depth, known, text => do
    let rest ← List.isPrefixOf? ['"'] (skipBlanks text)
    let (name, rest) ← text? rest
    let rest ← List.isPrefixOf? [':'] (skipBlanks rest)
    let (value, rest) ← value? fuel depth rest
    let known := Keyed.putIn name value known
    match skipBlanks rest with
    | ',' :: rest => entries? fuel depth known rest
    | '\x7d' :: rest => some (known, rest)
    | _ => none

end

/-- Reads a document, which is one value. -/
def read? (text : List Char) : Option Tree :=
  match value? (2 * text.length + 2) maxDepth text with
  | some (value, rest) => if skipBlanks rest = [] then some value else none
  | none => none

end RelayConsole.Json
