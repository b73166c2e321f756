import RelayConsole.Text.Cut
import RelayConsole.Text.Lines

namespace RelayConsole.Settings

/-- How a character of an assigned value is to be taken: as it stands, or within quotes. -/
inductive Assignments.Mode where
  | bare
  | single
  | double
  deriving DecidableEq, Repr

/-- What a character means after a backslash. -/
def Assignments.escaped? (c : Char) : Option Char :=
  if c = 'n' then some '\n'
  else if c ∈ ['\\', '\'', '"', '$', ' '] then some c
  else none

/-- Whether nothing but blanks and a comment is left. -/
def Assignments.isOver (text : List Char) : Bool :=
  match text.dropWhile fun c => c = ' ' || c = '\t' with
  | [] => true
  | c :: _ => c = '#'

/-- Reads an assigned value. Quotes may begin and end anywhere in it; a blank outside ends it. -/
def Assignments.value? : Assignments.Mode → List Char → Option (List Char)
  | .bare, [] => some []
  | .bare, ['\\'] => some []
  | _, [] => none
  | .single, c :: rest => if c = '\'' then value? .bare rest else (value? .single rest).map (c :: ·)
  | mode, '\\' :: c :: rest => (escaped? c).bind fun c => (value? mode rest).map (c :: ·)
  | .double, c :: rest => if c = '"' then value? .bare rest else (value? .double rest).map (c :: ·)
  | .bare, c :: rest =>
    if c = '\'' then value? .single rest
    else if c = '"' then value? .double rest
    else if c = ' ' ∨ c = '\t' then if isOver rest then some [] else none
    else (value? .bare rest).map (c :: ·)

/-- Reads a name and the white space after it. -/
def Assignments.name? (text : List Char) : Option (List Char × List Char) :=
  let isPart := fun (c : Char) => c.isAlphanum || c = '_' || c = '.'
  match text with
  | c :: _ =>
    if c.isAlpha || c = '_' then
      some (text.takeWhile isPart, (text.dropWhile isPart).dropWhile Text.isSpace)
    else none
  | [] => none

/-- Reads an assignment, before which `export` may stand. -/
def Assignments.pair? (text : List Char) : Option (String × String) := do
  let (first, rest) ← name? text
  let (name, rest) ←
    if first = "export".toList ∧ rest.head? ≠ some '=' then name? rest else some (first, rest)
  let rest := (← List.isPrefixOf? ['='] rest).dropWhile Text.isSpace
  let value ← if rest.head? = some '#' then some [] else value? .bare rest
  return (String.ofList name, String.ofList value)

/-- The assignments of a text, one on a line, up to the first line that is none. Empty lines and comments do
not count. -/
def Assignments.read (text : String) : List (String × String) :=
  let lines := (Lines.split '\n' '\r' text.toList).map (·.dropWhile Text.isSpace)
  let telling := lines.filter fun line => line ≠ [] && line.head? ≠ some '#'
  ((telling.map pair?).takeWhile Option.isSome).filterMap id

/-- Variables with assignments added; one that is there already stays as it is. -/
def Assignments.add (env assignments : List (String × String)) : List (String × String) :=
  assignments.foldl (fun env assignment =>
    if (env.lookup assignment.1).isSome then env else env ++ [assignment]) env

end RelayConsole.Settings
