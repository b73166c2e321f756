import RelayConsole.Log.Line
import RelayConsole.Text.Cut
import RelayConsole.Text.Digits
import RelayConsole.Text.Utf8
import RelayConsole.Unicode.WordTable

namespace RelayConsole

/-- A rule about the lines of the parts whose names begin in a certain way: how much they may say, from
nothing at all to everything. `fields` are what a line has to have, `inner` rules are about lines within
named steps of the program only. -/
structure Log.Rule where
  target : Option (List Char) := none
  fields : List (List Char) := []
  inner : Bool := false
  threshold : Nat
  deriving DecidableEq, Repr

/-- Why a text is no filter. -/
inductive Log.Fault where
  | badRule
  | badLevel
  deriving DecidableEq, Repr

def Log.Fault.message : Log.Fault → String
  | .badRule => "invalid filter directive"
  | .badLevel => "error parsing level filter: expected one of \"off\", \"error\", \"warn\", \"info\", " ++
      "\"debug\", \"trace\", or a number 0-5"

/-- Lets everything through. -/
def Log.everything : Nat :=
  5

/-- How much a word lets through, or a number in place of a word. -/
def Log.threshold? (word : List Char) : Option Nat :=
  let names := ["off", "error", "warn", "info", "debug", "trace"]
  let digits := match word with
    | '+' :: rest => rest
    | word => word
  match Digits.read? 10 digits with
  | some value => if value ≤ everything then some value else none
  | none => names.idxOf? (String.ofList (Text.lower word))

/-- The threshold after an equals sign; if there is none, everything is let through. -/
def Log.thresholdAfter (word : List Char) : Except Log.Fault Nat :=
  match word with
  | [] => .ok everything
  | word => match threshold? word with
    | some value => .ok value
    | none => .error .badLevel

/-- Whether a rule may begin with a character. -/
def Log.mayBegin (c : Char) : Bool :=
  c = '-' || c = ':' || c = '_' || Unicode.isWord c

/-- What a rule asks of lines besides their part, read from what follows an opening bracket: the name of a
step, fields between braces, or both. What follows the closing bracket comes with it. -/
def Log.conditions? (text : List Char) : Except Log.Fault (Bool × List (List Char) × List Char) :=
  let name := text.takeWhile fun c => c ≠ ']' && c ≠ '\x7b'
  match text.drop name.length with
  | ']' :: rest => .ok (true, [], rest)
  | '\x7b' :: rest =>
    let field := rest.takeWhile (· ≠ '\x7d')
    match field, rest.drop field.length with
    | [], _ => .error .badRule
    | field, '\x7d' :: ']' :: rest => .ok (name ≠ [] || field.contains '=', [field], rest)
    | _, _ => .error .badRule
  | _ => .error .badRule

/-- Reads a rule. Blanks at its ends are passed over to find its parts, but count as soon as the parts are
taken out of it. -/
def Log.Rule.read (text : List Char) : Except Log.Fault Log.Rule :=
  let scanned := Text.trim Text.isSpace text
  let part := scanned.takeWhile fun c => c ≠ '=' && c ≠ '['
  let target := text.take part.length
  match scanned with
  | [] => .error .badRule
  | '[' :: _ => conditional none 0
  | c :: _ =>
    if !mayBegin c then .error .badRule
    else
      match scanned.drop part.length with
      | '=' :: _ => (thresholdAfter (text.drop (part.length + 1))).map fun threshold => { target, threshold }
      | '[' :: _ => conditional (some target) part.length
      | _ => .ok (match threshold? text with
          | some threshold => { threshold }
          | none => { target := some text, threshold := everything })
where
  /-- Reads the rest of a rule whose bracket stands at a place. -/
  conditional (target : Option (List Char)) (place : Nat) : Except Log.Fault Log.Rule := do
    let scanned := Text.trim Text.isSpace text
    let (inner, fields, rest) ← Log.conditions? (scanned.drop (place + 1))
    match rest with
    | [] => return { target, fields, inner, threshold := Log.everything }
    | '=' :: rest =>
      let threshold ← Log.thresholdAfter (text.drop (scanned.length - rest.length))
      return { target, fields, inner, threshold }
    | _ => .error .badRule

/-- Which lines are let through. -/
structure Log.Filter where
  rules : List Log.Rule
  deriving DecidableEq, Repr

/-- Reads a filter: rules with commas between them, where empty ones do not count. If there are none, only
errors are let through. -/
def Log.Filter.read (text : String) : Except Log.Fault Log.Filter := do
  let parts := (text.toList.splitOn ',').filter (· ≠ [])
  let rules ← parts.mapM Rule.read
  return ⟨if rules = [] then [{ threshold := Level.error.rank }] else rules⟩

/-- Whether a rule is about a line. Lines have a message and no other field, and stand in no named step. -/
def Log.Rule.concerns (rule : Log.Rule) (line : Log.Line) : Bool :=
  !rule.inner && rule.fields.all (· = "message".toList) &&
    (rule.target.getD []).isPrefixOf line.source.target.toList

/-- Whether a rule is at least as special as another: it names a longer part, or the same and as many fields. -/
def Log.Rule.prevails (rule other : Log.Rule) : Bool :=
  let length := fun (rule : Log.Rule) => (rule.target.map fun target => (Utf8.encode target).length + 1).getD 0
  length other < length rule || (length other = length rule && other.fields.length ≤ rule.fields.length)

/-- Whether a line is let through: that is for the most special rule about it to say, or for the last of
several such. -/
def Log.Filter.passes (filter : Log.Filter) (line : Log.Line) : Bool :=
  let concerned := filter.rules.filter (·.concerns line)
  let best := concerned.foldl (fun best rule =>
    match best with
    | some other => if rule.prevails other then some rule else best
    | none => some rule) none
  (best.map fun rule => decide (line.level.rank ≤ rule.threshold)).getD false

end RelayConsole
