import RelayConsole.Binary64.Numeral
import RelayConsole.Settings.Tree

namespace RelayConsole.Settings

/-- A step into a table or a list. -/
inductive KeyPath.Step where
  | child (name : String)
  | item (index : Int)
  deriving DecidableEq, Repr

/-- The way to a setting: the name of an entry of the whole, and steps from there. -/
structure KeyPath where
  head : String
  steps : List KeyPath.Step
  deriving DecidableEq, Repr

/-- Characters of plain names. -/
def KeyPath.isPlain (c : Char) : Bool :=
  c.isAlphanum || c = ' ' || c = '_' || c = '-'

/-- Blanks that may surround an index. -/
def KeyPath.isBlank (c : Char) : Bool :=
  c = ' ' || c = '\t' || c = '\r' || c = '\n'

/-- An index: digits, with a minus or without. -/
def KeyPath.index? (text : List Char) : Option Int :=
  match Text.trim isBlank text with
  | '+' :: _ => none
  | text => (Numeral.integer? text).filter Numeral.fits

/-- Names after points and indices between brackets. -/
def KeyPath.steps? : List Char → Option (List KeyPath.Step)
  | [] => some []
  | '.' :: rest =>
    match rest.takeWhile isPlain with
    | [] => none
    | name => (steps? (rest.dropWhile isPlain)).map (.child (String.ofList name) :: ·)
  | '[' :: rest =>
    match index? (rest.takeWhile (· ≠ ']')) with
    | none => none
    | some index =>
      if rest.contains ']' then
        (steps? ((rest.dropWhile (· ≠ ']')).drop 1)).map (.item index :: ·)
      else none
  | _ => none
termination_by text => text.length
decreasing_by
  · exact Nat.lt_succ_of_le (List.dropWhile_suffix _).length_le
  · have shorter := (List.dropWhile_suffix (l := rest) (· ≠ ']')).length_le
    simp only [List.length_drop, List.length_cons]
    omega

/-- A text that is no path is the name of an entry as it stands. -/
def KeyPath.read (text : String) : KeyPath :=
  let characters := text.toList
  match characters.takeWhile isPlain, steps? (characters.dropWhile isPlain) with
  | [], _ => ⟨text, []⟩
  | _, none => ⟨text, []⟩
  | name, some steps => ⟨String.ofList name, steps⟩

/-- What is there after a step into a tree. -/
def KeyPath.Step.enter (step : KeyPath.Step) (tree : Tree) : Tree :=
  match step with
  | .child name => (tree.find? name).getD (.nil none)
  | .item index => (tree.items[Tree.placeOf index tree.items.length]?).getD (.nil none)

/-- The tree with something else there. -/
def KeyPath.Step.leave (step : KeyPath.Step) (tree value : Tree) : Tree :=
  match step with
  | .child name => tree.withEntry name value
  | .item index => tree.withItem (Tree.placeOf index tree.items.length) value

/-- Puts a value after a step: at a name by the rule for tables, at an index in any case. -/
def KeyPath.Step.put (step : KeyPath.Step) (value tree : Tree) : Tree :=
  match step with
  | .child name => Tree.put name value tree
  | .item _ => step.leave tree value

/-- Puts a value after several steps, making way for it. -/
def KeyPath.putAfter (value : Tree) (step : KeyPath.Step) : List KeyPath.Step → Tree → Tree
  | [], tree => step.put value tree
  | next :: rest, tree => step.leave tree (putAfter value next rest (step.enter tree))

/-- Puts a value at a path. -/
def KeyPath.put (path : KeyPath) (value tree : Tree) : Tree :=
  putAfter value (.child path.head) path.steps tree

end RelayConsole.Settings
