import RelayConsole.Binary64.Shortest
import RelayConsole.Keyed

namespace RelayConsole.Settings

/-- A single value as files and variables write it. -/
inductive Scalar where
  | flag (value : Bool)
  | integer (value : Int)
  | float (value : Binary64)
  | text (value : String)
  deriving DecidableEq, Repr

/-- Values under names, as files and variables give them. All but single values know the file they were
written in; what came about by putting a value at a path was written nowhere. -/
inductive Tree where
  | nil (origin : Option String)
  | scalar (value : Scalar)
  | list (items : List Tree) (origin : Option String)
  | table (entries : List (String × Tree)) (origin : Option String)
  deriving Repr

def Tree.empty : Tree :=
  .table [] none

/-- The entries of a table; nothing else has any. -/
def Tree.entries : Tree → List (String × Tree)
  | .table entries _ => entries
  | _ => []

/-- The items of a list; nothing else has any. -/
def Tree.items : Tree → List Tree
  | .list items _ => items
  | _ => []

/-- Where a table was written. -/
def Tree.tableOrigin : Tree → Option String
  | .table _ origin => origin
  | _ => none

/-- Where a list was written. -/
def Tree.listOrigin : Tree → Option String
  | .list _ origin => origin
  | _ => none

def Tree.find? (tree : Tree) (name : String) : Option Tree :=
  tree.entries.lookup name

/-- A table with this entry under a name; what is not a table gives way to one. -/
def Tree.withEntry (tree : Tree) (name : String) (value : Tree) : Tree :=
  .table (Keyed.putIn name value tree.entries) tree.tableOrigin

mutual

/-- Puts a value under a name. A table is merged into what is there, entry by entry, and so an empty one
changes nothing; anything else takes the place of what is there. -/
def Tree.put (name : String) (value tree : Tree) : Tree :=
  match value with
  | .table entries _ => tree.withEntry name (Tree.merge entries ((tree.find? name).getD Tree.empty))
  | value => tree.withEntry name value
termination_by structural value

def Tree.merge (entries : List (String × Tree)) (tree : Tree) : Tree :=
  match entries with
  | [] => tree
  | (name, value) :: rest => Tree.merge rest (Tree.put name value tree)
termination_by structural entries

end

/-- The place in a list that an index means; a negative one counts from the end. -/
def Tree.placeOf (index : Int) (length : Nat) : Nat :=
  if 0 ≤ index then index.toNat else length - index.natAbs

/-- A list with this item at a place, filled up with nothing as far as needed; what is not a list gives way
to one. -/
def Tree.withItem (tree : Tree) (place : Nat) (value : Tree) : Tree :=
  .list ((tree.items.rightpad (place + 1) (Tree.nil none)).set place value) tree.listOrigin

mutual

/-- The same values, written in a file. -/
def Tree.writtenIn (origin : String) : Tree → Tree
  | .nil _ => .nil (some origin)
  | .scalar value => .scalar value
  | .list items _ => .list (Tree.itemsWrittenIn origin items) (some origin)
  | .table entries _ => .table (Tree.entriesWrittenIn origin entries) (some origin)

def Tree.itemsWrittenIn (origin : String) : List Tree → List Tree
  | [] => []
  | item :: rest => item.writtenIn origin :: itemsWrittenIn origin rest

def Tree.entriesWrittenIn (origin : String) : List (String × Tree) → List (String × Tree)
  | [] => []
  | (name, value) :: rest => (name, value.writtenIn origin) :: entriesWrittenIn origin rest

end

end RelayConsole.Settings
