import RelayConsole.Settings.Tree

namespace RelayConsole.Toml

open Settings (Tree)

/-- A part of a document that says what is in one table. A repeated one adds an item to a list of tables. -/
structure Section where
  repeated : Bool
  entries : List (String × Tree)

/-- What is grouped under a name, the name being the first step of each path. -/
def under {α : Type} (name : String) (pathed : List (List String × α)) : List (List String × α) :=
  pathed.filterMap fun (path, value) =>
    match path with
    | [] => none
    | first :: rest => if first = name then some (rest, value) else none

/-- The first steps of all paths, each once. -/
def heads {α : Type} (pathed : List (List String × α)) : List String :=
  (pathed.filterMap fun (path, _) => path.head?).eraseDups

/-- The table that dotted keys make up. A key that is given a value can have no keys below it and no other
value. The keys have no more than so many steps. -/
def tableOfKeys? : Nat → List (List String × Tree) → Option (List (String × Tree))
  | 0, _ => none
  | depth + 1, keyed =>
    (heads keyed).mapM fun name =>
      match under name keyed with
      | [([], value)] => some (name, value)
      | below =>
        if below.any fun key => key.1 = [] then none
        else (tableOfKeys? depth below).map fun entries => (name, .table entries none)

/-- The parts of a list that begin with a matching element, without what stands before the first one. -/
def chunks {α : Type} (begins : α → Bool) : List α → List (α × List α)
  | [] => []
  | first :: rest =>
    if begins first then (first, rest.takeWhile (!begins ·)) :: chunks begins rest else chunks begins rest

/-- Whether a section adds an item to the list under the name at hand. -/
def isItem (pathed : List String × Section) : Bool :=
  pathed.1 = [] && pathed.2.repeated

/-- The table that sections make up. It has at most one section of its own, which adds to no list; each name
stands for an entry of that section or for the sections below it. If the first of these adds to a list, each
that does begins an item of it. Paths have no more than so many steps. -/
def tableOfSections? : Nat → List (List String × Section) → Option (List (String × Tree))
  | 0, _ => none
  | depth + 1, sections => do
    let own ← match sections.filter fun pathed => pathed.1 = [] with
      | [] => some []
      | [(_, own)] => if own.repeated then none else some own.entries
      | _ => none
    let below ← (heads sections).mapM fun name =>
      let inner := under name sections
      if (inner.head?.map isItem).getD false then
        ((chunks isItem inner).mapM fun chunk =>
          (tableOfSections? depth (([], ⟨false, chunk.1.2.entries⟩) :: chunk.2)).map (Tree.table · none)).map
            fun items => (name, Tree.list items none)
      else (tableOfSections? depth inner).map fun entries => (name, Tree.table entries none)
    let all := own ++ below
    if (all.map (·.1)).Nodup then some all else none

/-- The most steps that a path has. -/
def longest {α : Type} (pathed : List (List String × α)) : Nat :=
  (pathed.map (·.1.length)).foldl max 0

/-- The table that the sections of a document make up. -/
def document? (sections : List (List String × Section)) : Option (List (String × Tree)) :=
  tableOfSections? (longest sections + 1) sections

/-- The table that dotted keys make up, however long they are. -/
def tableOfPairs? (keyed : List (List String × Tree)) : Option (List (String × Tree)) :=
  tableOfKeys? (longest keyed + 1) keyed

end RelayConsole.Toml
