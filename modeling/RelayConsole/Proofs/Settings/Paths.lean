import RelayConsole.Proofs.Settings.Merging

namespace RelayConsole.Settings

/-- Whether a text is a plain name. -/
def KeyPath.IsName (name : String) : Prop :=
  name.toList.all isPlain = true

instance (name : String) : Decidable (KeyPath.IsName name) :=
  inferInstanceAs (Decidable (name.toList.all KeyPath.isPlain = true))

/-- Names, each with a point before it. -/
def KeyPath.pointed (names : List String) : List Char :=
  names.flatMap fun name => '.' :: name.toList

/-- Names with points between them. -/
def KeyPath.dotted (head : String) (below : List String) : String :=
  String.ofList (head.toList ++ pointed below)

/-- A plain name ends where a point begins another. -/
theorem KeyPath.cut_name {name : String} (plain : IsName name) (names : List String) :
    (name.toList ++ pointed names).takeWhile isPlain = name.toList ∧
      (name.toList ++ pointed names).dropWhile isPlain = pointed names := by
  have all := List.all_eq_true.mp plain
  rw [List.takeWhile_append_of_pos all, List.dropWhile_append_of_pos all]
  cases names with
  | nil => exact ⟨List.append_nil _, rfl⟩
  | cons next rest => exact ⟨List.append_nil _, rfl⟩

theorem KeyPath.steps?_pointed {names : List String} (plain : ∀ name ∈ names, IsName name ∧ name ≠ "") :
    steps? (pointed names) = some (names.map .child) := by
  induction names with
  | nil => exact steps?.eq_1
  | cons name rest ih =>
    obtain ⟨named, filled⟩ := plain name List.mem_cons_self
    have later := ih fun name member => plain name (List.mem_cons_of_mem _ member)
    obtain ⟨taken, dropped⟩ := cut_name named rest
    have split : pointed (name :: rest) = '.' :: (name.toList ++ pointed rest) := rfl
    rw [split, steps?, taken, dropped, later]
    split
    · rename_i empty
      exact absurd (String.toList_eq_nil_iff.mp empty) filled
    · rw [String.ofList_toList]
      rfl

/-- Plain names with points between them are read as a path along them. -/
theorem KeyPath.read_dotted {head : String} {below : List String} (plain : IsName head) (filled : head ≠ "")
    (rest : ∀ name ∈ below, IsName name ∧ name ≠ "") :
    read (dotted head below) = ⟨head, below.map .child⟩ := by
  obtain ⟨taken, dropped⟩ := cut_name plain below
  rw [read, dotted, String.toList_ofList, taken, dropped, steps?_pointed rest]
  split
  · rename_i empty
    exact absurd (String.toList_eq_nil_iff.mp empty) filled
  · contradiction
  · rename_i same _
    rw [String.ofList_toList, Option.some.inj same]

/-- A plain name is a path of one step. -/
theorem KeyPath.read_name {name : String} (plain : IsName name) : read name = ⟨name, []⟩ := by
  by_cases filled : name = ""
  · rw [filled]
    rfl
  · have whole : dotted name [] = name := by
      rw [dotted, pointed, List.flatMap_nil, List.append_nil, String.ofList_toList]
    have reading := read_dotted plain filled fun _ member => absurd member List.not_mem_nil
    rwa [whole] at reading

/-- A value under some names, with nothing beside it. -/
def Tree.under : List String → Tree → Tree
  | [], tree => tree
  | name :: rest, tree => .table [(name, under rest tree)] none

/-- Names as many as these lead nowhere else than to the value, if anywhere. -/
theorem Tree.fits_under {path other : List String} (value : Scalar) (length : path.length = other.length) :
    (Tree.under other (.scalar value)).Fits path := by
  induction path generalizing other with
  | nil =>
    cases other with
    | nil => exact ⟨value, rfl⟩
    | cons => cases length
  | cons name rest ih =>
    cases other with
    | nil => cases length
    | cons first others =>
      refine ⟨⟨_, _, rfl⟩, fun found member => ?_⟩
      obtain ⟨-, rfl⟩ := Prod.mk.inj (List.mem_singleton.mp member)
      exact ih (Nat.succ.inj length)

/-- Putting a value at the end of some names is putting the tables on the way to it. -/
theorem KeyPath.putAfter_children (head : String) (below : List String) (value tree : Tree) :
    putAfter value (.child head) (below.map .child) tree = Tree.put head (Tree.under below value) tree := by
  induction below generalizing head tree with
  | nil => rfl
  | cons name rest ih =>
    have nothing : ∀ value, Tree.put name value (.nil none) = Tree.put name value Tree.empty := by
      intro value
      rw [Tree.put_eq, Tree.put_eq]
      rfl
    have entered : Tree.put name (Tree.under rest value) ((tree.find? head).getD (.nil none)) =
        Tree.put name (Tree.under rest value) ((tree.find? head).getD Tree.empty) := by
      cases tree.find? head with
      | none => exact nothing _
      | some found => rfl
    have put : putAfter value (.child head) ((name :: rest).map .child) tree = tree.withEntry head
        (putAfter value (.child name) (rest.map .child) ((tree.find? head).getD (.nil none))) := rfl
    rw [put, ih, entered]
    exact (Tree.put_eq head (Tree.under (name :: rest) value) tree).symm

theorem lay_cons (name : String) (value : Tree) (rest : List (String × Tree)) (tree : Tree) :
    lay tree ((name, value) :: rest) = lay ((KeyPath.read name).put value tree) rest :=
  rfl

/-- Under plain names, entries are laid as they are merged. -/
theorem lay_eq_merge {entries : List (String × Tree)} (named : ∀ entry ∈ entries, KeyPath.IsName entry.1)
    (tree : Tree) : lay tree entries = Tree.merge entries tree := by
  induction entries generalizing tree with
  | nil => rfl
  | cons entry rest ih =>
    have plain := KeyPath.read_name (named entry List.mem_cons_self)
    rw [lay_cons, plain, ih fun entry member => named entry (List.mem_cons_of_mem _ member)]
    rfl

end RelayConsole.Settings
