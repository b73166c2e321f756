import RelayConsole.Settings.Basic

namespace RelayConsole

section Entries

variable {α : Type} {key : String} {value : α} {entries : List (String × α)}

theorem Keyed.mem_putIn {entry : String × α} (member : entry ∈ putIn key value entries) :
    entry = (key, value) ∨ entry ∈ entries := by
  induction entries with
  | nil => exact Or.inl (List.mem_singleton.mp member)
  | cons first rest ih =>
    simp only [putIn] at member
    split at member
    · rename_i here
      rcases List.mem_cons.mp member with rfl | later
      · exact Or.inl (by rw [here])
      · exact Or.inr (List.mem_cons_of_mem first later)
    · rcases List.mem_cons.mp member with rfl | later
      · exact Or.inr List.mem_cons_self
      · exact (ih later).imp_right (List.mem_cons_of_mem first)

/-- Putting a value makes no name stand twice. -/
theorem Keyed.nodup_putIn (distinct : (entries.map (·.1)).Nodup) :
    ((putIn key value entries).map (·.1)).Nodup := by
  induction entries with
  | nil => exact List.nodup_cons.mpr ⟨List.not_mem_nil, List.nodup_nil⟩
  | cons first rest ih =>
    obtain ⟨fresh, distinct⟩ := List.nodup_cons.mp distinct
    simp only [putIn]
    split
    · exact List.nodup_cons.mpr ⟨fresh, distinct⟩
    · rename_i apart
      refine List.nodup_cons.mpr ⟨fun twice => ?_, ih distinct⟩
      obtain ⟨entry, member, same⟩ := List.mem_map.mp twice
      rcases mem_putIn member with rfl | earlier
      · exact apart same
      · exact fresh (same ▸ List.mem_map_of_mem earlier)

theorem Keyed.mem_of_lookup (found : entries.lookup key = some value) : (key, value) ∈ entries := by
  obtain ⟨before, after, parts, _⟩ := List.lookup_eq_some_iff.mp found
  rw [parts]
  exact List.mem_append_cons_self

end Entries

namespace Settings

/-- The single value that a tree is. -/
def Tree.single? : Tree → Option Scalar
  | .scalar value => some value
  | _ => none

theorem Tree.single?_eq_some {tree : Tree} {value : Scalar} :
    tree.single? = some value ↔ tree = .scalar value := by
  cases tree with
  | scalar found => simp only [single?, Option.some.injEq, scalar.injEq]
  | nil | list | table => simp only [single?, reduceCtorEq]

/-- The single value at the end of some names. -/
def Tree.look? : List String → Tree → Option Scalar
  | [], tree => tree.single?
  | name :: rest, tree => (tree.find? name).bind (look? rest)

/-- What entries say under a name, as `read` takes it from one of them. The last that says anything counts. -/
def last? (name : String) (read : Tree → Option Scalar) (entries : List (String × Tree)) : Option Scalar :=
  entries.reverse.findSome? fun entry => if entry.1 = name then read entry.2 else none

/-- What a tree that is still to be merged says about the end of some names. -/
def Tree.said? : List String → Tree → Option Scalar
  | [], tree => tree.single?
  | name :: rest, tree => last? name (said? rest) tree.entries

theorem last?_append (name : String) (read : Tree → Option Scalar) (earlier later : List (String × Tree)) :
    last? name read (earlier ++ later) = (last? name read later).or (last? name read earlier) := by
  rw [last?, List.reverse_append, List.findSome?_append]
  rfl

theorem last?_cons (name : String) (read : Tree → Option Scalar) (entry : String × Tree)
    (rest : List (String × Tree)) :
    last? name read (entry :: rest) =
      (last? name read rest).or (if entry.1 = name then read entry.2 else none) := by
  have single : last? name read [entry] = if entry.1 = name then read entry.2 else none := by
    simp only [last?, List.reverse_singleton, List.findSome?_cons, List.findSome?_nil]
    split <;> rename_i told <;> exact told.symm
  rw [← List.singleton_append, last?_append, single]

/-- Where no name stands twice, the last one is the only one. -/
theorem last?_of_distinct {name : String} {read : Tree → Option Scalar} {entries : List (String × Tree)}
    (distinct : (entries.map (·.1)).Nodup) :
    last? name read entries = (entries.lookup name).bind read := by
  induction entries with
  | nil => rfl
  | cons entry rest ih =>
    obtain ⟨fresh, distinct⟩ := List.nodup_cons.mp distinct
    rw [last?_cons, ih distinct, Keyed.lookup_cons_eq_if]
    by_cases here : name = entry.1
    · have absent : rest.lookup name = none := by
        refine List.lookup_eq_none_iff.mpr fun other member => bne_iff_ne.mpr fun same => fresh ?_
        exact List.mem_map.mpr ⟨other, member, same.symm.trans here⟩
      rw [absent, if_pos here.symm, if_pos here]
      rfl
    · rw [if_neg (Ne.symm here), if_neg here, Option.or_none]

@[simp]
theorem Tree.find?_withEntry (tree : Tree) (name other : String) (value : Tree) :
    (tree.withEntry name value).find? other = if other = name then some value else tree.find? other :=
  Keyed.lookup_putIn name other value tree.entries

/-- What stands under a name once a value was put onto what stood there. -/
def Tree.onto (value : Tree) (old : Option Tree) : Tree :=
  match value with
  | .table entries _ => merge entries (old.getD empty)
  | value => value

theorem Tree.put_eq (name : String) (value tree : Tree) :
    put name value tree = tree.withEntry name (value.onto (tree.find? name)) := by
  cases value <;> rfl

theorem Tree.merge_cons (name : String) (value : Tree) (rest : List (String × Tree)) (tree : Tree) :
    merge ((name, value) :: rest) tree = merge rest (put name value tree) :=
  rfl

theorem Tree.merge_append (earlier later : List (String × Tree)) (tree : Tree) :
    merge (earlier ++ later) tree = merge later (merge earlier tree) := by
  induction earlier generalizing tree with
  | nil => rfl
  | cons entry rest ih => rw [List.cons_append, merge_cons, merge_cons, ih]

/-- A merged tree has no names but those that were there or came in. -/
theorem Tree.mem_merge {entries : List (String × Tree)} {tree : Tree} {entry : String × Tree}
    (member : entry ∈ (merge entries tree).entries) :
    entry.1 ∈ entries.map (·.1) ∨ entry.1 ∈ tree.entries.map (·.1) := by
  induction entries generalizing tree with
  | nil => exact Or.inr (List.mem_map_of_mem member)
  | cons first rest ih =>
    rw [merge_cons, put_eq] at member
    rcases ih member with later | earlier
    · exact Or.inl (List.mem_cons_of_mem first.1 later)
    · obtain ⟨found, put, same⟩ := List.mem_map.mp earlier
      rcases Keyed.mem_putIn put with rfl | old
      · exact Or.inl (same ▸ List.mem_cons_self)
      · exact Or.inr (same ▸ List.mem_map_of_mem old)

/-- Along these names stand tables, and a single value at their end, as far as anything is there. -/
def Tree.Fits : List String → Tree → Prop
  | [], tree => ∃ value, tree = .scalar value
  | name :: rest, tree =>
    (∃ entries origin, tree = .table entries origin) ∧ ∀ value, (name, value) ∈ tree.entries → Fits rest value

theorem Tree.fits_table {name : String} {rest : List String} {entries : List (String × Tree)}
    {origin : Option String} :
    (table entries origin).Fits (name :: rest) ↔ ∀ entry ∈ entries, entry.1 = name → entry.2.Fits rest :=
  ⟨fun fits entry member same => fits.2 entry.2 (same ▸ member),
    fun fits => ⟨⟨entries, origin, rfl⟩, fun value member => fits (name, value) member rfl⟩⟩

instance Tree.decidableFits : (path : List String) → (tree : Tree) → Decidable (tree.Fits path)
  | [], .scalar value => .isTrue ⟨value, rfl⟩
  | [], .nil _ | [], .list _ _ | [], .table _ _ => .isFalse nofun
  | name :: rest, .table entries _ =>
    have := decidableFits rest
    have := List.decidableBAll (fun entry : String × Tree => entry.1 = name → entry.2.Fits rest) entries
    decidable_of_iff _ fits_table.symm
  | _ :: _, .nil _ | _ :: _, .scalar _ | _ :: _, .list _ _ => .isFalse fun fits => nomatch fits.1

/-- The same where no name stands twice in a table on the way, as in a tree that came about by merging. -/
def Tree.Settled : List String → Tree → Prop
  | [], tree => ∃ value, tree = .scalar value
  | name :: rest, tree =>
    (∃ entries origin, tree = .table entries origin) ∧ (tree.entries.map (·.1)).Nodup ∧
      ∀ value, (name, value) ∈ tree.entries → Settled rest value

theorem Tree.Settled.fits {path : List String} {tree : Tree} (settled : tree.Settled path) :
    tree.Fits path := by
  induction path generalizing tree with
  | nil => exact settled
  | cons name rest ih => exact ⟨settled.1, fun value member => ih (settled.2.2 value member)⟩

/-- A settled tree says what can be looked up in it. -/
theorem Tree.Settled.said?_eq {path : List String} {tree : Tree} (settled : tree.Settled path) :
    tree.said? path = tree.look? path := by
  induction path generalizing tree with
  | nil => rfl
  | cons name rest ih =>
    obtain ⟨-, distinct, below⟩ := settled
    rw [said?, look?, last?_of_distinct distinct, find?]
    cases found : tree.entries.lookup name with
    | none => rfl
    | some value => exact ih (below value (Keyed.mem_of_lookup found))

theorem Tree.settled_empty (name : String) (rest : List String) : empty.Settled (name :: rest) :=
  ⟨⟨[], none, rfl⟩, List.nodup_nil, fun _ member => absurd member List.not_mem_nil⟩

/-- What fits, put onto what is settled, is settled. -/
theorem Tree.Fits.onto {path : List String} {value : Tree} {old : Option Tree} (fits : value.Fits path)
    (settled : ∀ tree, old = some tree → tree.Settled path) : (value.onto old).Settled path := by
  induction path generalizing value old with
  | nil =>
    obtain ⟨scalar, rfl⟩ := fits
    exact ⟨scalar, rfl⟩
  | cons name rest ih =>
    obtain ⟨⟨entries, origin, rfl⟩, below⟩ := fits
    have start : (old.getD empty).Settled (name :: rest) := by
      cases old with
      | none => exact settled_empty name rest
      | some tree => exact settled tree rfl
    change (merge entries (old.getD empty)).Settled (name :: rest)
    generalize old.getD empty = tree at start
    induction entries generalizing tree with
    | nil => exact start
    | cons entry later step =>
      rw [merge_cons, put_eq]
      refine step (fun value member => below value (List.mem_cons_of_mem entry member)) _
        ⟨⟨_, _, rfl⟩, Keyed.nodup_putIn start.2.1, fun value member => ?_⟩
      rcases Keyed.mem_putIn member with same | earlier
      · obtain ⟨rfl, rfl⟩ := Prod.mk.inj same
        exact ih (below entry.2 List.mem_cons_self) fun tree found =>
          start.2.2 tree (Keyed.mem_of_lookup found)
      · exact start.2.2 value earlier

/-- After merging, what can be looked up is what was said last, or else what was there. -/
theorem Tree.Fits.look?_onto {path : List String} {value : Tree} (fits : value.Fits path) (old : Option Tree) :
    (value.onto old).look? path = (value.said? path).or (old.bind (look? path)) := by
  induction path generalizing value old with
  | nil =>
    obtain ⟨scalar, rfl⟩ := fits
    rfl
  | cons name rest ih =>
    obtain ⟨⟨entries, origin, rfl⟩, below⟩ := fits
    have start : (old.getD empty).look? (name :: rest) = old.bind (look? (name :: rest)) := by
      cases old <;> rfl
    change (merge entries (old.getD empty)).look? (name :: rest) = (last? name (said? rest) entries).or _
    rw [← start]
    generalize old.getD empty = tree
    induction entries generalizing tree with
    | nil => rfl
    | cons entry later step =>
      rw [merge_cons, step (fun value member => below value (List.mem_cons_of_mem entry member)), last?_cons,
        Option.or_assoc, put_eq, look?, look?, find?_withEntry]
      by_cases here : entry.1 = name
      · have fits : entry.2.Fits rest := below entry.2 (here ▸ List.mem_cons_self)
        rw [if_pos here, if_pos here.symm, here, Option.bind_some, ih fits]
      · rw [if_neg here, if_neg (Ne.symm here)]
        rfl

end Settings

end RelayConsole
