namespace RelayConsole

/-- Values under names. -/
structure Keyed (α : Type) where
  entries : List (String × α) := []
  deriving DecidableEq, Repr

def Keyed.find? {α : Type} (keyed : Keyed α) (key : String) : Option α :=
  keyed.entries.lookup key

def Keyed.putIn {α : Type} (key : String) (value : α) : List (String × α) → List (String × α)
  | [] => [(key, value)]
  | (k, v) :: rest => if key = k then (k, value) :: rest else (k, v) :: putIn key value rest

/-- Puts a value under a name in the place of the one that is there, or at the end. -/
def Keyed.put {α : Type} (keyed : Keyed α) (key : String) (value : α) : Keyed α :=
  ⟨putIn key value keyed.entries⟩

theorem Keyed.lookup_cons_eq_if {α : Type} (key : String) (entry : String × α) (rest : List (String × α)) :
    (entry :: rest).lookup key = if key = entry.1 then some entry.2 else rest.lookup key := by
  rw [List.lookup_cons]
  by_cases here : key = entry.1
  · rw [beq_iff_eq.mpr here, if_pos here]
  · rw [beq_false_of_ne here, if_neg here]

theorem Keyed.lookup_putIn {α : Type} (key other : String) (value : α) (entries : List (String × α)) :
    (putIn key value entries).lookup other = if other = key then some value else entries.lookup other := by
  induction entries with
  | nil => exact lookup_cons_eq_if other (key, value) []
  | cons entry rest ih =>
    simp only [putIn]
    split
    · rename_i here
      subst here
      simp only [lookup_cons_eq_if]
      split <;> rfl
    · rename_i apart
      simp only [lookup_cons_eq_if, ih]
      split
      · rename_i same
        rw [if_neg (fun equal => apart (equal.symm.trans same))]
      · rfl

@[simp]
theorem Keyed.find?_put {α : Type} (keyed : Keyed α) (key other : String) (value : α) :
    (keyed.put key value).find? other = if other = key then some value else keyed.find? other :=
  lookup_putIn key other value keyed.entries

theorem Keyed.putIn_found {α : Type} {key : String} {value : α} {entries : List (String × α)}
    (found : entries.lookup key = some value) : putIn key value entries = entries := by
  induction entries with
  | nil => cases found
  | cons entry rest ih =>
    rw [lookup_cons_eq_if] at found
    simp only [putIn]
    split
    · rename_i here
      rw [if_pos here] at found
      rw [← Option.some.inj found]
    · rename_i apart
      rw [if_neg apart] at found
      rw [ih found]

theorem Keyed.put_found {α : Type} {keyed : Keyed α} {key : String} {value : α}
    (found : keyed.find? key = some value) : keyed.put key value = keyed :=
  congrArg Keyed.mk (putIn_found found)

end RelayConsole
