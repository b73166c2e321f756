import RelayConsole.Text.Cut

namespace RelayConsole

theorem Text.cutAtLast?_none {mark : Char} {text : List Char} (absent : mark ∉ text) :
    cutAtLast? mark text = none := by
  induction text with
  | nil => rfl
  | cons c rest ih =>
    rw [List.mem_cons, not_or] at absent
    rw [cutAtLast?, ih absent.2]
    exact if_neg (Ne.symm absent.1)

theorem Text.head?_splitOn (mark : Char) (text : List Char) :
    (text.splitOn mark).head? = some (text.takeWhile (· ≠ mark)) := by
  unfold List.splitOn
  induction text with
  | nil => rfl
  | cons c rest ih =>
    rw [List.splitOnP_cons_eq_if_modifyHead, List.takeWhile_cons]
    by_cases here : c = mark
    · simp only [here, beq_self_eq_true, if_true, ne_eq, not_true, decide_false, Bool.false_eq_true, if_false,
        List.head?_cons]
    · simp only [here, beq_false_of_ne here, Bool.false_eq_true, if_false, List.head?_modifyHead, ih, ne_eq,
        not_false_eq_true, decide_true, if_true, Option.map_some]

/-- A part ends with the text or at the first separator. -/
theorem Text.takeWhile_part {mark : Char} {part tail : List Char} (free : mark ∉ part)
    (ends : tail = [] ∨ ∃ rest, tail = mark :: rest) : (part ++ tail).takeWhile (· ≠ mark) = part := by
  have apart (c : Char) (member : c ∈ part) : decide (c ≠ mark) = true :=
    decide_eq_true fun same => free (same ▸ member)
  rw [List.takeWhile_append_of_pos apart]
  rcases ends with rfl | ⟨rest, rfl⟩
  · exact List.append_nil part
  · rw [List.takeWhile_cons_of_neg (by rw [decide_eq_true_eq]; exact fun other => other rfl), List.append_nil]

/-- Every text has such a first part. -/
theorem Text.exists_part (mark : Char) (text : List Char) :
    ∃ tail, (tail = [] ∨ ∃ rest, tail = mark :: rest) ∧ mark ∉ text.takeWhile (· ≠ mark) ∧
      text = text.takeWhile (· ≠ mark) ++ tail := by
  refine ⟨text.dropWhile (· ≠ mark), ?_, fun member => ?_, List.takeWhile_append_dropWhile.symm⟩
  · cases rest : text.dropWhile (· ≠ mark) with
    | nil => exact Or.inl rfl
    | cons c others =>
      have stops := List.head?_dropWhile_not (· ≠ mark) text
      rw [rest] at stops
      exact Or.inr ⟨others, by rw [Decidable.not_not.mp (of_decide_eq_false stops)]⟩
  · have apart : decide (mark ≠ mark) = true := List.all_eq_true.mp List.all_takeWhile mark member
    exact of_decide_eq_true apart rfl

/-- What stands in a joined text stands in the separator or in one of its parts. -/
theorem Text.mem_intercalate {α : Type} {separator : List α} {parts : List (List α)} {c : α}
    (member : c ∈ List.intercalate separator parts) : c ∈ separator ∨ ∃ part ∈ parts, c ∈ part := by
  induction parts with
  | nil => cases member
  | cons part rest ih =>
    cases rest with
    | nil =>
      rw [List.intercalate_singleton] at member
      exact Or.inr ⟨part, List.mem_cons_self, member⟩
    | cons next rest =>
      rw [List.intercalate_cons_cons, List.mem_append, List.mem_append] at member
      rcases member with (here | between) | later
      · exact Or.inr ⟨part, List.mem_cons_self, here⟩
      · exact Or.inl between
      · rcases ih later with between | ⟨other, among, found⟩
        · exact Or.inl between
        · exact Or.inr ⟨other, List.mem_cons_of_mem part among, found⟩

end RelayConsole
