import RelayConsole.Text.Position
import RelayConsole.Proofs.Text.Utf8

namespace RelayConsole

theorem Utf8.length_encode (text : List Char) : (encode text).length = (String.ofList text).utf8ByteSize :=
  List.size_toByteArray.symm

/-- A character starts where the bytes of the characters before it end. -/
theorem Text.getElem?_starts (text : List Char) (position n : Nat) :
    (starts position text)[n]? =
      text[n]?.map fun c => (position + (Utf8.encode (text.take n)).length, c) := by
  induction text generalizing position n with
  | nil => rfl
  | cons c rest ih =>
    cases n with
    | zero => rfl
    | succ n =>
      have size : (Utf8.encode ((c :: rest).take (n + 1))).length =
          c.utf8Size + (Utf8.encode (rest.take n)).length := by
        rw [List.take_succ_cons, ← List.singleton_append, Utf8.encode_append, List.length_append, Utf8.encode,
          List.flatMap_singleton, String.length_utf8EncodeChar]
      rw [starts, List.getElem?_cons_succ, ih, List.getElem?_cons_succ, size, Nat.add_assoc]

/-- Between two characters a text can be sliced. -/
theorem Text.slice?_append (front rest : List Char) :
    slice? (front ++ rest) (Utf8.encode front).length = some rest := by
  rw [slice?, Utf8.encode_append, List.drop_left, if_pos (List.length_append ▸ Nat.le_add_right _ _),
    Utf8.decode?_encode]

theorem Text.isValid_append (front rest : List Char) :
    String.Pos.Raw.IsValid (String.ofList (front ++ rest)) ⟨(Utf8.encode front).length⟩ := by
  refine String.Pos.Raw.isValid_ofList.mpr ⟨front.length, ?_⟩
  rw [List.take_left, Utf8.length_encode]

/-- How a text is parted behind a number of its characters, or behind all of them if there are no more. The
bytes of the characters in front are those before the slice, which is cut at no place within a character. -/
structure Text.Parted (text : List Char) (count : Nat) (front rest : List Char) : Prop where
  whole : text = front ++ rest
  counted : front.length = min count text.length
  cut : ∀ position c, (starts 0 text)[count]? = some (position, c) →
    position = (Utf8.encode front).length ∧ String.Pos.Raw.IsValid (String.ofList text) ⟨position⟩
  skipped : skip? text count = some rest

/-- Every text can be parted behind any number of its characters. -/
theorem Text.parted (text : List Char) (count : Nat) : Parted text count (text.take count) (text.drop count) where
  whole := (List.take_append_drop count text).symm
  counted := List.length_take
  cut := by
    intro position c start
    rw [getElem?_starts, Option.map_eq_some_iff] at start
    obtain ⟨_, _, place⟩ := start
    obtain rfl : (Utf8.encode (text.take count)).length = position := by
      rw [← (Prod.mk.inj place).1, Nat.zero_add]
    have valid := isValid_append (text.take count) (text.drop count)
    rw [List.take_append_drop] at valid
    exact ⟨rfl, valid⟩
  skipped := by
    rw [skip?, getElem?_starts]
    cases here : text[count]? with
    | none => rw [Option.map_none, List.drop_eq_nil_of_le (List.getElem?_eq_none_iff.mp here)]
    | some c =>
      have sliced := slice?_append (text.take count) (text.drop count)
      rw [List.take_append_drop] at sliced
      rw [Option.map_some, Nat.zero_add]
      exact sliced

end RelayConsole
