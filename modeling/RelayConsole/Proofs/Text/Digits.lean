import RelayConsole.Binary64.Numeral

namespace RelayConsole

theorem Digits.value?_digitChar {digit : Nat} (small : digit < 16) :
    value? (Nat.digitChar digit) = some digit := by
  revert digit
  decide

theorem Digits.digit?_digitChar {base digit : Nat} (small : digit < base) (most : base ≤ 16) :
    digit? base (Nat.digitChar digit) = some digit := by
  rw [digit?, value?_digitChar (by omega), Option.filter_some, if_pos (decide_eq_true small)]

/-- The numeral of a number, whatever follows it, counts that number. -/
theorem Digits.fold?_text {base : Nat} (least : 1 < base) (most : base ≤ 16) (n : Nat) (rest : List Char) :
    fold? base 0 (text base n ++ rest) = fold? base n rest := by
  induction n using Nat.strongRecOn generalizing rest with
  | ind n ih =>
    unfold text at ih ⊢
    by_cases small : n < base
    · rw [Nat.toDigits_of_lt_base small, List.singleton_append, fold?, digit?_digitChar small most]
      simp only [Nat.zero_mul, Nat.zero_add]
    · have smaller : n / base < n := Nat.div_lt_self (by omega) least
      rw [Nat.toDigits_of_base_le least (by omega), List.append_assoc, ih _ smaller, List.singleton_append,
        fold?, digit?_digitChar (Nat.mod_lt n (by omega)) most]
      simp only [Nat.mul_comm, Nat.div_add_mod]

/-- A number is read back from its numeral. -/
theorem Digits.read?_text {base : Nat} (least : 1 < base) (most : base ≤ 16) (n : Nat) :
    read? base (text base n) = some n := by
  have folded := fold?_text least most n []
  rw [List.append_nil] at folded
  cases digits : text base n with
  | nil => exact absurd digits Nat.toDigits_ne_nil
  | cons c rest =>
    rw [digits] at folded
    exact folded

theorem Digits.mem_text {base : Nat} (least : 1 < base) {n : Nat} {c : Char} (member : c ∈ text base n) :
    ∃ digit < base, c = Nat.digitChar digit := by
  induction n using Nat.strongRecOn with
  | ind n ih =>
    unfold text at ih member
    by_cases small : n < base
    · rw [Nat.toDigits_of_lt_base small, List.mem_singleton] at member
      exact ⟨n, small, member⟩
    · rw [Nat.toDigits_of_base_le least (by omega), List.mem_append, List.mem_singleton] at member
      rcases member with earlier | last
      · exact ih _ (Nat.div_lt_self (by omega) least) earlier
      · exact ⟨n % base, Nat.mod_lt n (by omega), last⟩

theorem Numeral.integer?_digits (n : Nat) : integer? (Digits.text 10 n) = some ↑n := by
  have unsigned : sign (Digits.text 10 n) = (false, Digits.text 10 n) := by
    cases digits : Digits.text 10 n with
    | nil => rfl
    | cons c rest =>
      have digit : ∃ d < 10, c = Nat.digitChar d :=
        Digits.mem_text (by decide) (digits ▸ List.mem_cons_self)
      have solid : ∀ d < 10, Nat.digitChar d ≠ '-' ∧ Nat.digitChar d ≠ '+' := by decide
      obtain ⟨d, small, rfl⟩ := digit
      simp only [sign]
      split
      · rename_i minus
        exact absurd (List.cons.inj minus).1 (solid d small).1
      · rename_i plus
        exact absurd (List.cons.inj plus).1 (solid d small).2
      · rfl
  simp only [integer?, unsigned, Digits.read?_text (show 1 < 10 by decide) (show 10 ≤ 16 by decide)]
  rfl

theorem Numeral.toList_natural (n : Nat) : (toString (Int.ofNat n)).toList = Digits.text 10 n :=
  String.toList_ofList

theorem Numeral.toList_negative (n : Nat) :
    (toString (Int.negSucc n)).toList = '-' :: Digits.text 10 (n + 1) := by
  have text : toString (Int.negSucc n) = "-" ++ String.ofList (Digits.text 10 (n + 1)) := rfl
  rw [text, String.toList_append, String.toList_ofList, String.toList_ofList, List.singleton_append]

theorem Numeral.integer?_toString (value : Int) : integer? (toString value).toList = some value := by
  cases value with
  | ofNat n => exact (congrArg integer? (toList_natural n)).trans (integer?_digits n)
  | negSucc n =>
    have read := Digits.read?_text (show 1 < 10 by decide) (show 10 ≤ 16 by decide) (n + 1)
    simp only [toList_negative, integer?, sign, read]
    rfl

/-- There is no letter in a numeral. -/
theorem Numeral.mem_toString {value : Int} {c : Char} (member : c ∈ (toString value).toList) :
    c = '-' ∨ ∃ d < 10, c = Nat.digitChar d := by
  cases value with
  | ofNat n =>
    rw [toList_natural] at member
    exact Or.inr (Digits.mem_text (by decide) member)
  | negSucc n =>
    rw [toList_negative] at member
    exact (List.mem_cons.mp member).imp_right (Digits.mem_text (by decide))

end RelayConsole
