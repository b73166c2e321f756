import RelayConsole.Text.Utf8

namespace RelayConsole

theorem Utf8.encode_append (first second : List Char) :
    encode (first ++ second) = encode first ++ encode second :=
  List.flatMap_append

theorem Unicode.scalar?_toNat (c : Char) : scalar? c.toNat = some c := by
  have valid : c.toNat.isValidChar := c.valid
  have same := Char.ofNat_toNat c
  rw [Char.ofNat, dif_pos valid] at same
  rw [scalar?, dif_pos valid, same]

theorem Utf8.scalar?_toNat {least code : Nat} {c : Char} (same : code = c.toNat) (long : least ≤ c.toNat) :
    scalar? least code = some c := by
  rw [scalar?, same, if_pos long, Unicode.scalar?_toNat]

theorem Utf8.tail?_payload {payload : Nat} (small : payload < 64) :
    tail? (UInt8.ofNat (payload + 128)) = some payload := by
  have within : payload + 128 < UInt8.size := Nat.lt_trans (Nat.add_lt_add_right small 128) (by decide)
  have byte := UInt8.toNat_ofNat_of_lt' within
  rw [tail?, byte, if_pos (by omega)]
  exact congrArg some (by omega)

/-- The bytes of a character are read back, and reading goes on behind them: the lead byte tells how many there
are, and each length has its own range of code points. -/
theorem Utf8.decode?_char (c : Char) (rest : List UInt8) :
    decode? (String.utf8EncodeChar c ++ rest) = (decode? rest).map (c :: ·) := by
  have bound : c.toNat < 0x110000 := by
    rcases c.valid with low | high
    · exact Nat.lt_trans low (by decide)
    · exact high.2
  have read : (decode? rest).map (c :: ·) = (decode? rest).bind fun text => some (c :: text) := by
    cases decode? rest <;> rfl
  have byte {n : Nat} (small : n < 256) : (UInt8.ofNat n).toNat = n := UInt8.toNat_ofNat_of_lt' small
  have payload (n : Nat) : tail? (UInt8.ofNat (n % 64 + 128)) = some (n % 64) :=
    tail?_payload (Nat.mod_lt n (by decide))
  have code : c.val.toNat = c.toNat := rfl
  rw [read]
  simp only [String.utf8EncodeChar, code]
  split
  · have lead : (UInt8.ofNat c.toNat).toNat = c.toNat := byte (by omega)
    have whole : scalar? 0 c.toNat = some c := scalar?_toNat rfl (by omega)
    rw [List.cons_append, List.nil_append, decode?.eq_def]
    simp only [lead]
    rw [if_pos (by omega), whole]
    rfl
  · split
    · have lead : (UInt8.ofNat (c.toNat / 64 % 32 + 192)).toNat = c.toNat / 64 % 32 + 192 := byte (by omega)
      have whole : scalar? 0x80 ((c.toNat / 64 % 32 + 192 - 0xC0) * 64 + c.toNat % 64) = some c :=
        scalar?_toNat (by omega) (by omega)
      simp only [List.cons_append, List.nil_append]
      rw [decode?.eq_def]
      simp only [lead, payload]
      rw [if_neg (by omega), if_pos (by omega)]
      exact congrArg (Option.bind · _) whole
    · split
      · have lead : (UInt8.ofNat (c.toNat / 4096 % 16 + 224)).toNat = c.toNat / 4096 % 16 + 224 :=
          byte (by omega)
        have whole : scalar? 0x800 (((c.toNat / 4096 % 16 + 224 - 0xE0) * 64 + c.toNat / 64 % 64) * 64 +
            c.toNat % 64) = some c :=
          scalar?_toNat (by omega) (by omega)
        simp only [List.cons_append, List.nil_append]
        rw [decode?.eq_def]
        simp only [lead, payload]
        rw [if_neg (by omega), if_neg (by omega), if_pos (by omega)]
        exact congrArg (Option.bind · _) whole
      · have lead : (UInt8.ofNat (c.toNat / 262144 % 8 + 240)).toNat = c.toNat / 262144 % 8 + 240 :=
          byte (by omega)
        have whole : scalar? 0x10000 ((((c.toNat / 262144 % 8 + 240 - 0xF0) * 64 + c.toNat / 4096 % 64) * 64 +
            c.toNat / 64 % 64) * 64 + c.toNat % 64) = some c :=
          scalar?_toNat (by omega) (by omega)
        simp only [List.cons_append, List.nil_append]
        rw [decode?.eq_def]
        simp only [lead, payload]
        rw [if_neg (by omega), if_neg (by omega), if_neg (by omega), if_pos (by omega)]
        exact congrArg (Option.bind · _) whole

/-- What a text is written as reads as that text. -/
theorem Utf8.decode?_encode (text : List Char) : decode? (encode text) = some text := by
  induction text with
  | nil => rfl
  | cons c rest ih =>
    rw [encode, List.flatMap_cons, decode?_char]
    rw [encode] at ih
    rw [ih, Option.map_some]

end RelayConsole
