import RelayConsole.Unicode.Scalar

namespace RelayConsole

/-- The bytes of a text. -/
def Utf8.encode (text : List Char) : List UInt8 :=
  text.flatMap String.utf8EncodeChar

/-- A code point put together from the payloads of its bytes, unless a shorter form would have done
or it is no scalar value. -/
def Utf8.scalar? (least : Nat) (code : Nat) : Option Char :=
  if least ≤ code then Unicode.scalar? code else none

/-- The payload of a continuation byte. -/
def Utf8.tail? (byte : UInt8) : Option Nat :=
  if 0x80 ≤ byte.toNat ∧ byte.toNat ≤ 0xBF then some (byte.toNat - 0x80) else none

/-- Reads bytes as text; none if they are not well formed. -/
def Utf8.decode? : List UInt8 → Option (List Char)
  | [] => some []
  | a :: rest =>
    let lead := a.toNat
    if lead ≤ 0x7F then do
      let c ← scalar? 0 lead
      return c :: (← decode? rest)
    else if 0xC2 ≤ lead ∧ lead ≤ 0xDF then
      match rest with
      | b :: rest => do
        let c ← scalar? 0x80 ((lead - 0xC0) * 64 + (← tail? b))
        return c :: (← decode? rest)
      | _ => none
    else if 0xE0 ≤ lead ∧ lead ≤ 0xEF then
      match rest with
      | b :: c :: rest => do
        let c ← scalar? 0x800 (((lead - 0xE0) * 64 + (← tail? b)) * 64 + (← tail? c))
        return c :: (← decode? rest)
      | _ => none
    else if 0xF0 ≤ lead ∧ lead ≤ 0xF4 then
      match rest with
      | b :: c :: d :: rest => do
        let c ← scalar? 0x10000
          ((((lead - 0xF0) * 64 + (← tail? b)) * 64 + (← tail? c)) * 64 + (← tail? d))
        return c :: (← decode? rest)
      | _ => none
    else none

end RelayConsole
