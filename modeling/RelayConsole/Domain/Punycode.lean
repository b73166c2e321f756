import RelayConsole.Text.Cut
import RelayConsole.Unicode.Scalar

namespace RelayConsole

/-- The digits of the code: letters, then numerals. -/
def Punycode.digit (value : Nat) : Char :=
  if value < 26 then Char.ofNat ('a'.toNat + value) else Char.ofNat ('0'.toNat + (value - 26))

def Punycode.value? (c : Char) : Option Nat :=
  if 'a' ≤ c ∧ c ≤ 'z' then some (c.toNat - 'a'.toNat)
  else if 'A' ≤ c ∧ c ≤ 'Z' then some (c.toNat - 'A'.toNat)
  else if '0' ≤ c ∧ c ≤ '9' then some (c.toNat - '0'.toNat + 26)
  else none

/-- The largest final digit at a position, between 1 and 26. -/
def Punycode.threshold (bias position : Nat) : Nat :=
  if position ≤ bias then 1 else min 26 (position - bias)

theorem Punycode.threshold_pos (bias position : Nat) : 1 ≤ threshold bias position := by
  unfold threshold
  split <;> omega

/-- Scales a difference down to where 35 divides it no further. -/
def Punycode.settle (difference position : Nat) : Nat :=
  if 455 < difference then settle (difference / 35) (position + 36)
  else position + 36 * difference / (difference + 38)
termination_by difference
decreasing_by exact Nat.div_lt_self (by omega) (by omega)

/-- The bias after a difference has been written, so that the next one is likely to be short. -/
def Punycode.adapt (difference written : Nat) (first : Bool) : Nat :=
  let start := if first then difference / 700 else difference / 2
  settle (start + start / written) 0

/-- A number in digits of varying weight, least significant first. -/
def Punycode.digits (bias position number : Nat) : List Char :=
  let t := threshold bias position
  if t ≤ number then
    digit (t + (number - t) % (36 - t)) :: digits bias (position + 36) ((number - t) / (36 - t))
  else [digit number]
termination_by number
decreasing_by
  have positive := threshold_pos bias position
  have smaller := Nat.div_le_self (number - threshold bias position) (36 - threshold bias position)
  show (number - threshold bias position) / (36 - threshold bias position) < number
  omega

/-- What the encoder knows: how many characters are written, the code point it stands at, the difference
counted so far and the bias. -/
structure Punycode.State where
  written : Nat
  code : Nat
  difference : Nat
  bias : Nat

/-- One pass over the text for one code point: characters below it count, the character itself is written. -/
def Punycode.pass (basic code : Nat) : List Nat → Punycode.State → List Char × Punycode.State
  | [], state => ([], state)
  | n :: rest, state =>
    if n < code then pass basic code rest { state with difference := state.difference + 1 }
    else if n = code then
      let bias := adapt state.difference (state.written + 1) (state.written = basic)
      let (output, final) := pass basic code rest { state with written := state.written + 1, difference := 0, bias }
      (digits state.bias 36 state.difference ++ output, final)
    else pass basic code rest state

/-- Passes for the code points of a list, which ascends. -/
def Punycode.passes (basic : Nat) (text : List Nat) : List Nat → Punycode.State → List Char
  | [], _ => []
  | code :: codes, state =>
    let waiting := { state with difference := state.difference + (code - state.code) * (state.written + 1) }
    let (output, final) := pass basic code text waiting
    output ++ passes basic text codes { final with code := code + 1, difference := final.difference + 1 }

/-- Writes a text in ASCII: the ASCII characters, a hyphen if there are any, and the others as differences. -/
def Punycode.encode (text : List Char) : List Char :=
  let codes := text.map Char.toNat
  let basic := text.filter (·.toNat < 0x80)
  let others := ((codes.filter (0x80 ≤ ·)).mergeSort (· ≤ ·)).eraseDups
  basic ++ (if basic.isEmpty then [] else ['-']) ++
    passes basic.length codes others ⟨basic.length, 0x80, 0, 72⟩

/-- Reads one number and what follows it. -/
def Punycode.number? (bias : Nat) : Nat → Nat → Nat → List Char → Option (Nat × List Char)
  | _, _, _, [] => none
  | position, weight, sum, c :: rest =>
    match value? c with
    | none => none
    | some d =>
      let t := threshold bias position
      if d < t then some (sum + d * weight, rest)
      else number? bias (position + 36) (weight * (36 - t)) (sum + d * weight) rest

theorem Punycode.number?_shorter {bias position weight sum : Nat} {text rest : List Char} {number : Nat}
    (run : number? bias position weight sum text = some (number, rest)) : rest.length < text.length := by
  induction text generalizing position weight sum with
  | nil => simp [number?] at run
  | cons c text ih =>
    rw [number?] at run
    split at run
    · simp at run
    · dsimp only at run
      split at run
      · simp only [Option.some.injEq, Prod.mk.injEq] at run
        simp [run.2]
      · exact Nat.lt_succ_of_lt (ih run)

/-- Inserts the characters that the numbers describe. -/
def Punycode.insert? (output : List Char) (code index bias : Nat) (text : List Char) : Option (List Char) :=
  match text with
  | [] => some output
  | c :: rest =>
    match _found : number? bias 36 1 index (c :: rest) with
    | none => none
    | some (next, rest) =>
      let size := output.length + 1
      let place := code + next / size
      match Unicode.scalar? place with
      | none => none
      | some inserted =>
        let position := next % size
        insert? (output.take position ++ inserted :: output.drop position) place (position + 1)
          (adapt (next - index) size (index = 0)) rest
termination_by text.length
decreasing_by
  exact number?_shorter (by assumption)

/-- The ASCII characters before the last hyphen and the numbers after it; without such characters all of
the text is numbers. -/
def Punycode.cut (text : List Char) : List Char × List Char :=
  match Text.cutAtLast? '-' text with
  | some (c :: basic, numbers) => (c :: basic, numbers)
  | _ => ([], text)

/-- The text that an ASCII form stands for. -/
def Punycode.decode? (text : List Char) : Option (List Char) :=
  if text.all (·.toNat < 0x80) then
    let (basic, tail) := cut text
    insert? basic 0x80 0 72 tail
  else none

end RelayConsole
