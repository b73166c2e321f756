import RelayConsole.Unicode.CombiningTable
import RelayConsole.Unicode.CompositionTable

namespace RelayConsole

/-- Where a character goes among the marks that follow a base character; zero for characters that stay. -/
def Normal.combiningClass (c : Char) : Nat :=
  match Unicode.row? Unicode.combiningTable c with
  | some row => row.values.headD 0
  | none => 0

/-- The first code points of the Hangul syllables, their leading consonants, vowels and trailing consonants. -/
def Normal.syllables : Nat := 0xAC00

def Normal.leads : Nat := 0x1100

def Normal.vowels : Nat := 0x1161

def Normal.trails : Nat := 0x11A7

/-- The letters of a Hangul syllable. -/
def Normal.letters (index : Nat) : List Char :=
  let trail := index % 28
  [Char.ofNat (leads + index / 588), Char.ofNat (vowels + index % 588 / 28)] ++
    (if trail = 0 then [] else [Char.ofNat (trails + trail)])

/-- A character taken apart as far as it goes; four rounds reach the end for every character. -/
def Normal.takeApart : Nat → Char → List Char
  | 0, c => [c]
  | rounds + 1, c =>
    if syllables ≤ c.toNat ∧ c.toNat < syllables + 11172 then letters (c.toNat - syllables)
    else
      match Unicode.row? Unicode.compositionTable c with
      | some row => (row.values.map Char.ofNat).flatMap (takeApart rounds)
      | none => [c]

/-- Sorts each run of characters of nonzero rank, keeping equal ranks in their order. -/
def Normal.orderBy (rank : Char → Nat) : List Char → List Char
  | [] => []
  | c :: rest =>
    if rank c = 0 then c :: orderBy rank rest
    else
      (c :: rest.takeWhile (rank · ≠ 0)).mergeSort (fun a b => rank a ≤ rank b) ++
        orderBy rank (rest.dropWhile (rank · ≠ 0))
termination_by text => text.length
decreasing_by
  · simp
  · have := (List.dropWhile_sublist (l := rest) (rank · ≠ 0)).length_le
    simp only [List.length_cons]
    omega

/-- The character that two Hangul letters or a syllable and a letter make. -/
def Normal.syllable? (a b : Nat) : Option Char :=
  if leads ≤ a ∧ a < leads + 19 ∧ vowels ≤ b ∧ b < vowels + 21 then
    some (Char.ofNat (syllables + ((a - leads) * 21 + (b - vowels)) * 28))
  else if syllables ≤ a ∧ a < syllables + 11172 ∧ (a - syllables) % 28 = 0 ∧ trails < b ∧ b < trails + 28 then
    some (Char.ofNat (a + (b - trails)))
  else none

/-- The one character that stands for two. -/
def Normal.compose? (a b : Char) : Option Char :=
  match syllable? a.toNat b.toNat with
  | some c => some c
  | none =>
    (Unicode.compositionTable.find? fun row => row.kind = 'p' ∧ row.values = [a.toNat, b.toNat]).map
      fun row => Char.ofNat row.first

/-- Puts marks together with the character they belong to, where nothing of the same or a higher class
stands between them. `kept` holds the marks that stay, last one first. -/
def Normal.putTogether : Char → List Char → List Char → List Char
  | base, kept, [] => base :: kept.reverse
  | base, kept, c :: rest =>
    let free := match kept with
      | [] => true
      | last :: _ => combiningClass last ≠ 0 && combiningClass last < combiningClass c
    match (if free then compose? base c else none) with
    | some whole => putTogether whole kept rest
    | none =>
      if combiningClass c = 0 then base :: kept.reverse ++ putTogether c [] rest
      else putTogether base (c :: kept) rest

/-- The composed form of a text: equal texts become the same characters. -/
def Normal.compose (text : List Char) : List Char :=
  match orderBy combiningClass (text.flatMap (takeApart 4)) with
  | [] => []
  | c :: rest => if combiningClass c = 0 then putTogether c [] rest else c :: afterMarks rest
where
  afterMarks : List Char → List Char
    | [] => []
    | c :: rest => if combiningClass c = 0 then putTogether c [] rest else c :: afterMarks rest

end RelayConsole
