import RelayConsole.Toml.Word

namespace RelayConsole.Toml

/-- A day of the calendar. -/
structure Moment.Day where
  year : Nat
  month : Nat
  day : Nat
  deriving DecidableEq, Repr

/-- A time of the day, with the digits of its fraction of a second. -/
structure Moment.Time where
  hour : Nat
  minute : Nat
  second : Nat
  fraction : List Char
  deriving DecidableEq, Repr

/-- How a time differs from the universal one. -/
inductive Moment.Offset where
  | universal
  | fixed (negative : Bool) (hours minutes : Nat)
  deriving DecidableEq, Repr

/-- A day, a time of some day, or both. -/
structure Moment where
  day : Option Moment.Day
  time : Option Moment.Time
  offset : Option Moment.Offset
  deriving DecidableEq, Repr

/-- Reads so many digits. -/
def Moment.digits? (count : Nat) (text : List Char) : Option (Nat × List Char) :=
  if text.length < count then none
  else (Digits.read? 10 (text.take count)).map (·, text.drop count)

def Moment.day? (text : List Char) : Option (Moment.Day × List Char) := do
  let (year, rest) ← digits? 4 text
  let rest ← List.isPrefixOf? ['-'] rest
  let (month, rest) ← digits? 2 rest
  let rest ← List.isPrefixOf? ['-'] rest
  let (day, rest) ← digits? 2 rest
  if 1 ≤ month ∧ month ≤ 12 ∧ 1 ≤ day ∧ day ≤ 31 then some (⟨year, month, day⟩, rest) else none

/-- Reads a fraction of a second, of which nine digits count. -/
def Moment.fraction? : List Char → Option (List Char × List Char)
  | '.' :: rest =>
    match rest.takeWhile (Digits.isDigit 10) with
    | [] => none
    | digits => some (digits.take 9, rest.dropWhile (Digits.isDigit 10))
  | text => some ([], text)

def Moment.time? (text : List Char) : Option (Moment.Time × List Char) := do
  let (hour, rest) ← digits? 2 text
  let rest ← List.isPrefixOf? [':'] rest
  let (minute, rest) ← digits? 2 rest
  let rest ← List.isPrefixOf? [':'] rest
  let (second, rest) ← digits? 2 rest
  let (fraction, rest) ← fraction? rest
  if hour ≤ 24 ∧ minute ≤ 59 ∧ second ≤ 59 then some (⟨hour, minute, second, fraction⟩, rest)
  else none

/-- Reads what may follow a time of a known day. -/
def Moment.offset? : List Char → Option (Option Moment.Offset)
  | [] => some none
  | ['Z'] => some (some .universal)
  | ['z'] => some (some .universal)
  | sign :: rest =>
    if sign = '+' ∨ sign = '-' then do
      let (hours, rest) ← digits? 2 rest
      let rest ← List.isPrefixOf? [':'] rest
      let (minutes, rest) ← digits? 2 rest
      if rest = [] then some (some (.fixed (sign = '-') hours minutes)) else none
    else none

/-- Reads a moment that makes up a whole text. -/
def Moment.read? (text : List Char) : Option Moment :=
  if (text.drop 2).head? = some ':' then do
    let (time, rest) ← time? text
    if rest = [] then some ⟨none, some time, none⟩ else none
  else do
    let (day, rest) ← day? text
    match rest with
    | [] => some ⟨some day, none, none⟩
    | mark :: rest =>
      if mark = 'T' ∨ mark = 't' ∨ mark = ' ' then do
        let (time, rest) ← time? rest
        return ⟨some day, some time, ← offset? rest⟩
      else none

def Moment.Day.text (day : Moment.Day) : List Char :=
  Digits.padded 10 4 day.year ++ '-' :: Digits.padded 10 2 day.month ++ '-' :: Digits.padded 10 2 day.day

/-- A time without the zeros that end its fraction. -/
def Moment.Time.text (time : Moment.Time) : List Char :=
  let fraction := (time.fraction.reverse.dropWhile (· = '0')).reverse
  Digits.padded 10 2 time.hour ++ ':' :: Digits.padded 10 2 time.minute ++ ':' :: Digits.padded 10 2 time.second ++
    if fraction = [] then [] else '.' :: fraction

/-- An offset; one of less than an hour has no sign of its own. -/
def Moment.Offset.text : Moment.Offset → List Char
  | .universal => ['Z']
  | .fixed negative hours minutes =>
    (if negative ∧ hours ≠ 0 then '-' else '+') :: Digits.padded 10 2 hours ++ ':' :: Digits.padded 10 2 minutes

/-- A moment in its one form. -/
def Moment.text (moment : Moment) : List Char :=
  ((moment.day.map Moment.Day.text).getD []) ++
    (if moment.day.isSome ∧ moment.time.isSome then ['T'] else []) ++
    ((moment.time.map Moment.Time.text).getD []) ++ ((moment.offset.map Moment.Offset.text).getD [])

/-- Whether the first word of a value begins a moment with a day. -/
def Moment.begins (word : List Char) : Bool :=
  word.contains 'T' || word.contains 't' ||
    ((word.drop 1).contains '-' && !hasPair 'e' word && !hasPair 'E' word)
where
  /-- Whether a mark stands before a minus. -/
  hasPair (mark : Char) : List Char → Bool
    | a :: b :: rest => (a = mark && b = '-') || hasPair mark (b :: rest)
    | _ => false

/-- Reads a mark and a word after it, if the mark is there. -/
def Moment.tail? (mark : Char) (text : List Char) : Option (List Char × List Char) :=
  match text with
  | [] => some ([], [])
  | c :: rest =>
    if c = mark then (word? rest).map fun (word, rest) => (mark :: word, rest) else some ([], text)

/-- Reads as far as a moment may reach after its first word. Between a day and a time one blank may stand. -/
def Moment.extent? (text : List Char) : Option (List Char × List Char) := do
  let (hour, rest) := match text with
    | ' ' :: after => match word? after with
      | some (word, rest) => (' ' :: word, rest)
      | none => ([], text)
    | text => ([], text)
  match rest with
  | ':' :: _ => do
    let (minute, rest) ← tail? ':' rest
    let rest ← List.isPrefixOf? [':'] rest
    let (second, rest) ← tail? ':' (':' :: rest)
    let (fraction, rest) ← tail? '.' rest
    let (ahead, rest) ← tail? '+' rest
    let (behind, rest) ← tail? ':' rest
    return (hour ++ minute ++ second ++ fraction ++ ahead ++ behind, rest)
  | rest => some (hour, rest)

/-- Reads a moment by its first word and gives its text in its one form. -/
def moment? (word rest : List Char) : Option (Settings.Scalar × List Char) := do
  let (more, rest) ← Moment.extent? rest
  let moment ← Moment.read? (word ++ more)
  return (.text (String.ofList moment.text), rest)

end RelayConsole.Toml
