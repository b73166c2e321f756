import RelayConsole.Text.Digits

namespace RelayConsole

/-- A run of consecutive code points of one kind. -/
structure Unicode.Row where
  first : Nat
  count : Nat
  kind : Char
  values : List Nat

/-- Reads one entry of a table: the gap after the run before it, the kind, the length less one and, after
a colon, the values. Numbers are hexadecimal, and zero may be left out. -/
def Unicode.readRow (start : Nat) (entry : List Char) : Unicode.Row :=
  let isHex := Digits.isDigit 16
  let number := fun digits => (Digits.read? 16 digits).getD 0
  let rest := entry.dropWhile isHex
  let values := ((rest.drop 1).dropWhile isHex).drop 1
  { first := start + number (entry.takeWhile isHex)
    count := number ((rest.drop 1).takeWhile isHex) + 1
    kind := rest.headD ' '
    values := if values.isEmpty then [] else (values.splitOn '.').map number }

/-- Reads a table of runs in ascending order. -/
def Unicode.readTable (text : String) : Array Unicode.Row :=
  let entries := (text.toList.splitOnP Char.isWhitespace).filter (!·.isEmpty)
  entries.foldl (fun rows entry =>
    let start := match rows.back? with
      | some row => row.first + row.count
      | none => 0
    rows.push (readRow start entry)) #[]

/-- The run that holds a code point, sought between two positions of the table. -/
def Unicode.search (rows : Array Unicode.Row) (code low high : Nat) : Option Unicode.Row :=
  if low < high then
    match rows[(low + high) / 2]? with
    | some row =>
      if code < row.first then search rows code low ((low + high) / 2)
      else if row.first + row.count ≤ code then search rows code ((low + high) / 2 + 1) high
      else some row
    | none => none
  else none
termination_by high - low

/-- The run that holds a character. -/
def Unicode.row? (rows : Array Unicode.Row) (c : Char) : Option Unicode.Row :=
  search rows c.toNat 0 rows.size

/-- The kind of the run that holds a character. -/
def Unicode.kind? (rows : Array Unicode.Row) (c : Char) : Option Char :=
  (row? rows c).map (·.kind)

end RelayConsole
