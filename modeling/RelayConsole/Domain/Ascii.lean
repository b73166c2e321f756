import RelayConsole.Domain.Bidi
import RelayConsole.Domain.Joiner
import RelayConsole.Domain.Punycode
import RelayConsole.Unicode.MappingTable

namespace RelayConsole

/-- ASCII characters that no domain name holds. -/
def Domain.isForbidden (c : Char) : Bool :=
  c.toNat ≤ 0x20 || c.toNat = 0x7F ||
    c ∈ ['#', '/', ':', '<', '>', '?', '@', '[', '\\', ']', '^', '|', '%']

def Domain.isAscii (c : Char) : Bool :=
  c.toNat < 0x80

/-- What a character becomes in a domain name; none if it cannot stand there. -/
def Domain.mapped? (c : Char) : Option (List Char) :=
  if isAscii c then some [c.toLower]
  else
    match Unicode.row? Unicode.mappingTable c with
    | none => none
    | some row =>
      let offset := c.toNat - row.first
      match row.kind, row.values with
      | 'v', _ => some [c]
      | 'i', _ => some []
      | 'p', _ => some [if offset % 2 = 0 then Char.ofNat (c.toNat + 1) else c]
      | 's', target :: _ => some [Char.ofNat (target + offset)]
      | _, values => some (values.map Char.ofNat)

/-- The marker of a label in ASCII form. -/
def Domain.codeMark : List Char :=
  "xn--".toList

/-- A label of characters that stay what they are and can stand together. -/
def Domain.isLabel (label : List Char) : Bool :=
  label.all (fun c => mapped? c = some [c]) && Normal.compose label = label &&
    (List.isPrefixOf? codeMark label).isNone && Joiner.isLabel [] label &&
    match label with
    | first :: _ => (Unicode.row? Unicode.markTable first).isNone
    | [] => true

/-- The characters of a label; one in ASCII form has to stand for something that needs that form. -/
def Domain.plain? (label : List Char) : Option (List Char) :=
  match List.isPrefixOf? codeMark label with
  | some code =>
    match Punycode.decode? code with
    | some plain => if plain.all isAscii || !isLabel plain then none else some plain
    | none => none
  | none => if label.all isAscii || isLabel label then some label else none

/-- A label in ASCII form. -/
def Domain.coded (label : List Char) : List Char :=
  if label.all isAscii then label else codeMark ++ Punycode.encode label

/-- The labels of a name in ASCII form, unless their directions conflict. -/
def Domain.join? (labels : List (List Char)) : Option (List Char) :=
  if labels.any (·.any Bidi.isRightToLeft) && !labels.all Bidi.isLabel then none
  else
    let name := List.intercalate ['.'] (labels.map coded)
    if name.any isForbidden then none else some name

/-- The ASCII form of a domain name; none if it has none. -/
def Domain.toAscii? (name : List Char) : Option (List Char) := do
  let mapped ← name.mapM mapped?
  let labels ← ((Normal.compose mapped.flatten).splitOn '.').mapM plain?
  join? labels

end RelayConsole
