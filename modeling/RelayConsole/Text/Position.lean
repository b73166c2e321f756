import RelayConsole.Text.Utf8

namespace RelayConsole

/-- The characters of a text, each with the byte that it starts at, counted on from a given one. -/
def Text.starts (position : Nat) : List Char → List (Nat × Char)
  | [] => []
  | c :: rest => (position, c) :: starts (position + c.utf8Size) rest

/-- What a text holds from one of its bytes on; none beyond its end, and none within a character. -/
def Text.slice? (text : List Char) (position : Nat) : Option (List Char) :=
  if position ≤ (Utf8.encode text).length then Utf8.decode? ((Utf8.encode text).drop position) else none

/-- What a text holds from the byte on that its character of a given number starts at. -/
def Text.skip? (text : List Char) (count : Nat) : Option (List Char) :=
  match (starts 0 text)[count]? with
  | some (position, _) => slice? text position
  | none => some []

end RelayConsole
