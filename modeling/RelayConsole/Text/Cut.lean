namespace RelayConsole

/-- What stands before and after the last occurrence of a character. -/
def Text.cutAtLast? (mark : Char) : List Char → Option (List Char × List Char)
  | [] => none
  | c :: rest =>
    match cutAtLast? mark rest with
    | some (before, after) => some (c :: before, after)
    | none => if c = mark then some ([], rest) else none

/-- What stands before and after the first occurrence of a character. -/
def Text.cutAtFirst? (mark : Char) : List Char → Option (List Char × List Char)
  | [] => none
  | c :: rest =>
    if c = mark then some ([], rest)
    else (cutAtFirst? mark rest).map fun (before, after) => (c :: before, after)

/-- Drops matching characters at both ends. -/
def Text.trim (drop : Char → Bool) (text : List Char) : List Char :=
  ((text.dropWhile drop).reverse.dropWhile drop).reverse

/-- White space of any script. -/
def Text.isSpace (c : Char) : Bool :=
  let code := c.toNat
  c = ' ' || (9 ≤ code && code ≤ 13) || code = 0x85 || code = 0xA0 || code = 0x1680 ||
    (0x2000 ≤ code && code ≤ 0x200A) || code = 0x2028 || code = 0x2029 || code = 0x202F ||
    code = 0x205F || code = 0x3000

/-- ASCII letters in lower case, everything else as it is. -/
def Text.lower (text : List Char) : List Char :=
  text.map Char.toLower

end RelayConsole
