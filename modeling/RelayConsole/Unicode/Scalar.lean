namespace RelayConsole

/-- The character of a code point; halves of pairs and numbers beyond the last code point have none. -/
def Unicode.scalar? (code : Nat) : Option Char :=
  if valid : code.isValidChar then some (Char.ofNatAux code valid) else none

end RelayConsole
