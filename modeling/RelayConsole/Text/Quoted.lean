import RelayConsole.Unicode.HiddenTable

namespace RelayConsole

/-- A character as it stands in a quoted text: quotes, backslashes and the common controls after a
backslash, characters that would not show by number. -/
def Quoted.escape (c : Char) : List Char :=
  match c with
  | '"' => ['\\', '"']
  | '\\' => ['\\', '\\']
  | '\t' => ['\\', 't']
  | '\n' => ['\\', 'n']
  | '\r' => ['\\', 'r']
  | '\x00' => ['\\', '0']
  | c =>
    if c.toNat < 0x20 || (0x7F ≤ c.toNat && (Unicode.row? Unicode.hiddenTable c).isSome) then
      ['\\', 'u', '\x7b'] ++ Digits.text 16 c.toNat ++ ['\x7d']
    else [c]

/-- A text between double quotes, unambiguous and printable. -/
def Quoted.text (text : String) : String :=
  String.ofList ('"' :: text.toList.flatMap escape ++ ['"'])

end RelayConsole
