import RelayConsole.Settings.KeyPath

namespace RelayConsole.Settings

/-- Names in lower case, as far as that can leave a plain name. The sign of the unit kelvin becomes a letter,
too. -/
def Environment.lower (c : Char) : Char :=
  if c = '\u212a' then 'k' else c.toLower

/-- Two underscores stand for a point. -/
def Environment.pointed : List Char → List Char
  | '_' :: '_' :: rest => '.' :: pointed rest
  | c :: rest => c :: pointed rest
  | [] => []

/-- The setting that a variable is about, if it is about one. -/
def Environment.setting? (name : String) : Option String :=
  (List.isPrefixOf? "app_".toList (name.toList.map lower)).map fun rest => String.ofList (pointed rest)

/-- A value is a truth value, a number or a text, whichever it can be first. -/
def Environment.scalar (text : String) : Scalar :=
  let characters := text.toList
  if Text.lower characters = "true".toList then .flag true
  else if Text.lower characters = "false".toList then .flag false
  else
    match (Numeral.integer? characters).filter Numeral.fits with
    | some value => .integer value
    | none =>
      match Numeral.float? characters with
      | some value => .float value
      | none => .text text

/-- The entries that variables make up. -/
def Environment.layer (env : List (String × String)) : List (String × Tree) :=
  env.filterMap fun (name, text) => (setting? name).map (·, .scalar (scalar text))

end RelayConsole.Settings
