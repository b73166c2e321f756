import RelayConsole.Settings.Choice
import RelayConsole.Settings.Error
import RelayConsole.Settings.Tree

namespace RelayConsole.Settings

/-- A single value as a text. -/
def Scalar.asText : Scalar → String
  | .flag value => if value then "true" else "false"
  | .integer value => toString value
  | .float value => value.text
  | .text value => value

/-- What a single value is called where something else was expected. -/
def Scalar.title : Scalar → String
  | .flag value => "boolean " ++ Choice.ticked (if value then "true" else "false")
  | .integer value => "integer " ++ Choice.ticked (toString value)
  | .float value => "floating point " ++ Choice.ticked value.pointedText
  | .text value => "string " ++ Quoted.text value

/-- A value of the settings and where it stands. -/
structure Field where
  place : String
  value : Tree

/-- Why a field is no text. -/
def Field.noText (field : Field) (found : String) (origin : Option String) : Error :=
  .mistyped found "a string" (some field.place) origin

/-- A field that is to be a text; every single value is one. -/
def Field.text (field : Field) : Except Error String :=
  match field.value with
  | .scalar value => .ok value.asText
  | .nil origin => .error (field.noText "unit value" origin)
  | .list _ origin => .error (field.noText "sequence" origin)
  | .table _ origin => .error (field.noText "map" origin)

/-- The option of a name. -/
def Choice.named {α : Type} (choice : Choice α) (name : String) : Except Error α :=
  match choice.find? name with
  | some option => .ok option
  | none => .error (.invalid ("enum " ++ choice.title ++ " does not have variant constructor " ++ name))

/-- A field that is to be one of a few names, as a text or as the one name in a table. -/
def Field.choice {α : Type} (field : Field) (choice : Choice α) : Except Error α :=
  match field.value with
  | .scalar (.text name) => choice.named name
  | .table [(name, _)] _ => choice.named name
  | _ => .error (.invalid ("value of enum " ++ choice.title ++
      " should be represented by either string or table with exactly one key"))

/-- A group of settings: what it is called, and how many there are in it. -/
structure Group where
  name : String
  title : String
  size : Nat

/-- How many elements a list is expected to have. -/
def Group.extent (group : Group) : String :=
  toString group.size ++ if group.size = 1 then " element" else " elements"

/-- A field of a group, by its name in a table or by its position in a list. -/
def Group.field (group : Group) (value : Tree) (position : Nat) (name : String) : Except Error Field :=
  let expected := "expected struct " ++ group.title
  match value with
  | .table entries _ =>
    match entries.lookup name with
    | some value => .ok ⟨group.name ++ "." ++ name, value⟩
    | none => .error (.invalid ("missing field " ++ Choice.ticked name))
  | .list items _ =>
    match items[position]? with
    | some value => .ok ⟨group.name ++ "[" ++ toString position ++ "]", value⟩
    | none =>
      .error (.invalid ("invalid length " ++ toString position ++ ", " ++ expected ++ " with " ++ group.extent))
  | .nil _ => .error (.invalid ("invalid type: unit value, " ++ expected))
  | .scalar value => .error (.invalid ("invalid type: " ++ value.title ++ ", " ++ expected))

end RelayConsole.Settings
