import RelayConsole.Controls
import RelayConsole.Endpoint

namespace RelayConsole

/-- A setting that is one of a few names. -/
structure Settings.Choice (α : Type) where
  title : String
  options : List (String × α)

def Settings.Choice.find? {α : Type} (choice : Settings.Choice α) (name : String) : Option α :=
  choice.options.lookup name

/-- A name in backticks. -/
def Settings.Choice.ticked (name : String) : String :=
  "\x60" ++ name ++ "\x60"

/-- Why a name is none of the options. -/
def Settings.Choice.refusal {α : Type} (choice : Settings.Choice α) (name : String) : String :=
  "unknown variant " ++ ticked name ++ ", expected " ++
    String.intercalate " or " (choice.options.map fun option => ticked option.1)

def Settings.urlMode : Settings.Choice Endpoint.Mode :=
  ⟨"UrlMode", [("parity", .parity), ("parsed", .parsed)]⟩

def Settings.controlScheme : Settings.Choice Controls.Scheme :=
  ⟨"IdVariant", [("long", .long), ("short", .short)]⟩

end RelayConsole
