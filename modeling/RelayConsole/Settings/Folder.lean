import RelayConsole.Json.Document
import RelayConsole.Settings.Error
import RelayConsole.Text.Cut
import RelayConsole.Toml.Document

namespace RelayConsole.Settings

/-- The formats of files that can be read, each with the ending of its names. A file in any other format counts
as missing. -/
inductive Format where
  | toml
  | json
  deriving DecidableEq, Repr

def Format.all : List Format :=
  [.toml, .json]

def Format.ending : Format → String
  | .toml => "toml"
  | .json => "json"

/-- Reads a file; none if it is malformed. -/
def Format.read? (format : Format) (text : String) : Option Tree :=
  match format with
  | .toml => Toml.read? text.toList
  | .json => Json.read? text.toList

/-- The name of a file, from the folder where the program runs: the folders on the way, the last name, and
whether the text ends as the name of a folder does. -/
structure FileName where
  parents : List String
  name : String
  isFolder : Bool
  deriving DecidableEq, Repr

/-- Repeated slashes and steps that stay where they are do not count. -/
def FileName.read? (text : String) : Option FileName :=
  let parts := (text.toList.splitOn '/').map String.ofList
  let steps := parts.filter fun part => part ≠ "" && part ≠ "."
  match steps.reverse with
  | [] => none
  | name :: parents => some ⟨parents.reverse, name, parts.getLast? ≠ some name⟩

/-- The steps from the folder where the program runs to a file. -/
def FileName.steps (file : FileName) : List String :=
  file.parents ++ [file.name]

/-- The name as a text. -/
def FileName.text (file : FileName) : String :=
  String.intercalate "/" file.steps

/-- The name with an ending after it. A step back has no name to add it to. -/
def FileName.withEnding? (file : FileName) (ending : String) : Option FileName :=
  if file.name = ".." then none else some { file with name := file.name ++ "." ++ ending, isFolder := false }

/-- What stands after the last point of a name, unless that begins the name. -/
def FileName.ending? (file : FileName) : Option String :=
  match Text.cutAtLast? '.' file.name.toList with
  | some (_ :: _, ending) => some (String.ofList ending)
  | _ => none

/-- The texts of the files that can be read, by the text of their names. -/
abbrev Folder :=
  String → Option String

/-- The file that a name means: the one of just that name, or else one with an ending added. Just that name
has to have the ending of a format, too. -/
def Folder.find? (folder : Folder) (file : FileName) : Option (FileName × Format × String) :=
  match if file.isFolder then none else folder file.text with
  | some text => (Format.all.find? fun format => file.ending? = some format.ending).map (file, ·, text)
  | none => Format.all.findSome? fun format =>
      (file.withEnding? format.ending).bind fun file => (folder file.text).map (file, format, ·)

/-- The names of all files that a name can mean. -/
def FileName.candidates (text : String) : List String :=
  match FileName.read? text with
  | none => []
  | some file => file.text :: Format.all.filterMap fun format => (file.withEnding? format.ending).map FileName.text

/-- The entries of a file. One that is not there has none, and so has one that is no table. -/
def Folder.layer (folder : Folder) (name : String) : Except Error (List (String × Tree)) :=
  match (FileName.read? name).bind folder.find? with
  | none => .ok []
  | some (file, format, text) =>
    match format.read? text with
    | some tree => .ok (tree.writtenIn file.text).entries
    | none => .error (.malformed ("not a " ++ format.ending ++ " document") (some file.text))

/-- Where steps lead from a folder, if all on the way are folders. Nothing is known above the first one. -/
def FileName.walk? (isFolder : List String → Bool) : List String → List String → Option (List String)
  | current, [] => some current
  | current, step :: rest =>
    let next := if step = ".." then current.dropLast else current ++ [step]
    if step = ".." ∧ current = [] then none
    else if isFolder next then walk? isFolder next rest
    else none

/-- A folder with these files in it and below, each with the text of its name. -/
def Folder.ofFiles (files : List (String × String)) : Folder := fun name =>
  let known := files.filterMap fun (name, text) => (FileName.read? name).map fun file => (file.steps, text)
  let isFolder := fun steps => steps = [] || known.any fun (path, _) =>
    steps.isPrefixOf path && steps.length < path.length
  (FileName.read? name).bind fun file =>
    (FileName.walk? isFolder [] file.parents).bind fun parents => known.lookup (parents ++ [file.name])

end RelayConsole.Settings
