import RelayConsole.Session.Config
import RelayConsole.Settings.Environment
import RelayConsole.Settings.Field
import RelayConsole.Settings.Folder

namespace RelayConsole

/-- What can be set about a console. -/
structure Settings where
  environment : String
  page : String
  suffix : String
  subprotocol : String
  mode : Endpoint.Mode
  scheme : Controls.Scheme
  logLevel : String
  deriving DecidableEq, Repr

def Settings.text (value : String) : Settings.Tree :=
  .scalar (.text value)

/-- The settings where nobody sets anything. -/
def Settings.defaults : List (String × Settings.Tree) :=
  [("environment", text "development"),
    ("page", .table [("url", text "http://localhost:7681/"), ("suffix", text "")] none),
    ("connection", .table [("subprotocol", text "otdb"), ("url_mode", text "parity")] none),
    ("ui", .table [("element_ids", text "long")] none),
    ("log", .table [("level", text "info")] none)]

/-- Puts entries into a tree one after the other, each at the path that its name says. -/
def Settings.lay (tree : Settings.Tree) (entries : List (String × Settings.Tree)) : Settings.Tree :=
  entries.foldl (fun tree (name, value) => (KeyPath.read name).put value tree) tree

/-- The tree of several layers, of which a later one wins. They become one before that is laid over the
defaults, so a group that is a list in one layer and a table in a later one keeps its defaults. -/
def Settings.layered (layers : List (List (String × Settings.Tree))) : Settings.Tree :=
  lay (.table defaults none) (layers.foldl lay Tree.empty).entries

def Settings.pageGroup : Settings.Group :=
  ⟨"page", "PageConfig", 2⟩

def Settings.connectionGroup : Settings.Group :=
  ⟨"connection", "ConnectionConfig", 2⟩

def Settings.controlsGroup : Settings.Group :=
  ⟨"ui", "UiConfig", 1⟩

def Settings.logGroup : Settings.Group :=
  ⟨"log", "LogConfig", 1⟩

/-- An entry of the whole. -/
def Settings.entry (tree : Settings.Tree) (name : String) : Except Settings.Error Settings.Tree :=
  match tree.find? name with
  | some value => .ok value
  | none => .error (.invalid ("missing field " ++ Choice.ticked name))

/-- Reads the settings from their tree. -/
def Settings.ofTree (tree : Settings.Tree) : Except Settings.Error Settings := do
  let environment ← Field.text ⟨"environment", ← entry tree "environment"⟩
  let pageTree ← entry tree "page"
  let page ← (← pageGroup.field pageTree 0 "url").text
  let suffix ← (← pageGroup.field pageTree 1 "suffix").text
  let connectionTree ← entry tree "connection"
  let subprotocol ← (← connectionGroup.field connectionTree 0 "subprotocol").text
  let mode ← (← connectionGroup.field connectionTree 1 "url_mode").choice urlMode
  let scheme ← (← controlsGroup.field (← entry tree "ui") 0 "element_ids").choice controlScheme
  let logLevel ← (← logGroup.field (← entry tree "log") 0 "level").text
  return { environment, page, suffix, subprotocol, mode, scheme, logLevel }

/-- The name of the kind of run, which picks the second file. -/
def Settings.runMode (env : List (String × String)) : String :=
  (env.lookup "RUN_MODE").getD "development"

/-- Reads the settings from two files and the variables, in this order. -/
def Settings.load (env : List (String × String)) (folder : Settings.Folder) : Except Settings.Error Settings := do
  let general ← folder.layer "config/default"
  let special ← folder.layer ("config/" ++ runMode env)
  ofTree (layered [general, special, Environment.layer env])

/-- Where a console with these settings connects. -/
def Settings.config (settings : Settings) : Session.Config :=
  { page := settings.page, suffix := settings.suffix, subprotocol := settings.subprotocol, mode := settings.mode }

/-- The controls of a console with these settings. -/
def Settings.controls (settings : Settings) : Controls :=
  Controls.ofScheme settings.scheme

end RelayConsole
