import Mathlib.Data.List.Basic
import RelayConsole.Proofs.Settings.Paths

namespace RelayConsole.Settings

/-- The single settings. -/
inductive Key where
  | environment
  | page
  | suffix
  | subprotocol
  | mode
  | scheme
  | logLevel
  deriving DecidableEq, Repr

def Key.all : List Key :=
  [.environment, .page, .suffix, .subprotocol, .mode, .scheme, .logLevel]

/-- The entry of the whole that a setting is or is in. -/
def Key.head : Key → String
  | .environment => "environment"
  | .page | .suffix => "page"
  | .subprotocol | .mode => "connection"
  | .scheme => "ui"
  | .logLevel => "log"

/-- The names that lead on from there. -/
def Key.below : Key → List String
  | .environment => []
  | .page => ["url"]
  | .suffix => ["suffix"]
  | .subprotocol => ["subprotocol"]
  | .mode => ["url_mode"]
  | .scheme => ["element_ids"]
  | .logLevel => ["level"]

def Key.path (key : Key) : List String :=
  key.head :: key.below

/-- The variable that is about a setting. -/
def Key.variableName : Key → String
  | .environment => "APP_ENVIRONMENT"
  | .page => "APP_PAGE__URL"
  | .suffix => "APP_PAGE__SUFFIX"
  | .subprotocol => "APP_CONNECTION__SUBPROTOCOL"
  | .mode => "APP_CONNECTION__URL_MODE"
  | .scheme => "APP_UI__ELEMENT_IDS"
  | .logLevel => "APP_LOG__LEVEL"

/-- What a setting is where nobody sets it. -/
def Key.default : Key → String
  | .environment => "development"
  | .page => "http://localhost:7681/"
  | .suffix => ""
  | .subprotocol => "otdb"
  | .mode => "parity"
  | .scheme => "long"
  | .logLevel => "info"

/-- A name without letters in upper case. -/
def Environment.lowered (name : String) : List Char :=
  name.toList.map lower

/-- The setting whose variable has a name, in letters of either case. -/
def Key.named? (name : String) : Option Key :=
  all.find? fun key => Environment.lowered name = Environment.lowered key.variableName

/-- The entry of the whole that says a setting and nothing else. -/
def Key.entry (key : Key) (value : Scalar) : String × Tree :=
  (key.head, Tree.under key.below (.scalar value))

/-- What variables say about the settings, in their order. -/
def Environment.told (env : List (String × String)) : List (Key × Scalar) :=
  env.filterMap fun assigned => (Key.named? assigned.1).map (·, scalar assigned.2)

/-- What variables say about a setting. The last that says anything counts. -/
def Environment.said? (env : List (String × String)) (key : Key) : Option Scalar :=
  (told env).reverse.lookup key

/-- Whether a variable is about a setting, be it one of those that there are or not. -/
def Environment.isSetting (assigned : String × String) : Bool :=
  (setting? assigned.1).isSome

/-- The variables that are about any setting are about one of those that there are. -/
def Environment.Known (env : List (String × String)) : Prop :=
  ∀ assigned ∈ env, isSetting assigned → (Key.named? assigned.1).isSome

/-- The names of variables differ by more than the case of their letters. -/
def Environment.Apart (env : List (String × String)) : Prop :=
  (env.map fun assigned => lowered assigned.1).Nodup

instance (env : List (String × String)) : Decidable (Environment.Known env) :=
  List.decidableBAll _ env

instance (env : List (String × String)) : Decidable (Environment.Apart env) :=
  inferInstanceAs (Decidable (List.Nodup _))

/-- Entries under plain names, along each setting tables and at its end single values, as far as they say
anything about it. -/
structure Ordinary (entries : List (String × Tree)) : Prop where
  named : ∀ entry ∈ entries, KeyPath.IsName entry.1
  fits : ∀ key : Key, (Tree.table entries none).Fits key.path

theorem Key.mem_all (key : Key) : key ∈ all := by
  cases key <;> decide

instance (entries : List (String × Tree)) : Decidable (Ordinary entries) :=
  decidable_of_iff
    ((∀ entry ∈ entries, KeyPath.IsName entry.1) ∧ ∀ key ∈ Key.all, (Tree.table entries none).Fits key.path)
    ⟨fun ⟨named, fits⟩ => ⟨named, fun key => fits key key.mem_all⟩,
      fun ⟨named, fits⟩ => ⟨named, fun key _ => fits key⟩⟩

theorem Key.lowered_of_named? {name : String} {key : Key} (named : named? name = some key) :
    Environment.lowered name = Environment.lowered key.variableName := by
  have matching := List.find?_some named
  exact of_decide_eq_true matching

/-- The name of a variable is that of the path to its setting. -/
theorem Key.setting?_of_named? {name : String} {key : Key} (named : named? name = some key) :
    Environment.setting? name = some (KeyPath.dotted key.head key.below) := by
  have same : name.toList.map Environment.lower = key.variableName.toList.map Environment.lower :=
    lowered_of_named? named
  rw [Environment.setting?, same]
  cases key <;> rfl

theorem Key.plain_head (key : Key) : KeyPath.IsName key.head := by
  cases key <;> rfl

theorem Key.read_dotted (key : Key) :
    KeyPath.read (KeyPath.dotted key.head key.below) = ⟨key.head, key.below.map .child⟩ := by
  refine KeyPath.read_dotted key.plain_head ?_ ?_ <;> cases key <;> decide

theorem Key.length_below {key other : Key} : key.head = other.head → key.below.length = other.below.length := by
  cases key <;> cases other <;> decide

theorem Key.said?_entry (key other : Key) (value : Scalar) :
    (Tree.table [other.entry value] none).said? key.path = [(other, value)].lookup key := by
  cases key <;> cases other <;> rfl

/-- The entries that say these settings. -/
def Key.entries (told : List (Key × Scalar)) : List (String × Tree) :=
  told.map fun setting => setting.1.entry setting.2

theorem Key.ordinary_entries (told : List (Key × Scalar)) : Ordinary (entries told) where
  named := by
    intro entry member
    obtain ⟨setting, -, rfl⟩ := List.mem_map.mp member
    exact setting.1.plain_head
  fits := by
    refine fun key => ⟨⟨_, _, rfl⟩, fun value member => ?_⟩
    obtain ⟨setting, -, same⟩ := List.mem_map.mp member
    obtain ⟨heads, rfl⟩ := Prod.mk.inj same
    exact Tree.fits_under setting.2 (length_below heads).symm

theorem Key.said?_entries (told : List (Key × Scalar)) (key : Key) :
    (Tree.table (entries told) none).said? key.path = told.reverse.lookup key := by
  induction told with
  | nil => rfl
  | cons first rest ih =>
    have split : (Tree.table (entries (first :: rest)) none).said? key.path =
        ((Tree.table (entries rest) none).said? key.path).or
          ((Tree.table [first.1.entry first.2] none).said? key.path) :=
      last?_append key.head (Tree.said? key.below) [first.1.entry first.2] (entries rest)
    rw [split, ih, said?_entry, List.reverse_cons, List.lookup_append]

/-- What variables say is laid setting by setting. -/
theorem Environment.layer_eq {env : List (String × String)} (known : Known env) :
    layer env = (told env).map fun setting =>
      (KeyPath.dotted setting.1.head setting.1.below, .scalar setting.2) := by
  rw [told, List.map_filterMap, layer]
  refine List.filterMap_congr fun assigned member => ?_
  change (setting? assigned.1).map _ = _
  cases named : Key.named? assigned.1 with
  | some key => rw [Key.setting?_of_named? named]; rfl
  | none =>
    cases about : setting? assigned.1 with
    | none => rfl
    | some name =>
      have unknown := known assigned member (congrArg Option.isSome about)
      rw [named] at unknown
      cases unknown

theorem Environment.lay_layer {env : List (String × String)} (known : Known env) (tree : Tree) :
    lay tree (layer env) = Tree.merge (Key.entries (told env)) tree := by
  rw [layer_eq known]
  generalize told env = told
  induction told generalizing tree with
  | nil => rfl
  | cons first rest ih =>
    have put := KeyPath.putAfter_children first.1.head first.1.below (.scalar first.2) tree
    rw [List.map_cons, lay_cons, Key.read_dotted, KeyPath.put, put, ih]
    rfl

end RelayConsole.Settings
