import Mathlib.Data.List.Nodup
import RelayConsole.Proofs.Except
import RelayConsole.Proofs.Settings.Keys

namespace RelayConsole

/-- Where no name stands twice, the order of a list does not matter for what is looked up in it. -/
theorem lookup_perm {α β : Type} [DecidableEq α] {first second : List (α × β)} (perm : first.Perm second)
    (distinct : (first.map (·.1)).Nodup) (key : α) : first.lookup key = second.lookup key := by
  induction perm with
  | nil => rfl
  | cons entry _ ih => rw [List.lookup_cons, List.lookup_cons, ih (List.nodup_cons.mp distinct).2]
  | swap left right rest =>
    obtain ⟨leftName, leftValue⟩ := left
    obtain ⟨rightName, rightValue⟩ := right
    have apart : rightName ≠ leftName := fun same =>
      (List.nodup_cons.mp distinct).1 (List.mem_cons.mpr (Or.inl same))
    by_cases here : key = rightName
    · have other : (key == leftName) = false := beq_eq_false_iff_ne.mpr (here ▸ apart)
      simp only [List.lookup_cons, other]
    · have other : (key == rightName) = false := beq_eq_false_iff_ne.mpr here
      simp only [List.lookup_cons, other]
  | trans earlier _ ih next => exact (ih distinct).trans (next ((earlier.map (·.1)).nodup_iff.mp distinct))

def Endpoint.Mode.name : Endpoint.Mode → String
  | .parity => "parity"
  | .parsed => "parsed"

def Controls.Scheme.name : Controls.Scheme → String
  | .long => "long"
  | .short => "short"

namespace Settings

/-- What a setting is, as a text. -/
def shown (settings : Settings) : Key → String
  | .environment => settings.environment
  | .page => settings.page
  | .suffix => settings.suffix
  | .subprotocol => settings.subprotocol
  | .mode => settings.mode.name
  | .scheme => settings.scheme.name
  | .logLevel => settings.logLevel

/-- Settings that are one of a few names have to be such a name; all others can be anything. -/
def Key.Accepts : Key → Scalar → Prop
  | .mode, value => ∃ mode : Endpoint.Mode, value = .text mode.name
  | .scheme, value => ∃ scheme : Controls.Scheme, value = .text scheme.name
  | _, _ => True

/-- What variables and the two files make a setting: what the highest of them says that says anything about it,
or else what it is by itself. -/
def decided (env : List (String × String)) (special general : List (String × Tree)) (key : Key) : Scalar :=
  let said := (Environment.said? env key).or
    (((Tree.table special none).said? key.path).or ((Tree.table general none).said? key.path))
  said.getD (.text key.default)

/-- The settings that single values make up. -/
def ofScalars (told : Key → Scalar) : Except Error Settings := do
  let mode ← Field.choice ⟨"connection.url_mode", .scalar (told .mode)⟩ urlMode
  let scheme ← Field.choice ⟨"ui.element_ids", .scalar (told .scheme)⟩ controlScheme
  return {
    environment := (told .environment).asText, page := (told .page).asText, suffix := (told .suffix).asText,
    subprotocol := (told .subprotocol).asText, mode, scheme, logLevel := (told .logLevel).asText }

theorem look?_single {tree : Tree} {name : String} {value : Scalar} (found : tree.look? [name] = some value) :
    entry tree name = .ok (.scalar value) := by
  obtain ⟨below, atName, single⟩ := Option.bind_eq_some_iff.mp found
  rw [entry, atName, Tree.single?_eq_some.mp single]

theorem look?_pair {tree : Tree} {head name : String} {value : Scalar}
    (found : tree.look? [head, name] = some value) :
    ∃ value', entry tree head = .ok value' ∧ ∀ group position,
      Group.field group value' position name = .ok ⟨group.name ++ "." ++ name, .scalar value⟩ := by
  obtain ⟨below, atHead, found⟩ := Option.bind_eq_some_iff.mp found
  obtain ⟨last, atName, single⟩ := Option.bind_eq_some_iff.mp found
  have scalar : last = .scalar value := Tree.single?_eq_some.mp single
  refine ⟨below, ?_, fun group position => ?_⟩
  · rw [entry, atHead]
  · cases below with
    | table entries origin =>
      have inside : entries.lookup name = some last := atName
      simp only [Group.field, inside, scalar]
    | nil | scalar | list => cases atName

/-- Only the single values at their places count for the settings. -/
theorem ofTree_eq {tree : Tree} {told : Key → Scalar} (found : ∀ key, tree.look? key.path = some (told key)) :
    ofTree tree = ofScalars told := by
  have atEnvironment : tree.look? ["environment"] = some (told .environment) := found .environment
  have atPage : tree.look? ["page", "url"] = some (told .page) := found .page
  have atSuffix : tree.look? ["page", "suffix"] = some (told .suffix) := found .suffix
  have atSubprotocol : tree.look? ["connection", "subprotocol"] = some (told .subprotocol) := found .subprotocol
  have atMode : tree.look? ["connection", "url_mode"] = some (told .mode) := found .mode
  have atScheme : tree.look? ["ui", "element_ids"] = some (told .scheme) := found .scheme
  have atLogLevel : tree.look? ["log", "level"] = some (told .logLevel) := found .logLevel
  have environment := look?_single atEnvironment
  obtain ⟨page, pageEntry, url⟩ := look?_pair atPage
  obtain ⟨page', pageEntry', suffix⟩ := look?_pair atSuffix
  obtain rfl : page = page' := Except.ok.inj (pageEntry.symm.trans pageEntry')
  obtain ⟨connection, connectionEntry, subprotocol⟩ := look?_pair atSubprotocol
  obtain ⟨connection', connectionEntry', mode⟩ := look?_pair atMode
  obtain rfl : connection = connection' := Except.ok.inj (connectionEntry.symm.trans connectionEntry')
  obtain ⟨ui, uiEntry, scheme⟩ := look?_pair atScheme
  obtain ⟨log, logEntry, level⟩ := look?_pair atLogLevel
  simp only [ofTree, environment, pageEntry, connectionEntry, uiEntry, logEntry, url, suffix, subprotocol, mode,
    scheme, level, Field.text, bind, Except.bind]
  rfl

theorem choice_urlMode (place : String) (mode : Endpoint.Mode) :
    Field.choice ⟨place, .scalar (.text mode.name)⟩ urlMode = .ok mode := by
  cases mode <;> rfl

theorem choice_controlScheme (place : String) (scheme : Controls.Scheme) :
    Field.choice ⟨place, .scalar (.text scheme.name)⟩ controlScheme = .ok scheme := by
  cases scheme <;> rfl

/-- Values that all settings accept make up settings that show them. -/
theorem ofScalars_eq_ok {told : Key → Scalar} (accepted : ∀ key : Key, key.Accepts (told key)) :
    ∃ settings, ofScalars told = .ok settings ∧ ∀ key, settings.shown key = (told key).asText := by
  obtain ⟨mode, named⟩ := accepted .mode
  obtain ⟨scheme, called⟩ := accepted .scheme
  refine ⟨_, by rw [ofScalars, named, called, choice_urlMode, choice_controlScheme]; rfl, fun key => ?_⟩
  cases key with
  | mode => rw [named]; rfl
  | scheme => rw [called]; rfl
  | _ => rfl

theorem said?_append (earlier later : List (String × Tree)) (key : Key) :
    (Tree.table (earlier ++ later) none).said? key.path =
      ((Tree.table later none).said? key.path).or ((Tree.table earlier none).said? key.path) :=
  last?_append key.head (Tree.said? key.below) earlier later

theorem Ordinary.append {earlier later : List (String × Tree)} (first : Ordinary earlier)
    (second : Ordinary later) : Ordinary (earlier ++ later) where
  named _ member := (List.mem_append.mp member).elim (first.named _) (second.named _)
  fits key := ⟨⟨_, _, rfl⟩, fun value member =>
    (List.mem_append.mp member).elim ((first.fits key).2 value) ((second.fits key).2 value)⟩

theorem Ordinary.settled {entries : List (String × Tree)} (ordinary : Ordinary entries) (key : Key) :
    (Tree.merge entries Tree.empty).Settled key.path := by
  have nothing : ∀ tree, (none : Option Tree) = some tree → tree.Settled key.path := nofun
  exact (ordinary.fits key).onto nothing

/-- Ordinary entries that are merged with each other are ordinary. -/
theorem Ordinary.merge {entries : List (String × Tree)} (ordinary : Ordinary entries) :
    Ordinary (Tree.merge entries Tree.empty).entries where
  named entry member := by
    rcases Tree.mem_merge member with given | nothing
    · obtain ⟨known, member, same⟩ := List.mem_map.mp given
      exact same ▸ ordinary.named known member
    · cases nothing
  fits key := ⟨⟨_, _, rfl⟩, (ordinary.settled key).fits.2⟩

/-- Merging does not change what is said. -/
theorem Ordinary.said?_merge {entries : List (String × Tree)} (ordinary : Ordinary entries) (key : Key) :
    (Tree.table (Tree.merge entries Tree.empty).entries none).said? key.path =
      (Tree.table entries none).said? key.path := by
  have merged : (Tree.merge entries Tree.empty).look? key.path =
      ((Tree.table entries none).said? key.path).or none := (ordinary.fits key).look?_onto none
  rw [Option.or_none] at merged
  exact (ordinary.settled key).said?_eq.trans merged

theorem look?_defaults (key : Key) : (Tree.table defaults none).look? key.path = some (.text key.default) := by
  cases key <;> rfl

variable {env : List (String × String)} {general special : List (String × Tree)} {folder : Folder}

/-- At the place of each setting stands the value that decides it. -/
theorem look?_layered (ordinaryGeneral : Ordinary general) (ordinarySpecial : Ordinary special)
    (known : Environment.Known env) (key : Key) :
    (layered [general, special, Environment.layer env]).look? key.path =
      some (decided env special general key) := by
  have all : Ordinary (general ++ special ++ Key.entries (Environment.told env)) :=
    (ordinaryGeneral.append ordinarySpecial).append (Key.ordinary_entries _)
  have sources : [general, special, Environment.layer env].foldl lay Tree.empty =
      Tree.merge (general ++ special ++ Key.entries (Environment.told env)) Tree.empty := by
    rw [Tree.merge_append, Tree.merge_append, ← lay_eq_merge ordinaryGeneral.named,
      ← lay_eq_merge ordinarySpecial.named, ← Environment.lay_layer known]
    rfl
  have laid := (all.merge.fits key).look?_onto (some (.table defaults none))
  rw [all.said?_merge, said?_append, said?_append, Key.said?_entries, Option.bind_some, look?_defaults] at laid
  rw [layered, sources, lay_eq_merge all.merge.named]
  refine laid.trans ?_
  rw [decided, Environment.said?, Option.or_some]

/-- Loading reads nothing but the values that decide the settings. -/
theorem load_eq (first : folder.layer "config/default" = .ok general)
    (second : folder.layer ("config/" ++ runMode env) = .ok special) (ordinaryGeneral : Ordinary general)
    (ordinarySpecial : Ordinary special) (known : Environment.Known env) :
    load env folder = ofScalars (decided env special general) := by
  rw [load, first, second]
  exact ofTree_eq (look?_layered ordinaryGeneral ordinarySpecial known)

theorem Environment.told_filter (env : List (String × String)) : told (env.filter isSetting) = told env := by
  rw [told, told, List.filterMap_filter]
  refine List.filterMap_congr fun assigned _ => ?_
  cases named : Key.named? assigned.1 with
  | none => exact ite_self _
  | some key => exact if_pos (congrArg Option.isSome (Key.setting?_of_named? named))

theorem Environment.Apart.nodup_told (apart : Apart env) : ((told env).map (·.1)).Nodup := by
  refine List.pairwise_map.mpr (List.Pairwise.filterMap _ ?_ (List.pairwise_map.mp apart))
  intro assigned other different setting made setting' made' same
  obtain ⟨key, named, rfl⟩ := Option.map_eq_some_iff.mp made
  obtain ⟨key', named', rfl⟩ := Option.map_eq_some_iff.mp made'
  obtain rfl : key = key' := same
  exact different ((Key.lowered_of_named? named).trans (Key.lowered_of_named? named').symm)

/-- The order of the variables does not matter for what they say, nor do those that are about no setting. -/
theorem Environment.said?_perm {other : List (String × String)} (apart : Apart env)
    (perm : (env.filter isSetting).Perm (other.filter isSetting)) : said? other = said? env := by
  have told : (told env).Perm (told other) := by
    rw [← told_filter env, ← told_filter other]
    exact perm.filterMap _
  have distinct : ((Environment.told env).reverse.map (·.1)).Nodup := by
    rw [List.map_reverse, List.nodup_reverse]
    exact apart.nodup_told
  funext key
  exact (lookup_perm ((List.reverse_perm _).trans (told.trans (List.reverse_perm _).symm)) distinct key).symm

theorem Environment.Known.perm {other : List (String × String)} (known : Known env)
    (perm : (env.filter isSetting).Perm (other.filter isSetting)) : Known other := by
  intro assigned member about
  have here := perm.mem_iff.mpr (List.mem_filter.mpr ⟨member, about⟩)
  exact known assigned (List.mem_of_mem_filter here) about

theorem Environment.Apart.runMode_perm {other : List (String × String)} (apart : Apart env)
    (perm : env.Perm other) : runMode other = runMode env := by
  have distinct : (env.map (·.1)).Nodup := by
    refine List.Nodup.of_map lowered ?_
    rw [List.map_map]
    exact apart
  rw [runMode, runMode, lookup_perm perm distinct]

/-- A file that is not there says nothing. -/
theorem Folder.layer_absent {folder : Folder} {name : String}
    (absent : ((FileName.read? name).bind folder.find?).isNone) : folder.layer name = .ok [] := by
  rw [layer, Option.isNone_iff_eq_none.mp absent]

/-- The highest layer that says anything about a setting decides it. The order of the variables does not matter,
and the name of the kind of run does nothing but pick the second file. -/
theorem highest_layer_decides (first : folder.layer "config/default" = .ok general)
    (second : folder.layer ("config/" ++ runMode env) = .ok special) (ordinaryGeneral : Ordinary general)
    (ordinarySpecial : Ordinary special) (known : Environment.Known env) (apart : Environment.Apart env)
    (accepted : ∀ key : Key, key.Accepts (decided env special general key)) :
    (∃ settings, load env folder = .ok settings ∧
      ∀ key, settings.shown key = (decided env special general key).asText) ∧
    (∀ other, env.Perm other → load other folder = load env folder) ∧
    ∀ other elsewhere, (env.filter Environment.isSetting).Perm (other.filter Environment.isSetting) →
      elsewhere.layer "config/default" = .ok general →
      elsewhere.layer ("config/" ++ runMode other) = .ok special →
      load other elsewhere = load env folder := by
  have run := load_eq first second ordinaryGeneral ordinarySpecial known
  have anywhere : ∀ other elsewhere,
      (env.filter Environment.isSetting).Perm (other.filter Environment.isSetting) →
      elsewhere.layer "config/default" = .ok general →
      elsewhere.layer ("config/" ++ runMode other) = .ok special → load other elsewhere = load env folder := by
    intro other elsewhere perm generalThere specialThere
    have same : decided other special general = decided env special general := by
      funext key
      rw [decided, decided, Environment.said?_perm apart perm]
    rw [load_eq generalThere specialThere ordinaryGeneral ordinarySpecial (known.perm perm), same, run]
  refine ⟨run ▸ ofScalars_eq_ok accepted, fun other perm => ?_, anywhere⟩
  exact anywhere other folder (perm.filter _) first ((apart.runMode_perm perm).symm ▸ second)

theorem highest_layer_decides_between_four :
    let folder := Folder.ofFiles [
      ("config/default.toml",
        "environment = \"staging\"\nother = 1\n[page]\nurl = \"http://a/\"\nsuffix = \"a\"\n"),
      ("config/production.toml", "page.suffix = \"b\"\n[connection]\nurl_mode = \"parsed\"\n")]
    let env :=
      [("APP_PAGE__URL", "http://[::1]/"), ("RUN_MODE", "production"), ("app_ui__element_ids", "short")]
    (∃ settings, load env folder = .ok settings ∧ Key.all.map settings.shown =
      ["staging", "http://[::1]/", "b", "otdb", "parsed", "short", "info"]) ∧
    load env.reverse folder = load env folder := by
  intro folder env
  let general := (folder.layer "config/default").toOption.getD []
  let special := (folder.layer ("config/" ++ runMode env)).toOption.getD []
  have first : folder.layer "config/default" = .ok general :=
    Except.eq_ok_getD [] (by decide +kernel +zetaReduce)
  have second : folder.layer ("config/" ++ runMode env) = .ok special :=
    Except.eq_ok_getD [] (by decide +kernel +zetaReduce)
  have ordinaryGeneral : Ordinary general := by decide +kernel +zetaReduce
  have ordinarySpecial : Ordinary special := by decide +kernel +zetaReduce
  have known : Environment.Known env := by decide +kernel +zetaReduce
  have apart : Environment.Apart env := by decide +kernel +zetaReduce
  have mode : decided env special general .mode = .text "parsed" := by decide +kernel +zetaReduce
  have scheme : decided env special general .scheme = .text "short" := by decide +kernel +zetaReduce
  have accepted (key : Key) : key.Accepts (decided env special general key) := by
    cases key with
    | mode => exact ⟨.parsed, mode⟩
    | scheme => exact ⟨.short, scheme⟩
    | _ => trivial
  obtain ⟨⟨settings, run, shown⟩, anyOrder, -⟩ :=
    highest_layer_decides first second ordinaryGeneral ordinarySpecial known apart accepted
  refine ⟨⟨settings, run, ?_⟩, anyOrder _ (List.reverse_perm env).symm⟩
  rw [List.map_congr_left fun key _ => shown key]
  decide +kernel +zetaReduce

end Settings

end RelayConsole
