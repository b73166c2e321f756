import RelayConsole.Proofs.Settings.Precedence
import RelayConsole.Proofs.Text.Digits

namespace RelayConsole.Settings

/-- What a value that a variable has becomes as a text: it is read as what it can be, and printed. -/
def Environment.printed (text : String) : String :=
  (scalar text).asText

/-- The settings that can be any text. -/
def Key.IsFree (key : Key) : Prop :=
  key ≠ .mode ∧ key ≠ .scheme

instance (key : Key) : Decidable key.IsFree :=
  inferInstanceAs (Decidable (_ ∧ _))

theorem Key.IsFree.accepts {key : Key} (free : key.IsFree) (value : Scalar) : key.Accepts value := by
  cases key with
  | mode => exact absurd rfl free.1
  | scheme => exact absurd rfl free.2
  | _ => trivial

theorem Environment.printed_of_text {text : String} (plain : ∃ other, scalar text = .text other) :
    printed text = text := by
  obtain ⟨other, read⟩ := plain
  have same : other = text := by
    rw [scalar] at read
    repeat' split at read
    all_goals cases read
    rfl
  rw [printed, read, same]
  rfl

theorem Environment.printed_toString {value : Int} (fits : Numeral.fits value) :
    printed (toString value) = toString value := by
  have word (letters : List Char) (lettered : 'e' ∈ letters) :
      Text.lower (toString value).toList ≠ letters := by
    rintro rfl
    obtain ⟨c, member, lowered⟩ := List.mem_map.mp lettered
    have digits : ∀ d < 10, (Nat.digitChar d).toLower ≠ 'e' := by decide
    rcases Numeral.mem_toString member with rfl | ⟨d, small, rfl⟩
    · exact absurd lowered (by decide)
    · exact digits d small lowered
  have read : (Numeral.integer? (toString value).toList).filter Numeral.fits = some value := by
    rw [Numeral.integer?_toString, Option.filter_some, if_pos fits]
  rw [printed, scalar]
  simp only [if_neg (word "true".toList (by decide)), if_neg (word "false".toList (by decide)), read]
  rfl

/-- The same values but for one setting. -/
def telling (told : Key → Scalar) (key : Key) (value : Scalar) (other : Key) : Scalar :=
  if other = key then value else told other

section Telling

variable {told : Key → Scalar} {key : Key} {first second : Scalar}

theorem telling_self : telling told key first key = first :=
  if_pos rfl

/-- A free setting counts by its text only. -/
theorem ofScalars_telling (free : key.IsFree) (same : first.asText = second.asText) :
    ofScalars (telling told key first) = ofScalars (telling told key second) := by
  have texts (other : Key) : (telling told key first other).asText = (telling told key second other).asText := by
    simp only [telling]
    split
    · exact same
    · rfl
  have mode : telling told key first .mode = telling told key second .mode := by
    rw [telling, telling, if_neg (Ne.symm free.1), if_neg (Ne.symm free.1)]
  have scheme : telling told key first .scheme = telling told key second .scheme := by
    rw [telling, telling, if_neg (Ne.symm free.2), if_neg (Ne.symm free.2)]
  simp only [ofScalars, texts, mode, scheme]

theorem shown_of_ofScalars {settings : Settings} (run : ofScalars told = .ok settings) (free : key.IsFree) :
    settings.shown key = (told key).asText := by
  obtain ⟨mode, -, run⟩ := Except.bind_eq_ok.mp run
  obtain ⟨scheme, -, run⟩ := Except.bind_eq_ok.mp run
  cases run
  cases key with
  | mode => exact absurd rfl free.1
  | scheme => exact absurd rfl free.2
  | _ => rfl

/-- Another value makes the same settings exactly if it has the same text. -/
theorem ofScalars_telling_eq_ok (free : key.IsFree) (accepted : ∀ other : Key, other.Accepts (told other)) :
    ∃ settings, ofScalars (telling told key first) = .ok settings ∧ settings.shown key = first.asText ∧
      (ofScalars (telling told key second) = .ok settings ↔ second.asText = first.asText) := by
  have stillAccepted (other : Key) : other.Accepts (telling told key first other) := by
    rw [telling]
    split
    · rename_i here
      exact here ▸ free.accepts first
    · exact accepted other
  obtain ⟨settings, run, shown⟩ := ofScalars_eq_ok stillAccepted
  have here : settings.shown key = first.asText := by rw [shown key, telling_self]
  refine ⟨settings, run, here, fun other => ?_, fun same => (ofScalars_telling free same).trans run⟩
  have there := shown_of_ofScalars other free
  rw [telling_self] at there
  exact there.symm.trans here

end Telling

section Routes

variable {before after : List (String × String)} {name text : String} {key : Key}

theorem Environment.told_insert (named : Key.named? name = some key) :
    told (before ++ (name, text) :: after) = told before ++ (key, scalar text) :: told after := by
  simp only [told, List.filterMap_append, List.filterMap_cons, named, Option.map_some]

/-- A variable more says its setting and nothing else. -/
theorem Environment.said?_insert (named : Key.named? name = some key)
    (unset : said? (before ++ after) key = none) (other : Key) :
    said? (before ++ (name, text) :: after) other =
      if other = key then some (scalar text) else said? (before ++ after) other := by
  have split : told (before ++ after) = told before ++ told after := List.filterMap_append
  rw [said?, split, List.reverse_append, List.lookup_append, Option.or_eq_none_iff] at unset
  rw [said?, said?, told_insert named, split, List.reverse_append, List.reverse_append, List.reverse_cons,
    List.lookup_append, List.lookup_append, List.lookup_append]
  by_cases here : other = key
  · rw [if_pos here, here, unset.1, unset.2]
    simp only [List.lookup_cons, beq_self_eq_true, Option.none_or, Option.or_none]
  · have apart : (other == key) = false := beq_eq_false_iff_ne.mpr here
    rw [if_neg here]
    simp only [List.lookup_cons, apart, List.lookup_nil, Option.or_none]

theorem Environment.Known.insert (known : Known (before ++ after)) (named : Key.named? name = some key) :
    Known (before ++ (name, text) :: after) := by
  intro assigned member about
  rcases List.mem_append.mp member with earlier | later
  · exact known assigned (List.mem_append_left _ earlier) about
  · rcases List.mem_cons.mp later with rfl | later
    · exact congrArg Option.isSome named
    · exact known assigned (List.mem_append_right _ later) about

theorem runMode_insert (named : Key.named? name = some key) :
    runMode (before ++ (name, text) :: after) = runMode (before ++ after) := by
  have apart : ("RUN_MODE" == name) = false := by
    refine beq_eq_false_iff_ne.mpr fun same => ?_
    rw [← same] at named
    exact absurd named (by cases key <;> decide +kernel)
  rw [runMode, runMode, List.lookup_append, List.lookup_append, List.lookup_cons, apart]

variable {general special written : List (String × Tree)} {folder elsewhere : Folder} {value : String}

theorem decided_insert (named : Key.named? name = some key)
    (unset : Environment.said? (before ++ after) key = none) :
    decided (before ++ (name, text) :: after) special general =
      telling (decided (before ++ after) special general) key (Environment.scalar text) := by
  funext other
  rw [decided, Environment.said?_insert named unset, telling, decided]
  split <;> rfl

/-- A file more says its setting where no variable does. -/
theorem decided_written (unset : Environment.said? (before ++ after) key = none)
    (tells : (Tree.table written none).said? key.path = some (.text value))
    (others : ∀ other ≠ key,
      (Tree.table written none).said? other.path = (Tree.table special none).said? other.path) :
    decided (before ++ after) written general =
      telling (decided (before ++ after) special general) key (.text value) := by
  funext other
  by_cases here : other = key
  · rw [here, telling_self, decided, unset, tells]
    rfl
  · rw [telling, if_neg here, decided, others other here, decided]

/-- A variable sets a setting to what its value is printed as, and so does a file with that as a text. -/
theorem variable_sets_what_is_printed (named : Key.named? name = some key) (free : key.IsFree)
    (known : Environment.Known (before ++ after)) (unset : Environment.said? (before ++ after) key = none)
    (ordinaryGeneral : Ordinary general) (ordinarySpecial : Ordinary special)
    (ordinaryWritten : Ordinary written) (first : folder.layer "config/default" = .ok general)
    (second : folder.layer ("config/" ++ runMode (before ++ after)) = .ok special)
    (firstThere : elsewhere.layer "config/default" = .ok general)
    (secondThere : elsewhere.layer ("config/" ++ runMode (before ++ after)) = .ok written)
    (tells : (Tree.table written none).said? key.path = some (.text value))
    (others : ∀ other ≠ key,
      (Tree.table written none).said? other.path = (Tree.table special none).said? other.path) :
    (value = Environment.printed text →
      load (before ++ (name, text) :: after) folder = load (before ++ after) elsewhere) ∧
    ((∀ other : Key, other.Accepts (decided (before ++ after) special general other)) →
      ∃ settings, load (before ++ (name, text) :: after) folder = .ok settings ∧
        settings.shown key = Environment.printed text ∧
        (load (before ++ after) elsewhere = .ok settings ↔ value = Environment.printed text)) ∧
    ((∃ other, Environment.scalar text = .text other) ∨ text = "true" ∨ text = "false" ∨
        (∃ number, Numeral.fits number ∧ text = toString number) →
      Environment.printed text = text) := by
  have byVariable : load (before ++ (name, text) :: after) folder =
      ofScalars (telling (decided (before ++ after) special general) key (Environment.scalar text)) := by
    rw [← decided_insert named unset]
    exact load_eq first ((runMode_insert named).symm ▸ second) ordinaryGeneral ordinarySpecial (known.insert named)
  have byFile : load (before ++ after) elsewhere =
      ofScalars (telling (decided (before ++ after) special general) key (.text value)) := by
    rw [← decided_written unset tells others]
    exact load_eq firstThere secondThere ordinaryGeneral ordinaryWritten known
  rw [byVariable, byFile]
  refine ⟨fun same => ofScalars_telling free same.symm, ofScalars_telling_eq_ok free, ?_⟩
  rintro (plain | rfl | rfl | ⟨number, fits, rfl⟩)
  · exact Environment.printed_of_text plain
  · rfl
  · rfl
  · exact Environment.printed_toString fits

theorem variable_sets_what_a_number_is_printed_as :
    let folder := Folder.ofFiles [("config/production.toml", "[page]\nurl = \"http://[::1]/\"\n")]
    let elsewhere := Folder.ofFiles
      [("config/production.toml", "[page]\nurl = \"http://[::1]/\"\nsuffix = \"7\"\n")]
    let env := [("RUN_MODE", "production"), ("APP_UI__ELEMENT_IDS", "short")]
    load (("app_page__suffix", "007") :: env) folder = load env elsewhere ∧
      (load (("app_page__suffix", "007") :: env) folder).toOption.map (·.suffix) = some "7" := by
  intro folder elsewhere env
  let special := (folder.layer "config/production").toOption.getD []
  let written := (elsewhere.layer "config/production").toOption.getD []
  have first : folder.layer "config/default" = .ok [] := Folder.layer_absent (by decide +kernel +zetaReduce)
  have second : folder.layer "config/production" = .ok special :=
    Except.eq_ok_getD [] (by decide +kernel +zetaReduce)
  have firstThere : elsewhere.layer "config/default" = .ok [] :=
    Folder.layer_absent (by decide +kernel +zetaReduce)
  have secondThere : elsewhere.layer "config/production" = .ok written :=
    Except.eq_ok_getD [] (by decide +kernel +zetaReduce)
  have others : ∀ other ∈ Key.all, other ≠ .suffix →
      (Tree.table written none).said? other.path = (Tree.table special none).said? other.path := by
    decide +kernel +zetaReduce
  have named : Key.named? "app_page__suffix" = some .suffix := by decide +kernel
  have known : Environment.Known ([] ++ env) := by decide +kernel +zetaReduce
  have unset : Environment.said? ([] ++ env) .suffix = none := by decide +kernel +zetaReduce
  have ordinarySpecial : Ordinary special := by decide +kernel +zetaReduce
  have ordinaryWritten : Ordinary written := by decide +kernel +zetaReduce
  have tells : (Tree.table written none).said? Key.suffix.path = some (.text "7") := by
    decide +kernel +zetaReduce
  have printed : "7" = Environment.printed "007" := by decide +kernel
  obtain ⟨agree, -, -⟩ := variable_sets_what_is_printed named (by decide) known unset (by decide)
    ordinarySpecial ordinaryWritten first second firstThere secondThere tells fun other =>
      others other other.mem_all
  exact ⟨agree printed, by decide +kernel +zetaReduce⟩

/-- Leading zeros are lost on the way through a variable, and only there. -/
theorem variable_loses_leading_zeros :
    let elsewhere := Folder.ofFiles [("config/development.toml", "[page]\nsuffix = \"007\"\n")]
    (load [("APP_PAGE__SUFFIX", "007")] (Folder.ofFiles [])).toOption.map (·.suffix) = some "7" ∧
      (load [] elsewhere).toOption.map (·.suffix) = some "007" := by
  decide +kernel

end Routes

end RelayConsole.Settings
