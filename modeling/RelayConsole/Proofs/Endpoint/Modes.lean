import RelayConsole.Proofs.Endpoint.Offset

namespace RelayConsole

/-- An ordinary authority has no controls or spaces, nothing that ends it, and no user. -/
def Url.IsOrdinary (authority : List Char) : Prop :=
  ∀ c ∈ authority, 0x20 < c.toNat ∧ c ∉ ['/', '\\', '?', '#', '@']

instance (authority : List Char) : Decidable (Url.IsOrdinary authority) :=
  List.decidableBAll _ _

theorem Url.IsOrdinary.clear {authority : List Char} (ordinary : IsOrdinary authority) {c : Char}
    (member : c ∈ authority) :
    isMargin c = false ∧ isIgnored c = false ∧ endsAuthority true c = false ∧ c ≠ '/' ∧ c ≠ '@' := by
  obtain ⟨visible, apart⟩ := ordinary c member
  simp only [List.mem_cons, List.not_mem_nil, or_false, not_or] at apart
  obtain ⟨slash, backslash, question, hash, user⟩ := apart
  have unseen {d : Char} (low : d.toNat ≤ 0x20) : c ≠ d := by
    rintro rfl
    omega
  refine ⟨decide_eq_false (by omega), ?_, ?_, slash, user⟩
  · simp only [isIgnored, unseen (d := '\t') (by decide), unseen (d := '\n') (by decide),
      unseen (d := '\r') (by decide), decide_false, Bool.or_self]
  · simp only [endsAuthority, isSlash, slash, backslash, question, hash, decide_false, Bool.and_false,
      Bool.or_self]

theorem Url.cleanEnd_solid {text : List Char} (solid : ∀ c ∈ text, isMargin c = false ∧ isIgnored c = false) :
    cleanEnd text = text := by
  have untrimmed : text.reverse.dropWhile isMargin = text.reverse := by
    cases reversed : text.reverse with
    | nil => rfl
    | cons c rest =>
      have member : c ∈ text := List.mem_reverse.mp (by rw [reversed]; exact List.mem_cons_self)
      exact List.dropWhile_cons_of_neg (by rw [(solid c member).1]; decide)
  rw [cleanEnd, untrimmed, List.reverse_reverse]
  exact List.filter_eq_self.mpr fun c member => by rw [(solid c member).2]; rfl

/-- A page with an ordinary authority is read as that, whatever path follows. -/
theorem Url.read_ordinary {scheme authority tail : List Char} (carrier : scheme ∈ carriers)
    (nonempty : authority ≠ []) (ordinary : IsOrdinary authority)
    (path : tail = [] ∨ ∃ rest, tail = '/' :: rest) :
    ∃ rest, Url.read (scheme ++ "://".toList ++ authority ++ tail) =
      (Authority.read scheme authority).map fun read => assemble scheme true read rest := by
  have clear (c : Char) (member : c ∈ authority) := ordinary.clear member
  rcases path with rfl | ⟨rest, rfl⟩
  · obtain ⟨whole, nothing⟩ := placeOf_plain fun c member => (clear c member).2.2.1
    refine ⟨[], ?_⟩
    rw [List.append_nil, read_carrier carrier, readWeb_eq,
      cleanEnd_solid fun c member => ⟨(clear c member).1, (clear c member).2.1⟩, whole, nothing]
  · exact ⟨'/' :: cleanEnd rest, read_carrier_clear carrier nonempty
      (fun c member => ⟨(clear c member).2.2.1, (clear c member).2.1⟩) rest⟩

/-- Of an ordinary page the fixed offset leaves exactly the authority. -/
theorem Endpoint.byOffset_ordinary {scheme socket authority tail : List Char}
    (fit : schemeFor? scheme = some socket) (ordinary : Url.IsOrdinary authority)
    (path : tail = [] ∨ ∃ rest, tail = '/' :: rest) (suffix : List Char) :
    byOffset (scheme ++ "://".toList ++ authority ++ tail) suffix =
      socket ++ "://".toList ++ authority ++ '/' :: suffix :=
  byOffset_web fit (fun member => (ordinary.clear member).2.2.2.1 rfl) path suffix

/-- Both modes agree on ordinary pages: with a lower-case web scheme, an authority without user, and a path if
anything, and with a suffix that no slash begins, either both give the same socket address or neither gives
one. -/
theorem Endpoint.modes_agree_on_ordinary_pages {scheme authority tail suffix : List Char}
    (web : scheme = "http".toList ∨ scheme = "https".toList) (nonempty : authority ≠ [])
    (ordinary : Url.IsOrdinary authority) (path : tail = [] ∨ ∃ rest, tail = '/' :: rest)
    (relative : ∀ rest, suffix ≠ '/' :: rest)
    (back : Url.HostReadsBack (scheme ++ "://".toList ++ authority ++ tail)) :
    (derive .parity (scheme ++ "://".toList ++ authority ++ tail) suffix).toOption =
      (derive .parsed (scheme ++ "://".toList ++ authority ++ tail) suffix).toOption := by
  obtain ⟨socket, fit⟩ := exists_schemeFor?.mpr web
  have carrier : scheme ∈ Url.carriers := by
    rcases web with rfl | rfl <;> decide
  obtain ⟨_, socketCarrier, ports⟩ := schemeFor?_web fit
  have clear (c : Char) (member : c ∈ authority) := ordinary.clear member
  obtain ⟨rest, page⟩ := Url.read_ordinary carrier nonempty ordinary path
  have parity : Url.read (byOffset (scheme ++ "://".toList ++ authority ++ tail) suffix) =
      (Url.Authority.read scheme authority).map fun read =>
        Url.assemble socket true read ('/' :: Url.cleanEnd suffix) := by
    rw [byOffset_ordinary fit ordinary path, Url.read_carrier_clear socketCarrier nonempty
      (fun c member => ⟨(clear c member).2.2.1, (clear c member).2.1⟩), Url.Authority.read_congr ports]
  cases read : Url.Authority.read scheme authority with
  | error cause =>
    rw [read] at page parity
    simp only [derive, parity, byParsing_unreadable page]
    rfl
  | ok found =>
    rw [read] at page parity
    obtain ⟨host, named, _, all⟩ := byParsing_web back page fit
    have parts : found = ⟨[], [], host, found.port⟩ := by
      rw [← Option.some.inj named]
      exact Url.Authority.read_anonymous (fun member => (clear '@' member).2.2.2.2 rfl) read
    have head : suffix.dropWhile (· = '/') = suffix := by
      cases suffix with
      | nil => rfl
      | cons c others =>
        have apart : c ≠ '/' := fun slash => relative others (by rw [slash])
        exact List.dropWhile_cons_of_neg (by rw [decide_eq_false apart]; decide)
    have same : target socket host found.port suffix =
        Url.assemble socket true found ('/' :: Url.cleanEnd suffix) := by
      rw [target, head, ← parts]
    simp only [derive, parity, all]
    exact congrArg some same.symm

theorem Endpoint.modes_agree_on_default_and_impossible_port :
    let authority := "[2001:DB8::1]:00443".toList
    let page := "https".toList ++ "://".toList ++ authority ++ "/path?query".toList
    let impossible := "http".toList ++ "://".toList ++ "[::1]:65536".toList ++ []
    let suffix := "\\@evil.example".toList
    Url.HostReadsBack page ∧ (derive .parity page suffix).toOption = (derive .parsed page suffix).toOption ∧
      (derive .parity page suffix).toOption.map Url.text = some "wss://[2001:db8::1]//@evil.example".toList ∧
      Url.HostReadsBack impossible ∧
      (derive .parity impossible suffix).toOption = (derive .parsed impossible suffix).toOption ∧
      (derive .parity impossible suffix).toOption = none := by
  intro authority page impossible suffix
  have run : Url.read page =
      .ok ⟨"https".toList, [], [], some (.ipv6 [0x2001, 0xDB8, 0, 0, 0, 0, 0, 1]), none,
        .segments ["path".toList], some "query".toList, none⟩ := by rfl
  have back : Url.HostReadsBack page := by
    intro found host foundRun _ named
    obtain rfl := Except.ok.inj (run.symm.trans foundRun)
    obtain rfl := Option.some.inj named
    rfl
  have unread : Url.read impossible = .error .invalidPort := by rfl
  have vacuous : Url.HostReadsBack impossible := by
    intro found host foundRun
    cases unread.symm.trans foundRun
  have relative (rest : List Char) : suffix ≠ '/' :: rest :=
    fun same => absurd (List.cons.inj same).1 (by decide)
  have agree : (derive .parity page suffix).toOption = (derive .parsed page suffix).toOption :=
    modes_agree_on_ordinary_pages (Or.inr rfl) (by decide) (by decide) (Or.inr ⟨_, rfl⟩) relative back
  have refuse : (derive .parity impossible suffix).toOption = (derive .parsed impossible suffix).toOption :=
    modes_agree_on_ordinary_pages (Or.inl rfl) (by decide) (by decide) (Or.inl rfl) relative vacuous
  refine ⟨back, agree, ?_, vacuous, refuse, ?_⟩
  · decide +kernel +zetaReduce
  · decide +kernel +zetaReduce

end RelayConsole
