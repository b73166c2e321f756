import RelayConsole.Proofs.Endpoint.Parsing
import RelayConsole.Proofs.Endpoint.Suffix

namespace RelayConsole

theorem Url.read_carrier_scheme {scheme body : List Char} (carrier : scheme ∈ carriers) {url : Url}
    (run : read (scheme ++ "://".toList ++ body) = .ok url) : url.scheme = scheme := by
  rw [read_carrier carrier] at run
  obtain ⟨authority, _, rfl⟩ := readWeb_ok run
  rfl

/-- By offset the scheme of the socket is told from the first letters of the page as they stand. -/
theorem Endpoint.parity_scheme {page suffix : List Char} {url : Url} (made : derive .parity page suffix = .ok url) :
    url.scheme = socketScheme page := by
  rw [parity_eq_ok, byOffset, List.append_assoc] at made
  exact Url.read_carrier_scheme (socketScheme_carrier page) made

/-- In parsed mode it is the counterpart of the scheme that the page was read with. -/
theorem Endpoint.parsed_scheme {page suffix : List Char} {home url : Url} (run : Url.read page = .ok home)
    (made : derive .parsed page suffix = .ok url) : schemeFor? home.scheme = some url.scheme := by
  cases fit : schemeFor? home.scheme with
  | none =>
    rw [derive, byParsing_unfit run fit] at made
    cases made
  | some socket =>
    obtain ⟨web, carrier, _⟩ := schemeFor?_web fit
    obtain ⟨⟨host, named⟩, _⟩ := Url.host_of_web run web
    simp only [derive, byParsing, run, fit, named, Except.mapError_eq_ok, compose, List.append_assoc] at made
    rw [← List.append_assoc] at made
    rw [Url.read_carrier_scheme carrier made]

/-- Characters in front that belong to no margin stay where they are. -/
theorem Url.clean_solid_append {front : List Char} (nonempty : front ≠ [])
    (solid : ∀ c ∈ front, isMargin c = false) (back : List Char) :
    clean (front ++ back) = front ++ cleanEnd back := by
  have whole : front.dropLast ++ [front.getLast nonempty] = front := List.dropLast_concat_getLast nonempty
  have last : isMargin (front.getLast nonempty) = false := solid _ (List.getLast_mem nonempty)
  have kept : front.dropLast.filter (!isIgnored ·) = front.dropLast := by
    refine List.filter_eq_self.mpr fun c member => ?_
    rw [not_ignored_of_solid (solid c ((List.dropLast_sublist front).subset member))]
    rfl
  obtain ⟨first, rest, begins⟩ := List.exists_cons_of_ne_nil nonempty
  have head : isMargin first = false := solid first (begins ▸ List.mem_cons_self)
  have cut : front ++ back = front.dropLast ++ front.getLast nonempty :: back := by
    rw [← List.singleton_append, ← List.append_assoc, whole]
  have trimmed : clean (front ++ back) = cleanEnd (front ++ back) := by
    rw [begins, List.cons_append, clean_cons head]
  rw [trimmed, cut, cleanEnd_solid_append last, kept, ← List.singleton_append, ← List.append_assoc, whole]

theorem Url.cutScheme?_eq {text scheme rest : List Char} (cut : cutScheme? text = some (scheme, rest)) :
    scheme = Text.lower (text.takeWhile isSchemeChar) := by
  unfold cutScheme? at cut
  dsimp only at cut
  split at cut
  · rw [Option.ite_none_right_eq_some, Option.some.injEq, Prod.mk.injEq] at cut
    exact cut.2.1.symm
  · cases cut

/-- A page that has the letters of the secure scheme in front is no plain page. -/
theorem Endpoint.not_plain_of_spelled {page : List Char} {home : Url} (run : Url.read page = .ok home)
    (spelled : "https".toList <+: page) : home.scheme ≠ "http".toList := by
  obtain ⟨back, rfl⟩ := spelled
  obtain ⟨rest, cut⟩ := Url.read_scheme run
  have solid : "https".toList.all (!Url.isMargin ·) = true := by decide
  have letters : "https".toList.all Url.isSchemeChar = true := by decide
  have text : Url.clean ("https".toList ++ back) = "https".toList ++ Url.cleanEnd back :=
    Url.clean_solid_append (by decide)
      (fun c member => Bool.not_eq_eq_eq_not.mp (List.all_eq_true.mp solid c member)) back
  have named := Url.cutScheme?_eq cut
  rw [text, List.takeWhile_append_of_pos (List.all_eq_true.mp letters), Text.lower, List.map_append] at named
  intro plain
  have lengths := congrArg List.length (named.symm.trans plain)
  rw [List.length_append, List.length_map] at lengths
  change 5 + _ = 4 at lengths
  omega

/-- A secure page is spelled so unless a capital, a blank or a control is among its first characters. -/
theorem Endpoint.spelled_of_ordinary {page : List Char} {home : Url} (run : Url.read page = .ok home)
    (secure : home.scheme = "https".toList)
    (ordinary : ∀ c ∈ page.take 5, Url.isMargin c = false ∧ c.isUpper = false) : "https".toList <+: page := by
  obtain ⟨rest, cut⟩ := Url.read_scheme run
  have named := (Url.cutScheme?_eq cut).symm.trans secure
  have begins : (Url.clean page).takeWhile Url.isSchemeChar <+: Url.clean page := List.takeWhile_prefix _
  generalize (Url.clean page).takeWhile Url.isSchemeChar = letters at named begins
  have five : letters.length = 5 := by
    have lengths := congrArg List.length named
    rwa [Text.lower, List.length_map] at lengths
  have nonempty : page.take 5 ≠ [] := by
    intro empty
    rcases List.take_eq_nil_iff.mp empty with zero | rfl
    · cases zero
    · rw [List.prefix_nil.mp begins] at five
      cases five
  have text : Url.clean page = page.take 5 ++ Url.cleanEnd (page.drop 5) := by
    rw [← Url.clean_solid_append nonempty (fun c member => (ordinary c member).1), List.take_append_drop]
  have front : page.take 5 <+: letters :=
    List.prefix_of_prefix_length_le (text ▸ List.prefix_append _ _) begins (by rw [five]; exact List.length_take_le 5 page)
  have whole : page.take 5 = letters := by
    refine front.eq_of_length ?_
    by_cases long : 5 ≤ page.length
    · rw [five, List.length_take_of_le long]
    · have short : page.drop 5 = [] := List.drop_eq_nil_of_le (by omega)
      rw [text, short] at begins
      change letters <+: page.take 5 ++ [] at begins
      rw [List.append_nil] at begins
      exact Nat.le_antisymm front.length_le begins.length_le
  have small : Text.lower (page.take 5) = page.take 5 := by
    refine (List.map_congr_left fun c member => ?_).trans (List.map_id _)
    exact dif_neg (of_decide_eq_false (ordinary c member).2)
  rw [← named, ← whole, small]
  exact List.take_prefix 5 page

/-- A plain page never gets a secure socket. A secure page gets one in parsed mode, and by offset exactly if its
scheme is spelled out; every other spelling that can be read is downgraded, and has a capital, a blank or a control
among its first five characters. -/
theorem Endpoint.downgrades_only_odd_spellings_by_offset {mode : Endpoint.Mode} {page suffix : List Char}
    {home url : Url} (run : Url.read page = .ok home) (made : derive mode page suffix = .ok url) :
    (home.scheme = "http".toList → url.scheme = "ws".toList) ∧
      (home.scheme = "https".toList →
        (mode = .parsed ∨ "https".toList <+: page → url.scheme = "wss".toList) ∧
        (mode = .parity → ¬ "https".toList <+: page → url.scheme = "ws".toList) ∧
        ((∀ c ∈ page.take 5, Url.isMargin c = false ∧ c.isUpper = false) → "https".toList <+: page)) := by
  cases mode with
  | parsed =>
    have fit := schemeFor?_eq_some.mp (parsed_scheme run made)
    refine ⟨fun plain => ?_, fun secure => ⟨fun _ => ?_, nofun, spelled_of_ordinary run secure⟩⟩
    · rcases fit with ⟨secure, _⟩ | ⟨_, socket⟩
      · exact absurd (plain.symm.trans secure) (by decide)
      · exact socket
    · rcases fit with ⟨_, socket⟩ | ⟨plain, _⟩
      · exact socket
      · exact absurd (plain.symm.trans secure) (by decide)
  | parity =>
    have scheme := (parity_scheme made).trans (socketScheme_eq page)
    refine ⟨fun plain => ?_, fun secure => ⟨fun spelled => ?_, fun _ odd => ?_, spelled_of_ordinary run secure⟩⟩
    · rw [scheme, if_neg fun spelled => not_plain_of_spelled run spelled plain]
    · rcases spelled with other | spelled
      · cases other
      · rw [scheme, if_pos spelled]
    · rw [scheme, if_neg odd]

theorem Endpoint.downgrades_a_page_with_a_tab_in_its_scheme :
    let page := "http\ts:[::1]/index.html".toList
    let spelled := "https://\t[::1]/index.html".toList
    let plain := "HTTP:\\\\[::1]/index.html".toList
    let home : Url :=
      ⟨"https".toList, [], [], some (.ipv6 [0, 0, 0, 0, 0, 0, 0, 1]), none, .segments ["index.html".toList], none, none⟩
    Url.read page = .ok home ∧ Url.read spelled = .ok home ∧ Url.read plain = .ok { home with scheme := "http".toList } ∧
      (∃ url, derive .parity page "x".toList = .ok url ∧ url.scheme = "ws".toList) ∧
      (∃ url, derive .parsed page "x".toList = .ok url ∧ url.scheme = "wss".toList) ∧
      (∃ url, derive .parity spelled "x".toList = .ok url ∧ url.scheme = "wss".toList) ∧
      ∃ url, derive .parsed plain "x".toList = .ok url ∧ url.scheme = "ws".toList := by
  intro page spelled plain home
  have run : Url.read page = .ok home := by rfl
  have spelledRun : Url.read spelled = .ok home := by rfl
  have plainRun : Url.read plain = .ok { home with scheme := "http".toList } := by rfl
  have byOffset : derive .parity page "x".toList =
      .ok { home with scheme := "ws".toList, path := .segments ["x".toList] } := by rfl
  have byParsing : derive .parsed page "x".toList =
      .ok { home with scheme := "wss".toList, path := .segments ["x".toList] } := by rfl
  have spelledMade : derive .parity spelled "x".toList =
      .ok { home with scheme := "wss".toList, path := .segments ["x".toList] } := by rfl
  have plainMade : derive .parsed plain "x".toList =
      .ok { home with scheme := "ws".toList, path := .segments ["x".toList] } := by rfl
  refine ⟨run, spelledRun, plainRun, ⟨_, byOffset, ?_⟩, ⟨_, byParsing, ?_⟩, ⟨_, spelledMade, ?_⟩,
    ⟨_, plainMade, ?_⟩⟩
  · exact ((downgrades_only_odd_spellings_by_offset run byOffset).2 rfl).2.1 rfl (by decide +kernel +zetaReduce)
  · exact ((downgrades_only_odd_spellings_by_offset run byParsing).2 rfl).1 (Or.inl rfl)
  · exact ((downgrades_only_odd_spellings_by_offset spelledRun spelledMade).2 rfl).1
      (Or.inr (by decide +kernel +zetaReduce))
  · exact (downgrades_only_odd_spellings_by_offset plainRun plainMade).1 rfl

/-- Not every secure page has a secure socket: by offset a tab within the scheme, which the reader ignores,
is enough to connect to the page's own host in the clear. -/
theorem Endpoint.secure_page_has_a_plain_socket :
    ∃ home url, Url.read "http\ts:[::1]/index.html".toList = .ok home ∧ home.scheme = "https".toList ∧
      derive .parity "http\ts:[::1]/index.html".toList [] = .ok url ∧ url.scheme ≠ "wss".toList ∧
      url.host = home.host := by
  have run : Url.read "http\ts:[::1]/index.html".toList =
      .ok ⟨"https".toList, [], [], some (.ipv6 [0, 0, 0, 0, 0, 0, 0, 1]), none, .segments ["index.html".toList], none,
        none⟩ := by
    rfl
  have made : derive .parity "http\ts:[::1]/index.html".toList [] =
      .ok ⟨"ws".toList, [], [], some (.ipv6 [0, 0, 0, 0, 0, 0, 0, 1]), none, .segments [[]], none, none⟩ := by
    rfl
  exact ⟨_, _, run, rfl, made, by decide, rfl⟩

end RelayConsole
