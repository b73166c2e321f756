import RelayConsole.Endpoint
import RelayConsole.Proofs.Url.Reading

namespace RelayConsole

theorem Endpoint.socketScheme_eq (page : List Char) :
    socketScheme page = if "https".toList <+: page then "wss".toList else "ws".toList := by
  unfold socketScheme
  simp only [List.isPrefixOf_iff_prefix]

theorem Endpoint.socketScheme_carrier (page : List Char) : socketScheme page ∈ Url.carriers := by
  unfold socketScheme
  split <;> decide

/-- Between its scheme and its next slash the page address has more than what reading skips. -/
def Endpoint.NamesHost (page : List Char) : Prop :=
  ∃ c ∈ hostByOffset page, Url.isIgnored c = false ∧ Url.isSlash true c = false

instance (page : List Char) : Decidable (Endpoint.NamesHost page) :=
  List.decidableBEx _ _

/-- The authority in what stands between the page's scheme and its next slash. -/
def Endpoint.authorityByOffset (page : List Char) : List Char :=
  Url.placeOf ((hostByOffset page).filter (!Url.isIgnored ·))

/-- The authority is read from the page address alone, and what follows it never makes reading fail. -/
theorem Endpoint.read_byOffset {page : List Char} (names : NamesHost page) (suffix : List Char) :
    ∃ tail, Url.read (byOffset page suffix) =
      (Url.Authority.read (socketScheme page) (authorityByOffset page)).map fun authority =>
        Url.assemble (socketScheme page) true authority tail := by
  rw [byOffset]
  exact ⟨_, Url.read_carrier_slash (socketScheme_carrier page) names suffix⟩

theorem Endpoint.parity_eq_ok {page suffix : List Char} {url : Url} :
    derive .parity page suffix = .ok url ↔ Url.read (byOffset page suffix) = .ok url := by
  rw [derive, Except.mapError_eq_ok]

theorem Endpoint.parity_names {page suffix : List Char} (names : NamesHost page) {url : Url}
    (made : derive .parity page suffix = .ok url) :
    ∃ authority tail, Url.Authority.read (socketScheme page) (authorityByOffset page) = .ok authority ∧
      url = Url.assemble (socketScheme page) true authority tail := by
  obtain ⟨tail, read⟩ := read_byOffset names suffix
  rw [parity_eq_ok, read, Except.map_eq_ok] at made
  obtain ⟨authority, found, same⟩ := made
  exact ⟨authority, tail, found, same.symm⟩

theorem Url.readWeb_slashes {front : List Char} (slashes : ∀ c ∈ front, isSlash true c = true)
    (scheme rest : List Char) : readWeb scheme (front ++ rest) = readWeb scheme rest := by
  rw [readWeb_eq, readWeb_eq, placeOf, placeOf, tailOf, tailOf, List.dropWhile_append_of_pos slashes]

/-- Where the page names no host, the suffix stands in its place. -/
theorem Endpoint.read_byOffset_unnamed {page : List Char} (unnamed : ¬ NamesHost page) (suffix : List Char) :
    Url.read (byOffset page suffix) = Url.read (socketScheme page ++ "://".toList ++ suffix) := by
  have slashes : ∀ c ∈ (hostByOffset page).filter (!Url.isIgnored ·) ++ ['/'], Url.isSlash true c = true := by
    intro c member
    rcases List.mem_append.mp member with inside | last
    · obtain ⟨found, kept⟩ := List.mem_filter.mp inside
      cases slash : Url.isSlash true c with
      | true => rfl
      | false => exact absurd ⟨c, found, by simpa using kept, slash⟩ unnamed
    · rw [List.mem_singleton.mp last]
      rfl
  rw [byOffset, List.append_assoc, Url.read_carrier (socketScheme_carrier page),
    Url.read_carrier (socketScheme_carrier page), Url.cleanEnd_slash,
    List.append_cons, Url.readWeb_slashes slashes]

/-- By offset the suffix chooses the host only for a page that names none between its scheme and its next
slash. Any other page has its own scheme, host and port in every address made from it, and whether there is one
does not depend on the suffix; for a page without a host the suffix is read in its place. -/
theorem Endpoint.suffix_chooses_the_host_only_of_nameless_pages (page : List Char) :
    (NamesHost page →
      (∀ suffix url, derive .parity page suffix = .ok url →
        ∃ authority, Url.Authority.read (socketScheme page) (authorityByOffset page) = .ok authority ∧
          url.scheme = socketScheme page ∧ url.host = some authority.host ∧ url.port = authority.port) ∧
      (∀ first second one other, derive .parity page first = .ok one → derive .parity page second = .ok other →
        one.scheme = other.scheme ∧ one.host = other.host ∧ one.port = other.port) ∧
      ∀ first second, (∃ url, derive .parity page first = .ok url) →
        ∃ url, derive .parity page second = .ok url) ∧
    (¬ NamesHost page → ∀ suffix,
      Url.read (byOffset page suffix) = Url.read (socketScheme page ++ "://".toList ++ suffix)) := by
  refine ⟨fun names => ⟨fun suffix url made => ?_, fun first second one other made otherMade => ?_,
    fun first second made => ?_⟩, read_byOffset_unnamed⟩
  · obtain ⟨authority, tail, read, rfl⟩ := parity_names names made
    exact ⟨authority, read, rfl, rfl, rfl⟩
  · obtain ⟨authority, tail, read, rfl⟩ := parity_names names made
    obtain ⟨another, otherTail, otherRead, rfl⟩ := parity_names names otherMade
    obtain rfl := Except.ok.inj (read.symm.trans otherRead)
    exact ⟨rfl, rfl, rfl⟩
  · obtain ⟨url, made⟩ := made
    obtain ⟨authority, _, read, _⟩ := parity_names names made
    obtain ⟨tail, whole⟩ := read_byOffset names second
    rw [read] at whole
    exact ⟨_, parity_eq_ok.mpr whole⟩

theorem Endpoint.suffix_with_a_host_after_an_odd_page :
    let page := "https://\\\tu@[::1]:81?q/x".toList
    let nameless := "/index.html".toList
    NamesHost page ∧ ¬ NamesHost nameless ∧
      (∃ one other, derive .parity page "@evil".toList = .ok one ∧
        derive .parity page "\\[::2]:1/x".toList = .ok other ∧ one.scheme = other.scheme ∧
        one.host = some (.ipv6 [0, 0, 0, 0, 0, 0, 0, 1]) ∧ one.host = other.host ∧ one.port = some 81 ∧
        one.port = other.port) ∧
      Url.read (byOffset nameless "[::2]/x".toList) =
        Url.read ("ws".toList ++ "://".toList ++ "[::2]/x".toList) := by
  intro page nameless
  have names : NamesHost page := by decide +kernel +zetaReduce
  have unnamed : ¬ NamesHost nameless := by decide +kernel +zetaReduce
  have first : derive .parity page "@evil".toList =
      .ok ⟨"wss".toList, "u".toList, [], some (.ipv6 [0, 0, 0, 0, 0, 0, 0, 1]), some 81, .segments [[]],
        some "q/@evil".toList, none⟩ := by rfl
  obtain ⟨_, agree, succeeds⟩ := (suffix_chooses_the_host_only_of_nameless_pages page).1 names
  obtain ⟨other, second⟩ := succeeds "@evil".toList "\\[::2]:1/x".toList ⟨_, first⟩
  obtain ⟨scheme, host, port⟩ := agree _ _ _ other first second
  exact ⟨names, unnamed, ⟨_, other, first, second, scheme, rfl, host, rfl, port⟩,
    (suffix_chooses_the_host_only_of_nameless_pages nameless).2 unnamed "[::2]/x".toList⟩

/-- A page whose host segment is empty is not refused: it takes its host from the suffix. -/
theorem Endpoint.empty_segment_takes_host_from_suffix :
    hostByOffset "/index.html".toList = [] ∧
      ∃ one other, derive .parity "/index.html".toList "[::1]/x".toList = .ok one ∧
        derive .parity "/index.html".toList "[::2]/x".toList = .ok other ∧ one.host ≠ other.host := by
  have first : derive .parity "/index.html".toList "[::1]/x".toList =
      .ok ⟨"ws".toList, [], [], some (.ipv6 [0, 0, 0, 0, 0, 0, 0, 1]), none, .segments ["x".toList], none, none⟩ := by
    rfl
  have second : derive .parity "/index.html".toList "[::2]/x".toList =
      .ok ⟨"ws".toList, [], [], some (.ipv6 [0, 0, 0, 0, 0, 0, 0, 2]), none, .segments ["x".toList], none, none⟩ := by
    rfl
  exact ⟨by decide, _, _, first, second, by decide⟩

end RelayConsole
