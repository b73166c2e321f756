import RelayConsole.Endpoint
import RelayConsole.Proofs.Url.Authority
import RelayConsole.Proofs.Url.Reading

namespace RelayConsole

/-- The host of a web address, written out, is read as the same host. -/
def Url.HostReadsBack (page : List Char) : Prop :=
  ∀ home host, Url.read page = .ok home → isWeb home.scheme = true → home.host = some host →
    Host.read host.text = .ok host

/-- A web address names a host, and its port only where that is not the scheme's own. -/
theorem Url.host_of_web {page : List Char} {home : Url} (run : Url.read page = .ok home)
    (web : isWeb home.scheme = true) : (∃ host, home.host = some host) ∧ KeepsPort home.scheme home.port := by
  obtain ⟨text, readWeb⟩ := Url.read_web run web
  obtain ⟨authority, read, same⟩ := readWeb_ok readWeb
  have keeps := (Authority.read_ok read).2.1
  generalize home.scheme = scheme at keeps same ⊢
  subst same
  exact ⟨⟨authority.host, rfl⟩, keeps⟩

/-- Two addresses of one scheme that are reached on the same port name the same port. -/
theorem Url.port_of_effectivePort {one other : Url} (scheme : one.scheme = other.scheme)
    (keeps : KeepsPort one.scheme one.port) (otherKeeps : KeepsPort other.scheme other.port)
    (same : one.effectivePort? = other.effectivePort?) : one.port = other.port := by
  unfold effectivePort? at same
  rw [scheme] at keeps same
  cases here : one.port with
  | none =>
    cases there : other.port with
    | none => rfl
    | some number =>
      rw [here, there] at same
      exact absurd same (otherKeeps number there).2
  | some number =>
    cases there : other.port with
    | none =>
      rw [here, there] at same
      exact absurd same.symm (keeps number here).2
    | some another =>
      rw [here, there] at same
      exact same

/-- A scheme that has a socket's counterpart is one of two. -/
theorem Endpoint.schemeFor?_eq_some {scheme socket : List Char} :
    schemeFor? scheme = some socket ↔
      scheme = "https".toList ∧ socket = "wss".toList ∨ scheme = "http".toList ∧ socket = "ws".toList := by
  unfold schemeFor?
  constructor
  · intro fit
    split at fit
    · rename_i secure
      exact Or.inl ⟨secure, (Option.some.inj fit).symm⟩
    · split at fit
      · rename_i plain
        exact Or.inr ⟨plain, (Option.some.inj fit).symm⟩
      · cases fit
  · rintro (⟨rfl, rfl⟩ | ⟨rfl, rfl⟩) <;> rfl

theorem Endpoint.exists_schemeFor? {scheme : List Char} :
    (∃ socket, schemeFor? scheme = some socket) ↔ scheme = "http".toList ∨ scheme = "https".toList := by
  constructor
  · rintro ⟨socket, fit⟩
    rcases schemeFor?_eq_some.mp fit with ⟨secure, _⟩ | ⟨plain, _⟩
    · exact Or.inr secure
    · exact Or.inl plain
  · rintro (rfl | rfl)
    · exact ⟨_, rfl⟩
    · exact ⟨_, rfl⟩

/-- What the composed address is read as. -/
def Endpoint.target (scheme : List Char) (host : Url.Host) (port : Option Nat) (suffix : List Char) : Url :=
  Url.assemble scheme true ⟨[], [], host, port⟩ ('/' :: Url.cleanEnd (suffix.dropWhile (· = '/')))

theorem Endpoint.read_compose {scheme : List Char} (carrier : scheme ∈ Url.carriers) {host : Url.Host}
    (back : Url.Host.read host.text = .ok host) {port : Option Nat} (keeps : Url.KeepsPort scheme port)
    (suffix : List Char) :
    Url.read (compose scheme host port suffix) = .ok (target scheme host port suffix) := by
  have written := Url.Host.written_of_read back
  have clear (c : Char) (member : c ∈ host.text ++ Url.portText port) := written.clear_place member
  have nonempty : host.text ++ Url.portText port ≠ [] := List.append_ne_nil_of_left_ne_nil written.ne_nil _
  rw [compose, List.append_assoc (scheme ++ "://".toList) host.text (Url.portText port),
    Url.read_carrier_clear carrier nonempty fun c member => ⟨(clear c member).1, (clear c member).2.1⟩,
    Url.Authority.read_written back keeps]
  rfl

/-- For a web page the socket's scheme has the page's own port as its own, and names a host as the page's does. -/
theorem Endpoint.schemeFor?_web {scheme socket : List Char} (fit : schemeFor? scheme = some socket) :
    Url.isWeb scheme = true ∧ socket ∈ Url.carriers ∧ Url.defaultPort? socket = Url.defaultPort? scheme := by
  rcases schemeFor?_eq_some.mp fit with ⟨rfl, rfl⟩ | ⟨rfl, rfl⟩ <;> decide

/-- A page that can host a socket does so with every suffix, at its own host and port. -/
theorem Endpoint.byParsing_web {page : List Char} (back : Url.HostReadsBack page) {home : Url}
    (run : Url.read page = .ok home) {socket : List Char} (fit : schemeFor? home.scheme = some socket) :
    ∃ host, home.host = some host ∧ Url.KeepsPort home.scheme home.port ∧
      ∀ suffix, byParsing page suffix = .ok (target socket host home.port suffix) := by
  obtain ⟨web, carrier, ports⟩ := schemeFor?_web fit
  obtain ⟨⟨host, named⟩, keeps⟩ := Url.host_of_web run web
  have socketKeeps : Url.KeepsPort socket home.port := by
    intro number kept
    rw [ports]
    exact keeps number kept
  refine ⟨host, named, keeps, fun suffix => ?_⟩
  simp only [byParsing, run, fit, named,
    read_compose carrier (back home host run web named) socketKeeps suffix]
  rfl

theorem Endpoint.byParsing_unfit {page : List Char} {home : Url} (run : Url.read page = .ok home)
    (unfit : schemeFor? home.scheme = none) (suffix : List Char) :
    byParsing page suffix = .error (.unfitScheme home.scheme) := by
  simp only [byParsing, run, unfit]

theorem Endpoint.byParsing_unreadable {page : List Char} {cause : Url.Error}
    (run : Url.read page = .error cause) (suffix : List Char) :
    byParsing page suffix = .error (.unreadable cause) := by
  simp only [byParsing, run]

/-- What parsed mode makes of a page, settled before there is a suffix. -/
theorem Endpoint.byParsing_cases {page : List Char} (back : Url.HostReadsBack page) :
    (∃ cause, Url.read page = .error cause ∧ ∀ suffix, byParsing page suffix = .error (.unreadable cause)) ∨
      (∃ home, Url.read page = .ok home ∧ schemeFor? home.scheme = none ∧
        ∀ suffix, byParsing page suffix = .error (.unfitScheme home.scheme)) ∨
      ∃ home host socket, Url.read page = .ok home ∧ schemeFor? home.scheme = some socket ∧
        home.host = some host ∧ Url.KeepsPort home.scheme home.port ∧
        ∀ suffix, byParsing page suffix = .ok (target socket host home.port suffix) := by
  cases run : Url.read page with
  | error cause => exact Or.inl ⟨cause, rfl, byParsing_unreadable run⟩
  | ok home =>
    cases fit : schemeFor? home.scheme with
    | none => exact Or.inr (Or.inl ⟨home, rfl, fit, byParsing_unfit run fit⟩)
    | some socket =>
      obtain ⟨host, named, keeps, all⟩ := byParsing_web back run fit
      exact Or.inr (Or.inr ⟨home, host, socket, rfl, fit, named, keeps, all⟩)

/-- What a socket address is made of, if there is one. -/
theorem Endpoint.byParsing_ok {page suffix : List Char} (back : Url.HostReadsBack page) {url : Url}
    (made : byParsing page suffix = .ok url) :
    ∃ home host socket, Url.read page = .ok home ∧ schemeFor? home.scheme = some socket ∧
      home.host = some host ∧ Url.KeepsPort home.scheme home.port ∧
      url = target socket host home.port suffix := by
  rcases byParsing_cases back with ⟨cause, _, all⟩ | ⟨home, _, _, all⟩ | ⟨home, host, socket, run, fit, named, keeps, all⟩
  · rw [all] at made
    cases made
  · rw [all] at made
    cases made
  · rw [all] at made
    exact ⟨home, host, socket, run, fit, named, keeps, (Except.ok.inj made).symm⟩

/-- Where there is no socket address, it is the page that does not allow one. -/
theorem Endpoint.byParsing_error {page suffix : List Char} (back : Url.HostReadsBack page)
    {error : Endpoint.Error} (failed : byParsing page suffix = .error error) :
    (∃ cause, Url.read page = .error cause ∧ error = .unreadable cause) ∨
      ∃ home, Url.read page = .ok home ∧ error = .unfitScheme home.scheme := by
  rcases byParsing_cases back with ⟨cause, run, all⟩ | ⟨home, run, _, all⟩ | ⟨_, _, _, _, _, _, _, all⟩
  · rw [all] at failed
    exact Or.inl ⟨cause, run, (Except.error.inj failed).symm⟩
  · rw [all] at failed
    exact Or.inr ⟨home, run, (Except.error.inj failed).symm⟩
  · rw [all] at failed
    cases failed

theorem Endpoint.byParsing_succeeds {page : List Char} (back : Url.HostReadsBack page) (suffix : List Char) :
    (∃ url, byParsing page suffix = .ok url) ↔
      ∃ home, Url.read page = .ok home ∧ (home.scheme = "http".toList ∨ home.scheme = "https".toList) := by
  constructor
  · rintro ⟨url, made⟩
    obtain ⟨home, _, socket, run, fit, _⟩ := byParsing_ok back made
    exact ⟨home, run, exists_schemeFor?.mp ⟨socket, fit⟩⟩
  · rintro ⟨home, run, web⟩
    obtain ⟨socket, fit⟩ := exists_schemeFor?.mpr web
    obtain ⟨host, _, _, all⟩ := byParsing_web back run fit
    exact ⟨_, all suffix⟩

/-- A socket address keeps to the host and port of its page, and leaves out its user. -/
theorem Endpoint.byParsing_keeps {page suffix : List Char} (back : Url.HostReadsBack page) {home url : Url}
    (run : Url.read page = .ok home) (made : byParsing page suffix = .ok url) :
    (home.scheme = "https".toList ∧ url.scheme = "wss".toList ∨
      home.scheme = "http".toList ∧ url.scheme = "ws".toList) ∧
    url.host = home.host ∧ url.effectivePort? = home.effectivePort? ∧ url.username = [] ∧ url.password = [] := by
  obtain ⟨found, host, socket, foundRun, fit, named, _, same⟩ := byParsing_ok back made
  obtain rfl := Except.ok.inj (foundRun.symm.trans run)
  subst same
  refine ⟨schemeFor?_eq_some.mp fit, named.symm, ?_, rfl, rfl⟩
  exact congrArg (found.port.or ·) (schemeFor?_web fit).2.2

/-- A socket address is its own scheme, host and port with what is read from the suffix behind them. -/
theorem Endpoint.byParsing_eq_target {page suffix : List Char} (back : Url.HostReadsBack page) {url : Url}
    (made : byParsing page suffix = .ok url) :
    ∃ host, url.host = some host ∧ url = target url.scheme host url.port suffix := by
  obtain ⟨_, host, _, _, _, _, _, rfl⟩ := byParsing_ok back made
  exact ⟨host, rfl, rfl⟩

/-- What follows the port is made from the suffix alone. -/
theorem Endpoint.byParsing_tail {page other suffix : List Char} (back : Url.HostReadsBack page)
    (otherBack : Url.HostReadsBack other) {url there : Url} (made : byParsing page suffix = .ok url)
    (otherMade : byParsing other suffix = .ok there) :
    url.path = there.path ∧ url.query = there.query ∧ url.fragment = there.fragment := by
  obtain ⟨_, _, _, _, _, _, _, rfl⟩ := byParsing_ok back made
  obtain ⟨_, _, _, _, _, _, _, rfl⟩ := byParsing_ok otherBack otherMade
  exact ⟨rfl, rfl, rfl⟩

theorem Endpoint.dropWhile_slashes (count : Nat) (suffix : List Char) :
    (List.replicate count '/' ++ suffix).dropWhile (· = '/') = suffix.dropWhile (· = '/') :=
  List.dropWhile_append_of_pos fun _ member => decide_eq_true (List.eq_of_mem_replicate member)

/-- Slashes at the head of the suffix make no difference. -/
theorem Endpoint.byParsing_slashes (page suffix : List Char) (count : Nat) :
    byParsing page (List.replicate count '/' ++ suffix) = byParsing page suffix := by
  simp only [byParsing, compose, dropWhile_slashes]

/-- Pages that agree on scheme, host and port have the same socket addresses. -/
theorem Endpoint.byParsing_congr {page other : List Char} (back : Url.HostReadsBack page) {home there : Url}
    (run : Url.read page = .ok home) (otherRun : Url.read other = .ok there) (scheme : home.scheme = there.scheme)
    (host : home.host = there.host) (port : home.effectivePort? = there.effectivePort?) (suffix : List Char) :
    byParsing page suffix = byParsing other suffix := by
  cases fit : schemeFor? home.scheme with
  | none =>
    have otherFit : schemeFor? there.scheme = none := by rw [← scheme, fit]
    rw [byParsing_unfit run fit, byParsing_unfit otherRun otherFit, scheme]
  | some socket =>
    have otherFit : schemeFor? there.scheme = some socket := by rw [← scheme, fit]
    have otherBack : Url.HostReadsBack other := by
      intro found named foundRun web namedHost
      obtain rfl := Except.ok.inj (foundRun.symm.trans otherRun)
      exact back home named run (by rw [scheme]; exact web) (host.trans namedHost)
    obtain ⟨name, named, keeps, all⟩ := byParsing_web back run fit
    obtain ⟨otherName, otherNamed, otherKeeps, otherAll⟩ := byParsing_web otherBack otherRun otherFit
    have sameHost : name = otherName := Option.some.inj (named.symm.trans (host.trans otherNamed))
    rw [all, otherAll, sameHost, Url.port_of_effectivePort scheme keeps otherKeeps port]

/-- In parsed mode exactly the web pages that can be read give a socket address, whatever the suffix. It keeps
to the page's host and port under the scheme that belongs to the page's, without a user; all that follows is
read from the suffix alone, where slashes at the head make no difference. -/
theorem Endpoint.parsed_mode_keeps_to_the_page {page : List Char} (back : Url.HostReadsBack page) :
    (∀ suffix, (∃ url, derive .parsed page suffix = .ok url) ↔
      ∃ home, Url.read page = .ok home ∧ (home.scheme = "http".toList ∨ home.scheme = "https".toList)) ∧
    (∀ suffix error, derive .parsed page suffix = .error error →
      (∃ cause, Url.read page = .error cause ∧ error = .unreadable cause) ∨
        ∃ home, Url.read page = .ok home ∧ error = .unfitScheme home.scheme) ∧
    (∀ home suffix url, Url.read page = .ok home → derive .parsed page suffix = .ok url →
      (home.scheme = "https".toList ∧ url.scheme = "wss".toList ∨
        home.scheme = "http".toList ∧ url.scheme = "ws".toList) ∧
      url.host = home.host ∧ url.effectivePort? = home.effectivePort? ∧
      url.username = [] ∧ url.password = []) ∧
    (∀ suffix url, derive .parsed page suffix = .ok url →
      ∃ host, url.host = some host ∧ url = target url.scheme host url.port suffix) ∧
    (∀ other suffix url there, Url.HostReadsBack other → derive .parsed page suffix = .ok url →
      derive .parsed other suffix = .ok there →
      url.path = there.path ∧ url.query = there.query ∧ url.fragment = there.fragment) ∧
    (∀ other home there suffix, Url.read page = .ok home → Url.read other = .ok there →
      home.scheme = there.scheme → home.host = there.host → home.effectivePort? = there.effectivePort? →
      derive .parsed page suffix = derive .parsed other suffix) ∧
    ∀ suffix count,
      derive .parsed page (List.replicate count '/' ++ suffix) = derive .parsed page suffix := by
  refine ⟨byParsing_succeeds back, fun suffix error failed => byParsing_error back failed,
    fun home suffix url run made => byParsing_keeps back run made,
    fun suffix url made => byParsing_eq_target back made,
    fun other suffix url there otherBack made otherMade => byParsing_tail back otherBack made otherMade,
    fun other home there suffix run otherRun scheme host port => ?_, byParsing_slashes page⟩
  exact byParsing_congr back run otherRun scheme host port suffix

theorem Endpoint.suffix_with_an_address_keeps_to_the_page :
    let page := "HTTP://user:word@[2001:DB8:0:0::1]:8080\\path?query".toList
    let other := "http://[2001:db8::1]:8080".toList
    let suffix := "/\\@evil.example:1/..//[::1]#\ttail".toList
    let home : Url :=
      ⟨"http".toList, "user".toList, "word".toList, some (.ipv6 [0x2001, 0xDB8, 0, 0, 0, 0, 0, 1]), some 8080,
        .segments ["path".toList], some "query".toList, none⟩
    Url.HostReadsBack page ∧ Url.read page = .ok home ∧
      (∃ url, derive .parsed page suffix = .ok url ∧ url.scheme = "ws".toList ∧ url.host = home.host ∧
        url.effectivePort? = some 8080 ∧ url.username = [] ∧ url.password = [] ∧
        url.path = .segments [[], [], "[::1]".toList] ∧ url.query = none ∧ url.fragment = some "tail".toList) ∧
      derive .parsed page suffix = derive .parsed other suffix ∧
      derive .parsed page ("//".toList ++ suffix) = derive .parsed page suffix := by
  intro page other suffix home
  have run : Url.read page = .ok home := by rfl
  have back : Url.HostReadsBack page := by
    intro found host foundRun _ named
    obtain rfl := Except.ok.inj (run.symm.trans foundRun)
    obtain rfl := Option.some.inj named
    rfl
  obtain ⟨succeeds, _, keeps, targets, _, congr, slashes⟩ := Endpoint.parsed_mode_keeps_to_the_page back
  obtain ⟨url, made⟩ := (succeeds suffix).mpr ⟨home, run, Or.inl rfl⟩
  obtain ⟨schemes, host, port, username, password⟩ := keeps home suffix url run made
  have plain : url.scheme = "ws".toList := by
    rcases schemes with ⟨secure, _⟩ | ⟨_, plain⟩
    · exact absurd secure (by decide)
    · exact plain
  obtain ⟨_, _, whole⟩ := targets suffix url made
  have tail : url.path = .segments [[], [], "[::1]".toList] ∧ url.query = none ∧
      url.fragment = some "tail".toList := by
    rw [whole]
    exact ⟨rfl, rfl, rfl⟩
  exact ⟨back, run, ⟨url, made, plain, host, port, username, password, tail⟩,
    congr other home ⟨"http".toList, [], [], home.host, some 8080, .segments [[]], none, none⟩ suffix run rfl rfl
      rfl rfl,
    slashes suffix 2⟩

end RelayConsole
