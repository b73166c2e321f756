import RelayConsole.Proofs.Except
import RelayConsole.Proofs.Url.Host

namespace RelayConsole

/-- A port that an address of this scheme keeps: one that fits, and not the scheme's own. -/
def Url.KeepsPort (scheme : List Char) (port : Option Nat) : Prop :=
  ∀ number, port = some number → number ≤ 65535 ∧ defaultPort? scheme ≠ some number

theorem Url.readPort_keeps {scheme text : List Char} {port : Option Nat} (run : readPort scheme text = .ok port) :
    KeepsPort scheme port := by
  intro number kept
  subst kept
  unfold readPort at run
  split at run
  · cases run
  · split at run
    · cases run
    · split at run
      · rename_i read
        split at run
        · cases run
        · rename_i large
          split at run
          · cases run
          · rename_i foreign
            cases run
            exact ⟨Nat.le_of_not_lt large, foreign⟩
      · cases run

/-- A port that is kept is read back from its text. -/
theorem Url.readPort_portText {scheme : List Char} {port : Option Nat} (keeps : KeepsPort scheme port) :
    readPort scheme (portText port) = .ok port := by
  cases port with
  | none => rfl
  | some number =>
    obtain ⟨fits, foreign⟩ := keeps number rfl
    have digits : (Digits.text 10 number).isEmpty = false :=
      List.isEmpty_eq_false_iff.mpr Nat.toDigits_ne_nil
    rw [portText, readPort, digits, Digits.read?_text (by decide) (by decide)]
    simp only [Bool.false_eq_true, if_false, Nat.not_lt.mpr fits, foreign]

theorem Url.readPort_congr {scheme other : List Char} (same : defaultPort? scheme = defaultPort? other)
    (text : List Char) : readPort scheme text = readPort other text := by
  unfold readPort
  rw [same]

/-- Outside of brackets a host ends at the first colon. -/
theorem Url.cutHost_plain {host rest : List Char} (plain : ∀ c ∈ host, c ≠ ':' ∧ c ≠ '[' ∧ c ≠ ']')
    (ended : cutHost false rest = ([], rest)) : cutHost false (host ++ rest) = (host, rest) := by
  induction host with
  | nil => exact ended
  | cons c host ih =>
    obtain ⟨colon, opening, closing⟩ := plain c List.mem_cons_self
    have later := ih fun d member => plain d (List.mem_cons_of_mem c member)
    simp only [List.cons_append, cutHost, colon, opening, closing, decide_false, Bool.false_and,
      Bool.false_eq_true, if_false, later]

/-- In brackets a host goes on to the one that closes. -/
theorem Url.cutHost_bracketed {inner rest : List Char} (clear : ∀ c ∈ inner, c ≠ ']')
    (ended : cutHost false rest = ([], rest)) :
    cutHost true (inner ++ ']' :: rest) = (inner ++ [']'], rest) := by
  induction inner with
  | nil =>
    change (']' :: (cutHost false rest).1, (cutHost false rest).2) = _
    rw [ended]
    rfl
  | cons c inner ih =>
    have later := ih fun d member => clear d (List.mem_cons_of_mem c member)
    have inside : (if c = '[' then true else if c = ']' then false else true) = true := by
      rw [if_neg (clear c List.mem_cons_self), ite_self]
    simp only [List.cons_append, cutHost, inside, Bool.not_true, Bool.and_false, Bool.false_eq_true, if_false,
      later]

theorem Domain.clear_of_plain {c : Char} (plain : isForbidden c = false) :
    Url.endsAuthority true c = false ∧ Url.isIgnored c = false ∧ c ≠ '@' := by
  have apart (refused : Char) (hit : isForbidden refused = true) : c ≠ refused := by
    rintro rfl
    rw [plain] at hit
    cases hit
  simp only [Url.endsAuthority, Url.isSlash, Url.isIgnored, Bool.true_and, Bool.or_eq_false_iff,
    decide_eq_false_iff_not]
  exact ⟨⟨⟨⟨apart '/' rfl, apart '\\' rfl⟩, apart '?' rfl⟩, apart '#' rfl⟩,
    ⟨⟨apart '\t' rfl, apart '\n' rfl⟩, apart '\r' rfl⟩, apart '@' rfl⟩

/-- Nothing in the text of a host ends an authority, is ignored or could be taken for the end of a user. -/
theorem Url.Host.Written.clear {text : List Char} (written : Written text) {c : Char} (member : c ∈ text) :
    endsAuthority true c = false ∧ isIgnored c = false ∧ c ≠ '@' := by
  rcases written with ⟨_, plain⟩ | ⟨inner, rfl, grouped⟩
  · exact Domain.clear_of_plain (plain c member)
  · rw [List.mem_cons, List.mem_append, List.mem_singleton] at member
    rcases member with rfl | inside | rfl
    · decide
    · rcases grouped c inside with rfl | plain
      · decide
      · exact Domain.clear_of_plain plain
    · decide

theorem Url.Host.Written.ne_nil {text : List Char} (written : Written text) : text ≠ [] := by
  rcases written with ⟨some, _⟩ | ⟨inner, rfl, _⟩
  · exact some
  · exact List.cons_ne_nil _ _

/-- The text of a host is cut off whole from a port or from nothing. -/
theorem Url.Host.Written.cutHost {text rest : List Char} (written : Written text)
    (ended : Url.cutHost false rest = ([], rest)) : Url.cutHost false (text ++ rest) = (text, rest) := by
  rcases written with ⟨_, plain⟩ | ⟨inner, rfl, grouped⟩
  · refine cutHost_plain (fun c member => ⟨?_, ?_, ?_⟩) ended
    all_goals
      rintro rfl
      exact absurd (plain _ member) (by decide)
  · have clear : ∀ c ∈ inner, c ≠ ']' := by
      rintro c member rfl
      exact absurd (grouped _ member) (by decide)
    have inside := cutHost_bracketed clear ended
    rw [List.cons_append, List.append_assoc, List.singleton_append]
    change ('[' :: (Url.cutHost true (inner ++ ']' :: rest)).1, (Url.cutHost true (inner ++ ']' :: rest)).2) = _
    rw [inside]

theorem Url.cutHost_portText (port : Option Nat) : cutHost false (portText port) = ([], portText port) := by
  cases port <;> rfl

theorem Url.Authority.read_eq (scheme text : List Char) :
    Authority.read scheme text =
      let parts := (Text.cutAtLast? '@' text).getD ([], text)
      let user := readUserinfo parts.1
      let place := cutHost false parts.2
      if place.1.isEmpty then .error .emptyHost
      else
        (Host.read place.1).bind fun host =>
          (readPort scheme place.2).map fun port => ⟨user.1, user.2, host, port⟩ := by
  unfold read
  dsimp only
  split <;> rfl

theorem Url.clear_portText {port : Option Nat} {c : Char} (member : c ∈ portText port) :
    endsAuthority true c = false ∧ isIgnored c = false ∧ c ≠ '@' := by
  cases port with
  | none => cases member
  | some number =>
    rcases List.mem_cons.mp member with rfl | digit
    · decide
    · exact Domain.clear_of_plain (Domain.plain_digits (by decide) (by decide) number c digit)

theorem Url.Host.Written.clear_place {text : List Char} (written : Written text) {port : Option Nat}
    {c : Char} (member : c ∈ text ++ portText port) :
    endsAuthority true c = false ∧ isIgnored c = false ∧ c ≠ '@' := by
  rcases List.mem_append.mp member with inside | after
  · exact written.clear inside
  · exact clear_portText after

/-- An authority names a host that was read as one, and keeps no port but one that its scheme needs. -/
theorem Url.Authority.read_ok {scheme text : List Char} {authority : Url.Authority}
    (run : Authority.read scheme text = .ok authority) :
    (∃ hostText, Host.read hostText = .ok authority.host) ∧ KeepsPort scheme authority.port ∧
      (authority.username, authority.password) =
        readUserinfo ((Text.cutAtLast? '@' text).getD ([], text)).1 := by
  rw [read_eq] at run
  dsimp only at run
  split at run
  · cases run
  · obtain ⟨host, readHost, run⟩ := Except.bind_eq_ok.mp run
    obtain ⟨port, readPort, rfl⟩ := Except.map_eq_ok.mp run
    exact ⟨⟨_, readHost⟩, readPort_keeps readPort, rfl⟩

theorem Url.Authority.read_congr {scheme other : List Char} (same : defaultPort? scheme = defaultPort? other)
    (text : List Char) : Authority.read scheme text = Authority.read other text := by
  simp only [read_eq, readPort_congr same]

/-- Without an at sign there is neither user name nor password. -/
theorem Url.Authority.read_anonymous {scheme text : List Char} {authority : Url.Authority}
    (absent : '@' ∉ text) (run : Authority.read scheme text = .ok authority) :
    authority = ⟨[], [], authority.host, authority.port⟩ := by
  have user := (read_ok run).2.2
  rw [Text.cutAtLast?_none absent] at user
  obtain ⟨username, password, host, port⟩ := authority
  obtain ⟨rfl, rfl⟩ := Prod.mk.inj user
  rfl

/-- A host and a port are read back from their texts, given that the host alone is. -/
theorem Url.Authority.read_written {scheme : List Char} {host : Url.Host} {port : Option Nat}
    (back : Host.read host.text = .ok host) (keeps : KeepsPort scheme port) :
    Authority.read scheme (host.text ++ portText port) = .ok ⟨[], [], host, port⟩ := by
  have written := Host.written_of_read back
  have absent : '@' ∉ host.text ++ portText port := fun member => (written.clear_place member).2.2 rfl
  rw [read_eq, Text.cutAtLast?_none absent]
  simp only [Option.getD_none, written.cutHost (cutHost_portText port),
    List.isEmpty_eq_false_iff.mpr written.ne_nil, Bool.false_eq_true, if_false, back, readPort_portText keeps]
  rfl

end RelayConsole
