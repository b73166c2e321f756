import Mathlib.Data.List.TakeWhile
import RelayConsole.Proofs.Except
import RelayConsole.Url.Reading

namespace RelayConsole

/-- A text without the margin at its end and without what is ignored. -/
def Url.cleanEnd (text : List Char) : List Char :=
  (text.reverse.dropWhile isMargin).reverse.filter (!isIgnored ·)

theorem Url.clean_cons {first : Char} (solid : isMargin first = false) (rest : List Char) :
    clean (first :: rest) = cleanEnd (first :: rest) := by
  rw [clean, Text.trim, List.dropWhile_cons_of_neg (by rw [solid]; decide), cleanEnd]

/-- All that is ignored could stand in a margin. -/
theorem Url.not_ignored_of_solid {c : Char} (solid : isMargin c = false) : isIgnored c = false := by
  cases ignored : isIgnored c with
  | false => rfl
  | true =>
    simp only [isIgnored, Bool.or_eq_true, decide_eq_true_eq] at ignored
    rcases ignored with (rfl | rfl) | rfl <;> cases solid

/-- Up to a character that belongs to no margin nothing is lost but what is ignored. -/
theorem Url.cleanEnd_solid_append {mark : Char} (solid : isMargin mark = false) (front back : List Char) :
    cleanEnd (front ++ mark :: back) = front.filter (!isIgnored ·) ++ mark :: cleanEnd back := by
  have kept : (!isIgnored mark) = true := by
    rw [not_ignored_of_solid solid]
    rfl
  have stays : ((mark :: front.reverse).dropWhile isMargin).reverse = front ++ [mark] := by
    rw [List.dropWhile_cons_of_neg (by rw [solid]; decide), List.reverse_cons, List.reverse_reverse]
  have trimmed : ((front ++ mark :: back).reverse.dropWhile isMargin).reverse =
      front ++ mark :: (back.reverse.dropWhile isMargin).reverse := by
    rw [List.reverse_append, List.reverse_cons, List.append_assoc, List.dropWhile_append]
    split
    · rename_i empty
      rw [List.isEmpty_iff.mp empty]
      exact stays
    · rw [List.reverse_append]
      simp only [List.singleton_append, List.reverse_cons, List.reverse_reverse, List.append_assoc]
  rw [cleanEnd, trimmed, List.filter_append, List.filter_cons, if_pos kept, cleanEnd]

/-- A slash ends any margin. -/
theorem Url.cleanEnd_slash (front back : List Char) :
    cleanEnd (front ++ '/' :: back) = front.filter (!isIgnored ·) ++ '/' :: cleanEnd back :=
  cleanEnd_solid_append (by decide) front back

/-- The schemes of pages and of sockets. -/
def Url.carriers : List (List Char) :=
  ["http", "https", "ws", "wss"].map String.toList

theorem Url.isWeb_of_carrier {scheme : List Char} (carrier : scheme ∈ carriers) : isWeb scheme = true := by
  revert scheme
  decide

theorem Url.cutScheme?_carrier {scheme : List Char} (carrier : scheme ∈ carriers) (rest : List Char) :
    cutScheme? (scheme ++ ':' :: rest) = some (scheme, rest) := by
  simp only [carriers, List.map_cons, List.map_nil, List.mem_cons, List.not_mem_nil, or_false] at carrier
  rcases carrier with rfl | rfl | rfl | rfl <;> rfl

theorem Url.clean_carrier {scheme : List Char} (carrier : scheme ∈ carriers) (body : List Char) :
    clean (scheme ++ "://".toList ++ body) = scheme ++ ':' :: '/' :: '/' :: cleanEnd body := by
  simp only [carriers, List.map_cons, List.map_nil, List.mem_cons, List.not_mem_nil, or_false] at carrier
  rcases carrier with rfl | rfl | rfl | rfl
  · exact (clean_cons (by decide) _).trans (cleanEnd_slash "http:/".toList body)
  · exact (clean_cons (by decide) _).trans (cleanEnd_slash "https:/".toList body)
  · exact (clean_cons (by decide) _).trans (cleanEnd_slash "ws:/".toList body)
  · exact (clean_cons (by decide) _).trans (cleanEnd_slash "wss:/".toList body)

/-- Reading an address that has its scheme and two slashes in front. -/
theorem Url.read_carrier {scheme : List Char} (carrier : scheme ∈ carriers) (body : List Char) :
    read (scheme ++ "://".toList ++ body) = readWeb scheme (cleanEnd body) := by
  rw [read, clean_carrier carrier, cutScheme?_carrier carrier]
  simp only [isWeb_of_carrier carrier, if_true]
  rfl

/-- What stands where an authority is expected. -/
def Url.placeOf (text : List Char) : List Char :=
  (text.dropWhile (isSlash true)).takeWhile (!endsAuthority true ·)

/-- What follows the authority. -/
def Url.tailOf (text : List Char) : List Char :=
  (text.dropWhile (isSlash true)).dropWhile (!endsAuthority true ·)

theorem Url.readWeb_eq (scheme text : List Char) :
    readWeb scheme text =
      (Authority.read scheme (placeOf text)).map fun authority =>
        assemble scheme true authority (tailOf text) := by
  rw [readWeb, placeOf, tailOf]
  cases Authority.read scheme ((text.dropWhile (isSlash true)).takeWhile (!endsAuthority true ·)) <;> rfl

theorem Url.endsAuthority_of_slash {c : Char} (slash : isSlash true c = true) : endsAuthority true c = true := by
  rw [endsAuthority, slash, Bool.true_or, Bool.true_or]

/-- Where anything but slashes stands before a slash, the authority ends there at the latest. -/
theorem Url.placeOf_slash {place : List Char} (named : ∃ c ∈ place, isSlash true c = false)
    (rest : List Char) :
    placeOf (place ++ '/' :: rest) = placeOf place ∧
      tailOf (place ++ '/' :: rest) = tailOf place ++ '/' :: rest := by
  have began : (place ++ '/' :: rest).dropWhile (isSlash true) =
      place.dropWhile (isSlash true) ++ '/' :: rest := by
    rw [List.dropWhile_append, if_neg]
    intro empty
    obtain ⟨c, member, solid⟩ := named
    have slashes := List.dropWhile_eq_nil_iff.mp (List.isEmpty_iff.mp empty) c member
    rw [solid] at slashes
    cases slashes
  rw [placeOf, placeOf, tailOf, tailOf, began]
  generalize place.dropWhile (isSlash true) = text
  induction text with
  | nil =>
    have ends : ¬ (!endsAuthority true '/') = true := by decide
    exact ⟨List.takeWhile_cons_of_neg ends, List.dropWhile_cons_of_neg ends⟩
  | cons c text ih =>
    simp only [List.cons_append, List.takeWhile_cons, List.dropWhile_cons]
    split
    · exact ⟨congrArg (c :: ·) ih.1, ih.2⟩
    · exact ⟨rfl, rfl⟩

/-- A text that nothing ends is an authority as it stands. -/
theorem Url.placeOf_plain {place : List Char} (plain : ∀ c ∈ place, endsAuthority true c = false) :
    placeOf place = place ∧ tailOf place = [] := by
  have solid : place.dropWhile (isSlash true) = place := by
    cases place with
    | nil => rfl
    | cons c rest =>
      refine List.dropWhile_cons_of_neg fun slash => ?_
      have ends := plain c List.mem_cons_self
      rw [endsAuthority_of_slash slash] at ends
      cases ends
  rw [placeOf, tailOf, solid]
  have all : ∀ c ∈ place, (!endsAuthority true c) = true := fun c member => by rw [plain c member]; rfl
  exact ⟨List.takeWhile_eq_self_iff.mpr all, List.dropWhile_eq_nil_iff.mpr all⟩

/-- What an address reads as, if it has a slash after something that could be an authority. -/
theorem Url.read_carrier_slash {scheme : List Char} (carrier : scheme ∈ carriers) {place : List Char}
    (named : ∃ c ∈ place, isIgnored c = false ∧ isSlash true c = false) (rest : List Char) :
    read (scheme ++ "://".toList ++ place ++ '/' :: rest) =
      (Authority.read scheme (placeOf (place.filter (!isIgnored ·)))).map fun authority =>
        assemble scheme true authority (tailOf (place.filter (!isIgnored ·)) ++ '/' :: cleanEnd rest) := by
  obtain ⟨c, member, kept, solid⟩ := named
  have named : ∃ c ∈ place.filter (!isIgnored ·), isSlash true c = false :=
    ⟨c, List.mem_filter.mpr ⟨member, by rw [kept]; rfl⟩, solid⟩
  obtain ⟨authority, tail⟩ := placeOf_slash named (cleanEnd rest)
  rw [List.append_assoc, read_carrier carrier, cleanEnd_slash, readWeb_eq, authority, tail]

/-- What an address reads as, if nothing before its first slash ends or is left out of the authority. -/
theorem Url.read_carrier_clear {scheme : List Char} (carrier : scheme ∈ carriers) {place : List Char}
    (nonempty : place ≠ []) (clear : ∀ c ∈ place, endsAuthority true c = false ∧ isIgnored c = false)
    (rest : List Char) :
    read (scheme ++ "://".toList ++ place ++ '/' :: rest) =
      (Authority.read scheme place).map fun authority =>
        assemble scheme true authority ('/' :: cleanEnd rest) := by
  have kept : place.filter (!isIgnored ·) = place :=
    List.filter_eq_self.mpr fun c member => by rw [(clear c member).2]; rfl
  have named : ∃ c ∈ place, isIgnored c = false ∧ isSlash true c = false := by
    obtain ⟨c, others, first⟩ := List.exists_cons_of_ne_nil nonempty
    have member : c ∈ place := first ▸ List.mem_cons_self
    refine ⟨c, member, (clear c member).2, ?_⟩
    cases slash : isSlash true c with
    | false => rfl
    | true => exact (endsAuthority_of_slash slash).symm.trans (clear c member).1
  obtain ⟨whole, nothing⟩ := placeOf_plain fun c member => (clear c member).1
  rw [read_carrier_slash carrier named, kept, whole, nothing]
  rfl

theorem Url.readWeb_ok {scheme text : List Char} {url : Url} (run : readWeb scheme text = .ok url) :
    ∃ authority, Authority.read scheme (placeOf text) = .ok authority ∧
      url = assemble scheme true authority (tailOf text) := by
  rw [readWeb_eq, Except.map_eq_ok] at run
  obtain ⟨authority, read, made⟩ := run
  exact ⟨authority, read, made.symm⟩

theorem Url.readFile_scheme {rest : List Char} {url : Url} (run : readFile rest = .ok url) :
    url.scheme = "file".toList := by
  unfold readFile at run
  split at run
  · rename_i a b text
    split at run
    · obtain ⟨host, _, made⟩ := Except.bind_eq_ok.mp run
      cases made
      rfl
    · cases run
      rfl
  · cases run
    rfl

theorem Url.readOther_scheme {scheme rest : List Char} {url : Url} (run : readOther scheme rest = .ok url) :
    url.scheme = scheme := by
  unfold readOther at run
  split at run
  · obtain ⟨authority, _, made⟩ := Except.bind_eq_ok.mp run
    cases made
    rfl
  · cases run
    rfl
  · cases run
    rfl

/-- The scheme of an address is what stands before its first colon, in lower case. -/
theorem Url.read_scheme {page : List Char} {url : Url} (run : read page = .ok url) :
    ∃ rest, cutScheme? (clean page) = some (url.scheme, rest) := by
  unfold read at run
  split at run
  · cases run
  · rename_i scheme rest cut
    refine ⟨rest, cut.trans ?_⟩
    split at run
    · obtain ⟨authority, _, rfl⟩ := readWeb_ok run
      rfl
    · split at run
      · rename_i file
        rw [readFile_scheme run, file]
      · rw [readOther_scheme run]

/-- An address that turns out to have a scheme which implies a host was read as such a one. -/
theorem Url.read_web {page : List Char} {url : Url} (run : read page = .ok url) (web : isWeb url.scheme = true) :
    ∃ text, readWeb url.scheme text = .ok url := by
  unfold read at run
  split at run
  · cases run
  · rename_i scheme rest cut
    split at run
    · obtain ⟨authority, _, same⟩ := readWeb_ok run
      have named : url.scheme = scheme := by rw [same]; rfl
      exact ⟨rest, by rw [named]; exact run⟩
    · rename_i other
      split at run
      · rw [readFile_scheme run] at web
        exact absurd web (by decide)
      · rw [readOther_scheme run] at web
        exact absurd web other

end RelayConsole
