import RelayConsole.Proofs.Endpoint.Parsing
import RelayConsole.Proofs.Endpoint.Suffix
import RelayConsole.Proofs.Text.Position

namespace RelayConsole

theorem Endpoint.socketScheme_slashes (page : List Char) :
    socketScheme page ++ "://".toList = if "https".toList <+: page then "wss://".toList else "ws://".toList := by
  rw [socketScheme_eq]
  split <;> rfl

theorem Endpoint.offset_eq (page : List Char) :
    offset page = if "https".toList <+: page then 8 else if "http".toList <+: page then 7 else 0 := by
  simp only [offset, List.isPrefixOf_iff_prefix]

/-- Slicing the bytes of a page address never fails, and leaves what dropping characters leaves. -/
theorem Endpoint.partsBySlice?_eq (page : List Char) :
    partsBySlice? page = some (socketScheme page ++ "://".toList, page.drop (offset page)) := by
  have skipped (count : Nat) : Text.skip? page count = some (page.drop count) := (Text.parted page count).skipped
  unfold partsBySlice? socketScheme offset
  cases "https".toList.isPrefixOf page
  · cases "http".toList.isPrefixOf page
    · rfl
    · exact congrArg (Option.map _) (skipped 7)
  · exact congrArg (Option.map _) (skipped 8)

theorem Endpoint.bySlice?_eq (page suffix : List Char) : bySlice? page suffix = some (byOffset page suffix) := by
  simp only [bySlice?, partsBySlice?_eq, Option.map_some, Text.head?_splitOn]
  rfl

/-- Of a web page whose scheme is spelled out the fixed offset leaves the host, whatever path follows. -/
theorem Endpoint.byOffset_web {scheme socket host tail : List Char} (fit : schemeFor? scheme = some socket)
    (free : '/' ∉ host) (ends : tail = [] ∨ ∃ path, tail = '/' :: path) (suffix : List Char) :
    byOffset (scheme ++ "://".toList ++ host ++ tail) suffix = socket ++ "://".toList ++ host ++ '/' :: suffix := by
  have part := Text.takeWhile_part free ends
  rcases schemeFor?_eq_some.mp fit with ⟨rfl, rfl⟩ | ⟨rfl, rfl⟩
  · change "wss".toList ++ "://".toList ++ (host ++ tail).takeWhile (· ≠ '/') ++ '/' :: suffix = _
    rw [part]
  · change "ws".toList ++ "://".toList ++ (host ++ tail).takeWhile (· ≠ '/') ++ '/' :: suffix = _
    rw [part]

/-- Of a page that is no web page nothing is taken off. -/
theorem Endpoint.byOffset_other {page : List Char} (other : ¬ "http".toList <+: page) (suffix : List Char) :
    byOffset page suffix = "ws://".toList ++ page.takeWhile (· ≠ '/') ++ '/' :: suffix := by
  have plain : ¬ "https".toList <+: page := fun secure =>
    other ((List.prefix_iff_eq_take.mpr rfl : "http".toList <+: "https".toList).trans secure)
  rw [byOffset, socketScheme_slashes, if_neg plain, hostByOffset, offset_eq, if_neg plain, if_neg other,
    List.drop_zero]

/-- Of a web page whose scheme is spelled out the fixed offset keeps the host, of any other page all up to its
first slash. It is a cut between two characters of every page, however short, and no slash is in what is taken for
the host; slicing the bytes there gives the same address. -/
theorem Endpoint.cuts_every_page_at_a_fixed_offset (suffix : List Char) :
    (∀ host tail, '/' ∉ host → (tail = [] ∨ ∃ path, tail = '/' :: path) →
      byOffset ("https://".toList ++ host ++ tail) suffix = "wss://".toList ++ host ++ '/' :: suffix ∧
        byOffset ("http://".toList ++ host ++ tail) suffix = "ws://".toList ++ host ++ '/' :: suffix) ∧
      (∀ page, ¬ "http".toList <+: page →
        byOffset page suffix = "ws://".toList ++ page.takeWhile (· ≠ '/') ++ '/' :: suffix) ∧
      ∀ page, ∃ front host tail,
        Text.Parted page (if "https".toList <+: page then 8 else if "http".toList <+: page then 7 else 0)
            front (host ++ tail) ∧
          '/' ∉ host ∧ (tail = [] ∨ ∃ path, tail = '/' :: path) ∧
          byOffset page suffix =
            (if "https".toList <+: page then "wss://".toList else "ws://".toList) ++ host ++ '/' :: suffix ∧
          bySlice? page suffix = some (byOffset page suffix) := by
  refine ⟨fun host tail free ends => ?_, fun page other => byOffset_other other suffix, fun page => ?_⟩
  · have secure : schemeFor? "https".toList = some "wss".toList := rfl
    have plain : schemeFor? "http".toList = some "ws".toList := rfl
    exact ⟨byOffset_web secure free ends suffix, byOffset_web plain free ends suffix⟩
  · have parted := Text.parted page (offset page)
    obtain ⟨tail, ends, free, whole⟩ := Text.exists_part '/' (page.drop (offset page))
    rw [whole, offset_eq] at parted
    refine ⟨_, _, tail, parted, ?_, ends, ?_, bySlice?_eq page suffix⟩
    · rwa [offset_eq] at free
    · rw [byOffset, socketScheme_slashes, hostByOffset, offset_eq]

/-- The last character taken off has two bytes and the first of the host has four. -/
theorem Endpoint.cuts_a_page_between_long_characters :
    let page := "https:/é𝄞x/y".toList
    let suffix := "s".toList
    byOffset ("https://".toList ++ "é:8".toList ++ "/a/b".toList) suffix = "wss://é:8/s".toList ∧
      byOffset "file:///tmp".toList suffix = "ws://file:/s".toList ∧
      (Text.starts 0 page)[8]? = some (9, '𝄞') ∧ String.Pos.Raw.IsValid (String.ofList page) ⟨9⟩ ∧
      bySlice? page suffix = some "wss://𝄞x/s".toList ∧
      bySlice? "https".toList suffix = some "wss:///s".toList := by
  intro page suffix
  obtain ⟨web, other, every⟩ := cuts_every_page_at_a_fixed_offset suffix
  have start : (Text.starts 0 page)[8]? = some (9, '𝄞') := by decide +kernel +zetaReduce
  obtain ⟨front, host, tail, parted, _, _, _, sliced⟩ := every page
  obtain ⟨_, _, _, _, _, _, _, short⟩ := every "https".toList
  have secure : "https".toList <+: page := ⟨_, rfl⟩
  rw [if_pos secure] at parted
  refine ⟨(web "é:8".toList "/a/b".toList (by decide) (Or.inr ⟨_, rfl⟩)).1, ?_, start,
    (parted.cut 9 '𝄞' start).2, ?_, ?_⟩
  · exact other "file:///tmp".toList (by decide)
  · rw [sliced]
    decide +kernel +zetaReduce
  · rw [short]
    decide +kernel +zetaReduce

end RelayConsole
