import RelayConsole.Proofs.Text.Cut
import RelayConsole.Proofs.Text.Digits
import RelayConsole.Url.Reading

namespace RelayConsole

/-- Nothing in a text is refused in a domain name. -/
def Domain.IsPlain (text : List Char) : Prop :=
  ∀ c ∈ text, isForbidden c = false

theorem Domain.isForbidden_digitChar {digit : Nat} (small : digit < 16) :
    isForbidden (Nat.digitChar digit) = false := by
  revert digit
  decide

theorem Domain.plain_digits {base : Nat} (least : 1 < base) (most : base ≤ 16) (n : Nat) :
    IsPlain (Digits.text base n) := by
  intro c member
  obtain ⟨digit, small, rfl⟩ := Digits.mem_text least member
  exact isForbidden_digitChar (Nat.lt_of_lt_of_le small most)

theorem Domain.join?_plain {labels : List (List Char)} {name : List Char} (joined : join? labels = some name) :
    IsPlain name := by
  unfold join? at joined
  split at joined
  · cases joined
  · dsimp only at joined
    split at joined
    · cases joined
    · rename_i clear
      cases joined
      intro c member
      exact Bool.eq_false_iff.mpr fun refused => clear (List.any_eq_true.mpr ⟨c, member, refused⟩)

theorem Domain.toAscii?_plain {name ascii : List Char} (coded : toAscii? name = some ascii) :
    IsPlain ascii := by
  simp only [toAscii?, Option.bind_eq_bind, Option.bind_eq_some_iff] at coded
  obtain ⟨_, _, _, _, joined⟩ := coded
  exact join?_plain joined

theorem Ipv4.text_plain (address : Nat) : Domain.IsPlain (Ipv4.text address) := by
  intro c member
  rcases Text.mem_intercalate member with between | ⟨part, among, found⟩
  · rw [List.mem_singleton.mp between]
    decide
  · obtain ⟨i, _, rfl⟩ := List.mem_map.mp among
    exact Domain.plain_digits (by decide) (by decide) _ c found

theorem Ipv4.text_ne_nil (address : Nat) : Ipv4.text address ≠ [] := by
  intro empty
  rw [Ipv4.text, List.map_cons, List.map_cons, List.intercalate_cons_cons, List.append_eq_nil_iff,
    List.append_eq_nil_iff] at empty
  exact List.cons_ne_nil _ _ empty.1.2

/-- Groups are written with nothing but digits and colons. -/
theorem Ipv6.mem_text {groups : List Nat} {c : Char} (member : c ∈ Ipv6.text groups) :
    c = ':' ∨ Domain.isForbidden c = false := by
  have joined {some : List Nat} (found : c ∈ List.intercalate [':'] (some.map (Digits.text 16))) :
      c = ':' ∨ Domain.isForbidden c = false := by
    rcases Text.mem_intercalate found with between | ⟨part, among, found⟩
    · exact Or.inl (List.mem_singleton.mp between)
    · obtain ⟨group, _, rfl⟩ := List.mem_map.mp among
      exact Or.inr (Domain.plain_digits (by decide) (by decide) group c found)
  unfold Ipv6.text at member
  dsimp only at member
  split at member
  · rw [List.mem_append, List.mem_append] at member
    rcases member with (before | gap) | after
    · exact joined before
    · left
      simpa only [List.mem_cons, List.not_mem_nil, or_false, or_self] using gap
    · exact joined after
  · exact joined member

/-- How the text of a host looks: a plain name, or groups in brackets. -/
def Url.Host.Written (text : List Char) : Prop :=
  (text ≠ [] ∧ Domain.IsPlain text) ∨
    ∃ inner, text = '[' :: (inner ++ [']']) ∧ ∀ c ∈ inner, c = ':' ∨ Domain.isForbidden c = false

theorem Url.Host.written_of_bracketed {text : List Char} {host : Url.Host} (run : bracketed text = .ok host) :
    Written host.text := by
  unfold bracketed at run
  split at run
  · split at run
    · cases run
      exact Or.inr ⟨_, rfl, fun c member => Ipv6.mem_text member⟩
    · cases run
  · cases run

/-- Whatever host is read, its text looks like one. -/
theorem Url.Host.written_of_read {text : List Char} {host : Url.Host} (run : read text = .ok host) :
    Written host.text := by
  unfold read at run
  split at run
  · exact written_of_bracketed run
  · split at run
    · cases run
    · cases run
    · rename_i domain nonempty coded
      obtain ⟨decoded, _, coded⟩ := Option.bind_eq_some_iff.mp coded
      split at run
      · split at run
        · cases run
          exact Or.inl ⟨Ipv4.text_ne_nil _, Ipv4.text_plain _⟩
        · cases run
      · cases run
        exact Or.inl ⟨fun empty => nonempty (by rw [← empty]; rfl), Domain.toAscii?_plain coded⟩

end RelayConsole
