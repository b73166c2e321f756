namespace RelayConsole

variable {ε ε' α β : Type}

/-- What succeeds in two steps succeeds in each of them. -/
theorem Except.bind_eq_ok {first : Except ε α} {next : α → Except ε β} {result : β} :
    first.bind next = .ok result ↔ ∃ found, first = .ok found ∧ next found = .ok result := by
  cases first with
  | error cause => exact ⟨nofun, nofun⟩
  | ok found => exact ⟨fun run => ⟨found, rfl, run⟩, fun ⟨_, same, run⟩ => Except.ok.inj same ▸ run⟩

theorem Except.map_eq_ok {first : Except ε α} {make : α → β} {result : β} :
    first.map make = .ok result ↔ ∃ found, first = .ok found ∧ make found = result := by
  cases first with
  | error cause => exact ⟨nofun, nofun⟩
  | ok found =>
    exact ⟨fun run => ⟨found, rfl, Except.ok.inj run⟩, fun ⟨_, same, made⟩ => made ▸ Except.ok.inj same ▸ rfl⟩

theorem Except.mapError_eq_ok {first : Except ε α} {make : ε → ε'} {result : α} :
    first.mapError make = .ok result ↔ first = .ok result := by
  cases first with
  | error cause => exact ⟨nofun, nofun⟩
  | ok found => exact ⟨fun run => congrArg _ (Except.ok.inj run), fun run => congrArg _ (Except.ok.inj run)⟩

/-- What succeeds is the success of what can be taken from it. -/
theorem Except.eq_ok_getD {result : Except ε α} (default : α) (succeeds : result.toOption.isSome) :
    result = .ok (result.toOption.getD default) := by
  cases result with
  | error cause => cases succeeds
  | ok found => rfl

end RelayConsole
