import RelayConsole.Proofs.View.Gate

namespace RelayConsole

/-- One view stands for another: it answers alike, and what is done to it is done to the other. -/
structure View.Carries {V W : Type} [View V] [View W] (carry : V → W) : Prop where
  isDisabled (view : V) (id : String) : View.isDisabled (carry view) id = View.isDisabled view id
  value (view : V) (id : String) : View.value (carry view) id = View.value view id
  perform (view : V) (command : View.Command) :
    View.perform (carry view) command = carry (View.perform view command)
  notes (view : V) (command : View.Command) : View.notes (carry view) command = View.notes view command

variable {α V W : Type} [View V] [View W] {carry : V → W}

/-- A conversation takes the same course with either of them. -/
theorem Dialogue.play_carry (carries : View.Carries carry) (dialogue : Dialogue α) (view : V) :
    dialogue.play (carry view) =
      ⟨(dialogue.play view).result, carry (dialogue.play view).view, (dialogue.play view).lines⟩ := by
  induction dialogue generalizing view with
  | done result => rfl
  | log line rest ih => simp only [play, ih]
  | perform command rest ih => simp only [play, carries.perform, carries.notes, ih]
  | askDisabled id rest ih => simp only [play, carries.isDisabled, ih]
  | askValue id rest ih => simp only [play, carries.value, ih]

end RelayConsole
