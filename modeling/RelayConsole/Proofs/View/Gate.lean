import RelayConsole.Widget

namespace RelayConsole

section Playing

variable {α β V : Type} [View V]

@[simp]
theorem Dialogue.play_pure (result : α) (view : V) :
    (pure result : Dialogue α).play view = ⟨result, view, []⟩ :=
  rfl

/-- A conversation that goes on with another one leaves to it the view as it has become. -/
@[simp]
theorem Dialogue.play_bind (dialogue : Dialogue α) (next : α → Dialogue β) (view : V) :
    (dialogue >>= next).play view =
      let first := dialogue.play view
      let second := (next first.result).play first.view
      ⟨second.result, second.view, first.lines ++ second.lines⟩ := by
  change (dialogue.bind next).play view = _
  induction dialogue generalizing view with
  | done result => rfl
  | log line rest ih => simp only [bind, play, ih, List.cons_append]
  | perform command rest ih => simp only [bind, play, ih, List.append_assoc]
  | askDisabled id rest ih => simp only [bind, play, ih]
  | askValue id rest ih => simp only [bind, play, ih]

@[simp]
theorem Dialogue.play_say (line : Log.Line) (view : V) : (say line).play view = ⟨(), view, [line]⟩ :=
  rfl

@[simp]
theorem Dialogue.play_command (order : View.Command) (view : V) :
    (command order).play view = ⟨(), View.perform view order, View.notes view order⟩ := by
  simp only [command, play, List.append_nil]

end Playing

variable {V : Type} [View V]

/-- Disables or enables controls one after the other. -/
def View.gate (view : V) (disabled : Bool) (ids : List String) : V :=
  ids.foldl (fun view id => View.perform view (.setDisabled id disabled)) view

@[simp]
theorem Dialogue.play_setDisabled_view (disabled : Bool) (ids : List String) (view : V) :
    ((setDisabled disabled ids).play view).view = View.gate view disabled ids := by
  induction ids generalizing view with
  | nil => rfl
  | cons id rest ih => exact ih (View.perform view (.setDisabled id disabled))

theorem View.isDisabled_gate [View.KeepsFlags V] (view : V) (disabled : Bool) (ids : List String)
    (id : String) :
    View.isDisabled (View.gate view disabled ids) id =
      if id ∈ ids then disabled else View.isDisabled view id := by
  induction ids generalizing view with
  | nil => simp only [gate, List.foldl_nil, List.not_mem_nil, if_false]
  | cons first rest ih =>
    have step := ih (View.perform view (.setDisabled first disabled))
    simp only [gate, List.foldl_cons] at step ⊢
    rw [step, View.KeepsFlags.isDisabled_perform]
    by_cases later : id ∈ rest
    · simp only [later, List.mem_cons, or_true, if_true]
    · by_cases here : id = first
      · subst here
        simp only [later, List.mem_cons, true_or, if_true, Command.flag?, if_false, Option.getD_some]
      · simp only [later, here, List.mem_cons, or_self, if_false, Command.flag?, Option.getD_none]

theorem View.isDisabled_gate_of_mem [View.KeepsFlags V] (view : V) (disabled : Bool) {ids : List String}
    {id : String} (member : id ∈ ids) : View.isDisabled (View.gate view disabled ids) id = disabled := by
  rw [View.isDisabled_gate, if_pos member]

end RelayConsole
