import RelayConsole.Proofs.View.Gate
import RelayConsole.View.Memory
import RelayConsole.View.Terminal

namespace RelayConsole

@[simp]
theorem Memory.control_put (memory : Memory) (id other : String) (control : Memory.Control) :
    (memory.put id control).control other = if other = id then control else memory.control other := by
  simp only [Memory.control, put, Keyed.find?_put]
  split <;> rfl

@[simp]
theorem Memory.view_perform (memory : Memory) (command : View.Command) :
    View.perform memory command = memory.perform command :=
  rfl

@[simp]
theorem Memory.view_isDisabled (memory : Memory) (id : String) :
    View.isDisabled memory id = (memory.control id).disabled :=
  rfl

@[simp]
theorem Memory.view_value (memory : Memory) (id : String) : View.value memory id = (memory.control id).value :=
  rfl

@[simp]
theorem Memory.Control.disabled_setDisabled (control : Memory.Control) (disabled : Bool) :
    (control.setDisabled disabled).disabled = disabled := by
  unfold setDisabled
  split
  · assumption
  · split <;> rfl

@[simp]
theorem Memory.Control.value_setDisabled (control : Memory.Control) (disabled : Bool) :
    (control.setDisabled disabled).value = control.value := by
  unfold setDisabled
  split
  · rfl
  · split <;> rfl

@[simp]
theorem Memory.Control.setDisabled_twice (control : Memory.Control) (disabled : Bool) :
    (control.setDisabled disabled).setDisabled disabled = control.setDisabled disabled :=
  if_pos (control.disabled_setDisabled disabled)

/-- Gating puts down each control that it is about, however often its name occurs. -/
theorem Memory.find?_gate (memory : Memory) (disabled : Bool) (ids : List String) (id : String) :
    (Memory.controls (View.gate memory disabled ids)).find? id =
      if id ∈ ids then some ((memory.control id).setDisabled disabled) else memory.controls.find? id := by
  induction ids generalizing memory with
  | nil => simp only [View.gate, List.foldl_nil, List.not_mem_nil, if_false]
  | cons first rest ih =>
    have step := ih (memory.perform (.setDisabled first disabled))
    simp only [View.gate, List.foldl_cons, view_perform] at step ⊢
    rw [step]
    simp only [perform, control_put, List.mem_cons]
    by_cases here : id = first
    · subst here
      simp only [if_true, true_or, Control.setDisabled_twice, put, Keyed.find?_put, ite_self]
    · simp only [here, if_false, false_or, put, Keyed.find?_put]

/-- What gating makes of a control. -/
theorem Memory.control_gate (memory : Memory) (disabled : Bool) (ids : List String) (id : String) :
    Memory.control (View.gate memory disabled ids) id =
      if id ∈ ids then (memory.control id).setDisabled disabled else memory.control id := by
  simp only [Memory.control, Memory.find?_gate]
  split <;> rfl

/-- Where all is disabled already, disabling does nothing. -/
theorem Memory.gate_settled {memory : Memory} {disabled : Bool} {ids : List String}
    (settled : ∀ id ∈ ids, ∃ control, memory.controls.find? id = some control ∧ control.disabled = disabled) :
    View.gate memory disabled ids = memory := by
  induction ids with
  | nil => rfl
  | cons first rest ih =>
    obtain ⟨control, found, flag⟩ := settled first List.mem_cons_self
    have same : memory.perform (.setDisabled first disabled) = memory := by
      have known : memory.control first = control := by rw [Memory.control, found, Option.getD_some]
      have kept : control.setDisabled disabled = control := if_pos flag
      rw [perform, known, kept, put, Keyed.put_found found]
    have later := ih fun id member => settled id (List.mem_cons_of_mem first member)
    simp only [View.gate, List.foldl_cons, view_perform, same] at later ⊢
    exact later

/-- A notice is given by the command for it alone. -/
theorem Memory.alerts_perform (memory : Memory) {command : View.Command}
    (silent : ∀ text, command ≠ .alert text) : (memory.perform command).alerts = memory.alerts := by
  cases command with
  | alert text => exact (silent text rfl).elim
  | setDisabled | setValue | appendValue | scrollToEnd => rfl

theorem Terminal.alerts_perform {S : Type} [Sink S] (terminal : Terminal S) {command : View.Command}
    (silent : ∀ text, command ≠ .alert text) : (terminal.perform command).alerts = terminal.alerts := by
  cases command with
  | alert text => exact (silent text rfl).elim
  | setValue => rfl
  | appendValue | scrollToEnd =>
    simp only [perform]
    split <;> rfl
  | setDisabled =>
    simp only [perform, setDisabled]
    split
    · rfl
    · split <;> rfl

theorem Memory.alerts_gate (memory : Memory) (disabled : Bool) (ids : List String) :
    Memory.alerts (View.gate memory disabled ids) = memory.alerts := by
  induction ids generalizing memory with
  | nil => rfl
  | cons first rest ih => exact ih (memory.perform (.setDisabled first disabled))

/-- Whether a control takes input, and how often it was enabled and disabled. -/
def Memory.Control.gating (control : Memory.Control) : Bool × Nat × Nat :=
  (control.disabled, control.enabledCount, control.disabledCount)

/-- Setting the flag counts once where it changes. -/
theorem Memory.Control.gating_setDisabled (control : Memory.Control) (disabled : Bool) :
    (control.setDisabled disabled).gating =
      (disabled, control.enabledCount + (control.disabled && !disabled).toNat,
        control.disabledCount + (!control.disabled && disabled).toNat) := by
  unfold setDisabled
  cases flag : control.disabled <;> cases disabled <;> simp [gating, flag]

@[simp]
theorem Memory.Control.enabledCount_disable (control : Memory.Control) :
    (control.setDisabled true).enabledCount = control.enabledCount := by
  have gating := control.gating_setDisabled true
  rw [Bool.not_true, Bool.and_false] at gating
  exact congrArg (·.2.1) gating

theorem Memory.Control.gating_enable (control : Memory.Control) :
    ((control.setDisabled true).setDisabled false).gating =
      (false, control.enabledCount + 1, (control.setDisabled true).disabledCount) := by
  rw [Memory.Control.gating_setDisabled, control.disabled_setDisabled, control.enabledCount_disable]
  rfl

theorem Memory.Control.gating_disable {control : Memory.Control} {enabled disabled : Nat}
    (gating : control.gating = (false, enabled, disabled)) :
    (control.setDisabled true).gating = (true, enabled, disabled + 1) := by
  simp only [Memory.Control.gating, Prod.mk.injEq] at gating
  obtain ⟨flag, rfl, rfl⟩ := gating
  rw [Memory.Control.gating_setDisabled, flag]
  rfl

/-- Gating is changed by the commands about it alone. -/
theorem Memory.gating_perform (memory : Memory) {command : View.Command} (id : String)
    (other : command.flag? id = none) :
    ((memory.perform command).control id).gating = (memory.control id).gating := by
  cases command with
  | setDisabled control disabled =>
    have apart : id ≠ control := by
      intro same
      simp only [View.Command.flag?, same, if_true, reduceCtorEq] at other
    simp only [perform, control_put, if_neg apart]
  | alert text => rfl
  | setValue control text | appendValue control text | scrollToEnd control =>
    simp only [perform, control_put]
    split
    · rename_i same; rw [same]; rfl
    · rfl

/-- Controls that are on the page stay there, whatever is done to it. -/
theorem Memory.isSome_find?_perform {memory : Memory} {id : String}
    (present : (memory.controls.find? id).isSome = true) (command : View.Command) :
    ((memory.perform command).controls.find? id).isSome = true := by
  cases command with
  | alert text => exact present
  | setDisabled | setValue | appendValue | scrollToEnd =>
    simp only [perform, put, Keyed.find?_put]
    split
    · rfl
    · exact present

/-- One page differs from another in nothing but what is written on its controls. -/
structure Memory.Written (before after : Memory) : Prop where
  alerts : after.alerts = before.alerts
  gating : ∀ id, (after.control id).gating = (before.control id).gating

theorem Memory.Written.refl (memory : Memory) : memory.Written memory :=
  ⟨rfl, fun _ => rfl⟩

theorem Memory.Written.trans {first second third : Memory} (left : first.Written second)
    (right : second.Written third) : first.Written third :=
  ⟨right.alerts.trans left.alerts, fun id => (right.gating id).trans (left.gating id)⟩

theorem Memory.written_setValue (memory : Memory) (id text : String) :
    memory.Written (memory.perform (.setValue id text)) :=
  ⟨rfl, fun other => memory.gating_perform other rfl⟩

theorem Memory.written_message (memory : Memory) (id text : String) :
    memory.Written ((memory.perform (.appendValue id text)).perform (.scrollToEnd id)) :=
  ⟨rfl, fun other => ((memory.perform (.appendValue id text)).gating_perform other rfl).trans
    (memory.gating_perform other rfl)⟩

/-- The text of a control and how far it is scrolled. -/
def Memory.Control.shown (control : Memory.Control) : String × Nat :=
  (control.value, control.scrollTop)

@[simp]
theorem Memory.Control.shown_setDisabled (control : Memory.Control) (disabled : Bool) :
    (control.setDisabled disabled).shown = control.shown := by
  unfold setDisabled
  split
  · rfl
  · split <;> rfl

theorem Memory.Control.eq_of_shown {first second : Memory.Control} (shown : first.shown = second.shown)
    (gating : first.gating = second.gating) : first = second := by
  obtain ⟨value, disabled, scrollTop, enabled, disabledCount⟩ := first
  simp only [Control.shown, Control.gating, Prod.mk.injEq] at shown gating
  obtain ⟨rfl, rfl⟩ := shown
  obtain ⟨rfl, rfl, rfl⟩ := gating
  rfl

theorem Memory.shown_gate (memory : Memory) (disabled : Bool) (ids : List String) (id : String) :
    (Memory.control (View.gate memory disabled ids) id).shown = (memory.control id).shown := by
  rw [Memory.control_gate]
  split
  · exact Control.shown_setDisabled _ disabled
  · rfl

theorem Memory.shown_setValue (memory : Memory) (id text other : String) :
    ((memory.perform (.setValue id text)).control other).shown =
      if other = id then (text, (memory.control other).scrollTop) else (memory.control other).shown := by
  simp only [perform, control_put]
  split
  · rename_i same; rw [same]; rfl
  · rfl

theorem Memory.control_setValue_twice (memory : Memory) (id first second other : String) :
    ((memory.perform (.setValue id first)).perform (.setValue id second)).control other =
      (memory.perform (.setValue id second)).control other := by
  by_cases same : other = id
  · simp only [perform, control_put, same, if_true]
  · simp only [perform, control_put, same, if_false]

theorem Memory.shown_message (memory : Memory) (id text other : String) :
    (((memory.perform (.appendValue id text)).perform (.scrollToEnd id)).control other).shown =
      if other = id then ((memory.control id).value ++ text, ((memory.control id).value ++ text).utf8ByteSize)
      else (memory.control other).shown := by
  by_cases same : other = id
  · simp only [perform, control_put, same, if_true, Control.shown]
  · simp only [perform, control_put, same, if_false]

/-- What a control shows once texts were appended to it, each on a line of its own. -/
def Memory.Control.logged (control : Memory.Control) (texts : List String) : String × Nat :=
  if texts = [] then control.shown
  else
    let text := control.value ++ String.join (texts.map (· ++ "\n"))
    (text, text.utf8ByteSize)

theorem Memory.Control.value_logged (control : Memory.Control) (texts : List String) :
    (control.logged texts).1 = control.value ++ String.join (texts.map (· ++ "\n")) := by
  unfold logged
  split
  · rename_i silent
    rw [silent, List.map_nil, String.join_nil, String.append_empty]
    rfl
  · rfl

theorem Memory.Control.logged_append (control : Memory.Control) (texts : List String) (text : String) :
    control.logged (texts ++ [text]) =
      let value := (control.logged texts).1 ++ (text ++ "\n")
      (value, value.utf8ByteSize) := by
  rw [Memory.Control.value_logged]
  unfold logged
  rw [if_neg (List.append_ne_nil_of_right_ne_nil texts (List.cons_ne_nil text []))]
  simp only [List.map_append, List.map_cons, List.map_nil, String.join_append, String.join_cons, String.join_nil,
    String.append_empty, String.append_assoc]

instance : View.KeepsFlags Memory where
  isDisabled_perform memory command id := by
    cases flag : command.flag? id with
    | none => exact congrArg Prod.fst (memory.gating_perform id flag)
    | some disabled =>
      cases command with
      | setDisabled control flagged =>
        simp only [View.Command.flag?, Option.ite_none_right_eq_some, Option.some.injEq] at flag
        obtain ⟨rfl, rfl⟩ := flag
        simp only [Memory.view_isDisabled, Memory.view_perform, Memory.perform, Memory.control_put, if_true,
          Memory.Control.disabled_setDisabled, Option.getD_some]
      | setValue | appendValue | scrollToEnd | alert => simp only [View.Command.flag?, reduceCtorEq] at flag

instance {S : Type} [Sink S] : View.KeepsFlags (Terminal S) where
  isDisabled_perform terminal command id := by
    change (terminal.perform command).isDisabled id = (command.flag? id).getD (terminal.isDisabled id)
    cases command with
    | setDisabled control disabled =>
      simp only [Terminal.perform, Terminal.setDisabled, View.Command.flag?]
      by_cases here : id = control
      · subst here
        cases disabled with
        | true => simp [Terminal.isDisabled]
        | false => by_cases present : terminal.enabled.contains id <;> simp_all [Terminal.isDisabled]
      · cases disabled with
        | true => simp [Terminal.isDisabled, here]
        | false => by_cases present : terminal.enabled.contains control <;> simp_all [Terminal.isDisabled]
    | setValue control text => rfl
    | appendValue control text =>
      simp only [Terminal.perform]
      split <;> rfl
    | scrollToEnd control =>
      simp only [Terminal.perform]
      split <;> rfl
    | alert text => rfl

instance : View.ReadsBack Memory where
  value_setValue memory id text := by
    simp only [Memory.view_perform, Memory.perform, Memory.view_value, Memory.control_put, if_true]

instance {S : Type} [Sink S] : View.ReadsBack (Terminal S) where
  value_setValue terminal id text := by
    change ((terminal.values.put id text).find? id).getD "" = text
    rw [Keyed.find?_put, if_pos rfl, Option.getD_some]

end RelayConsole
