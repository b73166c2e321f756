import RelayConsole.Proofs.View.Document

namespace RelayConsole

/-- One page in memory differs from another in the text of one control and in nothing else. -/
structure Memory.Typed (before : Memory) (id text : String) (after : Memory) : Prop where
  control : after.control id = { before.control id with value := text }
  others : ∀ other, other ≠ id → after.controls.find? other = before.controls.find? other
  alerts : after.alerts = before.alerts

/-- One page on a terminal differs from another in the text of one control and in nothing else. -/
structure Terminal.Typed {S : Type} (before : Terminal S) (id text : String) (after : Terminal S) : Prop where
  value : after.value id = text
  others : ∀ other, other ≠ id → after.values.find? other = before.values.find? other
  rest : { after with values := before.values } = before

/-- A relation that typing a text brings about, and that the text typed last decides. -/
structure View.Typing {V : Type} [View V] (typed : V → String → String → V → Prop) : Prop where
  same (view : V) (id : String) : typed view id (View.value view id) view
  setValue (view : V) (id text : String) : typed view id text (View.perform view (.setValue id text))
  again {before between after : V} {id first second : String} (left : typed before id first between)
    (right : typed between id second after) : typed before id second after

theorem Memory.typing : View.Typing Memory.Typed where
  same _ _ := ⟨rfl, fun _ _ => rfl, rfl⟩
  setValue memory id text := by
    refine ⟨?_, fun other apart => ?_, rfl⟩
    · simp only [view_perform, perform, control_put, if_true]
    · simp only [view_perform, perform, put, Keyed.find?_put, if_neg apart]
  again {before between after id first second} left right := by
    refine ⟨?_, fun other apart => (right.others other apart).trans (left.others other apart),
      right.alerts.trans left.alerts⟩
    rw [right.control, left.control]

theorem Terminal.typing {S : Type} [Sink S] : View.Typing (Terminal.Typed (S := S)) where
  same _ _ := ⟨rfl, fun _ _ => rfl, rfl⟩
  setValue terminal id text := by
    refine ⟨View.ReadsBack.value_setValue terminal id text, fun other apart => ?_, rfl⟩
    change (terminal.values.put id text).find? other = _
    rw [Keyed.find?_put, if_neg apart]
  again {before between after id first second} left right := by
    refine ⟨right.value, fun other apart => (right.others other apart).trans (left.others other apart), ?_⟩
    obtain ⟨controls, sink, values, enabled, alerts⟩ := between
    rw [← left.rest, ← right.rest]

end RelayConsole
