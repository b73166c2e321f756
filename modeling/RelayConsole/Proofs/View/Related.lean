import RelayConsole.Proofs.View.Carried

namespace RelayConsole

/-- A conversation asks nothing but what is allowed, whatever it is answered. -/
def Dialogue.Within {α : Type} (allowed : View.Call → Prop) : Dialogue α → Prop
  | .done _ => True
  | .log _ rest => rest.Within allowed
  | .perform command rest => allowed (.command command) ∧ rest.Within allowed
  | .askDisabled id rest => allowed (.isDisabled id) ∧ ∀ answer, (rest answer).Within allowed
  | .askValue id rest => allowed (.value id) ∧ ∀ answer, (rest answer).Within allowed

section Alphabet

variable {α β : Type} {allowed : View.Call → Prop}

theorem Dialogue.within_pure (result : α) : (pure result : Dialogue α).Within allowed :=
  trivial

theorem Dialogue.within_say (line : Log.Line) : (say line).Within allowed :=
  trivial

theorem Dialogue.within_command {order : View.Command} (may : allowed (.command order)) :
    (command order).Within allowed :=
  ⟨may, trivial⟩

theorem Dialogue.Within.bind {dialogue : Dialogue α} (first : dialogue.Within allowed)
    {next : α → Dialogue β} (later : ∀ result, (next result).Within allowed) :
    (dialogue >>= next).Within allowed := by
  change (dialogue.bind next).Within allowed
  induction dialogue with
  | done result => exact later result
  | log line rest ih => exact ih first
  | perform command rest ih => exact ⟨first.1, ih first.2⟩
  | askDisabled id rest ih => exact ⟨first.1, fun answer => ih answer (first.2 answer)⟩
  | askValue id rest ih => exact ⟨first.1, fun answer => ih answer (first.2 answer)⟩

theorem Dialogue.within_setDisabled {disabled : Bool} {ids : List String}
    (may : ∀ id ∈ ids, allowed (.command (.setDisabled id disabled))) :
    (setDisabled disabled ids).Within allowed := by
  induction ids with
  | nil => trivial
  | cons id rest ih =>
    exact ⟨may id List.mem_cons_self, ih fun later member => may later (List.mem_cons_of_mem id member)⟩

end Alphabet

variable {α V W : Type} [View V] [View W]

/-- What everything allowed keeps true of a view is true after a conversation that keeps to it. -/
theorem Dialogue.Within.play_keeps {allowed : View.Call → Prop} {holds : V → Prop}
    (kept : ∀ view command, allowed (.command command) → holds view → holds (View.perform view command))
    {dialogue : Dialogue α} (within : dialogue.Within allowed) {view : V} (start : holds view) :
    holds (dialogue.play view).view := by
  induction dialogue generalizing view with
  | done result => exact start
  | log line rest ih => exact ih within start
  | perform command rest ih => exact ih within.2 (kept view command within.1 start)
  | askDisabled id rest ih => exact ih _ (within.2 _) start
  | askValue id rest ih => exact ih _ (within.2 _) start

/-- Related views answer what is allowed alike, and what is allowed keeps them related. -/
structure View.Agree (related : V → W → Prop) (allowed : View.Call → Prop) : Prop where
  isDisabled {view : V} {other : W} {id : String} (start : related view other)
    (may : allowed (.isDisabled id)) : View.isDisabled view id = View.isDisabled other id
  value {view : V} {other : W} {id : String} (start : related view other) (may : allowed (.value id)) :
    View.value view id = View.value other id
  perform {view : V} {other : W} {command : View.Command} (start : related view other)
    (may : allowed (.command command)) : related (View.perform view command) (View.perform other command)

theorem View.Carries.agree {carry : V → W} (carries : View.Carries carry) {allowed : View.Call → Prop} :
    View.Agree (fun view other => other = carry view) allowed where
  isDisabled start _ := by rw [start, carries.isDisabled]
  value start _ := by rw [start, carries.value]
  perform start _ := by rw [start, carries.perform]

/-- A conversation that keeps to what is allowed comes to the same result with related views and leaves
them related. -/
theorem Dialogue.Within.play_related {allowed : View.Call → Prop} {related : V → W → Prop}
    (agree : View.Agree related allowed) {dialogue : Dialogue α} (within : dialogue.Within allowed)
    {view : V} {other : W} (start : related view other) :
    (dialogue.play view).result = (dialogue.play other).result ∧
      related (dialogue.play view).view (dialogue.play other).view := by
  induction dialogue generalizing view other with
  | done result => exact ⟨rfl, start⟩
  | log line rest ih => exact ih within start
  | perform command rest ih => exact ih within.2 (agree.perform start within.1)
  | askDisabled id rest ih =>
    simp only [play, agree.isDisabled start within.1]
    exact ih _ (within.2 _) start
  | askValue id rest ih =>
    simp only [play, agree.value start within.1]
    exact ih _ (within.2 _) start

/-- Where related views note what is allowed alike, a conversation leaves the same lines with both. -/
theorem Dialogue.Within.lines_related {allowed : View.Call → Prop} {related : V → W → Prop}
    (agree : View.Agree related allowed)
    (noted : ∀ {view other command}, related view other → allowed (.command command) →
      View.notes view command = View.notes other command)
    {dialogue : Dialogue α} (within : dialogue.Within allowed) {view : V} {other : W} (start : related view other) :
    (dialogue.play view).lines = (dialogue.play other).lines := by
  induction dialogue generalizing view other with
  | done result => rfl
  | log line rest ih => simp only [play, ih within start]
  | perform command rest ih =>
    simp only [play, noted start within.1, ih within.2 (agree.perform start within.1)]
  | askDisabled id rest ih =>
    simp only [play, agree.isDisabled start within.1]
    exact ih _ (within.2 _) start
  | askValue id rest ih =>
    simp only [play, agree.value start within.1]
    exact ih _ (within.2 _) start

end RelayConsole
