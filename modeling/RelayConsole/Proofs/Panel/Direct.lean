import RelayConsole.Panel.Deed
import RelayConsole.Proofs.Panel.Related
import RelayConsole.Proofs.View.Alike

namespace RelayConsole

variable {V W : Type} [View V] [View W] {related : V → W → Prop}

theorem Panel.Related.next (agree : ∀ allowed, View.Agree related allowed) {panel : Panel V} {other : Panel W}
    (start : panel.Related related other) (deed : Panel.Deed) :
    panel.response deed = other.response deed ∧ (panel.next deed).Related related (other.next deed) := by
  cases deed with
  | act action =>
    obtain ⟨told, after⟩ := start.step (agree (action.MayCall panel.widget.controls))
    exact ⟨congrArg (Except.map fun _ => View.Answer.done) told, after⟩
  | call call =>
    obtain ⟨answer, after⟩ := (agree (· = call)).call start.view
    exact ⟨congrArg Except.ok answer, start.widget, after⟩

/-- Deeds on a widget and past it are answered alike over views that agree on all that can be asked. -/
theorem Panel.Related.follow (agree : ∀ allowed, View.Agree related allowed) {panel : Panel V} {other : Panel W}
    (start : panel.Related related other) (deeds : List Panel.Deed) :
    panel.responses deeds = other.responses deeds ∧
      (panel.follow deeds).Related related (other.follow deeds) := by
  induction deeds generalizing panel other with
  | nil => exact ⟨rfl, start⟩
  | cons deed rest ih =>
    obtain ⟨told, next⟩ := start.next agree deed
    obtain ⟨later, last⟩ := ih next
    refine ⟨?_, last⟩
    rw [Panel.responses, Panel.responses, told, later]

/-- A page in memory, which appends in place, and a plain one, which reads, joins and writes back, answer any calls
alike. A widget put on them after these goes on alike, whatever happens to it and is done to its page: the same
results, states and frames, and the same flag and value of every control. -/
theorem Panel.appending_in_place_is_reading_and_writing (calls : List View.Call) (name : String)
    (controls : Controls) (deeds : List Panel.Deed) :
    let memory := View.serve ({} : Memory) calls
    let plain := View.serve ({} : Plain) calls
    let panel := (Panel.fresh name controls memory).follow deeds
    let other := (Panel.fresh name controls plain).follow deeds
    (∀ (plain : Plain) (id text : String),
      View.after plain (.command (.appendValue id text)) =
        View.serve plain [.value id, .command (.setValue id (View.value plain id ++ text))]) ∧
    (View.answers ({} : Memory) calls = View.answers ({} : Plain) calls ∧
      ∀ id, View.isDisabled memory id = View.isDisabled plain id ∧ View.value memory id = View.value plain id) ∧
    (Panel.fresh name controls memory).responses deeds = (Panel.fresh name controls plain).responses deeds ∧
    panel.widget = other.widget ∧
    ∀ id, View.isDisabled panel.view id = View.isDisabled other.view id ∧
      View.value panel.view id = View.value other.view id := by
  intro memory plain panel other
  have empty : View.Alike ({} : Memory) ({} : Plain) := ⟨fun _ => rfl, fun _ => rfl⟩
  obtain ⟨answers, alike⟩ := View.Agree.serve (fun _ => View.alike_agree) empty calls
  have fresh : (Panel.fresh name controls memory).Related View.Alike (Panel.fresh name controls plain) :=
    Panel.fresh_related View.alike_agree alike
  obtain ⟨responses, last⟩ := fresh.follow (fun _ => View.alike_agree) deeds
  exact ⟨fun _ _ _ => rfl, ⟨answers, fun id => ⟨alike.isDisabled id, alike.value id⟩⟩, responses,
    last.widget.symm, fun id => ⟨last.view.isDisabled id, last.view.value id⟩⟩

end RelayConsole
