import RelayConsole.Proofs.View.Document
import RelayConsole.Proofs.View.Related
import RelayConsole.View.Calls
import RelayConsole.View.Plain

namespace RelayConsole

/-- What a command makes of a control's text. -/
def View.Command.text (id before : String) : View.Command → String
  | .setValue control text => if id = control then text else before
  | .appendValue control text => if id = control then before ++ text else before
  | .setDisabled _ _ | .scrollToEnd _ | .alert _ => before

/-- The text of a control is decided by what is set on it and appended to it and by nothing else. -/
class View.KeepsTexts (V : Type) [View V] : Prop where
  value_perform (view : V) (command : View.Command) (id : String) :
    View.value (View.perform view command) id = command.text id (View.value view id)

instance : View.KeepsTexts Memory where
  value_perform memory command id := by
    simp only [Memory.view_value, Memory.view_perform]
    cases command with
    | alert text => rfl
    | setDisabled control disabled =>
      simp only [Memory.perform, Memory.control_put, View.Command.text]
      split
      · rename_i here; rw [here, Memory.Control.value_setDisabled]
      · rfl
    | setValue control text =>
      simp only [Memory.perform, Memory.control_put, View.Command.text]
      split <;> rfl
    | appendValue control text =>
      simp only [Memory.perform, Memory.control_put, View.Command.text]
      split
      · rename_i here; rw [here]
      · rfl
    | scrollToEnd control =>
      simp only [Memory.perform, Memory.control_put, View.Command.text]
      split
      · rename_i here; rw [here]
      · rfl

instance : View.KeepsFlags Plain where
  isDisabled_perform plain command id := by
    change (plain.perform command).isDisabled id = (command.flag? id).getD (plain.isDisabled id)
    cases command with
    | setDisabled control disabled =>
      simp only [Plain.perform, Plain.isDisabled, Keyed.find?_put, View.Command.flag?]
      split <;> rfl
    | setValue | appendValue | scrollToEnd | alert => rfl

instance : View.KeepsTexts Plain where
  value_perform plain command id := by
    change (plain.perform command).value id = command.text id (plain.value id)
    cases command with
    | setDisabled | scrollToEnd | alert => rfl
    | setValue control text =>
      simp only [Plain.perform, Plain.value, Keyed.find?_put, View.Command.text]
      split <;> rfl
    | appendValue control text =>
      simp only [Plain.perform, Plain.value, Keyed.find?_put, View.Command.text]
      split
      · rename_i here; rw [here, Option.getD_some]
      · rfl

/-- Two views give the same answers about every control. -/
structure View.Alike {V W : Type} [View V] [View W] (view : V) (other : W) : Prop where
  isDisabled : ∀ id, View.isDisabled view id = View.isDisabled other id
  value : ∀ id, View.value view id = View.value other id

variable {V W : Type} [View V] [View W] {related : V → W → Prop}

/-- Where flags and texts are decided by the commands alone, the same commands keep two views alike, however
each of them stores what it is told. -/
theorem View.alike_agree [View.KeepsFlags V] [View.KeepsFlags W] [View.KeepsTexts V] [View.KeepsTexts W]
    {allowed : View.Call → Prop} : View.Agree (View.Alike (V := V) (W := W)) allowed where
  isDisabled start _ := start.isDisabled _
  value start _ := start.value _
  perform start _ := by
    constructor
    · intro id
      rw [View.KeepsFlags.isDisabled_perform, View.KeepsFlags.isDisabled_perform, start.isDisabled]
    · intro id
      rw [View.KeepsTexts.value_perform, View.KeepsTexts.value_perform, start.value]

theorem View.Call.dialogue_within (call : View.Call) : call.dialogue.Within (· = call) := by
  cases call with
  | isDisabled | value => exact ⟨rfl, fun _ => trivial⟩
  | command order => exact ⟨rfl, trivial⟩

theorem View.Agree.call {call : View.Call} (agree : View.Agree related (· = call)) {view : V} {other : W}
    (start : related view other) :
    View.answer view call = View.answer other call ∧ related (View.after view call) (View.after other call) :=
  call.dialogue_within.play_related agree start

/-- The same calls are answered alike by views that agree on all that can be asked, and leave them related. -/
theorem View.Agree.serve (agree : ∀ call, View.Agree related (· = call)) {view : V} {other : W}
    (start : related view other) (calls : List View.Call) :
    View.answers view calls = View.answers other calls ∧
      related (View.serve view calls) (View.serve other calls) := by
  induction calls generalizing view other with
  | nil => exact ⟨rfl, start⟩
  | cons call rest ih =>
    obtain ⟨answer, next⟩ := (agree call).call start
    obtain ⟨answers, last⟩ := ih next
    refine ⟨?_, last⟩
    change View.answer view call :: View.answers (View.after view call) rest = _
    rw [answer, answers]
    rfl

end RelayConsole
