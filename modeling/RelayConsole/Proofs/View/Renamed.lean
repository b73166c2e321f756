import Mathlib.Data.List.Forall2
import RelayConsole.Proofs.View.Document

namespace RelayConsole

/-- Two commands ask the same of controls whose names correspond. -/
inductive View.Command.Renamed (names : String → String → Prop) : View.Command → View.Command → Prop
  | setDisabled {id other : String} (same : names id other) (disabled : Bool) :
      Renamed names (.setDisabled id disabled) (.setDisabled other disabled)
  | setValue {id other : String} (same : names id other) (text : String) :
      Renamed names (.setValue id text) (.setValue other text)
  | appendValue {id other : String} (same : names id other) (text : String) :
      Renamed names (.appendValue id text) (.appendValue other text)
  | scrollToEnd {id other : String} (same : names id other) : Renamed names (.scrollToEnd id) (.scrollToEnd other)
  | alert (text : String) : Renamed names (.alert text) (.alert text)

/-- Two conversations ask the same of controls whose names correspond and, as long as they are answered alike,
come to related results. What they log is free, since it tells the names. -/
inductive Dialogue.Renamed {α β : Type} (names : String → String → Prop) (results : α → β → Prop) :
    Dialogue α → Dialogue β → Prop
  | done {result : α} {other : β} (same : results result other) : Renamed names results (.done result) (.done other)
  | log {rest : Dialogue α} {otherRest : Dialogue β} (line other : Log.Line)
      (later : Renamed names results rest otherRest) : Renamed names results (.log line rest) (.log other otherRest)
  | perform {command other : View.Command} {rest : Dialogue α} {otherRest : Dialogue β}
      (same : command.Renamed names other) (later : Renamed names results rest otherRest) :
      Renamed names results (.perform command rest) (.perform other otherRest)
  | askDisabled {id other : String} {rest : Bool → Dialogue α} {otherRest : Bool → Dialogue β}
      (same : names id other) (later : ∀ answer, Renamed names results (rest answer) (otherRest answer)) :
      Renamed names results (.askDisabled id rest) (.askDisabled other otherRest)
  | askValue {id other : String} {rest : String → Dialogue α} {otherRest : String → Dialogue β}
      (same : names id other) (later : ∀ answer, Renamed names results (rest answer) (otherRest answer)) :
      Renamed names results (.askValue id rest) (.askValue other otherRest)

section Composition

variable {α α' β β' : Type} {names : String → String → Prop} {between : α → α' → Prop} {results : β → β' → Prop}

theorem Dialogue.Renamed.bind {dialogue : Dialogue α} {other : Dialogue α'} (first : dialogue.Renamed names between other)
    {next : α → Dialogue β} {otherNext : α' → Dialogue β'}
    (later : ∀ result otherResult, between result otherResult →
      (next result).Renamed names results (otherNext otherResult)) :
    (dialogue >>= next).Renamed names results (other >>= otherNext) := by
  change (dialogue.bind next).Renamed names results (other.bind otherNext)
  induction first with
  | done same => exact later _ _ same
  | log line other _ ih => exact .log line other ih
  | perform same _ ih => exact .perform same ih
  | askDisabled same _ ih => exact .askDisabled same ih
  | askValue same _ ih => exact .askValue same ih

theorem Dialogue.renamed_say (line other : Log.Line) : (say line).Renamed names Eq (say other) :=
  .log line other (.done rfl)

theorem Dialogue.renamed_command {order other : View.Command} (same : order.Renamed names other) :
    (command order).Renamed names Eq (command other) :=
  .perform same (.done rfl)

theorem Dialogue.renamed_setDisabled (disabled : Bool) {ids others : List String} (same : List.Forall₂ names ids others) :
    (setDisabled disabled ids).Renamed names Eq (setDisabled disabled others) := by
  induction same with
  | nil => exact .done rfl
  | cons first _ ih => exact .perform (.setDisabled first disabled) ih

end Composition

/-- Related views answer alike about controls whose names correspond, and the same commands keep them related. -/
structure View.AgreeAcross {V W : Type} [View V] [View W] (names : String → String → Prop)
    (related : V → W → Prop) : Prop where
  isDisabled {view : V} {otherView : W} {id other : String} (start : related view otherView)
    (same : names id other) : View.isDisabled view id = View.isDisabled otherView other
  value {view : V} {otherView : W} {id other : String} (start : related view otherView)
    (same : names id other) : View.value view id = View.value otherView other
  perform {view : V} {otherView : W} {command other : View.Command} (start : related view otherView)
    (same : command.Renamed names other) : related (View.perform view command) (View.perform otherView other)

theorem Dialogue.Renamed.play {α β V W : Type} [View V] [View W] {names : String → String → Prop}
    {results : α → β → Prop} {related : V → W → Prop} (agree : View.AgreeAcross names related)
    {dialogue : Dialogue α} {other : Dialogue β} (renamed : dialogue.Renamed names results other)
    {view : V} {otherView : W} (start : related view otherView) :
    results (dialogue.play view).result (other.play otherView).result ∧
      related (dialogue.play view).view (other.play otherView).view := by
  induction renamed generalizing view otherView with
  | done same => exact ⟨same, start⟩
  | log line other _ ih => exact ih start
  | perform same _ ih => exact ih (agree.perform start same)
  | askDisabled same _ ih =>
    simp only [Dialogue.play, agree.isDisabled start same]
    exact ih _ start
  | askValue same _ ih =>
    simp only [Dialogue.play, agree.value start same]
    exact ih _ start

/-- Two pages hold the same under names that correspond. -/
structure Memory.Renamed (names : String → String → Prop) (memory page : Memory) : Prop where
  control : ∀ id other, names id other → page.control other = memory.control id
  alerts : page.alerts = memory.alerts

variable {names : String → String → Prop} {memory page : Memory}

/-- A control is put down under the one name and under the other; that touches no further control of either page,
since the correspondence is one to one. -/
theorem Memory.Renamed.put (oneToOne : ∀ {id other key name}, names id other → names key name → (id = key ↔ other = name))
    (start : memory.Renamed names page) {id other : String} (same : names id other) (control : Memory.Control) :
    (memory.put id control).Renamed names (page.put other control) where
  control key name corresponds := by
    rw [control_put, control_put, start.control key name corresponds]
    exact if_congr (oneToOne corresponds same).symm rfl rfl
  alerts := start.alerts

theorem Memory.renamed_agree (oneToOne : ∀ {id other key name}, names id other → names key name → (id = key ↔ other = name)) :
    View.AgreeAcross names (Memory.Renamed names) where
  isDisabled start same := congrArg Control.disabled (start.control _ _ same).symm
  value start same := congrArg Control.value (start.control _ _ same).symm
  perform {memory page command other} start same := by
    simp only [view_perform]
    cases same with
    | setDisabled same disabled =>
      simp only [perform, start.control _ _ same]
      exact start.put oneToOne same _
    | setValue same text =>
      simp only [perform, start.control _ _ same]
      exact start.put oneToOne same _
    | appendValue same text =>
      simp only [perform, start.control _ _ same]
      exact start.put oneToOne same _
    | scrollToEnd same =>
      simp only [perform, start.control _ _ same]
      exact start.put oneToOne same _
    | alert text => exact ⟨start.control, congrArg (· ++ [text]) start.alerts⟩

end RelayConsole
