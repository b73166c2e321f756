import RelayConsole.Proofs.View.Document
import RelayConsole.View.Calls

namespace RelayConsole

/-- What a call makes of a control's disabled flag, if it is a command about that. -/
def View.Call.flag? (id : String) : View.Call → Option Bool
  | .command order => order.flag? id
  | .isDisabled _ | .value _ => none

theorem View.Call.flag?_eq_some {call : View.Call} {id : String} {disabled : Bool} :
    call.flag? id = some disabled ↔ call = .command (.setDisabled id disabled) := by
  constructor
  · intro about
    cases call with
    | isDisabled | value => cases about
    | command order =>
      cases order with
      | setDisabled control flag =>
        simp only [flag?, Command.flag?, Option.ite_none_right_eq_some, Option.some.injEq] at about
        obtain ⟨rfl, rfl⟩ := about
        rfl
      | setValue | appendValue | scrollToEnd | alert => cases about
  · rintro rfl
    exact if_pos rfl

section Turning

variable {V W : Type} [View V] [View W]

@[simp]
theorem View.after_command (view : V) (order : View.Command) :
    View.after view (.command order) = View.perform view order :=
  rfl

theorem View.remarks_command (view : V) (order : View.Command) :
    View.remarks view (.command order) = View.notes view order :=
  List.append_nil _

theorem View.isDisabled_after [View.KeepsFlags V] (view : V) (call : View.Call) (id : String) :
    View.isDisabled (View.after view call) id = (call.flag? id).getD (View.isDisabled view id) := by
  cases call with
  | isDisabled | value => rfl
  | command order => exact View.KeepsFlags.isDisabled_perform view order id

theorem View.turned_eq_false {view : V} {call : View.Call} {id : String}
    (kept : View.isDisabled (View.after view call) id = View.isDisabled view id) (disabled : Bool) :
    View.turned view id disabled call = false := by
  rw [turned, kept]
  cases View.isDisabled view id <;> cases disabled <;> rfl

theorem View.turns_cons (view : V) (id : String) (disabled : Bool) (call : View.Call) (rest : List View.Call) :
    View.turns view id disabled (call :: rest) =
      (View.turned view id disabled call).toNat + View.turns (View.after view call) id disabled rest := by
  rw [turns, along, List.countP_cons, Nat.add_comm]
  cases View.turned view id disabled call <;> rfl

/-- A flag goes up and down by turns, so how often it did either differs by where it started and where it is. -/
theorem View.turns_balance (view : V) (id : String) (calls : List View.Call) :
    View.turns view id false calls + (View.isDisabled (View.serve view calls) id).toNat =
      View.turns view id true calls + (View.isDisabled view id).toNat := by
  induction calls generalizing view with
  | nil => rfl
  | cons call rest ih =>
    have later := ih (View.after view call)
    have step : (View.turned view id false call).toNat + (View.isDisabled (View.after view call) id).toNat =
        (View.turned view id true call).toNat + (View.isDisabled view id).toNat := by
      unfold turned
      cases View.isDisabled view id <;> cases View.isDisabled (View.after view call) id <;> rfl
    rw [turns_cons, turns_cons]
    change _ + (View.isDisabled (View.serve (View.after view call) rest) id).toNat = _
    omega

/-- Views that keep their flags and have the same ones at first have the same ones ever after, and turn them at
the same calls. -/
theorem View.turns_alike [View.KeepsFlags V] [View.KeepsFlags W] {view : V} {other : W} {id : String}
    (same : View.isDisabled view id = View.isDisabled other id) (calls : List View.Call) :
    View.isDisabled (View.serve view calls) id = View.isDisabled (View.serve other calls) id ∧
      ∀ disabled, View.turns view id disabled calls = View.turns other id disabled calls := by
  induction calls generalizing view other with
  | nil => exact ⟨same, fun _ => rfl⟩
  | cons call rest ih =>
    have next : View.isDisabled (View.after view call) id = View.isDisabled (View.after other call) id := by
      rw [View.isDisabled_after, View.isDisabled_after, same]
    obtain ⟨flags, turns⟩ := ih next
    refine ⟨flags, fun disabled => ?_⟩
    have turned : View.turned view id disabled call = View.turned other id disabled call := by
      rw [View.turned, View.turned, same, next]
    rw [View.turns_cons, View.turns_cons, turned, turns]

end Turning

/-- A call that does not set a control leaves its flag and its counts. -/
theorem Memory.gating_unset (memory : Memory) {call : View.Call} {id : String} (about : call.flag? id = none) :
    ((View.after memory call).control id).gating = (memory.control id).gating := by
  cases call with
  | isDisabled | value => rfl
  | command order => exact memory.gating_perform id about

/-- A call counts where it turns the flag. -/
theorem Memory.gating_after (memory : Memory) (call : View.Call) (id : String) :
    ((View.after memory call).control id).gating =
      (View.isDisabled (View.after memory call) id,
        (memory.control id).enabledCount + (View.turned memory id false call).toNat,
        (memory.control id).disabledCount + (View.turned memory id true call).toNat) := by
  cases about : call.flag? id with
  | none =>
    have flag : View.isDisabled (View.after memory call) id = View.isDisabled memory id := by
      rw [View.isDisabled_after, about, Option.getD_none]
    rw [memory.gating_unset about, View.turned_eq_false flag, View.turned_eq_false flag, flag]
    rfl
  | some disabled =>
    obtain rfl := View.Call.flag?_eq_some.mp about
    have flag : View.isDisabled (View.after memory (.command (.setDisabled id disabled))) id = disabled := by
      rw [View.isDisabled_after, about, Option.getD_some]
    have control : (View.after memory (.command (.setDisabled id disabled))).control id =
        (memory.control id).setDisabled disabled := by
      simp only [View.after_command, view_perform, perform, control_put, if_true]
    rw [control, Memory.Control.gating_setDisabled, View.turned, View.turned, flag, view_isDisabled]
    cases (memory.control id).disabled <;> cases disabled <;> rfl

theorem Memory.counts_serve (memory : Memory) (calls : List View.Call) (id : String) :
    ((View.serve memory calls).control id).enabledCount =
        (memory.control id).enabledCount + View.turns memory id false calls ∧
      ((View.serve memory calls).control id).disabledCount =
        (memory.control id).disabledCount + View.turns memory id true calls := by
  induction calls generalizing memory with
  | nil => exact ⟨rfl, rfl⟩
  | cons call rest ih =>
    have step := memory.gating_after call id
    simp only [Memory.Control.gating, Prod.mk.injEq] at step
    obtain ⟨-, enabled, disabled⟩ := step
    obtain ⟨up, down⟩ := ih (View.after memory call)
    rw [View.turns_cons, View.turns_cons, ← Nat.add_assoc, ← Nat.add_assoc, ← enabled, ← disabled]
    exact ⟨up, down⟩

/-- The line about a control that was enabled or disabled. -/
def Terminal.turnLine (id : String) (disabled : Bool) : Log.Line :=
  ⟨.debug, .terminal, "Control '" ++ id ++ "' " ++ if disabled then "disabled" else "enabled"⟩

/-- The line tells the control and which way it was turned: read from its end, since what the control is named
may look like the rest of a line. -/
theorem Terminal.turnLine_inj {id other : String} {disabled flag : Bool} :
    turnLine id disabled = turnLine other flag ↔ id = other ∧ disabled = flag := by
  refine ⟨fun same => ?_, fun ⟨control, way⟩ => by rw [control, way]⟩
  have texts := congrArg (fun line => line.message.toList.reverse) same
  cases disabled <;> cases flag
  case false.false => exact ⟨String.toList_inj.mp (by simpa [turnLine] using texts), rfl⟩
  case true.true => exact ⟨String.toList_inj.mp (by simpa [turnLine] using texts), rfl⟩
  case false.true => simp [turnLine] at texts
  case true.false => simp [turnLine] at texts

section Lines

variable {S : Type} [Sink S]

theorem Terminal.count_faultNotes (action : String) (result : Except String Unit) (id : String) (disabled : Bool) :
    (faultNotes action result).count (turnLine id disabled) = 0 := by
  cases result with
  | ok => rfl
  | error reason =>
    refine List.count_eq_zero.mpr fun member => ?_
    have level := congrArg Log.Line.level (List.mem_singleton.mp member)
    cases level

/-- A line is logged exactly where the flag turns. -/
theorem Terminal.count_remarks (terminal : Terminal S) (call : View.Call) (id : String) (disabled : Bool) :
    (View.remarks terminal call).count (turnLine id disabled) =
      (View.turned terminal id disabled call).toNat := by
  cases about : call.flag? id with
  | none =>
    have flag : View.isDisabled (View.after terminal call) id = View.isDisabled terminal id := by
      rw [View.isDisabled_after, about, Option.getD_none]
    rw [View.turned_eq_false flag]
    cases call with
    | isDisabled | value => rfl
    | command order =>
      rw [View.remarks_command]
      change (terminal.notes order).count _ = 0
      cases order with
      | setDisabled control flag =>
        have apart : control ≠ id := by
          rintro rfl
          simp only [View.Call.flag?, View.Command.flag?, if_true, reduceCtorEq] at about
        simp only [notes]
        split
        · rfl
        · refine List.count_eq_zero.mpr fun member => apart ?_
          exact (turnLine_inj.mp (List.mem_singleton.mp member).symm).1
      | setValue | alert => rfl
      | appendValue control text | scrollToEnd control =>
        simp only [notes]
        split
        · exact count_faultNotes _ _ id disabled
        · rfl
  | some flag =>
    obtain rfl := View.Call.flag?_eq_some.mp about
    rw [View.turned, View.isDisabled_after, about, Option.getD_some, View.remarks_command]
    change (if terminal.isDisabled id = flag then [] else [turnLine id flag]).count _ =
      (terminal.isDisabled id == !disabled && flag == disabled).toNat
    by_cases way : flag = disabled
    · subst way
      cases terminal.isDisabled id <;> cases flag <;> simp
    · rw [beq_false_of_ne way, Bool.and_false]
      split
      · rfl
      · refine List.count_eq_zero.mpr fun member => way ?_
        exact (turnLine_inj.mp (List.mem_singleton.mp member).symm).2

theorem Terminal.count_log (terminal : Terminal S) (calls : List View.Call) (id : String) (disabled : Bool) :
    (View.log terminal calls).count (turnLine id disabled) = View.turns terminal id disabled calls := by
  induction calls generalizing terminal with
  | nil => rfl
  | cons call rest ih =>
    have later := ih (View.after terminal call)
    rw [View.turns_cons, ← later, ← terminal.count_remarks call id disabled, ← List.count_append]
    rfl

end Lines

/-- Whatever calls are made to a new page in memory and to a new terminal, the page has counted for each control at
how many calls its flag was turned on and off, the terminal has logged one line for each of these, and the control
has the same flag on both. -/
theorem View.counts_and_lines_tell_the_history {S : Type} [Sink S] (controls : Controls) (sink : S)
    (calls : List View.Call) (id : String) :
    let empty : Memory := {}
    let blank : Terminal S := { controls, sink }
    let memory := View.serve empty calls
    let terminal := View.serve blank calls
    let control := memory.control id
    (control.enabledCount = View.turns empty id false calls ∧
      control.disabledCount = View.turns empty id true calls) ∧
    control.enabledCount = control.disabledCount + (if View.isDisabled memory id then 0 else 1) ∧
    (∀ call, (∀ disabled, call ≠ .command (.setDisabled id disabled)) →
      ((View.after memory call).control id).enabledCount = control.enabledCount ∧
        ((View.after memory call).control id).disabledCount = control.disabledCount) ∧
    ((View.log blank calls).count (Terminal.turnLine id false) = control.enabledCount ∧
      (View.log blank calls).count (Terminal.turnLine id true) = control.disabledCount) ∧
    View.isDisabled terminal id = View.isDisabled memory id := by
  intro empty blank memory terminal control
  obtain ⟨enabled, disabled⟩ := empty.counts_serve calls id
  have start : View.isDisabled blank id = View.isDisabled empty id := rfl
  obtain ⟨flags, turns⟩ := View.turns_alike start calls
  have up : control.enabledCount = View.turns empty id false calls := enabled.trans (Nat.zero_add _)
  have down : control.disabledCount = View.turns empty id true calls := disabled.trans (Nat.zero_add _)
  refine ⟨⟨up, down⟩, ?_, fun call other => ?_, ⟨?_, ?_⟩, flags⟩
  · have balance := View.turns_balance empty id calls
    rw [← up, ← down] at balance
    change _ + (View.isDisabled memory id).toNat = _ + 1 at balance
    cases flag : View.isDisabled memory id <;> simp [flag] at balance ⊢ <;> omega
  · have about : call.flag? id = none :=
      Option.eq_none_iff_forall_ne_some.mpr fun disabled same => other disabled (View.Call.flag?_eq_some.mp same)
    have kept := memory.gating_unset about
    exact ⟨congrArg (·.2.1) kept, congrArg (·.2.2) kept⟩
  · rw [Terminal.count_log, turns, up]
  · rw [Terminal.count_log, turns, down]

/-- A control that is the response as well, on a terminal whose sink takes nothing, and another one whose name
looks like the end of a line. -/
theorem View.history_of_a_shared_control :
    let controls : Controls := ⟨"p", "q", "x", "s"⟩
    let sink : Sink.Record := { writeFault := some "Control 'x' enabled" }
    let other := "x' enabled"
    let calls : List View.Call :=
      [.command (.setDisabled "x" true), .command (.setDisabled "x" false), .command (.appendValue "x" "a"),
        .command (.setDisabled other false), .command (.setDisabled "x" false), .isDisabled "x",
        .command (.setDisabled "x" true), .command (.scrollToEnd "x"), .command (.setDisabled "x" false)]
    let memory := View.serve ({} : Memory) calls
    let blank : Terminal Sink.Record := { controls, sink }
    let next : View.Call := .command (.setDisabled other true)
    (∀ disabled, next ≠ .command (.setDisabled "x" disabled)) ∧
      (memory.control "x").enabledCount = 2 ∧ (memory.control "x").disabledCount = 1 ∧
      ((View.after memory next).control "x").enabledCount = 2 ∧
      (View.log blank calls).count (Terminal.turnLine "x" false) = 2 ∧
      (View.log blank calls).count (Terminal.turnLine "x" true) = 1 ∧
      View.isDisabled (View.serve blank calls) "x" = false := by
  intro controls sink other calls memory blank next
  have apart (disabled : Bool) : next ≠ .command (.setDisabled "x" disabled) := by
    cases disabled <;> decide
  have history := View.counts_and_lines_tell_the_history controls sink calls "x"
  dsimp only at history
  obtain ⟨⟨enabled, disabled⟩, -, others, ⟨up, down⟩, flag⟩ := history
  have two : View.turns ({} : Memory) "x" false calls = 2 := by decide +kernel
  have one : View.turns ({} : Memory) "x" true calls = 1 := by decide +kernel
  refine ⟨apart, enabled.trans two, disabled.trans one, ?_, ?_, ?_, ?_⟩
  · exact (others next apart).1.trans (enabled.trans two)
  · exact up.trans (enabled.trans two)
  · exact down.trans (disabled.trans one)
  · rw [flag]
    decide +kernel

end RelayConsole
