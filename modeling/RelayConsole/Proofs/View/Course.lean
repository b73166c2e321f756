import RelayConsole.Proofs.View.Related
import RelayConsole.View.Calls

namespace RelayConsole

/-- A way that a conversation can go: the calls that are made in it and what it comes to. The answers are free, so
that a view may even give another one to the same question the next time. -/
inductive Dialogue.Course {α : Type} : Dialogue α → List View.Call → α → Prop
  | done (result : α) : Course (.done result) [] result
  | log {line : Log.Line} {rest : Dialogue α} {calls : List View.Call} {result : α}
      (later : Course rest calls result) : Course (.log line rest) calls result
  | perform {command : View.Command} {rest : Dialogue α} {calls : List View.Call} {result : α}
      (later : Course rest calls result) : Course (.perform command rest) (.command command :: calls) result
  | askDisabled {id : String} {rest : Bool → Dialogue α} {calls : List View.Call} {result : α} (answer : Bool)
      (later : Course (rest answer) calls result) : Course (.askDisabled id rest) (.isDisabled id :: calls) result
  | askValue {id : String} {rest : String → Dialogue α} {calls : List View.Call} {result : α} (answer : String)
      (later : Course (rest answer) calls result) : Course (.askValue id rest) (.value id :: calls) result

/-- A conversation comes to nothing but what holds, whatever it is answered. -/
def Dialogue.Yields {α : Type} (holds : α → Prop) : Dialogue α → Prop
  | .done result => holds result
  | .log _ rest => rest.Yields holds
  | .perform _ rest => rest.Yields holds
  | .askDisabled _ rest => ∀ answer, (rest answer).Yields holds
  | .askValue _ rest => ∀ answer, (rest answer).Yields holds

section Courses

variable {α β : Type}

theorem Dialogue.Yields.bind {between : α → Prop} {holds : β → Prop} {dialogue : Dialogue α}
    (first : dialogue.Yields between) {next : α → Dialogue β}
    (later : ∀ result, between result → (next result).Yields holds) : (dialogue >>= next).Yields holds := by
  change (dialogue.bind next).Yields holds
  induction dialogue with
  | done result => exact later result first
  | log line rest ih => exact ih first
  | perform command rest ih => exact ih first
  | askDisabled id rest ih => exact fun answer => ih answer (first answer)
  | askValue id rest ih => exact fun answer => ih answer (first answer)

theorem Dialogue.yields_any (dialogue : Dialogue α) : dialogue.Yields fun _ => True := by
  induction dialogue with
  | done result => trivial
  | log line rest ih => exact ih
  | perform command rest ih => exact ih
  | askDisabled id rest ih => exact ih
  | askValue id rest ih => exact ih

variable {dialogue : Dialogue α} {calls : List View.Call} {result : α}

theorem Dialogue.Course.yielded {holds : α → Prop} (course : dialogue.Course calls result)
    (yields : dialogue.Yields holds) : holds result := by
  induction course with
  | done result => exact yields
  | log _ ih | perform _ ih => exact ih yields
  | askDisabled answer _ ih => exact ih (yields answer)
  | askValue answer _ ih => exact ih (yields answer)

/-- A conversation that keeps to what is allowed makes no other call, however it goes. -/
theorem Dialogue.Course.allowed {allowed : View.Call → Prop} (course : dialogue.Course calls result)
    (within : dialogue.Within allowed) : ∀ call ∈ calls, allowed call := by
  induction course with
  | done result => exact fun _ member => nomatch member
  | log _ ih => exact ih within
  | perform _ ih => exact List.forall_mem_cons.mpr ⟨within.1, ih within.2⟩
  | askDisabled answer _ ih => exact List.forall_mem_cons.mpr ⟨within.1, ih (within.2 answer)⟩
  | askValue answer _ ih => exact List.forall_mem_cons.mpr ⟨within.1, ih (within.2 answer)⟩

end Courses

section Playing

variable {α V : Type} [View V]

/-- What a view is asked in a conversation, without the view as it then was. -/
def Dialogue.asked (dialogue : Dialogue α) (view : V) : List View.Call :=
  (dialogue.calls view).map Prod.snd

/-- Held with a view, a conversation goes one of its ways. -/
theorem Dialogue.course_play (dialogue : Dialogue α) (view : V) :
    dialogue.Course (dialogue.asked view) (dialogue.play view).result := by
  induction dialogue generalizing view with
  | done result => exact .done result
  | log line rest ih => exact .log (ih view)
  | perform command rest ih => exact .perform (ih (View.perform view command))
  | askDisabled id rest ih => exact .askDisabled (View.isDisabled view id) (ih _ view)
  | askValue id rest ih => exact .askValue (View.value view id) (ih _ view)

theorem View.serve_append (view : V) (before after : List View.Call) :
    View.serve view (before ++ after) = View.serve (View.serve view before) after :=
  List.foldl_append

/-- A conversation leaves a view as the calls in it leave it, and does nothing else to it. -/
theorem Dialogue.play_view (dialogue : Dialogue α) (view : V) :
    (dialogue.play view).view = View.serve view (dialogue.asked view) := by
  induction dialogue generalizing view with
  | done result => rfl
  | log line rest ih => exact ih view
  | perform command rest ih => exact ih (View.perform view command)
  | askDisabled id rest ih => exact ih (View.isDisabled view id) view
  | askValue id rest ih => exact ih (View.value view id) view

end Playing

end RelayConsole
