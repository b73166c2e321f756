import RelayConsole.Proofs.Widget.Frames
import RelayConsole.Proofs.Widget.Page

namespace RelayConsole

/-- What the operator has made of the controls: what is typed as path and as request, and what was sent. -/
structure Widget.Desk where
  path : String
  request : String
  sent : List String := []
  deriving DecidableEq, Repr

/-- What an event makes of it. A request that is sent is cleared. -/
def Widget.Desk.after (desk : Widget.Desk) : Widget.Event → Widget.Desk
  | .setPath text => { desk with path := text }
  | .setRequest text => { desk with request := text }
  | .click => { desk with request := "", sent := desk.sent ++ [desk.request] }
  | .submit text => { desk with request := "", sent := desk.sent ++ [text] }

def Widget.Event.path? : Widget.Event → Option String
  | .setPath text => some text
  | _ => none

theorem Widget.Desk.path_foldl (desk : Widget.Desk) (events : List Widget.Event) :
    (events.foldl after desk).path = (events.filterMap Widget.Event.path?).getLastD desk.path := by
  induction events generalizing desk with
  | nil => rfl
  | cons event rest ih =>
    rw [List.foldl_cons, ih]
    cases event with
    | setPath text => simp only [after, List.filterMap_cons, Event.path?, List.getLastD_cons]
    | setRequest | click | submit => simp only [after, List.filterMap_cons, Event.path?]

structure Controls.Distinct (controls : Controls) : Prop where
  path_request : controls.path ≠ controls.request
  path_response : controls.path ≠ controls.response
  request_response : controls.request ≠ controls.response

/-- What a control shows, given the page as it was before, what the operator has made of the controls, and the
texts of the messages. -/
def Controls.shows (controls : Controls) (memory : Memory) (desk : Widget.Desk) (texts : List String)
    (id : String) :
    String × Nat :=
  let before := memory.control id
  if id = controls.response then
    if texts = [] then before.shown
    else
      let text := before.value ++ String.join (texts.map (· ++ "\n"))
      (text, text.utf8ByteSize)
  else if id = controls.request then (desk.request, before.scrollTop)
  else if id = controls.path then (desk.path, before.scrollTop)
  else before.shown

/-- Whether somebody receives what is sent on the attached channel. -/
def Widget.isReceived (widget : Widget) : Bool :=
  (widget.outlet.bind fun number => widget.channels[number]?).any (·.receiving)

theorem Widget.transmit_received {widget : Widget} (received : widget.isReceived = true) (frame : String) :
    ∃ after, widget.transmit frame = .ok after := by
  unfold isReceived at received
  cases attached : widget.outlet with
  | none => simp [attached] at received
  | some number =>
    cases present : widget.channels[number]? with
    | none => simp [attached, present] at received
    | some channel =>
      simp only [attached, present, Option.bind_some, Option.any_some] at received
      exact ⟨_, Widget.transmit_ok.mpr ⟨number, channel, attached, present, received, rfl⟩⟩

theorem Widget.accepted_received {V : Type} [View V] {widget : Widget} {number : Nat}
    (received : widget.isReceived = true)
    (attached : widget.outlet = some number) (view : V) (event : Widget.Event) :
    widget.accepted? view event = (widget.frame? view event).map fun frame => (number, frame) := by
  unfold accepted?
  rw [widget.dispatch_result]
  cases asked : widget.frame? view event with
  | none => rfl
  | some frame =>
    obtain ⟨after, sent⟩ := Widget.transmit_received received frame
    simp only [sent, attached, Option.map_some]

/-- What is typed as path or as request shows on its own control only. -/
theorem Controls.shows_congr {controls : Controls} {memory : Memory} {first second : Widget.Desk}
    {texts : List String} {id : String} (path : id = controls.path → first.path = second.path)
    (request : id = controls.request → first.request = second.request) :
    controls.shows memory first texts id = controls.shows memory second texts id := by
  unfold shows
  split
  · rfl
  · split
    · rename_i here
      rw [request here]
    · split
      · rename_i here
        rw [path here]
      · rfl

theorem Controls.shows_start (controls : Controls) (memory : Memory) (sent : List String) (id : String) :
    controls.shows memory
        ⟨(memory.control controls.path).value, (memory.control controls.request).value, sent⟩ [] id =
      (memory.control id).shown := by
  unfold shows
  split
  · rfl
  · split
    · rename_i here
      rw [here]
      rfl
    · split
      · rename_i here
        rw [here]
        rfl
      · rfl

section Shows

variable {controls : Controls} (distinct : controls.Distinct) (memory : Memory) (desk : Widget.Desk)
    (texts : List String)

include distinct

theorem Controls.shows_request :
    controls.shows memory desk texts controls.request =
      (desk.request, (memory.control controls.request).scrollTop) := by
  simp only [shows, distinct.request_response, if_false, if_true]

theorem Controls.shows_path :
    controls.shows memory desk texts controls.path =
      (desk.path, (memory.control controls.path).scrollTop) := by
  simp only [shows, distinct.path_response, distinct.path_request, if_false, if_true]

end Shows

theorem Controls.shows_response (controls : Controls) (memory : Memory) (desk : Widget.Desk)
    (texts : List String) :
    controls.shows memory desk texts controls.response =
      let before := memory.control controls.response
      if texts = [] then before.shown
      else
        let text := before.value ++ String.join (texts.map (· ++ "\n"))
        (text, text.utf8ByteSize) := by
  simp only [shows, if_true]

theorem Controls.shows_response_text (controls : Controls) (memory : Memory) (desk : Widget.Desk)
    (texts : List String) :
    (controls.shows memory desk texts controls.response).1 =
      (memory.control controls.response).value ++ String.join (texts.map (· ++ "\n")) := by
  rw [controls.shows_response]
  exact (memory.control controls.response).value_logged texts

theorem Controls.shows_message {controls : Controls} {memory page : Memory} {desk : Widget.Desk}
    {texts : List String}
    (shows : ∀ id, (page.control id).shown = controls.shows memory desk texts id) (text id : String) :
    (((page.perform (.appendValue controls.response (text ++ "\n"))).perform
      (.scrollToEnd controls.response)).control id).shown = controls.shows memory desk (texts ++ [text]) id := by
  have before : (page.control controls.response).value =
      (memory.control controls.response).value ++ String.join (texts.map (· ++ "\n")) :=
    (congrArg Prod.fst (shows controls.response)).trans (controls.shows_response_text memory desk texts)
  rw [Memory.shown_message]
  by_cases here : id = controls.response
  · have grown := (memory.control controls.response).logged_append texts text
    rw [Memory.Control.value_logged] at grown
    rw [if_pos here, here, controls.shows_response, before]
    exact grown.symm
  · rw [if_neg here, shows]
    simp only [Controls.shows, if_neg here]

section Dispatch

variable {widget : Widget} {memory page : Memory} {number : Nat} {desk : Widget.Desk} {texts : List String}
variable (opened : widget.Opened memory page)

include opened

theorem Widget.Opened.enabled (event : Widget.Event) :
    View.isDisabled page (event.target widget.controls) = false :=
  congrArg Prod.fst (opened.gating _ (event.target_mem_gated widget.controls))

variable (received : widget.isReceived = true)

include received

theorem Widget.Opened.dispatch_view (event : Widget.Event) :
    ((widget.act (.dispatch event)).play page).view =
      match event with
      | .setPath text => page.perform (.setValue widget.controls.path text)
      | .setRequest text => page.perform (.setValue widget.controls.request text)
      | .click => page.perform (.setValue widget.controls.request "")
      | .submit text =>
        (page.perform (.setValue widget.controls.request text)).perform
          (.setValue widget.controls.request "") := by
  rw [widget.dispatch_view]
  simp only [opened.enabled event, Bool.false_eq_true, if_false, frame?]
  cases event with
  | setPath text => rfl
  | setRequest text => rfl
  | click =>
    obtain ⟨after, sent⟩ := Widget.transmit_received received (View.value page widget.controls.request)
    simp only [sent, Memory.view_perform]
  | submit text =>
    obtain ⟨after, sent⟩ := Widget.transmit_received received
      (View.value (page.perform (.setValue widget.controls.request text)) widget.controls.request)
    simp only [Memory.view_perform, sent]

variable (distinct : widget.controls.Distinct)
variable (shows : ∀ id, (page.control id).shown = widget.controls.shows memory desk texts id)

include distinct shows

theorem Widget.Opened.dispatch_shows (event : Widget.Event) (id : String) :
    (Memory.control ((widget.act (.dispatch event)).play page).view id).shown =
      widget.controls.shows memory (desk.after event) texts id := by
  have request := (shows widget.controls.request).trans (Controls.shows_request distinct memory desk texts)
  have path := (shows widget.controls.path).trans (Controls.shows_path distinct memory desk texts)
  simp only [Memory.Control.shown, Prod.mk.injEq] at request path
  have cleared {sent : List String} :
      ((page.perform (.setValue widget.controls.request "")).control id).shown =
        widget.controls.shows memory { desk with request := "", sent := sent } texts id := by
    rw [Memory.shown_setValue]
    by_cases here : id = widget.controls.request
    · rw [if_pos here, here, Controls.shows_request distinct, request.2]
    · rw [if_neg here, shows]
      exact Controls.shows_congr (fun _ => rfl) (fun same => (here same).elim)
  rw [opened.dispatch_view received]
  cases event with
  | setPath text =>
    simp only [Memory.shown_setValue]
    by_cases here : id = widget.controls.path
    · rw [if_pos here, here, Controls.shows_path distinct, path.2]
      rfl
    · rw [if_neg here, shows]
      exact Controls.shows_congr (fun same => (here same).elim) (fun _ => rfl)
  | setRequest text =>
    simp only [Memory.shown_setValue]
    by_cases here : id = widget.controls.request
    · rw [if_pos here, here, Controls.shows_request distinct, request.2]
      rfl
    · rw [if_neg here, shows]
      exact Controls.shows_congr (fun _ => rfl) (fun same => (here same).elim)
  | click => exact cleared
  | submit text =>
    simp only [Memory.control_setValue_twice]
    exact cleared

theorem Widget.Opened.dispatch_sent (attached : widget.outlet = some number)
    (sent : widget.framesOn number = desk.sent) (event : Widget.Event) :
    (((widget.act (.dispatch event)).play page).result.1).framesOn number = (desk.after event).sent := by
  have request := (shows widget.controls.request).trans (Controls.shows_request distinct memory desk texts)
  have typed : View.value page widget.controls.request = desk.request := congrArg Prod.fst request
  rw [widget.framesOn_dispatch, Widget.accepted_received received attached, sent]
  simp only [frame?, opened.enabled event, Bool.false_eq_true, if_false]
  cases event with
  | setPath text => simp [Desk.after]
  | setRequest text => simp [Desk.after]
  | click => simp [Desk.after, typed]
  | submit text => simp [Desk.after, Memory.perform]

end Dispatch

end RelayConsole
