import RelayConsole.Proofs.Widget.Acts

namespace RelayConsole

/-- All frames that were ever sent on a channel. -/
def Widget.framesOn (widget : Widget) (number : Nat) : List String :=
  ((widget.channels[number]?).map (·.frames)).getD []

theorem Widget.framesOn_attach (widget : Widget) (number : Nat) :
    widget.attach.framesOn number = widget.framesOn number := by
  simp only [framesOn, attach]
  by_cases old : number < widget.channels.length
  · rw [List.getElem?_append_left old]
  · rw [List.getElem?_append_right (Nat.not_lt.mp old), List.getElem?_eq_none (Nat.not_lt.mp old)]
    cases number - widget.channels.length <;> rfl

@[simp]
theorem Widget.framesOn_next (widget : Widget) : widget.framesOn widget.channels.length = [] := by
  simp only [framesOn, List.getElem?_eq_none (Nat.le_refl _), Option.map_none, Option.getD_none]

theorem Widget.framesOn_dropReceiver (widget : Widget) (dropped number : Nat) :
    (widget.dropReceiver dropped).framesOn number = widget.framesOn number := by
  simp only [framesOn, dropReceiver, List.getElem?_modify]
  cases widget.channels[number]? with
  | none => rfl
  | some channel => by_cases same : dropped = number <;> simp [same]

theorem Widget.framesOn_of_channels {widget other : Widget} (same : widget.channels = other.channels)
    (number : Nat) : widget.framesOn number = other.framesOn number := by
  simp only [framesOn, same]

theorem Widget.shut_channels (widget : Widget) (now : Int) : (widget.shut now).channels = widget.channels := by
  unfold shut
  split <;> rfl

theorem Widget.live_channels (widget : Widget) (now : Int) : (widget.live now).channels = widget.channels := by
  unfold live
  split <;> rfl

theorem Widget.framesOn_opened (widget : Widget) (now : Int) :
    (widget.attach.live now).framesOn widget.channels.length = [] := by
  rw [Widget.framesOn_of_channels (widget.attach.live_channels now), Widget.framesOn_attach, Widget.framesOn_next]

theorem Widget.framesOn_transmit {widget after : Widget} {frame : String}
    (sent : widget.transmit frame = .ok after) (number : Nat) :
    after.framesOn number = widget.framesOn number ++ if widget.outlet = some number then [frame] else [] := by
  obtain ⟨outlet, channel, attached, present, -, rfl⟩ := Widget.transmit_ok.mp sent
  have within : outlet < widget.channels.length := (List.getElem?_eq_some_iff.mp present).1
  by_cases same : outlet = number
  · subst same
    simp only [framesOn, List.getElem?_set_self within, present, attached, Option.map_some, Option.getD_some,
      if_true]
  · have apart : widget.outlet ≠ some number := by
      rw [attached]
      exact fun equal => same (Option.some.inj equal)
    simp only [framesOn, List.getElem?_set_ne same, if_neg apart, List.append_nil]

variable {V : Type} [View V]

/-- The frame that an event puts on a channel, with the channel's number: the frame that it asks to send,
provided that sending it succeeds. -/
def Widget.accepted? (widget : Widget) (view : V) (event : Widget.Event) : Option (Nat × String) :=
  match widget.frame? view event, ((widget.act (.dispatch event)).play view).result.2 with
  | some frame, .ok _ => widget.outlet.map fun number => (number, frame)
  | _, _ => none

theorem Widget.framesOn_dispatch (widget : Widget) (event : Widget.Event) (view : V) (number : Nat) :
    (((widget.act (.dispatch event)).play view).result.1).framesOn number =
      widget.framesOn number ++
        ((widget.accepted? view event).bind fun accepted =>
          if accepted.1 = number then some accepted.2 else none).toList := by
  unfold accepted?
  rw [widget.dispatch_result]
  cases asked : widget.frame? view event with
  | none => simp
  | some frame =>
    simp only
    cases sent : widget.transmit frame with
    | error failure => simp
    | ok after =>
      rw [Widget.framesOn_transmit sent]
      obtain ⟨outlet, channel, attached, -⟩ := Widget.transmit_ok.mp sent
      by_cases same : outlet = number <;> simp [attached, same]

end RelayConsole
