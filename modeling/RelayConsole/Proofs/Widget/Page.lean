import RelayConsole.Proofs.View.Document
import RelayConsole.Proofs.Widget.Acts

namespace RelayConsole

theorem Widget.send_written (widget : Widget) (memory : Memory) :
    memory.Written (widget.send.play memory).view := by
  rw [widget.send_view]
  split
  · exact Memory.Written.refl memory
  · exact memory.written_setValue _ _

theorem Widget.submit_written (widget : Widget) (text : String) (memory : Memory) :
    memory.Written ((widget.submit text).play memory).view :=
  (memory.written_setValue widget.controls.request text).trans (widget.send_written _)

theorem Widget.dispatch_written (widget : Widget) (event : Widget.Event) (memory : Memory) :
    memory.Written ((widget.act (.dispatch event)).play memory).view := by
  simp only [act, dispatch, Dialogue.play]
  split
  · exact Memory.Written.refl memory
  · cases event with
    | setPath text => exact memory.written_setValue _ text
    | setRequest text => exact memory.written_setValue _ text
    | click => exact widget.send_written memory
    | submit text => exact widget.submit_written text memory

/-- A widget that is open, with its page: compared with the page before, each gated control was enabled once,
and there was no notice. -/
structure Widget.Opened (widget : Widget) (memory page : Memory) : Prop where
  phase : widget.phase = .opened
  openedAt : widget.openedAt.isSome = true
  gating : ∀ id ∈ widget.controls.gated, (page.control id).gating =
    (false, (memory.control id).enabledCount + 1, ((memory.control id).setDisabled true).disabledCount)
  others : ∀ id, id ∉ widget.controls.gated → (page.control id).gating = (memory.control id).gating
  alerts : page.alerts = memory.alerts

theorem Widget.Opened.written {widget : Widget} {memory page after : Memory}
    (opened : widget.Opened memory page) (written : page.Written after) (channels : List Channel) :
    Widget.Opened { widget with channels := channels } memory after where
  phase := opened.phase
  openedAt := opened.openedAt
  gating id member := (written.gating id).trans (opened.gating id member)
  others id apart := (written.gating id).trans (opened.others id apart)
  alerts := written.alerts.trans opened.alerts

theorem Widget.opened_live (widget : Widget) (connecting : widget.phase = .connecting) (memory : Memory)
    (now : Int) :
    (widget.live now).Opened memory
      (View.gate (View.gate memory true widget.controls.gated) false widget.controls.gated) := by
  unfold live
  rw [if_pos connecting]
  refine ⟨rfl, rfl, fun id member => ?_, fun id apart => ?_, ?_⟩
  · rw [Memory.control_gate, if_pos member, Memory.control_gate, if_pos member]
    exact (memory.control id).gating_enable
  · have outside : id ∉ widget.controls.gated := apart
    rw [Memory.control_gate, if_neg outside, Memory.control_gate, if_neg outside]
  · rw [Memory.alerts_gate, Memory.alerts_gate]

theorem Widget.Opened.gating_gate {widget : Widget} {memory page : Memory} (opened : widget.Opened memory page)
    (id : String) : (Memory.control (View.gate page true widget.controls.gated) id).gating =
      if id ∈ widget.controls.gated then
        (true, (memory.control id).enabledCount + 1, ((memory.control id).setDisabled true).disabledCount + 1)
      else (memory.control id).gating := by
  rw [Memory.control_gate]
  by_cases member : id ∈ widget.controls.gated
  · rw [if_pos member, if_pos member]
    exact Memory.Control.gating_disable (opened.gating id member)
  · rw [if_neg member, if_neg member]
    exact opened.others id member

end RelayConsole
