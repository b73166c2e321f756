import RelayConsole.Proofs.Panel.Lasting
import RelayConsole.Proofs.Panel.Related

namespace RelayConsole

/-- How far a connection has come. -/
def Widget.Phase.rank : Widget.Phase → Nat
  | .connecting => 0
  | .opened => 1
  | .closed => 2

theorem Widget.Phase.ne_connecting_of_rank {phase : Widget.Phase} (least : 1 ≤ phase.rank) :
    phase ≠ .connecting := by
  rintro rfl
  exact Nat.not_lt_zero 0 least

theorem Widget.Phase.eq_closed_of_rank {phase : Widget.Phase} (least : 2 ≤ phase.rank) : phase = .closed := by
  cases phase with
  | connecting | opened => simp [rank] at least
  | closed => rfl

theorem Widget.rank_le_live (widget : Widget) (now : Int) : widget.phase.rank ≤ (widget.live now).phase.rank := by
  unfold live
  split
  · rename_i waits
    rw [waits]
    exact Nat.zero_le _
  · exact Nat.le_refl _

theorem Widget.rank_le_shut (widget : Widget) (now : Int) : widget.phase.rank ≤ (widget.shut now).phase.rank := by
  rw [Widget.shut_phase]
  cases widget.phase <;> decide

section Stages

variable {V : Type} [View V]

theorem Panel.rank_le_step (panel : Panel V) (action : Widget.Action) :
    panel.widget.phase.rank ≤ (panel.step action).widget.phase.rank := by
  rcases action.marks with ⟨now, rfl⟩ | ⟨now, rfl⟩ | other
  · rw [panel.step_opened]
    exact panel.widget.rank_le_live now
  · rw [panel.step_closed]
    exact panel.widget.rank_le_shut now
  · obtain ⟨outlet, channels, same⟩ := panel.step_widget other
    exact Nat.le_of_eq (congrArg (fun widget => widget.phase.rank) same).symm

theorem Panel.rank_le_run (panel : Panel V) (actions : List Widget.Action) :
    panel.widget.phase.rank ≤ (panel.run actions).widget.phase.rank :=
  Panel.run_keeps (fun later => panel.widget.phase.rank ≤ later.widget.phase.rank)
    (fun later action _ reached => Nat.le_trans reached (later.rank_le_step action)) (Nat.le_refl _)

/-- How far an action brings a connection at least, it has come at least after that action. -/
theorem Panel.rank_of_mem {action : Widget.Action} {least : Nat}
    (brings : ∀ panel : Panel V, least ≤ (panel.step action).widget.phase.rank) (panel : Panel V)
    {actions : List Widget.Action} (member : action ∈ actions) : least ≤ (panel.run actions).widget.phase.rank := by
  obtain ⟨before, after, rfl⟩ := List.append_of_mem member
  rw [Panel.run_append]
  exact Nat.le_trans (brings (panel.run before)) (Panel.rank_le_run _ after)

theorem Panel.rank_step_opened (panel : Panel V) (now : Int) :
    1 ≤ (panel.step (.opened now)).widget.phase.rank := by
  rw [panel.step_opened]
  cases phase : panel.widget.phase <;> simp [Widget.live, phase, Widget.Phase.rank]

theorem Panel.rank_step_closed (panel : Panel V) (now : Int) :
    2 ≤ (panel.step (.closed now)).widget.phase.rank := by
  rw [panel.step_closed, Widget.shut_phase]
  exact Nat.le_refl 2

/-- What has been opened or closed once does not wait any more. -/
theorem Panel.late_of_mark {actions : List Widget.Action} {moment : Int}
    (marked : .opened moment ∈ actions ∨ .closed moment ∈ actions) (panel : Panel V) :
    (panel.run actions).widget.phase ≠ .connecting := by
  refine Widget.Phase.ne_connecting_of_rank ?_
  rcases marked with member | member
  · exact Panel.rank_of_mem (fun panel => panel.rank_step_opened moment) panel member
  · exact Panel.rank_of_mem (fun panel => Nat.le_of_succ_le (panel.rank_step_closed moment)) panel member

theorem Panel.closed_of_mark {actions : List Widget.Action} {moment : Int} (marked : .closed moment ∈ actions)
    (panel : Panel V) : (panel.run actions).widget.phase = .closed :=
  Widget.Phase.eq_closed_of_rank (Panel.rank_of_mem (fun panel => panel.rank_step_closed moment) panel marked)

theorem Panel.step_openedAt {panel : Panel V} {action : Widget.Action}
    (marked : (panel.step action).widget.openedAt.isSome = true) :
    panel.widget.openedAt.isSome = true ∨ (panel.step action).widget.phase = .opened := by
  rcases action.marks with ⟨now, rfl⟩ | ⟨now, rfl⟩ | other
  · rw [panel.step_opened] at marked ⊢
    by_cases waits : panel.widget.phase = .connecting
    · exact Or.inr (by simp only [Widget.live, if_pos waits])
    · simp only [Widget.live, if_neg waits] at marked
      exact Or.inl marked
  · rw [panel.step_closed, Widget.shut_openedAt] at marked
    exact Or.inl marked
  · obtain ⟨outlet, channels, same⟩ := panel.step_widget other
    rw [same] at marked
    exact Or.inl marked

theorem Panel.open_of_openedAt {panel : Panel V} {actions : List Widget.Action}
    (marked : (panel.run actions).widget.openedAt.isSome = true) :
    panel.widget.openedAt.isSome = true ∨
      ∃ before, before <+: actions ∧ (panel.run before).widget.phase = .opened := by
  induction actions generalizing panel with
  | nil => exact Or.inl marked
  | cons action rest ih =>
    rcases ih marked with earlier | ⟨before, first, opened⟩
    · rcases Panel.step_openedAt earlier with already | opened
      · exact Or.inl already
      · exact Or.inr ⟨[action], by simp, opened⟩
    · exact Or.inr ⟨action :: before, by simpa using first, opened⟩

/-- A new widget gets its moment of opening by being open at some point. -/
theorem Panel.openedAt_iff {panel : Panel V} (dated : panel.widget.Dated) (never : panel.widget.openedAt = none)
    (actions : List Widget.Action) :
    (panel.run actions).widget.openedAt.isSome = true ↔
      ∃ before, before <+: actions ∧ (panel.run before).widget.phase = .opened := by
  constructor
  · intro marked
    rcases Panel.open_of_openedAt marked with already | once
    · rw [never] at already
      cases already
    · exact once
  · rintro ⟨before, ⟨rest, rfl⟩, opened⟩
    have stamped := (Panel.run_dated dated before).opened opened
    rw [Panel.run_append, Panel.run_openedAt (Panel.run_dated dated before) stamped]
    exact stamped

/-- A moment of closing is there exactly once the connection is over. -/
theorem Panel.closedAt_iff {panel : Panel V}
    (first : panel.widget.closedAt.isSome = true ↔ panel.widget.phase = .closed)
    (actions : List Widget.Action) :
    (panel.run actions).widget.closedAt.isSome = true ↔ (panel.run actions).widget.phase = .closed := by
  refine Panel.run_keeps
    (fun later => later.widget.closedAt.isSome = true ↔ later.widget.phase = .closed)
    (fun later action _ same => ?_) first
  rcases action.marks with ⟨now, rfl⟩ | ⟨now, rfl⟩ | other
  · rw [later.step_opened]
    by_cases waits : later.widget.phase = .connecting
    · simp only [Widget.live, if_pos waits]
      rw [same, waits]
      simp
    · simp only [Widget.live, if_neg waits]
      exact same
  · rw [later.step_closed]
    by_cases closed : later.widget.phase = .closed
    · simp only [Widget.shut, if_pos closed]
      exact same
    · simp only [Widget.shut, if_neg closed, Option.isSome_some]
  · obtain ⟨outlet, channels, unmarked⟩ := later.step_widget other
    rw [unmarked]
    exact same

/-- The moments of opening and closing never change. -/
theorem Panel.run_moments {panel : Panel V} (dated : panel.widget.Dated)
    (closedAt : panel.widget.closedAt.isSome = true ↔ panel.widget.phase = .closed)
    (actions : List Widget.Action) (moment : Int) :
    (panel.widget.openedAt = some moment → (panel.run actions).widget.openedAt = some moment) ∧
      (panel.widget.closedAt = some moment → (panel.run actions).widget.closedAt = some moment) := by
  constructor
  · intro marked
    rw [Panel.run_openedAt dated (by rw [marked]; rfl), marked]
  · intro marked
    have closed := closedAt.mp (by rw [marked]; rfl)
    obtain ⟨outlet, channels, same⟩ := Panel.run_closed_widget closed actions
    rw [same]
    exact marked

end Stages

theorem Panel.run_present (name : String) (controls : Controls) (memory : Memory)
    (actions : List Widget.Action) {id : String} (member : id ∈ controls.gated) :
    (((Panel.fresh name controls memory).run actions).view.controls.find? id).isSome = true := by
  refine Panel.run_keeps (fun panel : Panel Memory => (panel.view.controls.find? id).isSome = true)
    (fun panel action _ present => ?_) ?_
  · exact panel.step_keeps (fun memory => (memory.controls.find? id).isSome = true)
      (fun _ command _ there => Memory.isSome_find?_perform there command) present
  · rw [Panel.fresh_eq, Memory.find?_gate, if_pos member]
    rfl

theorem Panel.run_counts (name : String) (controls : Controls) (actions : List Widget.Action) {id : String}
    (member : id ∈ controls.gated) :
    let panel := (Panel.fresh name controls ({} : Memory)).run actions
    (panel.view.control id).enabledCount = panel.widget.openedAt.isSome.toNat ∧
      (panel.view.control id).disabledCount =
        (panel.widget.openedAt.isSome && decide (panel.widget.phase = .closed)).toNat := by
  intro panel
  have named : panel.widget.controls = controls := by
    rw [Panel.run_controls, Panel.fresh_eq]
  have tallied := (Panel.fresh_tallied name controls ({} : Memory)).run
    (Panel.fresh_dated name controls ({} : Memory)) actions id (by rw [named]; exact member)
  exact ⟨(congrArg (·.2.1) tallied).trans (Nat.zero_add _), (congrArg (·.2.2) tallied).trans (Nat.zero_add _)⟩

/-- Closing does nothing to a widget that is closed, since its controls are there and disabled. -/
theorem Panel.Gated.step_closed_again {panel : Panel Memory} (gated : panel.Gated)
    (present : ∀ id ∈ panel.widget.controls.gated, (panel.view.controls.find? id).isSome = true)
    (closed : panel.widget.phase = .closed) (now : Int) : panel.step (.closed now) = panel := by
  rw [panel.step_closed, Widget.shut, if_pos closed, Memory.gate_settled]
  intro id member
  obtain ⟨control, found⟩ := Option.isSome_iff_exists.mp (present id member)
  have shut : (panel.view.control id).disabled = true := gated.disabled (by rw [closed]; decide) member
  rw [Memory.control, found] at shut
  exact ⟨control, found, shut⟩

/-- The connection of a new widget on an empty page waits, is open and is closed, in this order and never back. Its
moments never change once they are there, each gated control was enabled and disabled once at most, and to open or
to close once more changes nothing. -/
theorem Panel.opens_and_closes_once (name : String) (controls : Controls) (actions : List Widget.Action) :
    let start := Panel.fresh name controls ({} : Memory)
    let panel := start.run actions
    let wasOpen := ∃ before, before <+: actions ∧ (start.run before).widget.phase = .opened
    (start.widget.phase = .connecting ∧
      (∀ before, before <+: actions → (start.run before).widget.phase.rank ≤ panel.widget.phase.rank) ∧
      (panel.widget.phase = .connecting → ∀ now, (panel.step (.opened now)).widget.phase = .opened) ∧
      ∀ now, (panel.step (.closed now)).widget.phase = .closed) ∧
    ((panel.widget.openedAt.isSome = true ↔ wasOpen) ∧
      (panel.widget.closedAt.isSome = true ↔ panel.widget.phase = .closed) ∧
      ∀ before moment, before <+: actions →
        ((start.run before).widget.openedAt = some moment → panel.widget.openedAt = some moment) ∧
          ((start.run before).widget.closedAt = some moment → panel.widget.closedAt = some moment)) ∧
    (∀ id ∈ [controls.path, controls.request, controls.send],
      (wasOpen → (panel.view.control id).enabledCount = 1) ∧
        (¬ wasOpen → (panel.view.control id).enabledCount = 0) ∧
        (wasOpen ∧ panel.widget.phase = .closed → (panel.view.control id).disabledCount = 1) ∧
        (¬ (wasOpen ∧ panel.widget.phase = .closed) → (panel.view.control id).disabledCount = 0)) ∧
    ((∃ moment, .opened moment ∈ actions ∨ .closed moment ∈ actions) →
      ∀ now, panel.step (.opened now) = panel) ∧
    ((∃ moment, .closed moment ∈ actions) → ∀ now, panel.step (.closed now) = panel) := by
  intro start panel wasOpen
  have new : start = ⟨{ name, controls }, View.gate ({} : Memory) true controls.gated⟩ :=
    Panel.fresh_eq name controls ({} : Memory)
  have dated : start.widget.Dated := Panel.fresh_dated name controls ({} : Memory)
  have named : panel.widget.controls = controls := by
    rw [show panel = start.run actions from rfl, Panel.run_controls, new]
  have first : start.widget = { name, controls } := by rw [new]
  have opened : panel.widget.openedAt.isSome = true ↔ wasOpen :=
    Panel.openedAt_iff dated (by rw [first]) actions
  have closedAt (before : List Widget.Action) :
      (start.run before).widget.closedAt.isSome = true ↔ (start.run before).widget.phase = .closed :=
    Panel.closedAt_iff (by rw [first]; simp) before
  refine ⟨⟨by rw [first], ?_, ?_, ?_⟩, ⟨opened, closedAt actions, ?_⟩, ?_, ?_, ?_⟩
  · rintro before ⟨rest, rfl⟩
    rw [show panel = start.run (before ++ rest) from rfl, Panel.run_append]
    exact Panel.rank_le_run _ rest
  · intro waits now
    rw [panel.step_opened, Widget.live, if_pos waits]
  · intro now
    rw [panel.step_closed]
    exact panel.widget.shut_phase now
  · rintro before moment ⟨rest, rfl⟩
    rw [show panel = (start.run before).run rest from Panel.run_append start before rest]
    exact Panel.run_moments (Panel.run_dated dated before) (closedAt before) rest moment
  · intro id member
    obtain ⟨enabled, disabled⟩ := Panel.run_counts name controls actions member
    refine ⟨fun once => ?_, fun never => ?_, fun both => ?_, fun apart => ?_⟩
    · exact enabled.trans (congrArg Bool.toNat (opened.mpr once))
    · exact enabled.trans (congrArg Bool.toNat (Bool.eq_false_iff.mpr (mt opened.mp never)))
    · rw [disabled, show panel.widget.openedAt.isSome = true from opened.mpr both.1, decide_eq_true both.2]
      rfl
    · have lacking : (panel.widget.openedAt.isSome && decide (panel.widget.phase = .closed)) = false := by
        rw [Bool.eq_false_iff, Ne, Bool.and_eq_true, decide_eq_true_eq]
        exact fun both => apart ⟨opened.mp both.1, both.2⟩
      exact disabled.trans (congrArg Bool.toNat lacking)
  · rintro ⟨moment, mark⟩
    exact Panel.step_opened_again (Panel.late_of_mark mark start)
  · rintro ⟨moment, member⟩
    have gated : panel.Gated := (Panel.fresh_gated name controls ({} : Memory)).run actions
    refine gated.step_closed_again (fun id inside => ?_) (Panel.closed_of_mark member start)
    rw [named] at inside
    exact Panel.run_present name controls {} actions inside

theorem Panel.opens_and_closes_once_under_one_name :
    let controls : Controls := ⟨"x", "x", "r", "x"⟩
    let actions : List Widget.Action :=
      [.attach, .dispatch .click, .opened 0, .dispatch (.submit "request"), .opened 1, .closed 2, .closed 3,
        .submit "late"]
    let panel := (Panel.fresh "console" controls ({} : Memory)).run actions
    (panel.view.control "x").enabledCount = 1 ∧ (panel.view.control "x").disabledCount = 1 ∧
      panel.widget.openedAt = some 0 ∧ panel.widget.closedAt = some 2 ∧
      panel.step (.opened 4) = panel ∧ panel.step (.closed 5) = panel := by
  intro controls actions panel
  have once := Panel.opens_and_closes_once "console" controls actions
  dsimp only at once
  obtain ⟨-, ⟨-, -, lasting⟩, counts, openAgain, closeAgain⟩ := once
  have opened : ((Panel.fresh "console" controls ({} : Memory)).run (actions.take 3)).widget.phase = .opened := by
    decide +kernel
  have closed : panel.widget.phase = .closed := by decide +kernel
  have wasOpen : ∃ before, before <+: actions ∧
      ((Panel.fresh "console" controls ({} : Memory)).run before).widget.phase = .opened :=
    ⟨actions.take 3, List.take_prefix 3 actions, opened⟩
  obtain ⟨enabled, -, disabled, -⟩ := counts "x" List.mem_cons_self
  refine ⟨enabled wasOpen, disabled ⟨wasOpen, closed⟩, ?_, ?_, openAgain ⟨0, Or.inl ?_⟩ 4, closeAgain ⟨2, ?_⟩ 5⟩
  · exact (lasting (actions.take 3) 0 (List.take_prefix 3 actions)).1 (by decide +kernel)
  · exact (lasting (actions.take 6) 2 (List.take_prefix 6 actions)).2 (by decide +kernel)
  · decide
  · decide

end RelayConsole
