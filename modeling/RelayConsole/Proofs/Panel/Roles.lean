import RelayConsole.Proofs.Panel.Steps
import RelayConsole.Proofs.View.Document
import RelayConsole.Proofs.Widget.Reach

namespace RelayConsole

section Asking

variable {V : Type} [View V]

/-- The calls that a widget makes while actions befall it, each with the action that it is made for. -/
def Panel.asked (panel : Panel V) (actions : List Widget.Action) : List (Option Widget.Action × View.Call) :=
  (panel.along actions).flatMap fun entry =>
    ((entry.1.widget.act entry.2).asked entry.1.view).map fun call => (some entry.2, call)

/-- All calls that a widget makes from its making on. -/
def Panel.made (name : String) (controls : Controls) (view : V) (actions : List Widget.Action) :
    List (Option Widget.Action × View.Call) :=
  ((Widget.start name controls).asked view).map (fun call => (none, call)) ++
    (Panel.fresh name controls view).asked actions

theorem Panel.asked_cons (panel : Panel V) (action : Widget.Action) (rest : List Widget.Action) :
    panel.asked (action :: rest) =
      ((panel.widget.act action).asked panel.view).map (fun call => (some action, call)) ++
        (panel.step action).asked rest :=
  List.flatMap_cons

theorem Panel.map_snd_made (maker : Option Widget.Action) (calls : List View.Call) :
    (calls.map fun call => (maker, call)).map Prod.snd = calls := by
  simp only [List.map_map, Function.comp_def, List.map_id']

/-- A panel that goes on over its view makes the calls of one way that its widget can go on. -/
theorem Widget.Reach.run {name : String} {controls : Controls} {past : List Widget.Action}
    {made : List (Option Widget.Action × View.Call)} {panel : Panel V}
    (reach : Widget.Reach name controls past made panel.widget) (actions : List Widget.Action) :
    Widget.Reach name controls (past ++ actions) (made ++ panel.asked actions) (panel.run actions).widget := by
  induction actions generalizing past made panel with
  | nil =>
    have silent : made ++ panel.asked [] = made := List.append_nil made
    rw [List.append_nil, silent]
    exact reach
  | cons action rest ih =>
    have next : Widget.Reach name controls (past ++ [action])
        (made ++ ((panel.widget.act action).asked panel.view).map fun call => (some action, call))
        (panel.step action).widget :=
      reach.next action ((panel.widget.act action).course_play panel.view)
    have later := ih next
    rw [List.append_assoc, List.append_assoc] at later
    rw [Panel.asked_cons]
    exact later

theorem Panel.made_reach (name : String) (controls : Controls) (view : V) (actions : List Widget.Action) :
    Widget.Reach name controls actions (Panel.made name controls view actions)
      ((Panel.fresh name controls view).run actions).widget := by
  have start : Widget.Reach name controls [] (((Widget.start name controls).asked view).map fun call => (none, call))
      (Panel.fresh name controls view).widget :=
    .start ((Widget.start name controls).course_play view)
  exact start.run actions

/-- A run does to a view what the calls made in it do, and nothing else. -/
theorem Panel.run_view (panel : Panel V) (actions : List Widget.Action) :
    (panel.run actions).view = View.serve panel.view ((panel.asked actions).map Prod.snd) := by
  induction actions generalizing panel with
  | nil => rfl
  | cons action rest ih =>
    have first : (panel.step action).view = View.serve panel.view ((panel.widget.act action).asked panel.view) :=
      (panel.widget.act action).play_view panel.view
    rw [Panel.asked_cons, List.map_append, Panel.map_snd_made, View.serve_append, ← first]
    exact ih (panel.step action)

theorem Panel.made_view (name : String) (controls : Controls) (view : V) (actions : List Widget.Action) :
    ((Panel.fresh name controls view).run actions).view =
      View.serve view ((Panel.made name controls view actions).map Prod.snd) := by
  have first : (Panel.fresh name controls view).view =
      View.serve view ((Widget.start name controls).asked view) :=
    (Widget.start name controls).play_view view
  rw [Panel.run_view, first, made, List.map_append, Panel.map_snd_made, View.serve_append]

end Asking

/-- One page differs from another only in what a widget with these controls may change: nothing of another
control, the gating of the path, the request and the send control, the text of the path, the request and the
response, and how far the response is scrolled. -/
structure Memory.Confined (controls : Controls) (before after : Memory) : Prop where
  strangers : ∀ id, id ∉ [controls.path, controls.request, controls.response, controls.send] →
    after.controls.find? id = before.controls.find? id
  gating : ∀ id, id ∉ [controls.path, controls.request, controls.send] →
    (after.control id).gating = (before.control id).gating
  value : ∀ id, id ∉ [controls.path, controls.request, controls.response] →
    (after.control id).value = (before.control id).value
  scrollTop : ∀ id, id ≠ controls.response → (after.control id).scrollTop = (before.control id).scrollTop

section Confinement

variable {controls : Controls}

theorem Memory.Confined.of_controls {before after : Memory} (same : after.controls = before.controls) :
    before.Confined controls after := by
  have control (id : String) : after.control id = before.control id := by
    rw [Memory.control, same, Memory.control]
  exact ⟨fun id _ => by rw [same], fun id _ => by rw [control], fun id _ => by rw [control],
    fun id _ => by rw [control]⟩

theorem Memory.Confined.trans {first second third : Memory} (left : first.Confined controls second)
    (right : second.Confined controls third) : first.Confined controls third where
  strangers id apart := (right.strangers id apart).trans (left.strangers id apart)
  gating id apart := (right.gating id apart).trans (left.gating id apart)
  value id apart := (right.value id apart).trans (left.value id apart)
  scrollTop id apart := (right.scrollTop id apart).trans (left.scrollTop id apart)

/-- To put a control down changes what is looked at on that control only, and not if it looks the same. -/
theorem Memory.aspect_put {α : Type} (aspect : Memory.Control → α) (memory : Memory) {id other : String}
    {control : Memory.Control} (same : other = id → aspect control = aspect (memory.control id)) :
    aspect ((memory.put id control).control other) = aspect (memory.control other) := by
  rw [control_put]
  split
  · rename_i here
    rw [same here, here]
  · rfl

/-- A control of the widget may be put down again with whatever its roles allow to be changed on it. -/
theorem Memory.confined_put (memory : Memory) {id : String} {control : Memory.Control}
    (own : id ∈ [controls.path, controls.request, controls.response, controls.send])
    (gating : id ∈ [controls.path, controls.request, controls.send] ∨
      control.gating = (memory.control id).gating)
    (value : id ∈ [controls.path, controls.request, controls.response] ∨
      control.value = (memory.control id).value)
    (scrollTop : id = controls.response ∨ control.scrollTop = (memory.control id).scrollTop) :
    memory.Confined controls (memory.put id control) where
  strangers other apart := by
    have elsewhere : other ≠ id := fun same => apart (same ▸ own)
    rw [put, Keyed.find?_put, if_neg elsewhere]
  gating other apart := memory.aspect_put Control.gating fun same => gating.resolve_left (same ▸ apart)
  value other apart := memory.aspect_put Control.value fun same => value.resolve_left (same ▸ apart)
  scrollTop other apart := memory.aspect_put Control.scrollTop fun same => scrollTop.resolve_left (same ▸ apart)

/-- Whatever an action may call for, it leaves a page confined to the roles of the controls. -/
theorem Memory.confined_after (memory : Memory) {action : Widget.Action} {call : View.Call}
    (may : action.MayCall controls call) : memory.Confined controls (View.after memory call) := by
  cases call with
  | isDisabled | value => exact .of_controls rfl
  | command order =>
    cases order with
    | alert text => exact .of_controls rfl
    | setDisabled id disabled =>
      have member : id ∈ [controls.path, controls.request, controls.send] := may
      have wider : [controls.path, controls.request, controls.send] ⊆
          [controls.path, controls.request, controls.response, controls.send] := by simp
      have shown := (memory.control id).shown_setDisabled disabled
      exact memory.confined_put (wider member) (.inl member) (.inr (congrArg Prod.fst shown))
        (.inr (congrArg Prod.snd shown))
    | setValue id text =>
      rcases may with rfl | rfl
      · exact memory.confined_put (by simp) (.inr rfl) (.inl (by simp)) (.inr rfl)
      · exact memory.confined_put (by simp) (.inr rfl) (.inl (by simp)) (.inr rfl)
    | appendValue id text =>
      obtain ⟨rfl, -⟩ := may
      exact memory.confined_put (by simp) (.inr rfl) (.inl (by simp)) (.inr rfl)
    | scrollToEnd id =>
      obtain ⟨rfl, -⟩ := may
      exact memory.confined_put (by simp) (.inr rfl) (.inr rfl) (.inl rfl)

theorem Memory.confined_serve (memory : Memory) {calls : List View.Call}
    (may : ∀ call ∈ calls, ∃ action : Widget.Action, action.MayCall controls call) :
    memory.Confined controls (View.serve memory calls) := by
  induction calls generalizing memory with
  | nil => exact .of_controls rfl
  | cons call rest ih =>
    obtain ⟨⟨action, first⟩, later⟩ := List.forall_mem_cons.mp may
    exact (memory.confined_after first).trans (ih (View.after memory call) later)

end Confinement

/-- A widget first disables its gated controls. From then on it makes each call for an action, in the roles that
this action gives to its controls, whatever its view answers, and a view is left as these calls leave it. So a page
in memory is confined to these roles, whatever was on it and whatever names are shared. -/
theorem Panel.touches_its_own_controls_in_their_roles (name : String) (controls : Controls) :
    (∀ {actions : List Widget.Action} {made : List (Option Widget.Action × View.Call)} {widget : Widget},
      Widget.Reach name controls actions made widget →
        (∀ call, (none, call) ∈ made →
          ∃ id ∈ [controls.path, controls.request, controls.send], call = .command (.setDisabled id true)) ∧
        ∀ action call, (some action, call) ∈ made → action ∈ actions ∧ action.MayCall controls call) ∧
    (∀ {V : Type} [View V] (view : V) (actions : List Widget.Action),
      let panel := (Panel.fresh name controls view).run actions
      let made := Panel.made name controls view actions
      Widget.Reach name controls actions made panel.widget ∧ panel.view = View.serve view (made.map Prod.snd)) ∧
    ∀ (memory : Memory) (actions : List Widget.Action),
      let page := ((Panel.fresh name controls memory).run actions).view
      memory.Confined controls page ∧
      (∀ id, id ∉ [controls.path, controls.request, controls.response, controls.send] →
        page.control id = memory.control id) ∧
      ((page.control controls.response).disabled ≠ (memory.control controls.response).disabled →
        controls.response ∈ [controls.path, controls.request, controls.send]) ∧
      ((page.control controls.send).value ≠ (memory.control controls.send).value →
        controls.send ∈ [controls.path, controls.request, controls.response]) := by
  refine ⟨fun reach => ⟨fun _ member => reach.made_start member, fun _ _ member => reach.made_action member⟩,
    fun view actions => ⟨Panel.made_reach name controls view actions, Panel.made_view name controls view actions⟩,
    fun memory actions => ?_⟩
  intro page
  have confined : memory.Confined controls page := by
    rw [show page = _ from Panel.made_view name controls memory actions]
    exact memory.confined_serve fun call member => (Panel.made_reach name controls memory actions).roles member
  refine ⟨confined, fun id apart => ?_, fun changed => ?_, fun changed => ?_⟩
  · rw [Memory.control, confined.strangers id apart, Memory.control]
  · exact Decidable.byContradiction fun apart => changed (congrArg Prod.fst (confined.gating _ apart))
  · exact Decidable.byContradiction fun apart => changed (confined.value _ apart)

/-- A view that calls a control enabled although the widget has disabled it, and a page with one more control on
which the response is the send control as well. -/
theorem Panel.touches_a_shared_control_in_both_roles :
    let controls : Controls := ⟨"p", "q", "x", "x"⟩
    let click : Widget.Action := .dispatch .click
    let made : List (Option Widget.Action × View.Call) :=
      [(none, .command (.setDisabled "p" true)), (none, .command (.setDisabled "q" true)),
        (none, .command (.setDisabled "x" true)), (some click, .isDisabled "x"), (some click, .value "q")]
    let memory : Memory := ((({} : Memory).perform (.setDisabled "other" false)).perform
      (.setValue "other" "kept")).perform (.scrollToEnd "other")
    let actions : List Widget.Action :=
      [.received "früh", .attach, .opened 0, .dispatch (.submit "request"), .failed .notConnected]
    let page := ((Panel.fresh "console" controls memory).run actions).view
    (Widget.Reach "console" controls [click] made { name := "console", controls } ∧
      (∃ id ∈ ["p", "q", "x"], View.Call.command (.setDisabled "x" true) = .command (.setDisabled id true)) ∧
      click.MayCall controls (.value "q")) ∧
    ("other" ∉ ["p", "q", "x", "x"] ∧ page.control "other" = ⟨"kept", false, 4, 1, 0⟩) ∧
    ((page.control "x").disabled ≠ (memory.control "x").disabled ∧ "x" ∈ ["p", "q", "x"]) ∧
    (page.control "x").value ≠ (memory.control "x").value ∧ "x" ∈ ["p", "q", "x"] := by
  intro controls click made memory actions page
  obtain ⟨roles, -, frame⟩ := Panel.touches_its_own_controls_in_their_roles "console" controls
  obtain ⟨-, others, response, send⟩ := frame memory actions
  have start : Widget.Reach "console" controls [] (made.take 3) { name := "console", controls } :=
    .start (.perform (.perform (.perform (.done _))))
  have clicked : Widget.Reach "console" controls [click] made { name := "console", controls } :=
    start.next click (.askDisabled false (.askValue "typed" (.done _)))
  obtain ⟨making, asking⟩ := roles clicked
  refine ⟨⟨clicked, making _ (by simp [made]), (asking click _ (by simp [made])).2⟩, ⟨by decide, ?_⟩, ?_, ?_⟩
  · rw [others "other" (by decide)]
    decide +kernel +zetaReduce
  · have changed : (page.control "x").disabled ≠ (memory.control "x").disabled := by decide +kernel +zetaReduce
    exact ⟨changed, response changed⟩
  · have changed : (page.control "x").value ≠ (memory.control "x").value := by decide +kernel +zetaReduce
    exact ⟨changed, send changed⟩

end RelayConsole
