import FlakeWM.Protocol.ShellSurfaces

/-! What the shells do to windows that have been moved or put away.

A shell surface keeps the position it was given last, and puts its window there each
time it is applied, also after the user has moved the window. A Plasma surface also
enables its window, whatever hides it. -/

set_option autoImplicit false

namespace FlakeWM.Protocol

def PlasmaRequest.asksPosition : PlasmaRequest → Bool
  | .setPosition _ _ => true
  | _ => false

def Ukui.Request.asksPosition : Ukui.Request → Bool
  | .setPosition _ _ | .openUnderCursor _ _ => true
  | _ => false

namespace Shells

def Event.asksPosition : Event → Nat → Bool
  | .plasma id request, window => id == window && request.asksPosition
  | .ukui id request, window => id == window && request.asksPosition
  | .move id _ _, window => id == window
  | _, _ => false

def Event.isRequest : Event → Bool
  | .move _ _ _ | .pointer _ _ | .compositor _ | .update _ => false
  | _ => true

/-- The window is minimized or on another workspace. -/
def putAway (state : Shells) (id : Nat) : Bool :=
  state.desktop.windows.test id fun toplevel => toplevel.minimized || !state.desktop.windows.onWorkspace toplevel

def enabled (state : Shells) (id : Nat) : Bool := state.desktop.windows.test id (·.nodeEnabled)

/-- A window moves only where a position is asked for. -/
def MovesWhenAsked (state : Shells) (event : Event) : Prop :=
  ∀ id, event.asksPosition id = false → (state.step event).position id = state.position id

def ShowsNothingPutAway (state : Shells) (event : Event) : Prop :=
  event.isRequest = true → ∀ id, state.putAway id = true → state.enabled id = false →
    (state.step event).enabled id = false

def inPlace (state : Shells) (id : Nat) (positionSet : Bool) (x y : Int) : Bool :=
  !positionSet || !state.hasNode id || state.position id == (x, y)

/-- Whatever is applied for another reason than its position has the one of its window,
and Plasma applies no surface that is not hidden to a window that is put away. -/
def appliesAsIs (state : Shells) : Event → Bool
  | .plasma id request => (state.plasma id).all fun surface =>
    let answer := surface.answer request
    !answer.2 || ((request.asksPosition || state.inPlace id answer.1.positionSet answer.1.x answer.1.y) &&
      (answer.1.hidden || !state.hasNode id || !state.putAway id || state.enabled id))
  | .ukui id request => (state.ukui id).all fun surface =>
    let answer := surface.answer state.cursor request
    !answer.2 || request.asksPosition || state.inPlace id answer.1.positionSet answer.1.x answer.1.y
  | .update id => (state.ukui id).all fun surface => state.inPlace id surface.positionSet surface.x surface.y
  | _ => true

variable (state : Shells) (id id' : Nat) (sf : Ukui.ShellSurface)

theorem position_place (x y : Int) :
    (state.place id x y).position id' = if id' = id then (x, y) else state.position id' := by
  unfold place
  exact Function.update_apply state.position id (x, y) id'

theorem position_applyShellSurface : (state.applyShellSurface id sf).position id' =
      if id' = id ∧ sf.positionSet = true ∧ state.hasNode id = true then (sf.x, sf.y)
      else state.position id' := by
  unfold applyShellSurface
  by_cases node : state.hasNode id = true
  · by_cases set : sf.positionSet = true
    · simp [node, set, reparent, position_place]
    · simp [node, set, reparent]
  · simp [node]

theorem position_applyPlasmaSurface (sf : PlasmaSurface) : (state.applyPlasmaSurface id sf).position id' =
      if id' = id ∧ sf.positionSet = true ∧ state.hasNode id = true then (sf.x, sf.y)
      else state.position id' := by
  unfold applyPlasmaSurface
  by_cases node : state.hasNode id = true
  · by_cases set : sf.positionSet = true
    · simp [node, set, reparent, setEnabled, position_place]
    · simp [node, set, reparent, setEnabled]
  · simp [node]

theorem enabled_setEnabled (enable : Bool) (node : state.hasNode id = true) :
    (state.setEnabled id enable).enabled id' = if id' = id then enable else state.enabled id' := by
  unfold setEnabled enabled Desktop.State.withWindows Desktop.Windows.update Desktop.Windows.test
  simp only [List.getElem?_modify]
  by_cases same : id' = id
  · subst same
    unfold hasNode Desktop.Windows.test at node
    cases held : state.desktop.windows.toplevels[id']? with
    | none => simp [held] at node
    | some t =>
      have tree : t.sceneTree = true := by
        simp only [held, Option.any_some, Bool.and_eq_true] at node
        exact node.2
      simp [Desktop.Toplevel.setNodeEnabled, tree]
  · simp [same, Ne.symm same]

theorem enabled_applyPlasmaSurface (sf : PlasmaSurface) : (state.applyPlasmaSurface id sf).enabled id' =
      if id' = id ∧ state.hasNode id = true then !sf.hidden else state.enabled id' := by
  unfold applyPlasmaSurface
  by_cases node : state.hasNode id = true
  · by_cases set : sf.positionSet = true
    · rw [if_pos node, if_pos set, enabled_setEnabled _ _ _ _ (by exact node)]
      simp [node, reparent, place, enabled]
    · rw [if_pos node, if_neg set, enabled_setEnabled _ _ _ _ (by exact node)]
      simp [node, reparent, enabled]
  · simp [node]

theorem enabled_applyShellSurface : (state.applyShellSurface id sf).enabled id' = state.enabled id' := by
  unfold applyShellSurface
  by_cases node : state.hasNode id = true
  · by_cases set : sf.positionSet = true <;> simp [node, set, reparent, place, enabled]
  · simp [node]

/-- A placement moves nothing that was not asked for exactly if it was asked for or is in place. -/
theorem placement_iff (asked positionSet : Bool) (x y : Int) : (∀ id', (id == id' && asked) = false →
        (if id' = id ∧ positionSet = true ∧ state.hasNode id = true then (x, y) else state.position id') =
          state.position id') ↔
      (asked || state.inPlace id positionSet x y) = true := by
  constructor
  · intro kept
    cases asked with
    | true => rfl
    | false =>
      have own := kept id (Bool.and_false _)
      unfold inPlace
      cases positionSet <;> cases node : state.hasNode id <;> simp_all
  · intro met id' free
    by_cases same : id' = id
    · subst same
      have unasked : asked = false := by simpa using free
      unfold inPlace at met
      cases positionSet <;> cases node : state.hasNode id' <;> simp_all
    · simp [same]

theorem showing_iff (hidden : Bool) : (∀ id', state.putAway id' = true → state.enabled id' = false →
        (if id' = id ∧ state.hasNode id = true then !hidden else state.enabled id') = false) ↔
      (hidden || !state.hasNode id || !state.putAway id || state.enabled id) = true := by
  constructor
  · intro kept
    have own := kept id
    cases away : state.putAway id <;> cases shown : state.enabled id <;> cases node : state.hasNode id <;> simp_all
  · intro met id' away dark
    by_cases same : id' = id
    · subst same
      cases node : state.hasNode id' <;> simp_all
    · simp [same, dark]

theorem plasma_iff (q : PlasmaRequest) :
    state.MovesWhenAsked (.plasma id q) ∧ state.ShowsNothingPutAway (.plasma id q) ↔
      state.appliesAsIs (.plasma id q) = true := by
  unfold MovesWhenAsked ShowsNothingPutAway
  simp only [step, plasmaRequest, appliesAsIs, Event.asksPosition, Event.isRequest, true_implies]
  cases state.plasma id with
  | none => exact iff_of_true ⟨fun _ _ => rfl, fun _ _ dark => dark⟩ rfl
  | some sf =>
    simp only [Option.all_some]
    cases applied : (sf.answer q).2 with
    | false => exact iff_of_true ⟨fun _ _ => rfl, fun _ _ dark => dark⟩ rfl
    | true =>
      simp only [if_true, Bool.not_true, Bool.false_or, position_applyPlasmaSurface, enabled_applyPlasmaSurface]
      rw [Bool.and_eq_true, ← placement_iff, ← showing_iff]
      exact .rfl

theorem activated_same (activated : Bool) :
    (if activated then { state with desktop := state.desktop.focusToplevel id } else state).position id' =
        state.position id' ∧
      (if activated then { state with desktop := state.desktop.focusToplevel id } else state).enabled id' =
        state.enabled id' := by
  cases activated <;> simp [enabled]

theorem ukui_iff (q : Ukui.Request) : state.MovesWhenAsked (.ukui id q) ∧ state.ShowsNothingPutAway (.ukui id q) ↔
      state.appliesAsIs (.ukui id q) = true := by
  unfold MovesWhenAsked ShowsNothingPutAway
  simp only [step, ukuiRequest, appliesAsIs, Event.asksPosition, Event.isRequest, true_implies]
  cases state.ukui id with
  | none => exact iff_of_true ⟨fun _ _ => rfl, fun _ _ dark => dark⟩ rfl
  | some sf =>
    simp only [Option.all_some, (activated_same _ id _ _).1, (activated_same _ id _ _).2]
    cases applied : (sf.answer state.cursor q).2 with
    | false => exact iff_of_true ⟨fun _ _ => rfl, fun _ _ dark => dark⟩ rfl
    | true =>
      simp only [if_true, Bool.not_true, Bool.false_or, position_applyShellSurface, enabled_applyShellSurface]
      rw [← placement_iff]
      exact and_iff_left fun _ _ dark => dark

theorem update_iff : state.MovesWhenAsked (.update id) ∧ state.ShowsNothingPutAway (.update id) ↔
      state.appliesAsIs (.update id) = true := by
  unfold MovesWhenAsked ShowsNothingPutAway
  simp only [step, updateToplevel, appliesAsIs, Event.asksPosition, Event.isRequest, Bool.false_eq_true, false_implies,
    and_true, true_implies]
  cases state.ukui id with
  | none => exact iff_of_true (fun _ => rfl) rfl
  | some sf =>
    simp only [position_applyShellSurface, Option.all_some]
    have placed := placement_iff state id false sf.positionSet sf.x sf.y
    simpa using placed

theorem applies_iff (e : Event) :
    state.MovesWhenAsked e ∧ state.ShowsNothingPutAway e ↔ state.appliesAsIs e = true := by
  cases e with
  | plasma id q => exact plasma_iff state id q
  | ukui id q => exact ukui_iff state id q
  | update id => exact update_iff state id
  | getPlasmaSurface id | createShellSurface id =>
    refine iff_of_true ⟨fun id' _ => ?_, fun _ id' _ dark => ?_⟩ rfl
    · simp only [step]
      split <;> rfl
    · simp only [step]
      split <;> exact dark
  | destroyPlasmaSurface id | destroyShellSurface id =>
    refine iff_of_true ⟨fun id' _ => ?_, fun _ id' _ dark => ?_⟩ rfl
    · simp only [step, release]
      split
      · split <;> rfl
      · rfl
    · simp only [step, release]
      split
      · split <;> exact dark
      · exact dark
  | move id =>
    refine iff_of_true ⟨fun id' free => ?_, fun q => ?_⟩ rfl
    · have apart : id' ≠ id := by
        rintro rfl
        simp [Event.asksPosition] at free
      simp [step, position_place, apart]
    · simp [Event.isRequest] at q
  | pointer x y | compositor e =>
    refine iff_of_true ⟨fun _ _ => rfl, fun q => ?_⟩ rfl
    simp [Event.isRequest] at q

/-- Windows move only where a position is asked for and no request shows one that is
put away, exactly if every surface that is applied for another reason is applied as
its window is. -/
theorem moves_and_shows_iff (events : List Event) :
    Transition.Along step (fun state event => state.MovesWhenAsked event ∧ state.ShowsNothingPutAway event)
        initial events ↔
      Transition.Along step (fun state event => state.appliesAsIs event = true) initial events := by
  constructor
  · exact Transition.Along.mono fun state event => (applies_iff state event).mp
  · exact Transition.Along.mono fun state event => (applies_iff state event).mpr

/-- A window of the UKUI shell that the user has moved jumps back at its next commit,
and a minimized window is shown again when its client asks for the role of a panel. -/
theorem moved_back_and_shown :
    let shell := [.compositor (.newToplevel false), .createShellSurface 0, .ukui 0 (.setPosition 10 20)]
    let moved := Transition.run step initial (shell ++ [.move 0 300 400])
    let plasma := [.compositor (.newToplevel false), .compositor (.map 0 false), .getPlasmaSurface 0]
    let minimized := Transition.run step initial (plasma ++ [.compositor (.minimize 0)])
    (moved.position 0 = (300, 400) ∧ (moved.step (.update 0)).position 0 = (10, 20)) ∧
      (minimized.putAway 0 = true ∧ minimized.enabled 0 = false) ∧
      (minimized.step (.plasma 0 (.setRole (some .panel)))).putAway 0 = true ∧
      (minimized.step (.plasma 0 (.setRole (some .panel)))).enabled 0 = true := by
  decide

end Shells

end FlakeWM.Protocol
