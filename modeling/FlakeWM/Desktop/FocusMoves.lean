import FlakeWM.Desktop.Focus

/-! What the handlers of events are made of.

A handler of a window event changes windows and the stacking order and then calls
the focus functions; beside that it may drop the focus of a window. The other
handlers leave windows and order alone, but for the window they may focus. What
these few moves keep, every event of the kind keeps. -/

set_option autoImplicit false

namespace FlakeWM.Desktop
namespace State

inductive Moves (state : State) : State → Prop where
  | refl : Moves state state
  | windows {next : State} (windows : Windows) (stack : List Nat) :
      Moves state next → Moves state { next with windows := windows, stack := stack }
  | focusToplevel {next : State} (id : Nat) : Moves state next → Moves state (next.focusToplevel id)
  | focusNextToplevel {next : State} (excluding : Option Nat) :
      Moves state next → Moves state (next.focusNextToplevel excluding)
  /-- The focus of a window that is left behind on another workspace. -/
  | clear {next : State} : next.sessionLocked = false → next.focusLeftBehind = true →
      Moves state next → Moves state next.clearFocus
  | orphan {next : State} (id : Nat) : Moves state next → Moves state (next.orphan (· == Surface.toplevel id))

section

variable {s next last : State}

theorem Moves.trans (first : Moves s next) (second : Moves next last) : Moves s last := by
  induction second with
  | refl => exact first
  | windows ws stack _ ih => exact ih.windows ws stack
  | focusToplevel id _ ih => exact ih.focusToplevel id
  | focusNextToplevel ex _ ih => exact ih.focusNextToplevel ex
  | clear unlocked left _ ih => exact ih.clear unlocked left
  | orphan id _ ih => exact ih.orphan id

theorem Moves.frame (moves : Moves s next) :
    next = { s with windows := next.windows, stack := next.stack, focus := next.focus } := by
  induction moves with
  | refl => rfl
  | windows ws stack _ ih => rw [ih]
  | @focusToplevel middle id _ ih =>
    rw [focusToplevel_refocused middle id]
    rw [ih]
  | @focusNextToplevel middle ex _ ih =>
    rw [focusNextToplevel_refocused middle ex]
    rw [ih]
  | clear _ _ _ ih => rw [ih]; rfl
  | orphan id _ ih => rw [ih]; rfl

theorem Moves.session (moves : Moves s next) : next.session = s.session := by
  rw [moves.frame]

theorem Refocuses.moves (ends : Refocuses next last) (moves : Moves s next) : Moves s last := by
  cases ends with
  | stay => exact moves
  | focusToplevel id => exact moves.focusToplevel id
  | focusNextToplevel ex => exact moves.focusNextToplevel ex

section

variable (s : State) (id : Nat)

theorem moves_map (big : Bool) : Moves s (s.map id big) := (refocuses_map s id big).moves (.windows _ s.stack .refl)

theorem moves_unmap : Moves s (s.unmap id) := (refocuses_unmap s id).moves (.windows _ s.stack .refl)

theorem moves_associate (tc sm big : Bool) : Moves s (s.associate id tc sm big) := by
  unfold associate
  split
  · have associated : Moves s { s with
        windows := s.windows.associate id tc sm
        stack := if tc then s.stack ++ [id] else s.stack } := .windows _ _ .refl
    dsimp only
    split
    · exact associated.trans (moves_map _ id big)
    · exact associated
  · exact .refl

theorem moves_dissociate : Moves s (s.dissociate id) := by
  unfold dissociate
  split
  · exact ((moves_unmap s id).windows _ _).orphan id
  · exact .refl

theorem moves_destroyToplevel : Moves s (s.destroyToplevel id) :=
  ((moves_unmap s id).windows _ _).orphan id

theorem moves_switchWorkspace (n : Int) : Moves s (s.switchWorkspace n) := by
  unfold switchWorkspace
  split
  · rename_i accepted
    have unlocked : s.sessionLocked = false := by
      simp only [maySwitch, Bool.and_eq_true, Bool.not_eq_true'] at accepted
      exact accepted.2
    have switched : Moves s { s with windows := s.windows.switchTo n } :=
      .windows _ s.stack .refl
    refine .focusNextToplevel none ?_
    split
    · rename_i left
      exact switched.clear unlocked left
    · exact switched
  · exact .refl

theorem moves_switchToOwnWorkspace : Moves s (s.switchToOwnWorkspace id) := by
  unfold switchToOwnWorkspace
  split
  · exact .refl
  · exact moves_switchWorkspace s _

theorem moves_multitaskingActivate : Moves s (s.multitaskingActivate id) := by
  unfold multitaskingActivate
  split
  · exact .focusToplevel id (.windows _ (s.switchToOwnWorkspace id).stack (moves_switchToOwnWorkspace s id))
  · exact .refl

theorem moves_previewsActivate : Moves s (s.previewsActivate id) := by
  unfold previewsActivate
  split
  · refine .focusToplevel id ?_
    exact (Moves.windows _ s.stack .refl).trans (moves_switchToOwnWorkspace _ id)
  · exact .refl

theorem moves_setKeptAbove (above : Bool) : Moves s (s.setKeptAbove id above) := by
  unfold setKeptAbove
  split
  · exact .windows _ _ .refl
  · exact .refl

end

end

end State

def Event.aboutWindows : Event → Bool
  | .newToplevel _ | .associate .. | .dissociate _ | .map .. | .unmap _ | .destroy _ | .setHints .. | .minimize _
  | .requestRestore _ | .xRequestRestore _ | .switcherActivate _ | .multitaskingActivate _ | .previewsActivate _
  | .setMaximized .. | .tile .. | .animationEnd | .highlight _ | .unhighlight _ | .switchWorkspace _
  | .moveToWorkspace .. | .addWorkspace | .removeWorkspace _ | .reorderWorkspace .. | .setAllWorkspaces ..
  | .setKeptAbove .. | .hideMultitaskingSources _ | .hideWindowPreviewsSources _ | .focusToplevel _
  | .focusNextToplevel => true
  | _ => false

open State in
theorem step_moves (s : State) {e : Event} (window : e.aboutWindows = true) : Moves s (step s e) := by
  have only : ∀ ws : Windows, Moves s { s with windows := ws } :=
    fun ws => .windows ws s.stack .refl
  cases e with
  | newToplevel => exact .windows _ _ .refl
  | associate => exact moves_associate s ..
  | dissociate id => exact moves_dissociate s id
  | map id big => exact moves_map s id big
  | unmap id => exact moves_unmap s id
  | destroy id => exact moves_destroyToplevel s id
  | minimize id => exact (refocuses_minimize s id).moves (only _)
  | xRequestRestore id => exact (refocuses_xRequestRestore s id).moves (only _)
  | switcherActivate id => exact (refocuses_switcherActivate s id).moves (only _)
  | multitaskingActivate id => exact moves_multitaskingActivate s id
  | previewsActivate id => exact moves_previewsActivate s id
  | tile id u captured => exact (refocuses_tileToplevel s id u captured).moves (only _)
  | highlight | unhighlight =>
    unfold step
    dsimp only
    split
    · exact only _
    · exact .refl
  | switchWorkspace n => exact moves_switchWorkspace s n
  | moveToWorkspace id n => exact (refocuses_moveToplevelToWorkspace s id n).moves (only _)
  | setKeptAbove id above => exact moves_setKeptAbove s id above
  | focusToplevel id => exact .focusToplevel id .refl
  | focusNextToplevel => exact .focusNextToplevel none .refl
  | setHints | requestRestore | setMaximized | animationEnd | addWorkspace | removeWorkspace | reorderWorkspace
  | setAllWorkspaces | hideMultitaskingSources | hideWindowPreviewsSources => exact only _
  | _ => cases window

namespace State

/-- What the handlers of layer surfaces are made of. -/
inductive Layered (state : State) : State → Prop where
  | refl : Layered state state
  | layers {next : State} (layers : List LayerSurface) (layered : Layered state next) :
      Layered state { next with layers := layers }
  | focusLayerSurface {next : State} (id : Nat) (layered : Layered state next) :
      Layered state (next.focusLayerSurface id)
  | focusNextToplevel {next : State} (layered : Layered state next) : Layered state (next.focusNextToplevel none)
  | orphan {next : State} (id : Nat) (layered : Layered state next) :
      Layered state (next.orphan (· == Surface.layer id))

section

variable (s : State) (id : Nat)

theorem layered_mapLayer : Layered s (s.mapLayer id) := by
  unfold mapLayer
  split
  · dsimp only
    split
    · exact .focusLayerSurface id (.layers _ .refl)
    · exact .layers _ .refl
  · exact .refl

theorem layered_unmapLayer : Layered s (s.unmapLayer id) := by
  unfold unmapLayer
  split
  · dsimp only
    split
    · exact .focusNextToplevel (.layers _ .refl)
    · exact .layers _ .refl
  · exact .refl

theorem layered_commitLayer (interactivity : Interactivity) : Layered s (s.commitLayer id interactivity) := by
  unfold commitLayer
  split
  · dsimp only
    split
    · exact .focusLayerSurface id (.layers _ .refl)
    · exact .layers _ .refl
  · exact .refl

theorem layered_destroyLayer : Layered s (s.destroyLayer id) :=
  .orphan id (.layers _ (layered_unmapLayer s id))

end

end State

def Event.aboutLayers : Event → Bool
  | .mapLayer _ | .unmapLayer _ | .commitLayer .. | .destroyLayer _ | .focusLayerSurface _ => true
  | _ => false

open State in
theorem step_layered (s : State) {e : Event} (layers : e.aboutLayers = true) : Layered s (step s e) := by
  cases e with
  | mapLayer id => exact layered_mapLayer s id
  | unmapLayer id => exact layered_unmapLayer s id
  | commitLayer id interactivity => exact layered_commitLayer s id interactivity
  | destroyLayer id => exact layered_destroyLayer s id
  | focusLayerSurface id => exact .focusLayerSurface id .refl
  | _ => cases layers

namespace State

/-- What the events about layer surfaces, keyboards, outputs and the session lock
make of the windows and their order: both stay, but for calls of
`FocusNextToplevel`. -/
inductive Steers (state : State) : State → Prop where
  | refl : Steers state state
  | aside {next last : State} : Steers state next → last.windows = next.windows → last.stack = next.stack →
      Steers state last
  | focusNextToplevel {next : State} : Steers state next → Steers state (next.focusNextToplevel none)

section

variable {s next last : State}

theorem Steers.trans (first : Steers s next) (second : Steers next last) : Steers s last := by
  induction second with
  | refl => exact first
  | aside _ ws stack ih => exact ih.aside ws stack
  | focusNextToplevel _ ih => exact ih.focusNextToplevel

/-- What depends on the windows and their order and is kept by `FocusNextToplevel`
holds afterwards. -/
theorem Steers.keeps (holds : State → Prop)
    (aside : ∀ {before after : State}, after.windows = before.windows → after.stack = before.stack →
      holds before → holds after)
    (focuses : ∀ {before : State}, holds before → holds (before.focusNextToplevel none)) (steers : Steers s next)
    (held : holds s) : holds next := by
  induction steers with
  | refl => exact held
  | aside _ ws stack ih => exact aside ws stack ih
  | focusNextToplevel _ ih => exact focuses ih

theorem Steers.windows (steers : Steers s next) : next.windows = s.windows := by
  refine steers.keeps (fun reached => reached.windows = s.windows) ?_ ?_ rfl
  · intro before after same _ held
    exact same.trans held
  · intro before held
    exact (focusNextToplevel_windows before none).trans held

section

variable (s : State) (id : Nat)

omit s id in
theorem Layered.steers {s next : State} (layered : Layered s next) : Steers s next := by
  induction layered with
  | refl => exact .refl
  | layers _ _ ih => exact ih.aside rfl rfl
  | focusLayerSurface id _ ih => exact ih.aside (focusLayerSurface_windows _ id) (focusLayerSurface_stack _ id)
  | focusNextToplevel _ ih => exact ih.focusNextToplevel
  | orphan _ _ ih => exact ih.aside rfl rfl

theorem steers_addKeyboard : Steers s s.addKeyboard := by
  unfold addKeyboard notifyEnter
  dsimp only
  split
  · split
    · exact .aside .refl rfl rfl
    · exact .aside .refl rfl rfl
  · exact .focusNextToplevel (.aside .refl rfl rfl)

theorem steers_beginSessionLock (bc : Bool) : Steers s (s.beginSessionLock bc) := by
  unfold beginSessionLock
  dsimp only
  split
  · exact .aside .refl rfl rfl
  · split
    · exact .aside .refl rfl rfl
    · exact .focusNextToplevel (.aside .refl rfl rfl)

theorem steers_unlock (l : Nat) : Steers s (s.unlock l) := by
  unfold unlock
  dsimp only
  split
  · exact .focusNextToplevel (.aside .refl rfl rfl)
  · exact .aside .refl rfl rfl

theorem steers_destroyLock (l : Nat) : Steers s (s.destroyLock l) := by
  unfold destroyLock
  split
  · split
    · exact .aside .refl rfl rfl
    · exact .aside .refl rfl rfl
  · exact .aside .refl rfl rfl

theorem steers_mapLockSurface : Steers s (s.mapLockSurface id) := by
  unfold mapLockSurface
  dsimp only
  split
  · exact .aside .refl (enter_windows _ _) (enter_stack _ _)
  · exact .aside .refl rfl rfl

theorem steers_destroyOutput : Steers s (s.destroyOutput id) := by
  have bare : Steers s (s.destroyLayersOf id) :=
    destroyLayersOf_induction Steers (fun _ => .refl) Steers.trans id (fun s layer _ => (layered_destroyLayer s layer).steers) s
  exact .aside bare rfl rfl

end

end

end State

open State in
theorem step_steers (s : State) {e : Event} (elsewhere : e.aboutWindows = false) : Steers s (step s e) := by
  cases e with
  | mapLayer | unmapLayer | commitLayer | destroyLayer | focusLayerSurface => exact (step_layered s rfl).steers
  | addKeyboard => exact steers_addKeyboard s
  | useKeyboard =>
    unfold step useKeyboard
    dsimp only
    split
    · exact .aside .refl rfl rfl
    · exact .refl
  | lockRequest bc => exact steers_beginSessionLock s bc
  | unlock l => exact steers_unlock s l
  | destroyLock l => exact steers_destroyLock s l
  | mapLockSurface id => exact steers_mapLockSurface s id
  | outputDestroy o => exact steers_destroyOutput s o
  | surfaceGone =>
    unfold step
    dsimp only
    split
    · exact .aside .refl rfl rfl
    · exact .refl
  | newLayer | removeKeyboard | beginGrab | endGrab | newLockSurface | destroyLockSurface | newOutput | outputCommit
  | outputPresent => exact .aside .refl rfl rfl
  | _ => cases elsewhere

end FlakeWM.Desktop
