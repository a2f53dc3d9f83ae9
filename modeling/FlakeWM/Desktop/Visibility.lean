import FlakeWM.Desktop.SceneNodes
import Mathlib.Data.Bool.Basic

/-! Visibility over whole runs of the compositor.

A run whose events never write a wrong constant into a scene node keeps every
node in line with the visibility of its window. -/

set_option autoImplicit false

namespace FlakeWM.Desktop
namespace State

open Windows

/-- What the multitasking view needs to restore a window: no overview hides it
and its workspace is current or can be switched to. -/
def multitaskingSafe (state : State) (id : Nat) : Bool :=
  state.windows.tileAnimation == some id || !state.windows.test id fun toplevel =>
    toplevel.sceneTree && toplevel.minimized &&
      (state.windows.overviewHidden ||
        !state.windows.onWorkspace toplevel && !state.maySwitch toplevel.workspace)

def plainSafe (state : State) : Event → Bool
  | .associate id treeCreated surfaceMapped requestedMaximized =>
    -- a window without a surface is never mapped
    !state.windows.test id (fun toplevel => toplevel.xwayland && toplevel.alive && !toplevel.surface) ||
      !state.windows.test id (·.mapped) &&
        (!treeCreated || !surfaceMapped || state.windows.mapSafe id requestedMaximized)
  | .map id requestedMaximized => !state.windows.mayMap id || state.windows.mapSafe id requestedMaximized
  | .minimize id =>
    !state.windows.mayMinimize id || state.windows.tileAnimation == some id || state.windows.sourceVisible
  | .xRequestRestore id => state.windows.xRestoreSafe id
  | .switcherActivate id => !state.mayActivate id || state.windows.switcherSafe id
  | .multitaskingActivate id => !state.mayActivate id || state.multitaskingSafe id
  | .previewsActivate id =>
    !state.mayActivate id || state.windows.test id (fun toplevel => state.maySwitch toplevel.workspace) ||
      state.windows.previewsSafe id
  | .setMaximized id maximized => state.windows.maximizeSafe id maximized
  | .tile id usable captured => !state.windows.mayTile id usable || state.windows.tileSafe id captured
  | .animationEnd => state.windows.sourceVisible
  | _ => true

/-- The event writes no wrong constant into a scene node, and a highlight that it
ends leaves no hidden window shown. -/
def nodesSafe (state : State) : Event → Bool
  | .unmap id | .destroy id => state.windows.unmapSafe id
  | .dissociate id => !state.windows.test id (·.xwayland) || state.windows.unmapSafe id
  | .unhighlight id => state.windows.highlight != some id || state.windows.unhighlightShows none
  | event => state.windows.highlight.isSome || state.plainSafe event

section

variable {s : State}

section

variable (consistent : s.windows.Consistent)

include consistent

theorem consistent_ownWorkspaceShown (id : Nat) : (s.ownWorkspaceShown id).Consistent :=
  s.ownWorkspaceShown_induction id consistent fun n _ => consistent_switchTo _ n

omit consistent in
theorem ownWorkspaceShown_highlight (s : State) (id : Nat) :
    (s.ownWorkspaceShown id).highlight = s.windows.highlight :=
  s.ownWorkspaceShown_induction (motive := fun ws => ws.highlight = s.windows.highlight) id rfl fun _ _ => rfl

theorem consistent_associate {id : Nat} {tc sm big : Bool}
    (safe : s.windows.highlight = none → s.plainSafe (.associate id tc sm big) = true) :
    (s.windowsAfter (.associate id tc sm big)).Consistent := by
  have associated : s.windows.highlight = none → s.windows.test id (fun t =>
        t.xwayland && t.alive && !t.surface) = true → s.windows.test id (·.mapped) = false ∧
      (tc = true → sm = true → s.windows.mapSafe id big = true) := by
    intro plain accepted
    have safe := safe plain
    simp only [plainSafe, accepted, Bool.not_true, Bool.false_or] at safe
    grind
  unfold windowsAfter
  dsimp only
  split
  · -- A surface that is mapped already is mapped as a window at once.
    rename_i shown
    obtain ⟨both, accepted⟩ := Bool.and_eq_true_iff.mp shown
    obtain ⟨tree, mapped⟩ := Bool.and_eq_true_iff.mp both
    refine .of_plain s.windows ((map_highlight ..).trans (associate_highlight ..)) fun plain => ?_
    have associated := associated plain accepted
    refine (consistent.associate tc sm associated.1).map ?_
    simp only [Windows.associate, accepted, if_true]
    refine Windows.mapSafe_update ?_ (associated.2 tree mapped)
    exact fun _ => ⟨rfl, rfl, rfl, rfl, rfl⟩
  · refine .of_plain s.windows (Windows.associate_highlight ..) fun plain => ?_
    by_cases accepted : s.windows.test id (fun t =>
        t.xwayland && t.alive && !t.surface) = true
    · exact consistent.associate tc sm (associated plain accepted).1
    · simpa [Windows.associate, accepted] using consistent

omit consistent in
theorem restoreShows_switch {id : Nat} (safe : s.multitaskingSafe id = true) :
    (s.ownWorkspaceShown id).tileAnimation = some id ∨ (s.ownWorkspaceShown id).restoreShows id = true := by
  unfold ownWorkspaceShown
  cases found : s.windows.toplevels[id]? with
  | none => exact .inr (by simp [restoreShows, test, found])
  | some t =>
    simp only [multitaskingSafe, test, found, Option.any_some] at safe
    dsimp only
    split
    · have after : (s.windows.switchTo t.workspace).toplevels[id]? = some (t.setNodeEnabled
          ({ s.windows with currentWorkspace := t.workspace }.isToplevelVisible t)) := by
        simp [switchTo, refreshNodes, found]
      simp only [restoreShows, test, presentable, onWorkspace, switchTo, refreshNodes, Toplevel.setNodeEnabled]
      simp only [overviewHidden] at safe
      grind
    · rename_i stays
      simp only [restoreShows, test, found, Option.any_some, presentable]
      simp only [stays, overviewHidden] at safe
      grind

theorem consistent_multitaskingActivate {id : Nat}
    (safe : s.windows.highlight = none → s.plainSafe (.multitaskingActivate id) = true) :
    (s.windowsAfter (.multitaskingActivate id)).Consistent := by
  unfold windowsAfter
  dsimp only
  split
  · rename_i accepted
    refine .of_plain s.windows (ownWorkspaceShown_highlight s id) fun plain => ?_
    have safe := safe plain
    simp only [plainSafe, accepted, Bool.not_true, Bool.false_or] at safe
    exact (consistent_ownWorkspaceShown consistent id).multitaskingRestore (restoreShows_switch safe)
  · exact consistent

theorem consistent_previewsActivate {id : Nat}
    (safe : s.windows.highlight = none → s.plainSafe (.previewsActivate id) = true) :
    (s.windowsAfter (.previewsActivate id)).Consistent := by
  unfold windowsAfter
  dsimp only
  split
  · rename_i accepted
    refine .of_plain s.windows (ownWorkspaceShown_highlight _ id) fun plain => ?_
    have safe := safe plain
    simp only [plainSafe, accepted, Bool.not_true, Bool.false_or, Bool.or_eq_true] at safe
    rcases safe with switches | safe
    · obtain ⟨t, found, switches⟩ := test_iff.mp switches
      have after : (s.windows.previewsRestore id).toplevels[id]? = some { t with minimized := false } := by
        simp [previewsRestore, update_get, found]
      simp only [ownWorkspaceShown, after]
      rw [if_pos (by exact switches)]
      exact consistent_switchTo _ _
    · exact consistent_ownWorkspaceShown (consistent.previewsRestore safe) id
  · exact consistent

theorem step_consistent {e : Event} (safe : s.nodesSafe e = true) : (step s e).windows.Consistent := by
  -- Under a highlight nothing is asked of the nodes until it ends.
  have plainSafe : ∀ {rest : Event}, (s.windows.highlight.isSome || s.plainSafe rest) = true →
      s.windows.highlight = none → s.plainSafe rest = true := by
    intro rest either plain
    simpa [plain] using either
  rw [step_windows]
  cases e with
  | newToplevel xw => exact consistent.add xw
  | associate => exact consistent_associate consistent (plainSafe safe)
  | dissociate id =>
    unfold windowsAfter
    dsimp only
    split
    · rename_i xw
      have safe : s.windows.unmapSafe id = true := by simpa [nodesSafe, xw] using safe
      exact (consistent.unmap safe).loseSurface
    · exact consistent
  | map id =>
    refine .of_plain s.windows (map_highlight ..) fun plain => ?_
    have safe := plainSafe safe plain
    by_cases accepted : s.windows.mayMap id = true
    · exact consistent.map (by simpa [State.plainSafe, accepted] using safe)
    · simpa [windowsAfter, Windows.map, accepted] using consistent
  | unmap => exact consistent.unmap safe
  | destroy => exact (consistent.unmap safe).loseHandle
  | setHints => exact consistent.update fun _ _ _ _ settled => settled.of_same rfl rfl rfl rfl rfl rfl
  | minimize =>
    refine .of_plain s.windows (minimize_highlight ..) fun plain => consistent.minimize fun accepted => ?_
    simpa [State.plainSafe, accepted] using plainSafe safe plain
  | requestRestore => exact consistent.requestRestore
  | xRequestRestore =>
    exact .of_plain s.windows (xRequestRestore_highlight ..) fun plain =>
      consistent.xRequestRestore (plainSafe safe plain)
  | switcherActivate id =>
    unfold windowsAfter
    dsimp only
    split
    · rename_i accepted
      refine .of_plain s.windows rfl fun plain => consistent.switcherRestore ?_
      simpa [State.plainSafe, accepted] using plainSafe safe plain
    · exact consistent
  | multitaskingActivate => exact consistent_multitaskingActivate consistent (plainSafe safe)
  | previewsActivate => exact consistent_previewsActivate consistent (plainSafe safe)
  | setMaximized id mx =>
    exact .of_plain s.windows (setMaximized_highlight ..) fun plain =>
      consistent.setMaximized mx (plainSafe safe plain)
  | tile id u captured =>
    refine .of_plain s.windows (tile_highlight ..) fun plain => consistent.tile u captured fun accepted => ?_
    simpa [State.plainSafe, accepted] using plainSafe safe plain
  | animationEnd =>
    exact .of_plain s.windows (cancelAnimation_highlight ..) fun plain =>
      consistent.cancel (.inr (plainSafe safe plain))
  | highlight =>
    unfold windowsAfter
    dsimp only
    split
    · intro plain
      cases plain
    · exact consistent
  | unhighlight id =>
    unfold windowsAfter
    dsimp only
    split
    · rename_i highlighted
      refine settledExcept_unhighlight ?_
      simpa [nodesSafe, highlighted] using safe
    · exact consistent
  | switchWorkspace =>
    unfold windowsAfter
    dsimp only
    split
    · exact consistent_switchTo _ _
    · exact consistent
  | moveToWorkspace id n => exact consistent.moveToWorkspace n
  | addWorkspace => exact consistent.addWorkspace
  | removeWorkspace n => exact consistent.removeWorkspace n
  | reorderWorkspace source target => exact consistent.reorderWorkspace source target
  | setAllWorkspaces id everywhere => exact consistent.setAllWorkspaces everywhere
  | hideMultitaskingSources | hideWindowPreviewsSources => exact consistent_refreshNodes _
  | setKeptAbove =>
    unfold windowsAfter
    dsimp only
    split
    · exact consistent.update fun _ _ _ _ settled => settled.of_same rfl rfl rfl rfl rfl rfl
    · exact consistent
  | _ => exact consistent

end

end

end State

theorem along_consistent {start : State} (consistent : start.windows.Consistent) {events : List Event}
    (safe : Transition.Along step (fun s e => s.nodesSafe e = true) start events) :
    Transition.Throughout step (fun s => s.windows.Consistent) start events := by
  refine Transition.along_invariant ?_ ?_ safe
  · intro s e consistent safe
    exact State.step_consistent consistent safe
  · exact consistent

/-- In a run whose every event is safe, the node of every mapped window with a
scene tree is enabled exactly when the window is visible, in every state with no
animation and no highlight in progress. -/
theorem nodes_match_visibility (events : List Event)
    (safe : Transition.Along step (fun state event => state.nodesSafe event = true) State.initial events) :
    Transition.Throughout step (fun state => state.windows.NodesMatch) State.initial events := by
  have start : State.initial.windows.Consistent := by
    intro _ other toplevel found
    cases found
  exact (along_consistent start safe).mono fun _ consistent => consistent.nodesMatch

/-- Two windows are minimized, restored, tiled, highlighted and moved between workspaces. -/
theorem nodes_match_visibility_session :
    Transition.Throughout step (fun state => state.windows.NodesMatch) State.initial
      [.newToplevel false, .map 0 true, .newToplevel true, .associate 1 true true false, .minimize 0,
        .requestRestore 0, .tile 1 true true, .animationEnd, .highlight 0, .unhighlight 0, .moveToWorkspace 1 2,
        .switchWorkspace 2, .hideMultitaskingSources true, .hideMultitaskingSources false, .unmap 0] :=
  nodes_match_visibility _ (by decide)

/-- An X11 client asks to restore its window while another workspace is current:
the window's node is enabled although the window is not visible. -/
theorem x_restore_shows_hidden_window :
    ¬ (Transition.run step State.initial
      [.newToplevel true, .associate 0 true true false, .switchWorkspace 1, .xRequestRestore 0]).windows.NodesMatch := by
  intro matching
  have settled := matching rfl rfl _ (List.mem_cons_self ..) rfl rfl
  revert settled
  decide

/-- Animations and highlights that begin and end in a run from a state where
nothing is hidden for a time leave no trace: whenever neither is in progress,
the nodes show exactly the visible windows. -/
theorem hiding_leaves_no_trace (start : State) (events : List Event) (still : start.windows.tileAnimation = none)
    (plain : start.windows.highlight = none) (matching : start.windows.NodesMatch)
    (safe : Transition.Along step (fun state event => state.nodesSafe event = true) start events) :
    Transition.Throughout step (fun state => state.windows.NodesMatch) start events := by
  have consistent : start.windows.Consistent := by
    intro _ other toplevel found _ _
    exact matching still plain toplevel (List.mem_of_getElem? found)
  exact (along_consistent consistent safe).mono fun _ consistent => consistent.nodesMatch

/-- Two windows are tiled one after the other, one is minimized and restored under
a highlight, one leaves the workspace while the other is animated. -/
theorem hiding_leaves_no_trace_session :
    Transition.Throughout step (fun state => state.windows.NodesMatch)
      (Transition.run step State.initial [.newToplevel false, .map 0 false, .newToplevel false, .map 1 false])
      [.tile 0 true true, .tile 1 true true, .moveToWorkspace 0 1, .animationEnd, .moveToWorkspace 0 0, .highlight 1,
        .minimize 0, .requestRestore 0, .switchWorkspace 1, .switchWorkspace 0, .unhighlight 1,
        .setAllWorkspaces 1 true, .tile 0 true true, .unmap 0] :=
  hiding_leaves_no_trace _ _ rfl rfl (by unfold Windows.NodesMatch Windows.Settled; decide) (by decide)

/-- A window is sent to another workspace while it is animated: the end of the
animation shows it there. -/
theorem animation_shows_moved_window :
    ¬ (Transition.run step State.initial [.newToplevel false, .map 0 false, .tile 0 true true, .moveToWorkspace 0 1,
      .animationEnd]).windows.NodesMatch := by
  intro matching
  have settled := matching rfl rfl _ (List.mem_cons_self ..) rfl rfl
  revert settled
  decide

end FlakeWM.Desktop
