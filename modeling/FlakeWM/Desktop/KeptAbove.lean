import FlakeWM.Desktop.FocusNext
import FlakeWM.Desktop.Revealing

/-! Windows kept above the others.

The order is put right when `FocusToplevel` gets past its early returns, and only
for the windows that are visible then. A window that comes into view in another
way has to be in the right place already. -/

set_option autoImplicit false

namespace FlakeWM.Desktop
namespace State

open Windows Stacking

def KeptOnTop (state : State) : Prop := state.windows.KeptOnTop state.stack

section

variable {s : State} {id : Nat}

/-- The focused window and then the visible windows kept above the others are
raised over everything else. -/
theorem restack_keptOnTop (staged : s.Staged) (mem : id ∈ s.stack) : s.windows.KeptOnTop (s.restack id) := by
  intro above below kept plain
  obtain ⟨upper, foundAbove, kept⟩ := test_iff.mp kept
  obtain ⟨lower, foundBelow, plain⟩ := test_iff.mp plain
  rw [Bool.and_eq_true] at kept
  rw [Bool.and_eq_true, Bool.and_eq_true, Bool.not_eq_true'] at plain
  have listed : below ∈ s.stack :=
    (staged.mapped_mem (test_iff.mpr ⟨lower, foundBelow, visible_mapped plain.2⟩)).1
  have ne : below ≠ above := by
    intro same
    rw [same, foundAbove, Option.some_inj] at foundBelow
    rw [foundBelow] at kept
    cases kept.1.symm.trans plain.1.1
  -- what is not kept above the others is raised only as the focused window, before the rest
  have stays : raisedAfter s.windows id below = false := by
    simp [raisedAfter, test, foundBelow, plain.1.1]
  have there : below ∈ toTop s.stack id := mem_toTop.mpr (.inr listed)
  rw [restack_eq]
  by_cases focused : above = id
  · -- the focused window is itself kept above the others
    subst focused
    rw [if_pos (test_iff.mpr ⟨upper, foundAbove, kept.1⟩)]
    exact below_toTop (mem_raiseAll.mpr (.inl there)) ne
  · have tree : upper.sceneTree = true :=
      ((staged.owned upper (List.mem_of_getElem? foundAbove)).mapped (visible_mapped kept.2)).2
    have raised : raisedAfter s.windows id above = true := by
      simp [raisedAfter, focused, test, foundAbove, kept.1, kept.2, tree]
    have ordered : Below (raiseAll (raisedAfter s.windows id) (toTop s.stack id)
        (List.range s.windows.toplevels.length)) below above :=
      below_raiseAll there stays (List.mem_range.mpr (List.getElem?_eq_some_iff.mp foundAbove).1) raised
    split
    · rename_i keeps
      refine ordered.toTop ?_
      rintro rfl
      simp [test, foundBelow, plain.1.1] at keeps
    · exact ordered

theorem focusToplevel_keptOnTop (staged : s.Staged) (ordered : s.KeptOnTop) (id : Nat) :
    (s.focusToplevel id).KeptOnTop := by
  unfold KeptOnTop
  rw [focusToplevel_windows]
  rcases focusToplevel_stack s id with same | ⟨accepts, restacked⟩
  · rw [same]
    exact ordered
  · rw [restacked]
    exact restack_keptOnTop staged (staged.mapped_mem (acceptsFocus_mapped accepts)).1

/-- Past its early returns `FocusToplevel` puts the order right. -/
theorem raised_keptOnTop (staged : s.Staged) (accepts : s.acceptsFocus id = true)
    (bare : s.exclusiveLayer = none) (elsewhere : s.focus ≠ some (.toplevel id)) :
    (s.focusToplevel id).KeptOnTop := by
  have restacked : (s.focusToplevel id).stack = s.restack id := by
    simp only [focusToplevel, accepts, bare, if_neg elsewhere, Bool.not_true, Bool.false_eq_true, if_false]
    exact enter_stack _ _
  unfold KeptOnTop
  rw [focusToplevel_windows, restacked]
  exact restack_keptOnTop staged (staged.mapped_mem (acceptsFocus_mapped accepts)).1

theorem acceptsFocus_of (unlocked : s.sessionLocked = false) {t next : Toplevel}
    (found : s.windows.toplevels[id]? = some next) (arranged : t.Arranged next)
    (alive : t.alive = true) (wants : t.wantsFocus = true) (mapped : t.mapped = true)
    (x : t.surface = true) (there : s.windows.onWorkspace next = true)
    (restored : next.minimized = false) : s.acceptsFocus id = true := by
  have same : next.alive = true ∧ next.wantsFocus = true ∧ next.mapped = true ∧ next.surface = true := by
    rw [arranged]
    exact ⟨alive, wants, mapped, x⟩
  simp [acceptsFocus, unlocked, test, found, same, there, restored]

theorem focusNextToplevel_keptOnTop (staged : s.Staged) (ordered : s.KeptOnTop) (ex : Option Nat) :
    (s.focusNextToplevel ex).KeptOnTop := by
  unfold focusNextToplevel
  split
  · exact ordered
  · split
    · unfold KeptOnTop
      rw [focusLayerSurface_windows, focusLayerSurface_stack]
      exact ordered
    · split
      · exact focusToplevel_keptOnTop staged ordered _
      · exact ordered

theorem Refocuses.keptOnTop {next : State} (ends : Refocuses s next) (staged : s.Staged) (ordered : s.KeptOnTop) :
    next.KeptOnTop := by
  cases ends with
  | stay => exact ordered
  | focusToplevel id => exact focusToplevel_keptOnTop staged ordered id
  | focusNextToplevel ex => exact focusNextToplevel_keptOnTop staged ordered ex

/-- Nothing keeps `FocusToplevel` from raising the window if it is as described. -/
def mayRaise (state : State) (id : Nat) (condition : Toplevel → Bool) : Bool :=
  !state.sessionLocked && state.exclusiveLayer.isNone && state.focus != some (.toplevel id) &&
    state.windows.test id fun toplevel => toplevel.alive && toplevel.wantsFocus && condition toplevel

def placed (state : State) (brought : Nat → Toplevel → Bool) : Bool := state.windows.placed state.stack brought

def restoreOrdered (state : State) (id : Nat) : Bool :=
  state.placed (state.windows.restored id) ||
    state.mayRaise id fun toplevel => toplevel.mapped && toplevel.surface && state.windows.onWorkspace toplevel

def mapOrdered (state : State) (id : Nat) : Bool :=
  state.placed (state.windows.justMapped id) ||
    state.mayRaise id fun toplevel => toplevel.surface && !toplevel.minimized && state.windows.onWorkspace toplevel

def associateOrdered (state : State) (id : Nat) : Bool :=
  state.windows.placed (state.stack ++ [id]) (state.windows.justMapped id) ||
    state.mayRaise id fun toplevel => !toplevel.minimized && state.windows.onWorkspace toplevel

def newestOn (state : State) (workspace : Int) : Option Nat :=
  (List.range state.windows.toplevels.length).reverse.find? fun id =>
    state.windows.test id fun toplevel => toplevel.alive && Windows.onTarget workspace id toplevel

def switchOrdered (state : State) (workspace : Int) : Bool :=
  !state.maySwitch workspace || state.placed (Windows.onTarget workspace) ||
    (state.newestOn workspace).any fun id => state.mayRaise id (·.surface)

def overviewRaises (state : State) (id : Nat) : Bool :=
  state.mayRaise id fun toplevel => toplevel.mapped && toplevel.surface &&
    (state.windows.onWorkspace toplevel || state.maySwitch toplevel.workspace)

def multitaskingOrdered (state : State) (id : Nat) : Bool :=
  state.overviewRaises id || state.windows.test id fun toplevel =>
    if toplevel.minimized then !state.maySwitch toplevel.workspace && state.placed (state.windows.restored id)
    else state.switchOrdered toplevel.workspace

def previewsOrdered (state : State) (id : Nat) : Bool :=
  state.overviewRaises id || state.windows.test id fun chosen =>
    state.placed (state.windows.previewed id chosen.workspace (state.maySwitch chosen.workspace))

def belowKept (state : State) (id : Nat) (condition : Toplevel → Bool) : Bool :=
  state.windows.inOrder state.stack
    (fun other toplevel => other != id && toplevel.keptAbove && state.windows.isToplevelVisible toplevel)
    (fun other toplevel => other == id && condition toplevel && state.windows.isToplevelVisible toplevel)

def aboveSafe (state : State) : Event → Bool
  | .associate id treeCreated surfaceMapped _ => !(treeCreated && surfaceMapped) || state.associateOrdered id
  | .map id _ => !state.windows.mayMap id || state.mapOrdered id
  | .requestRestore id | .setMaximized id _ => state.placed (state.windows.restored id)
  | .xRequestRestore id => !state.windows.test id (·.xwayland) || state.restoreOrdered id
  | .switcherActivate id => !state.mayActivate id || state.restoreOrdered id
  | .tile id usable _ => !state.windows.mayTile id usable || state.restoreOrdered id
  | .multitaskingActivate id => !state.mayActivate id || state.multitaskingOrdered id
  | .previewsActivate id => !state.mayActivate id || state.previewsOrdered id
  | .switchWorkspace workspace => state.switchOrdered workspace
  | .moveToWorkspace id workspace =>
    state.placed fun other _ => other == id && workspace == state.windows.currentWorkspace
  | .removeWorkspace workspace => state.placed (state.windows.onMerged workspace)
  | .setAllWorkspaces id _ => state.placed fun other _ => other == id
  | .hideMultitaskingSources hidden | .hideWindowPreviewsSources hidden =>
    state.placed (state.windows.behindOverview hidden)
  | .setKeptAbove id keptAbove => keptAbove || state.belowKept id (·.canManage)
  -- a client may turn its window into a managed one
  | .setHints id overrideRedirect _ _ => overrideRedirect || state.belowKept id (!·.keptAbove)
  | _ => true

theorem belowKept_below {condition : Toplevel → Bool} (safe : s.belowKept id condition = true) {above : Nat}
    (ne : above ≠ id) (high : s.windows.test above (fun t =>
      t.keptAbove && s.windows.isToplevelVisible t) = true) {lower : Toplevel}
    (found : s.windows.toplevels[id]? = some lower) (low : condition lower = true)
    (shown : s.windows.isToplevelVisible lower = true) : Below s.stack id above := by
  refine inOrder_iff.mp safe above id ?_ (test_iff.mpr ⟨lower, found, by simp [low, shown]⟩)
  obtain ⟨upper, there, high⟩ := test_iff.mp high
  exact test_iff.mpr ⟨upper, there, by simpa [ne] using high⟩

theorem mayRaise_iff {condition : Toplevel → Bool} : s.mayRaise id condition = true ↔
    s.sessionLocked = false ∧ s.exclusiveLayer = none ∧ s.focus ≠ some (.toplevel id) ∧
      ∃ t, s.windows.toplevels[id]? = some t ∧ t.alive = true ∧ t.wantsFocus = true ∧ condition t = true := by
  simp [mayRaise, test_iff, and_assoc]

/-- A switch leaves the windows of the workspace to `FocusNextToplevel`. -/
theorem switchWorkspace_left {n : Int} (accepted : s.maySwitch n = true) : ∃ focus, s.switchWorkspace n =
      focusNextToplevel { s with windows := s.windows.switchTo n, focus := focus } none ∧
      (focus = s.focus ∨ focus = none) := by
  unfold switchWorkspace
  rw [if_pos accepted]
  dsimp only
  split
  · exact ⟨none, rfl, .inr rfl⟩
  · exact ⟨s.focus, rfl, .inl rfl⟩

theorem switchTo_get {ws : Windows} (n : Int) {t : Toplevel} (found : ws.toplevels[id]? = some t) :
    ∃ next, (ws.switchTo n).toplevels[id]? = some next ∧ t.Reshown next := by
  refine ⟨t.setNodeEnabled ({ ws with currentWorkspace := n }.isToplevelVisible t), ?_, t.reshown_setNodeEnabled _⟩
  simp [switchTo, refreshNodes, found]

theorem switchWorkspace_candidate (n : Int) (focus : Option Surface) :
    nextCandidate { s with windows := s.windows.switchTo n, focus := focus } none = s.newestOn n := by
  have considered : ∀ id, eligible (s.windows.switchTo n) id =
      s.windows.test id fun t => t.alive && onTarget n id t := by
    intro id
    unfold eligible test
    cases found : s.windows.toplevels[id]? with
    | none => simp [switchTo, refreshNodes, found]
    | some t =>
      obtain ⟨next, there, same⟩ := switchTo_get n found
      rw [there, Option.any_some, Option.any_some, same]
      simp only [onWorkspace, onTarget, switchTo, refreshNodes]
      cases t.alive <;> simp
  have count : (s.windows.switchTo n).toplevels.length = s.windows.toplevels.length := by
    simp [switchTo, refreshNodes]
  unfold nextCandidate newestOn
  rw [count]
  congr 1
  funext id
  rw [considered]
  rfl

theorem focusNextToplevel_eq {ex : Option Nat} {candidate : Nat}
    (found : s.nextCandidate ex = some candidate) (unlocked : s.sessionLocked = false)
    (bare : s.exclusiveLayer = none) : s.focusNextToplevel ex = s.focusToplevel candidate := by
  simp [focusNextToplevel, unlocked, bare, found]

section

variable (staged : s.Staged) (unlocked : s.sessionLocked = false) (bare : s.exclusiveLayer = none)
  (elsewhere : s.focus ≠ some (.toplevel id))

include staged unlocked bare elsewhere

/-- A window that `FocusNextToplevel` hands the focus to is raised. -/
theorem focusNextToplevel_raised (focused : (s.focusNextToplevel none).focus = some (.toplevel id)) :
    (s.focusNextToplevel none).KeptOnTop ∧ eligible s.windows id = true := by
  cases found : s.nextCandidate none with
  | none =>
    simp only [focusNextToplevel, unlocked, bare, found] at focused
    cases focused
  | some candidate =>
    rw [focusNextToplevel_focus staged bare found] at focused
    split at focused
    · rename_i wants
      cases focused
      have able := (nextCandidate_eligible s found).2
      have accepts : s.acceptsFocus id = true := by rw [acceptsFocus_iff staged unlocked able]; exact wants.1
      rw [focusNextToplevel_eq found unlocked bare]
      exact ⟨raised_keptOnTop staged accepts bare elsewhere, able⟩
    · exact absurd focused elsewhere

section

variable {t : Toplevel} (found : s.windows.toplevels[id]? = some t)
  (reached : s.windows.onWorkspace t = true ∨ s.maySwitch t.workspace = true)

include found reached

theorem switchToOwnWorkspace_raises : ((s.switchToOwnWorkspace id).focus = some (.toplevel id) →
      (s.switchToOwnWorkspace id).KeptOnTop ∧ eligible (s.switchToOwnWorkspace id).windows id = true) ∧
    ∃ next, (s.switchToOwnWorkspace id).windows.toplevels[id]? = some next ∧ t.Reshown next ∧
      (s.switchToOwnWorkspace id).windows.onWorkspace next = true := by
  unfold switchToOwnWorkspace
  rw [found]
  dsimp only
  by_cases accepted : s.maySwitch t.workspace = true
  · obtain ⟨focus, switched, left⟩ := switchWorkspace_left accepted
    have shown : Staged { s with windows := s.windows.switchTo t.workspace, focus := focus } :=
      (staged.windows (keepsTrees_switchTo s.windows _)).of_same rfl rfl
    have apart : focus ≠ some (.toplevel id) := by
      rcases left with rfl | rfl
      · exact elsewhere
      · exact fun focused => nomatch focused
    rw [switched, focusNextToplevel_windows]
    refine ⟨focusNextToplevel_raised shown unlocked bare apart, ?_⟩
    obtain ⟨next, after, reshown⟩ := switchTo_get t.workspace found
    refine ⟨next, after, reshown, ?_⟩
    rw [reshown]
    simp [onWorkspace, switchTo, refreshNodes]
  · have same : s.switchWorkspace t.workspace = s := by
      unfold switchWorkspace
      rw [if_neg accepted]
    rw [same]
    exact ⟨fun focused => absurd focused elsewhere, t, found, rfl, reached.resolve_right accepted⟩

theorem overview_keptOnTop (alive : t.alive = true) (wants : t.wantsFocus = true)
    (mapped : t.mapped = true) (x : t.surface = true) {ws : Windows}
    (edits : Edits id Toplevel.Arranged (s.switchToOwnWorkspace id).windows ws)
    (restores : ws.test id (!·.minimized) = true)
    (still : eligible (s.switchToOwnWorkspace id).windows id = true → ws = (s.switchToOwnWorkspace id).windows) :
    (focusToplevel { s.switchToOwnWorkspace id with windows := ws } id).KeptOnTop := by
  have moves := moves_switchToOwnWorkspace s id
  obtain ⟨raised, next, after, reshown, here⟩ :=
    switchToOwnWorkspace_raises staged unlocked bare elsewhere found reached
  have switched := staged.switchToOwnWorkspace id
  generalize s.switchToOwnWorkspace id = shown at *
  by_cases focused : shown.focus = some (.toplevel id)
  · -- the switch has raised it already
    obtain ⟨kept, able⟩ := raised focused
    rw [still able]
    exact focusToplevel_keptOnTop switched kept id
  · obtain ⟨last, there, arranged⟩ := edits.edited next after
    obtain ⟨_, same, restored⟩ := test_iff.mp restores
    rw [there, Option.some_inj] at same
    subst same
    have open_ : shown.sessionLocked = false := by
      rw [moves.frame]
      exact unlocked
    have alone : shown.exclusiveLayer = none := by
      rw [moves.frame]
      exact bare
    have there_ : ws.onWorkspace last = true := by
      rw [edits.onWorkspace, arranged]
      exact here
    have accepts : acceptsFocus { shown with windows := ws } id = true :=
      acceptsFocus_of open_ there (reshown.arranged.trans arranged) alive wants mapped x there_
        (by simpa using restored)
    exact raised_keptOnTop (switched.windows (keepsTrees_arranged edits)) accepts alone focused

end

end

section

variable (staged : s.Staged) (ordered : s.KeptOnTop)

include staged ordered

theorem restored_keptOnTop {ws : Windows} (edits : Edits id Toplevel.Arranged s.windows ws)
    (restores : ws.test id (!·.minimized) = true) (safe : s.restoreOrdered id = true) :
    (focusToplevel { s with windows := ws } id).KeptOnTop := by
  have kept := staged.windows (keepsTrees_arranged edits)
  rw [restoreOrdered, Bool.or_eq_true] at safe
  rcases safe with placed | raises
  · exact focusToplevel_keptOnTop kept ((reveals_arranged edits).keptOnTop (ordered.inOrder placed)) id
  · obtain ⟨unlocked, bare, elsewhere, t, found, alive, wants, rest⟩ := mayRaise_iff.mp raises
    simp only [Bool.and_eq_true] at rest
    obtain ⟨next, there, arranged⟩ := edits.edited t found
    obtain ⟨_, same, restored⟩ := test_iff.mp restores
    rw [there, Option.some_inj] at same
    subst same
    rw [Bool.not_eq_true'] at restored
    have here : ws.onWorkspace next = true := by
      rw [edits.onWorkspace, arranged]
      exact rest.2
    have accepts : acceptsFocus { s with windows := ws } id = true :=
      acceptsFocus_of unlocked there arranged alive wants rest.1.1 rest.1.2 here restored
    exact raised_keptOnTop kept accepts bare elsewhere

theorem map_keptOnTop (big : Bool) (safe : s.windows.mayMap id = true → (s.windows.map id big).KeptOnTop s.stack ∨
        (s.mayRaise id fun t => t.surface && !t.minimized && s.windows.onWorkspace t) = true) :
    (s.map id big).KeptOnTop := by
  unfold map
  split
  · rename_i accepted
    have shown := staged.windows (keepsTrees_map_event s.windows id big)
    rcases safe accepted with mapped | raises
    · dsimp only
      split
      · exact focusToplevel_keptOnTop shown mapped id
      · exact mapped
    · obtain ⟨unlocked, bare, elsewhere, t, found, alive, wants, rest⟩ := mayRaise_iff.mp raises
      simp only [Bool.and_eq_true, Bool.not_eq_true'] at rest
      obtain ⟨⟨x, restored⟩, here⟩ := rest
      obtain ⟨next, there, same, minimized⟩ := (edits_map_accepted s.windows id accepted big).edited _ found
      have wanted : (s.windows.map id big).test id (·.wantsFocus) = true := by
        refine test_iff.mpr ⟨next, there, ?_⟩
        rw [same]
        exact wants
      rw [if_pos wanted]
      have inside : (s.windows.map id big).onWorkspace next = true := by
        rw [(edits_map s.windows id big).onWorkspace, same]
        exact here
      have accepts : acceptsFocus { s with windows := s.windows.map id big } id = true :=
        acceptsFocus_of unlocked there same alive wants rfl x inside (minimized restored)
      exact raised_keptOnTop shown accepts bare elsewhere
  · exact ordered

theorem unmap_keptOnTop (id : Nat) : (s.unmap id).KeptOnTop :=
  (refocuses_unmap s id).keptOnTop (staged.windows (keepsTrees_unmap _ id))
    ((reveals_unmap s.windows id).keptOnTop_of_none ordered)

omit staged in
theorem addToplevel_keptOnTop (xw : Bool) : (s.addToplevel xw).KeptOnTop := by
  have reveals : Reveals (fun _ _ => false) s.windows (s.windows.add xw) := by
    intro id next found shown
    simp only [add] at found
    rcases Nat.lt_trichotomy id s.windows.toplevels.length with old | rfl | later
    · rw [List.getElem?_append_left old] at found
      exact ⟨next, found, rfl, rfl, by rw [Bool.or_false]; exact shown⟩
    · -- the new window is not mapped
      rw [List.getElem?_concat_length, Option.some_inj] at found
      subst found
      cases visible_mapped shown
    · rw [List.getElem?_eq_none_iff.mpr (by simp; omega)] at found
      cases found
  have kept : (s.windows.add xw).KeptOnTop s.stack := reveals.keptOnTop_of_none ordered
  unfold KeptOnTop addToplevel
  split
  · exact kept
  · exact fun above below high low => (kept above below high low).append _

theorem switchWorkspace_keptOnTop (n : Int) (safe : s.switchOrdered n = true) : (s.switchWorkspace n).KeptOnTop := by
  by_cases accepted : s.maySwitch n = true
  · obtain ⟨focus, switched, left⟩ := switchWorkspace_left accepted
    have shown : Staged { s with windows := s.windows.switchTo n, focus := focus } :=
      (staged.windows (Windows.keepsTrees_switchTo s.windows n)).of_same rfl rfl
    rw [switched]
    rw [switchOrdered, accepted, Bool.or_eq_true, Bool.or_eq_true] at safe
    rcases safe with (refused | placed) | raises
    · cases refused
    · exact focusNextToplevel_keptOnTop shown
        ((Windows.reveals_switchTo s.windows n).keptOnTop (ordered.inOrder placed)) none
    · obtain ⟨newest, found, raises⟩ := (Option.any_eq_true _ _).mp raises
      obtain ⟨unlocked, bare, elsewhere, t, there, alive, wants, x⟩ := mayRaise_iff.mp raises
      have onTarget : s.windows.test newest (fun t => t.alive && Windows.onTarget n newest t) = true := by
        simpa using List.find?_some found
      obtain ⟨_, same, onTarget⟩ := Windows.test_iff.mp onTarget
      rw [there, Option.some_inj] at same
      subst same
      simp only [Windows.onTarget, Bool.and_eq_true, Bool.not_eq_true'] at onTarget
      -- the newest window of the workspace is the one `FocusNextToplevel` finds
      obtain ⟨next, after, reshown⟩ := switchTo_get n there
      rw [← switchWorkspace_candidate n focus] at found
      have accepts : acceptsFocus { s with windows := s.windows.switchTo n, focus := focus } newest = true := by
        refine acceptsFocus_of unlocked after reshown.arranged alive wants onTarget.2.1.1 x ?_ ?_
        · rw [reshown]
          exact onTarget.2.2
        · rw [reshown]
          exact onTarget.2.1.2
      have apart : focus ≠ some (.toplevel newest) := by
        rcases left with rfl | rfl
        · exact elsewhere
        · intro focused
          cases focused
      rw [focusNextToplevel_eq found unlocked bare]
      exact raised_keptOnTop shown accepts bare apart
  · unfold switchWorkspace
    rw [if_neg accepted]
    exact ordered

theorem multitaskingActivate_keptOnTop (safe : s.mayActivate id = true → s.multitaskingOrdered id = true) :
    (s.multitaskingActivate id).KeptOnTop := by
  unfold multitaskingActivate
  split
  · rename_i accepted
    have safe := safe accepted
    have moved := staged.switchToOwnWorkspace id
    rw [multitaskingOrdered, Bool.or_eq_true] at safe
    rcases safe with raises | safe
    · obtain ⟨unlocked, bare, elsewhere, t, found, alive, wants, rest⟩ := mayRaise_iff.mp raises
      simp only [Bool.and_eq_true, Bool.or_eq_true] at rest
      obtain ⟨_, next, after, _⟩ := switchToOwnWorkspace_raises staged unlocked bare elsewhere found rest.2
      refine overview_keptOnTop staged unlocked bare elsewhere found rest.2 alive wants rest.1.1 rest.1.2
        (edits_multitaskingRestore _ id).arranged ?_ fun able => ?_
      · exact multitaskingRestore_restores (List.getElem?_eq_some_iff.mp after).1
      · obtain ⟨shown, there, able⟩ := test_iff.mp able
        simp only [Bool.and_eq_true, Bool.not_eq_true'] at able
        exact multitaskingRestore_shown there able.1.1.2
    · obtain ⟨t, found, safe⟩ := test_iff.mp safe
      split at safe
      · -- no switch comes first
        rw [Bool.and_eq_true, Bool.not_eq_true'] at safe
        have same : s.switchToOwnWorkspace id = s := by
          unfold switchToOwnWorkspace switchWorkspace
          rw [found]
          dsimp only
          rw [if_neg (by simp [safe.1])]
        rw [same]
        have edits := (edits_multitaskingRestore s.windows id).arranged
        exact focusToplevel_keptOnTop (staged.windows (keepsTrees_arranged edits))
          ((reveals_arranged edits).keptOnTop (ordered.inOrder safe.2)) id
      · rename_i shown
        have switched : s.switchToOwnWorkspace id = s.switchWorkspace t.workspace := by
          unfold switchToOwnWorkspace
          rw [found]
        have kept := switchWorkspace_keptOnTop staged ordered t.workspace safe
        obtain ⟨next, after, minimized⟩ : ∃ next, (s.switchWorkspace t.workspace).windows.toplevels[id]? =
            some next ∧ next.minimized = false := by
          rw [switchWorkspace_windows]
          split
          · obtain ⟨next, after, reshown⟩ := switchTo_get t.workspace found
            refine ⟨next, after, ?_⟩
            rw [reshown]
            simpa using shown
          · exact ⟨t, found, by simpa using shown⟩
        rw [switched] at moved ⊢
        dsimp only
        rw [multitaskingRestore_shown after minimized]
        exact focusToplevel_keptOnTop moved kept id
  · exact ordered

theorem previewsActivate_keptOnTop (safe : s.mayActivate id = true → s.previewsOrdered id = true) :
    (s.previewsActivate id).KeptOnTop := by
  unfold previewsActivate
  split
  · rename_i accepted
    have safe := safe accepted
    have edits := (edits_previewsRestore s.windows id).arranged
    have restored := staged.windows (keepsTrees_arranged edits)
    rw [previewsOrdered, Bool.or_eq_true] at safe
    rcases safe with raises | safe
    · obtain ⟨unlocked, bare, elsewhere, t, found, alive, wants, rest⟩ := mayRaise_iff.mp raises
      simp only [Bool.and_eq_true, Bool.or_eq_true] at rest
      have there : (s.windows.previewsRestore id).toplevels[id]? = some { t with minimized := false } := by
        rw [previewsRestore, update_get, found, Option.map_some, if_pos rfl]
      obtain ⟨_, next, after, reshown, _⟩ := switchToOwnWorkspace_raises restored unlocked bare elsewhere there rest.2
      refine overview_keptOnTop restored unlocked bare elsewhere there rest.2 alive wants rest.1.1 rest.1.2
        (Edits.refl _ fun _ => rfl) ?_ fun _ => rfl
      refine test_iff.mpr ⟨next, after, ?_⟩
      rw [reshown]
      rfl
    · -- the previews restore the window before they switch to its workspace
      obtain ⟨t, found, placed⟩ := test_iff.mp safe
      have there : (s.windows.previewsRestore id).toplevels[id]? = some { t with minimized := false } := by
        rw [previewsRestore, update_get, found, Option.map_some, if_pos rfl]
      have shown : KeptOnTop (switchToOwnWorkspace { s with windows := s.windows.previewsRestore id } id) := by
        unfold switchToOwnWorkspace
        rw [there]
        dsimp only
        cases accepted : s.maySwitch t.workspace with
        | true =>
          rw [accepted] at placed
          obtain ⟨focus, switched, _⟩ := switchWorkspace_left
            (show maySwitch { s with windows := s.windows.previewsRestore id } t.workspace = true from accepted)
          rw [switched]
          refine focusNextToplevel_keptOnTop ?_ ?_ none
          · exact (restored.windows (keepsTrees_switchTo _ _)).of_same rfl rfl
          · exact (reveals_previewed s.windows id t.workspace).keptOnTop (ordered.inOrder placed)
        | false =>
          have same : switchWorkspace { s with windows := s.windows.previewsRestore id } t.workspace =
              { s with windows := s.windows.previewsRestore id } := by
            unfold switchWorkspace
            rw [if_neg]
            exact fun switches => Bool.false_ne_true (accepted.symm.trans switches)
          rw [same]
          refine ((reveals_arranged edits).mono fun id' t brought => ?_).keptOnTop (ordered.inOrder placed)
          rw [previewed, brought]
          rfl
      exact focusToplevel_keptOnTop (restored.switchToOwnWorkspace id) shown id
  · exact ordered

theorem associate_keptOnTop (tc sm big : Bool) (safe : tc = true → sm = true → s.associateOrdered id = true) :
    (s.associate id tc sm big).KeptOnTop := by
  unfold associate
  split
  · rename_i accepted
    have associated := staged.associated id tc sm accepted
    have kept : KeptOnTop { s with
        windows := s.windows.associate id tc sm
        stack := if tc then s.stack ++ [id] else s.stack } := by
      have same := (reveals_associate s.windows id tc sm).keptOnTop_of_none ordered
      split
      · exact fun above below high low => (same above below high low).append _
      · exact same
    dsimp only
    split
    · rename_i both
      obtain ⟨created, mapped⟩ := Bool.and_eq_true_iff.mp both
      refine map_keptOnTop associated kept big fun _ => ?_
      have safe := safe created mapped
      rw [associateOrdered, Bool.or_eq_true] at safe
      refine safe.imp (fun placed => ?_) fun raises => ?_
      · rw [if_pos created]
        have higher : s.windows.KeptOnTop (s.stack ++ [id]) :=
          fun above below high low => (ordered above below high low).append _
        exact (reveals_associate_map s.windows id tc sm big).keptOnTop (higher.inOrder placed)
      · obtain ⟨unlocked, bare, elsewhere, t, found, alive, wants, rest⟩ := mayRaise_iff.mp raises
        refine mayRaise_iff.mpr ⟨unlocked, bare, elsewhere,
          { t with surface := true, sceneTree := tc, nodeEnabled := sm }, ?_, alive, wants, ?_⟩
        · dsimp only
          rw [Windows.associate, if_pos accepted, Windows.update_get, found, Option.map_some, if_pos rfl]
        · dsimp only
          rw [(Windows.edits_associate s.windows id tc sm).onWorkspace]
          exact rest
    · exact kept
  · exact ordered

omit staged in
theorem lose_keptOnTop {ws : Windows} {edit : Toplevel → Toplevel → Prop} (edits : Edits id edit s.windows ws)
    (lost : ∀ t next, edit t next → next.mapped = false) : ws.KeptOnTop (s.stack.erase id) := by
  have hidden : ∀ t next, edit t next → ws.isToplevelVisible next = false := by
    intro t next edited
    simp [isToplevelVisible, lost t next edited]
  have reveals : Reveals (fun _ _ => false) s.windows ws :=
    edits.reveals fun t next edited shown => by
      rw [← edits.isToplevelVisible, hidden t next edited] at shown
      cases shown
  have gone : ∀ {id' : Nat} {condition : Toplevel → Bool},
      ws.test id' (fun t => condition t && ws.isToplevelVisible t) = true → id' ≠ id := by
    rintro id' condition shown rfl
    obtain ⟨next, found, shown⟩ := test_iff.mp shown
    obtain ⟨t, _, edited⟩ := edits.own found
    rw [hidden t next edited, Bool.and_false] at shown
    cases shown
  intro above below kept plain
  exact (reveals.keptOnTop_of_none ordered above below kept plain).erase (gone plain) (gone kept)

theorem setKeptAbove_keptOnTop (keptAbove : Bool) (safe : keptAbove = false → s.belowKept id (·.canManage) = true) :
    (s.setKeptAbove id keptAbove).KeptOnTop := by
  unfold setKeptAbove
  split
  · have edits := edits_setKeptAbove s.windows id keptAbove
    intro above below high low
    have unchanged : ∀ {id' : Nat}, id' ≠ id → ∀ {condition : Toplevel → Bool},
        (∀ t node, condition { t with nodeEnabled := node } = condition t) →
        (s.windows.setKeptAbove id keptAbove).test id' condition = s.windows.test id' condition :=
      fun ne _ ignores => edits.toOnlyChanges.test ne ignores
    have changed : ∀ {condition : Toplevel → Bool}, (s.windows.setKeptAbove id keptAbove).test id condition =
          s.windows.test id fun t => condition { t with keptAbove := keptAbove } := by
      intro condition
      rw [Windows.setKeptAbove, Windows.test_update]
      simp only [if_true]
    cases keptAbove with
    | true =>
      -- the window itself goes on top of all
      have plain : below ≠ id := by
        rintro rfl
        rw [changed] at low
        simp [test_iff] at low
      rw [unchanged plain fun _ _ => rfl] at low
      by_cases raised : above = id
      · subst raised
        rw [changed] at high
        obtain ⟨upper, found, high⟩ := test_iff.mp high
        obtain ⟨lower, there, low⟩ := test_iff.mp low
        have mapped : upper.mapped = true := visible_mapped (Bool.and_eq_true_iff.mp high).2
        have tree := ((staged.owned upper (List.mem_of_getElem? found)).mapped mapped).2
        rw [if_pos (Bool.and_eq_true_iff.mpr ⟨rfl, test_iff.mpr ⟨upper, found, tree⟩⟩)]
        refine below_toTop ?_ plain
        exact (staged.mapped_mem (test_iff.mpr ⟨lower, there, visible_mapped (Bool.and_eq_true_iff.mp low).2⟩)).1
      · rw [unchanged raised fun _ _ => rfl] at high
        have before := ordered above below high low
        split
        · exact before.toTop plain
        · exact before
    | false =>
      -- nothing is restacked, so the window must lie below the others already
      have kept : above ≠ id := by
        rintro rfl
        rw [changed] at high
        simp [test_iff] at high
      rw [unchanged kept fun _ _ => rfl] at high
      by_cases lowered : below = id
      · subst lowered
        rw [changed] at low
        obtain ⟨lower, found, low⟩ := test_iff.mp low
        rw [Bool.and_eq_true, Bool.and_eq_true] at low
        exact belowKept_below (safe rfl) kept high found low.1.2 low.2
      · rw [unchanged lowered fun _ _ => rfl] at low
        exact ordered above below high low
  · exact ordered

omit staged in
theorem setHints_keptOnTop (overrideRedirect overrideWantsFocus transient : Bool)
    (safe : overrideRedirect = false → s.belowKept id (!·.keptAbove) = true) :
    (s.windows.setHints id overrideRedirect overrideWantsFocus transient).KeptOnTop s.stack := by
  intro above below high low
  have kept : s.windows.test above (fun t =>
      t.keptAbove && s.windows.isToplevelVisible t) = true := by
    rw [setHints, test_update] at high
    obtain ⟨upper, found, high⟩ := test_iff.mp high
    refine test_iff.mpr ⟨upper, found, ?_⟩
    split at high
    · exact high
    · exact high
  rw [setHints, test_update] at low
  obtain ⟨lower, found, low⟩ := test_iff.mp low
  by_cases hinted : id = below
  · subst hinted
    simp only [if_true, Bool.and_eq_true, Bool.not_eq_true'] at low
    cases overrideRedirect with
    | false =>
      have ne : above ≠ id := by
        intro same
        rw [same] at kept
        simp [test, found, low.1.1] at kept
      exact belowKept_below (safe rfl) ne kept found (by simpa using low.1.1) low.2
    | true =>
      -- only a window that is not an X11 window is managed still
      refine ordered above id kept (test_iff.mpr ⟨lower, found, ?_⟩)
      have managed : lower.canManage = true := by
        have after := low.1.2
        unfold Toplevel.canManage at after ⊢
        split
        · rename_i xw
          simp [xw] at after
        · rfl
      simp only [managed, low.1.1, Bool.not_false, Bool.true_and]
      exact low.2
  · rw [if_neg hinted] at low
    exact ordered above below kept (test_iff.mpr ⟨lower, found, low⟩)

end

theorem keptOnTop_of_same {next : State} (ordered : s.KeptOnTop) (ws : next.windows = s.windows)
    (stack : next.stack = s.stack) : next.KeptOnTop := by
  unfold KeptOnTop
  rw [ws, stack]
  exact ordered

theorem xRequestRestore_keptOnTop (staged : s.Staged) (ordered : s.KeptOnTop)
    (safe : s.windows.test id (·.xwayland) = true → s.restoreOrdered id = true) :
    (s.xRequestRestore id).KeptOnTop := by
  have edits := (edits_xRequestRestore s.windows id).arranged
  unfold xRequestRestore
  split
  · rename_i asks
    obtain ⟨t, found, asked⟩ := test_iff.mp asks
    simp only [Bool.and_eq_true] at asked
    obtain ⟨⟨xw, mapped⟩, wants⟩ := asked
    have alive : t.alive = true := by
      by_contra dead
      simp [Toplevel.wantsFocus, xw, dead] at wants
    refine restored_keptOnTop staged ordered edits ?_ (safe (Windows.test_iff.mpr ⟨t, found, xw⟩))
    rw [Windows.xRequestRestore, if_pos (Windows.test_iff.mpr ⟨t, found, by simp [xw, alive]⟩)]
    exact Windows.update_restores (Windows.test_lt asks) fun _ => rfl
  · rename_i silent
    by_cases xw : s.windows.test id (·.xwayland) = true
    · have safe := safe xw
      rw [restoreOrdered, Bool.or_eq_true] at safe
      rcases safe with placed | raises
      · exact (reveals_arranged edits).keptOnTop (ordered.inOrder placed)
      · -- a window that could be raised asks for the focus
        obtain ⟨_, _, _, t, found, _, wants, rest⟩ := mayRaise_iff.mp raises
        simp only [test, found, Option.any_some] at xw silent
        simp [xw, wants, (Bool.and_eq_true_iff.mp (Bool.and_eq_true_iff.mp rest).1).1] at silent
    · have same : s.windows.xRequestRestore id = s.windows := by
        unfold Windows.xRequestRestore
        rw [if_neg]
        intro accepted
        obtain ⟨t, found, accepted⟩ := Windows.test_iff.mp accepted
        exact xw (test_iff.mpr ⟨t, found, (Bool.and_eq_true_iff.mp accepted).1⟩)
      rw [same]
      exact ordered

theorem step_keptOnTop (s : State) (e : Event) (staged : s.Staged) (ordered : s.KeptOnTop)
    (safe : s.aboveSafe e = true) : (step s e).KeptOnTop := by
  -- the windows that come into view are in place
  have shown : ∀ {brought : Nat → Toplevel → Bool} {ws : Windows}, Reveals brought s.windows ws →
      s.placed brought = true → ws.KeptOnTop s.stack :=
    fun reveals placed => reveals.keptOnTop (ordered.inOrder placed)
  cases e with
  | newToplevel xw => exact addToplevel_keptOnTop ordered xw
  | associate id tc sm big =>
    refine associate_keptOnTop staged ordered tc sm big fun created mapped => ?_
    simpa [aboveSafe, created, mapped] using safe
  | dissociate id =>
    unfold step dissociate
    dsimp only
    split
    · refine lose_keptOnTop (unmap_keptOnTop staged ordered id) (edits_loseSurface _ id) ?_
      rintro t _ rfl
      rfl
    · exact ordered
  | destroy id =>
    refine lose_keptOnTop (unmap_keptOnTop staged ordered id) (edits_loseHandle _ id) ?_
    intro t next lost
    rw [lost]
  | map id big =>
    refine map_keptOnTop staged ordered big fun accepted => ?_
    simp only [aboveSafe, accepted, Bool.not_true, Bool.false_or, mapOrdered, Bool.or_eq_true] at safe
    exact safe.imp_left (shown (reveals_map s.windows id big))
  | unmap id => exact unmap_keptOnTop staged ordered id
  | setHints id overrideRedirect overrideWantsFocus transient =>
    refine setHints_keptOnTop ordered overrideRedirect overrideWantsFocus transient fun plain => ?_
    simpa [aboveSafe, plain] using safe
  | minimize id =>
    exact (refocuses_minimize s id).keptOnTop (staged.windows (windowsAfter_keepsTrees s (.minimize id) rfl))
      ((reveals_minimize s.windows id).keptOnTop_of_none ordered)
  | requestRestore id => exact shown (reveals_arranged (edits_requestRestore s.windows id).arranged) safe
  | setMaximized id mx =>
    exact shown (reveals_arranged (edits_setMaximized s.windows id mx).arranged) safe
  | xRequestRestore =>
    refine xRequestRestore_keptOnTop staged ordered fun xw => ?_
    simpa [aboveSafe, xw] using safe
  | switcherActivate id =>
    unfold step State.switcherActivate
    dsimp only
    split
    · rename_i accepted
      refine restored_keptOnTop staged ordered (edits_switcherRestore s.windows id).arranged ?_ ?_
      · refine update_restores (test_lt accepted) fun t => ?_
        split
        · dsimp only
          split
          · rw [Toplevel.reshown_setNodeEnabled]
          · rfl
        · rename_i restored
          simpa using restored
      · simpa [aboveSafe, accepted] using safe
    · exact ordered
  | multitaskingActivate =>
    refine multitaskingActivate_keptOnTop staged ordered fun accepted => ?_
    simpa [aboveSafe, accepted] using safe
  | previewsActivate =>
    refine previewsActivate_keptOnTop staged ordered fun accepted => ?_
    simpa [aboveSafe, accepted] using safe
  | tile id u captured =>
    unfold step State.tileToplevel
    dsimp only
    split
    · rename_i accepted
      refine restored_keptOnTop staged ordered (edits_tile s.windows id u captured).arranged ?_ ?_
      · have there := test_lt (Bool.and_eq_true_iff.mp accepted).2
        rw [← (edits_startAnimation s.windows id captured).length] at there
        rw [tile, if_pos accepted]
        refine update_restores there fun t => ?_
        dsimp only
        split
        · rfl
        · rename_i restored
          simpa using restored
      · simpa [aboveSafe, accepted] using safe
    · exact ordered
  | animationEnd =>
    exact (reveals_reshown (edits_cancelAnimation s.windows 0)).keptOnTop_of_none ordered
  | highlight id | unhighlight id =>
    unfold step
    dsimp only
    split
    · exact (reveals_reshown (edits_setHighlight s.windows id _)).keptOnTop_of_none ordered
    · exact ordered
  | switchWorkspace n => exact switchWorkspace_keptOnTop staged ordered n safe
  | moveToWorkspace id n =>
    have trees := staged.windows (windowsAfter_keepsTrees s (.moveToWorkspace id n) rfl)
    exact (refocuses_moveToplevelToWorkspace s id n).keptOnTop trees
      (shown (reveals_moveToWorkspace s.windows id n) safe)
  | addWorkspace =>
    unfold step withWindows addWorkspace
    dsimp only
    split
    · exact ordered
    · exact ordered
  | removeWorkspace n => exact shown (reveals_removeWorkspace s.windows n) safe
  | reorderWorkspace source target =>
    exact (reveals_reorderWorkspace s.windows source target).keptOnTop_of_none ordered
  | setAllWorkspaces id everywhere =>
    exact shown (reveals_setAllWorkspaces s.windows id everywhere) safe
  | setKeptAbove id keptAbove =>
    refine setKeptAbove_keptOnTop staged ordered keptAbove fun dropped => ?_
    simpa [aboveSafe, dropped] using safe
  | hideMultitaskingSources => exact shown (reveals_overview rfl fun open_ _ => open_) safe
  | hideWindowPreviewsSources => exact shown (reveals_overview rfl fun _ shut => shut) safe
  | focusToplevel id => exact focusToplevel_keptOnTop staged ordered id
  | focusNextToplevel => exact focusNextToplevel_keptOnTop staged ordered none
  | _ =>
    exact ((step_steers s rfl).keeps (fun reached => reached.Staged ∧ reached.KeptOnTop)
      (fun ws stack held => ⟨held.1.of_same ws stack, keptOnTop_of_same held.2 ws stack⟩)
      (fun held => ⟨held.1.focusNextToplevel none, focusNextToplevel_keptOnTop held.1 held.2 none⟩)
      ⟨staged, ordered⟩).2

end

theorem keptOnTop_initial : State.initial.KeptOnTop := by
  intro above below kept
  obtain ⟨t, found, _⟩ := Windows.test_iff.mp kept
  simp [State.initial, Windows.initial] at found

end State

/-- In a session whose events find the windows they bring into view in their places,
or raise them, the visible windows kept above the others always lie above every
visible managed window that is not. -/
theorem kept_above_on_top (events : List Event)
    (safe : Transition.Along step (fun state event => state.aboveSafe event = true) State.initial events) :
    Transition.Throughout step State.KeptOnTop State.initial events := by
  refine Transition.Throughout.mono (fun _ held => held.2) (Transition.along_invariant
    (fun state event (held : state.Staged ∧ state.KeptOnTop) met => ⟨State.step_staged state event held.1, ?_⟩)
    ⟨State.staged_initial, State.keptOnTop_initial⟩ safe)
  exact State.step_keptOnTop state event held.1 held.2 met

/-- A window is kept above, hidden, restored and followed to another workspace. -/
theorem kept_above_on_top_session :
    let events : List Event := [.newToplevel false, .map 0 false, .newToplevel false, .map 1 false, .setKeptAbove 0 true,
      .addKeyboard, .focusToplevel 1, .moveToWorkspace 0 1, .switchWorkspace 1, .switchWorkspace 0, .minimize 1,
      .switcherActivate 1]
    (Transition.run step State.initial events).stack = [0, 1] ∧
      Transition.Throughout step State.KeptOnTop State.initial events :=
  ⟨by decide +kernel, kept_above_on_top _ (by decide +kernel)⟩

/-- A window kept above the others comes back to a workspace below a window that was
opened there in the meantime. -/
theorem moved_back_below :
    ¬ (Transition.run step State.initial [.newToplevel false, .map 0 false, .setKeptAbove 0 true, .moveToWorkspace 0 1,
      .newToplevel false, .map 1 false, .moveToWorkspace 0 0]).KeptOnTop := by
  intro ordered
  have below := ordered 0 1 (by decide +kernel) (by decide +kernel)
  revert below
  decide +kernel

end FlakeWM.Desktop
