import FlakeWM.Desktop.Advertised
import FlakeWM.Desktop.WindowFocus

/-! Which operations send all they have to.

Most handlers end with an update of the window they changed, or give it the focus,
which updates it too. A window that is restored without getting the focus, and one
that loses the focus to nothing or to the session lock, is not updated. -/

set_option autoImplicit false

namespace FlakeWM.Desktop

open Windows (Alters Alike)

theorem State.surfaceOf_eq {s : State} {id id' : Nat} (same : s.surfaceOf id = some (.toplevel id')) : id' = id := by
  unfold surfaceOf at same
  split at same
  · cases same
    rfl
  · cases same

namespace State

def switchesTo (state : State) (id : Nat) : Bool :=
  state.windows.toplevels[id]?.any fun toplevel => state.maySwitch toplevel.workspace

def advertSafe (state : State) : Event → Bool
  | .requestRestore id => !(state.windows.iconified id && state.windows.test id (·.canMinimize))
  | .xRequestRestore id =>
    !(state.windows.iconified id && state.windows.test id fun toplevel => toplevel.xwayland && toplevel.alive) ||
      state.windows.test id (fun toplevel => toplevel.xwayland && toplevel.mapped && toplevel.wantsFocus) &&
        (state.withWindows (·.xRequestRestore id)).tells id
  | .switcherActivate id => !state.windows.iconified id || (state.withWindows (·.switcherRestore id)).tells id
  | .multitaskingActivate id =>
    !state.windows.iconified id || ((state.switchToOwnWorkspace id).withWindows (·.multitaskingRestore id)).tells id
  | .previewsActivate id =>
    let restored := state.withWindows (·.previewsRestore id)
    !state.windows.iconified id || restored.switchesTo id || (restored.switchToOwnWorkspace id).tells id
  | .focusNextToplevel => !(state.focusShown && state.drops none)
  | .unlock lock => !(state.focusShown && { state with session := state.session.onUnlock lock }.drops none)
  -- the lock takes the focus and tells nobody
  | .lockRequest _ => state.session.sessionLock.isSome || !state.focusShown
  | .destroyLock lock => !state.focusShown || decide ((state.destroyLock lock).focus = state.focus)
  | .mapLockSurface id => !state.focusShown || decide ((state.mapLockSurface id).focus = state.focus)
  | _ => true

end State

namespace World

open Windows State

section

variable {stale touched : Nat → Prop} {w : World} {id : Nat}

theorem Advertises.change (tracks : w.Advertises) (f : State → State)
    (alters : Alters touched w.desktop.windows (f w.desktop).windows)
    (focus : (f w.desktop).focus = w.desktop.focus) : (w.change f).Tracks touched := by
  apply (Tracks.change tracks f alters focus).mono
  intro id old _
  exact old.resolve_left not_false

theorem Tracks.leave (tracks : w.Tracks fun id' => id' = id)
    (own : ∀ id', w.desktop.focus = some (.toplevel id') → id' = id) (ex : Option Nat) :
    (w.focusNextToplevel ex).Tracks fun id' => id' = id := by
  apply (tracks.focusNextToplevel ex).mono
  rintro id' (old | ⟨_, focused⟩) _
  · exact old
  · exact own id' focused

theorem Tracks.focusNext (tracks : w.Tracks stale) {ex : Option Nat}
    (safe : w.desktop.drops ex = true → w.desktop.focusShown = false) :
    (w.focusNextToplevel ex).Tracks stale := by
  apply (tracks.focusNextToplevel ex).mono
  rintro id' (old | ⟨dropped, focused⟩) mapped
  · exact old
  · rw [focusNextToplevel_desktop, focusNextToplevel_windows] at mapped
    have shown := focusShown_of_mapped focused mapped
    rw [safe dropped] at shown
    cases shown

theorem Tracks.focusExclusive (tracks : w.Tracks stale) (id : Nat) : (w.focusExclusive id).Tracks stale := by
  unfold World.focusExclusive
  split
  · exact tracks.focusLayerSurface id
  · exact tracks

theorem Tracks.setMaximized (tracks : w.Tracks stale) (surfaced : w.desktop.windows.Surfaced) (id : Nat)
    (mx : Bool) : (w.setMaximized id mx).Tracks stale := by
  have alters := alters_setMaximized w.desktop.windows id mx
  have changed := tracks.change (·.withWindows (·.setMaximized id mx)) alters rfl
  unfold World.setMaximized
  split
  · apply (changed.updateToplevel (w.desktop.surfaceOf id)).mono
    rintro id' ⟨old | ⟨rfl, _⟩, unsent⟩ mapped
    · exact old
    · exact absurd (surfaceOf_mapped surfaced ((alters.mapped id').symm.trans mapped)) unsent
  · rename_i same
    apply changed.mono
    rintro id' (old | ⟨_, maximizes⟩) _
    · exact old
    · exact absurd maximizes same

section

variable (tracks : w.Advertises) (surfaced : w.desktop.windows.Surfaced) (id : Nat)

include tracks surfaced

theorem Advertises.minimize : (w.minimize id).Advertises := by
  have hidden := tracks.change (·.withWindows (·.minimize id)) (alters_minimize _ id) rfl
  unfold World.minimize
  split
  · rename_i accepted
    have mapped : w.desktop.windows.test id (·.mapped) = true := by
      obtain ⟨t, found, accepted⟩ := test_iff.mp accepted
      simp only [Bool.and_eq_true] at accepted
      exact test_iff.mpr ⟨t, found, accepted.1.1.2⟩
    apply Tracks.told
    · split
      · rename_i focused
        -- Only this window can lose the focus to nothing, and the last update is of it.
        apply hidden.leave
        intro id' own
        exact surfaceOf_eq (focused.symm.trans own)
      · exact hidden
    · exact fun _ => surfaceOf_mapped surfaced mapped
  · exact tracks

theorem Advertises.tileToplevel (u captured : Bool) : (w.tileToplevel id u captured).Advertises := by
  unfold World.tileToplevel
  split
  · rename_i accepted
    have mapped : w.desktop.windows.test id (·.mapped) = true := by
      simp only [mayTile, Bool.and_eq_true] at accepted
      obtain ⟨t, found, accepted⟩ := test_iff.mp accepted.2
      simp only [Bool.and_eq_true] at accepted
      exact test_iff.mpr ⟨t, found, accepted.1.1.1⟩
    apply Tracks.told
    · have tiled := tracks.change (·.withWindows (·.tile id u captured)) (alters_tile _ id u captured) rfl
      apply (tiled.focusToplevel id).mono
      exact fun _ old _ => old.1
    · exact fun _ => surfaceOf_mapped surfaced mapped
  · exact tracks

theorem Advertises.moveToplevelToWorkspace (n : Int) : (w.moveToplevelToWorkspace id n).Advertises := by
  have alike := alike_moveToWorkspace w.desktop.windows id n
  have moved : (w.change (·.withWindows (·.moveToWorkspace id n))).Tracks fun id' => id' = id :=
    tracks.change _ alike.alters rfl
  unfold World.moveToplevelToWorkspace
  split
  · dsimp only
    apply Tracks.told
    · split
      · rename_i focused
        apply moved.leave
        intro id' own
        exact surfaceOf_eq (focused.1.symm.trans own)
      · exact moved
    · intro mapped
      apply surfaceOf_mapped surfaced
      rw [← alike.mapped]
      split at mapped
      · rwa [focusNextToplevel_desktop, focusNextToplevel_windows] at mapped
      · exact mapped
  · exact tracks

theorem Advertises.refreshed (f : State → State) (alike : Alike w.desktop.windows (f w.desktop).windows)
    (focus : (f w.desktop).focus = w.desktop.focus) :
    ((w.change f).updateToplevel (w.desktop.surfaceOf id)).Advertises := by
  apply Tracks.told
  · exact tracks.change f alike.alters focus
  · intro mapped
    exact surfaceOf_mapped surfaced ((alike.mapped id).symm.trans mapped)

theorem Advertises.setAllWorkspaces (everywhere : Bool) : (w.setAllWorkspaces id everywhere).Advertises := by
  unfold World.setAllWorkspaces
  split
  · exact tracks.refreshed surfaced id _ (alike_setAllWorkspaces _ id everywhere) rfl
  · exact tracks

theorem Advertises.setKeptAbove (above : Bool) : (w.setKeptAbove id above).Advertises := by
  unfold World.setKeptAbove
  split
  · rename_i changes
    apply tracks.refreshed surfaced
    · rw [State.setKeptAbove, if_pos changes]
      exact Windows.alike_setKeptAbove _ id above
    · rw [State.setKeptAbove, if_pos changes]
  · exact tracks

end

/-- Another window than `id` is as it was, but for its node. -/
theorem Tracks.other {id' : Nat} (tracks : w.Tracks stale) (after : World)
    (only : OnlyChanges id w.desktop.windows after.desktop.windows) (ne : id' ≠ id)
    (focus : after.desktop.focus = w.desktop.focus)
    (handles : after.mirror.handles id' = w.mirror.handles id')
    (requested : after.mirror.requested id' = w.mirror.requested id') :
    (after.mirror.handles id').isSome = after.desktop.windows.test id' (·.mapped) ∧
      (¬ stale id' → after.mirror.handles id' = after.due id') := by
  constructor
  · rw [handles, tracks.handled, only.test ne fun _ _ => rfl]
  · intro fresh
    rw [handles, tracks.agrees id' fresh]
    simp only [due, only.face ne, focus, requested]

theorem mayMap_found {ws : Windows} (accepted : ws.mayMap id = true) : ∃ t,
    ws.toplevels[id]? = some t ∧ t.surface = true ∧ t.mapped = false := by
  obtain ⟨t, found, accepted⟩ := test_iff.mp accepted
  simp only [Bool.and_eq_true, Bool.not_eq_true'] at accepted
  exact ⟨t, found, accepted.1.1.2, accepted.2⟩

theorem announce_windows (w : World) (id : Nat) : (w.announce id).desktop.windows =
    w.desktop.windows.update id fun t => { t with mapped := true }.setNodeEnabled
      (w.desktop.windows.isToplevelVisible { t with mapped := true }) :=
  refreshNode_update _ id _

theorem announce_mapped {t : Toplevel} (found : w.desktop.windows.toplevels[id]? = some t) :
    (w.announce id).desktop.windows.test id (·.mapped) = true := by
  rw [announce_windows, test_update]
  simp only [test, found, Option.any_some, if_true]
  rw [Toplevel.reshown_setNodeEnabled]

theorem surfaced_announce (surfaced : w.desktop.windows.Surfaced)
    (accepted : w.desktop.windows.mayMap id = true) : (w.announce id).desktop.windows.Surfaced := by
  obtain ⟨t, found, x, _⟩ := mayMap_found accepted
  intro id' mapped
  rw [announce_windows, test_update] at mapped ⊢
  by_cases own : id = id'
  · subst own
    simp only [test, found, Option.any_some, if_true, Toplevel.setNodeEnabled_surface, x]
  · simp only [own, if_false] at mapped ⊢
    exact surfaced id' mapped

section

variable (tracks : w.Tracks stale)

include tracks

theorem Tracks.announce (accepted : w.desktop.windows.mayMap id = true) : (w.announce id).Tracks stale := by
  obtain ⟨t, found, _, unmapped⟩ := mayMap_found accepted
  let created : World := ⟨(w.announce id).desktop, w.mirror.createHandle id⟩
  have only : OnlyChanges id w.desktop.windows created.desktop.windows := by
    show OnlyChanges id _ (w.announce id).desktop.windows
    rw [announce_windows]
    exact onlyChanges_update _ _
  have others : ∀ id', id' ≠ id → _ := fun id' ne =>
    tracks.other created only ne rfl (Function.update_of_ne ne _ _) rfl
  have opened : created.Tracks fun id' => stale id' ∨ id' = id := by
    constructor
    · intro id'
      by_cases own : id' = id
      · subst own
        show (Function.update w.mirror.handles id' _ id').isSome = _
        rw [Function.update_self]
        exact (announce_mapped found).symm
      · exact (others id' own).1
    · intro id' fresh
      rw [not_or] at fresh
      exact (others id' fresh.2).2 fresh.1
  have same : w.announce id = created.updateToplevel (some (.toplevel id)) := by
    have new : ¬ (w.mirror.handles id).isSome = true := by
      rw [tracks.handled]
      simp only [test, found, Option.any_some, unmapped, Bool.false_eq_true, not_false_eq_true]
    exact congrArg (World.mk (w.announce id).desktop) (if_neg new)
  rw [same]
  apply (opened.updateToplevel _).mono
  rintro id' ⟨old | rfl, unsent⟩ _
  · exact old
  · exact absurd rfl unsent

omit tracks in
theorem honorFullscreen_requested (w : World) (id : Nat) :
    (w.honorFullscreen id).mirror.requested = w.mirror.requested := by
  unfold honorFullscreen
  split
  · rename_i requested
    simp only [Mirror.setFullscreenState]
    split
    · rw [← requested, Function.update_eq_self]
    · rfl
  · rfl

theorem Tracks.honorFullscreen (id : Nat) : (w.honorFullscreen id).Tracks stale := by
  have handles : (w.honorFullscreen id).mirror.handles = w.mirror.handles := by
    unfold World.honorFullscreen
    split <;> rfl
  constructor
  · intro id'
    rw [handles, honorFullscreen_desktop, tracks.handled]
  · intro id' fresh
    rw [handles, tracks.agrees id' fresh]
    simp only [due, honorFullscreen_desktop, honorFullscreen_requested]

theorem Tracks.map (surfaced : w.desktop.windows.Surfaced) (id : Nat) (big : Bool) : (w.map id big).Tracks stale := by
  unfold World.map
  split
  · rename_i accepted
    have announced := tracks.announce accepted
    have mx : ((w.announce id).honorMaximized id big).Tracks stale := by
      unfold World.honorMaximized
      split
      · exact announced.setMaximized (surfaced_announce surfaced accepted) id true
      · exact announced
    have placed := mx.honorFullscreen id
    dsimp only
    split
    · apply (placed.focusToplevel id).mono
      exact fun _ old _ => old.1
    · exact placed
  · exact tracks

theorem Tracks.associate (surfaced : w.desktop.windows.Surfaced) (id : Nat) (tc sm big : Bool) :
    (w.associate id tc sm big).Tracks stale := by
  unfold World.associate
  split
  · have alike := alike_associate w.desktop.windows id tc sm
    have associated := tracks.alike (fun s => { s with
      windows := s.windows.associate id tc sm
      stack := if tc then s.stack ++ [id] else s.stack }) alike rfl
    dsimp only
    split
    · apply associated.map
      intro id' mapped
      apply (keeps_associate w.desktop.windows id tc sm).surface
      exact surfaced id' ((alike.mapped id').symm.trans mapped)
    · exact associated
  · exact tracks

omit tracks in
theorem withdraw_handles (w : World) (id : Nat) :
    (w.withdraw id).mirror.handles = Function.update w.mirror.handles id none := by
  unfold World.withdraw Mirror.forgetRequests
  split <;> rfl

omit tracks in
theorem withdraw_requested {id' : Nat} (ne : id' ≠ id) :
    (w.withdraw id).mirror.requested id' = w.mirror.requested id' := by
  unfold World.withdraw Mirror.forgetRequests
  split
  · rfl
  · exact Function.update_of_ne ne _ _

omit tracks in
theorem unmap_unmapped (ws : Windows) (id : Nat) : (ws.unmap id).test id (·.mapped) = false := by
  rw [mapped_unmap]
  simp

theorem Tracks.withdraw (id : Nat) : (w.withdraw id).Tracks stale := by
  have only := (edits_unmap w.desktop.windows id).toOnlyChanges
  have hidden := unmap_unmapped w.desktop.windows id
  have handles : ∀ id', id' ≠ id → (w.withdraw id).mirror.handles id' = w.mirror.handles id' := by
    intro id' ne
    rw [withdraw_handles, Function.update_of_ne ne]
  have others : ∀ id', id' ≠ id → _ := fun id' ne =>
    tracks.other (w.withdraw id) only ne rfl (handles id' ne) (withdraw_requested ne)
  constructor
  · intro id'
    by_cases own : id' = id
    · subst own
      rw [withdraw_handles, Function.update_self]
      exact hidden.symm
    · exact (others id' own).1
  · intro id' fresh
    by_cases own : id' = id
    · subst own
      rw [withdraw_handles, Function.update_self, due_unmapped hidden]
    · exact (others id' own).2 fresh

theorem Tracks.unmap (id : Nat) : (w.unmap id).Tracks stale := by
  have withdrawn := tracks.withdraw id
  unfold World.unmap
  split
  · split
    · rename_i focused
      apply (withdrawn.focusNextToplevel (some id)).mono
      rintro id' (old | ⟨_, own⟩) mapped
      · exact old
      · -- the window that loses the focus is the one that is gone
        have same : id' = id := by
          have := focused.2.symm.trans own
          cases this
          rfl
        subst same
        rw [focusNextToplevel_desktop, focusNextToplevel_windows] at mapped
        exact absurd mapped (Bool.not_eq_true _ ▸ unmap_unmapped w.desktop.windows id')
    · exact withdrawn
  · exact tracks

omit tracks in
theorem Tracks.lose {edit : Toplevel → Toplevel → Prop} (tracks : w.Tracks stale)
    (hidden : w.desktop.windows.test id (·.mapped) = false) (f : State → State)
    (edits : Edits id edit w.desktop.windows (f w.desktop).windows)
    (kept : ∀ t next, edit t next → next.mapped = false ∧ next.maximized = t.maximized ∧
      next.minimized = t.minimized) (focus : (f w.desktop).focus = w.desktop.focus) :
    ((w.change f).orphan (· == Surface.toplevel id)).Tracks stale := by
  have alike : Alike w.desktop.windows (f w.desktop).windows := by
    apply edits.alters
    · intro t next found edited
      simp only [test, found, Option.any_some] at hidden
      rw [(kept t next edited).1, hidden]
    · intro _ t next _ edited
      exact (kept t next edited).2
  apply ((tracks.alike f alike focus).orphan _).mono
  rintro id' (old | own) mapped
  · exact old
  · have same : id' = id := by simpa using own
    subst same
    rw [orphan_desktop, orphan_windows, change_desktop, alike.mapped, hidden] at mapped
    cases mapped

omit tracks in
theorem unmap_hidden (w : World) (id : Nat) : (w.unmap id).desktop.windows.test id (·.mapped) = false := by
  rw [unmap_desktop, unmap_windows, unmap_unmapped]

theorem Tracks.dissociate (id : Nat) : (w.dissociate id).Tracks stale := by
  unfold World.dissociate
  split
  · apply (tracks.unmap id).lose (unmap_hidden w id) _ (edits_loseSurface _ id)
    · rintro t next rfl
      exact ⟨rfl, rfl, rfl⟩
    · rfl
  · exact tracks

theorem Tracks.destroyToplevel (id : Nat) : (w.destroyToplevel id).Tracks stale := by
  unfold World.destroyToplevel
  apply (tracks.unmap id).lose (unmap_hidden w id) _ (edits_loseHandle _ id)
  · intro t next lost
    rw [lost]
    exact ⟨rfl, rfl, rfl⟩
  · rfl

end

theorem Tracks.switchWorkspace (tracks : w.Tracks stale) (surfaced : w.desktop.windows.Surfaced)
    (n : Int) : (w.switchWorkspace n).Tracks fun id =>
      stale id ∧ ¬ w.desktop.maySwitch n = true := by
  unfold World.switchWorkspace
  split
  · have alike := alike_switchTo w.desktop.windows n
    have switched := tracks.alike (·.withWindows (·.switchTo n)) alike rfl
    -- Whatever has become stale on the way, the last loop updates all windows.
    have left : ∃ stale, Tracks stale (if (w.change (·.withWindows (·.switchTo n))).desktop.focusLeftBehind
        then (w.change (·.withWindows (·.switchTo n))).change (·.clearFocus)
        else w.change (·.withWindows (·.switchTo n))) := by
      split
      · exact ⟨_, switched.refocus (·.clearFocus) rfl⟩
      · exact ⟨_, switched⟩
    obtain ⟨_, left⟩ := left
    have refocused := (left.focusNextToplevel none).updateKeyboardFocus
    apply (Tracks.updateToplevels (refocused _) ?_).mono
    · exact fun _ => False.elim
    · apply surfaced.keepsLives
      rw [updateKeyboardFocus_desktop, focusNextToplevel_desktop, focusNextToplevel_windows]
      split <;> exact keepsLives_switchTo _ n
  · rename_i refused
    apply tracks.mono
    exact fun _ old _ => ⟨old, refused⟩

theorem Advertises.renumber (tracks : w.Advertises) (surfaced : w.desktop.windows.Surfaced)
    {f : Windows → Windows} (alike : Alike w.desktop.windows (f w.desktop.windows))
    (kept : w.desktop.windows.KeepsLives (f w.desktop.windows)) :
    (w.renumber f).Advertises :=
  (Tracks.alike tracks (·.withWindows f) alike rfl).updateToplevels (surfaced.keepsLives kept)

theorem Tracks.switchToOwnWorkspace (tracks : w.Tracks stale) (surfaced : w.desktop.windows.Surfaced)
    (id : Nat) : (w.switchToOwnWorkspace id).Tracks fun id' =>
      stale id' ∧ ¬ w.desktop.switchesTo id = true := by
  unfold World.switchToOwnWorkspace switchesTo
  cases w.desktop.windows.toplevels[id]? with
  | none =>
    apply tracks.mono
    exact fun _ old _ => ⟨old, by simp⟩
  | some t => exact tracks.switchWorkspace surfaced t.workspace

theorem Tracks.activate {hidden : Prop} (tracks : w.Tracks fun id' => id' = id ∧ hidden)
    (safe : hidden → w.desktop.tells id = true) : (w.focusToplevel id).Advertises := by
  apply (tracks.focusToplevel id).mono
  rintro id' ⟨⟨rfl, restored⟩, unsent⟩ _
  exact unsent ⟨safe restored, rfl⟩

theorem Advertises.xRequestRestore (tracks : w.Advertises) (id : Nat)
    (safe : w.desktop.advertSafe (.xRequestRestore id) = true) : (w.xRequestRestore id).Advertises := by
  have restored := tracks.change (·.withWindows (·.xRequestRestore id)) (alters_xRequestRestore _ id) rfl
  simp only [advertSafe, Bool.or_eq_true, Bool.not_eq_true', Bool.and_eq_true] at safe
  have told : w.desktop.windows.iconified id = true ∧
      w.desktop.windows.test id (fun t => t.xwayland && t.alive) = true → _ :=
    fun hidden => safe.resolve_left (by simp [hidden.1, hidden.2])
  unfold World.xRequestRestore
  split
  · apply restored.activate
    exact fun hidden => (told hidden).2
  · rename_i unfocused
    apply restored.mono
    rintro id' ⟨_, hidden⟩ _
    exact unfocused (told hidden).1

theorem Advertises.switcherActivate (tracks : w.Advertises) (id : Nat)
    (safe : w.desktop.advertSafe (.switcherActivate id) = true) : (w.switcherActivate id).Advertises := by
  have restored := tracks.change (·.withWindows (·.switcherRestore id)) (alters_switcherRestore _ id) rfl
  simp only [advertSafe, Bool.or_eq_true, Bool.not_eq_true'] at safe
  unfold World.switcherActivate
  split
  · apply restored.activate
    intro hidden
    exact safe.resolve_left (by simp [hidden])
  · exact tracks

theorem alike_switchToOwnWorkspace (s : State) (id : Nat) : Alike s.windows (s.switchToOwnWorkspace id).windows := by
  rw [switchToOwnWorkspace_shown]
  exact s.ownWorkspaceShown_induction id (.refl _) fun n _ => alike_switchTo _ n

theorem Advertises.multitaskingActivate (tracks : w.Advertises) (surfaced : w.desktop.windows.Surfaced)
    (id : Nat) (safe : w.desktop.advertSafe (.multitaskingActivate id) = true) :
    (w.multitaskingActivate id).Advertises := by
  have switched : (w.switchToOwnWorkspace id).Advertises := by
    apply (Tracks.switchToOwnWorkspace tracks surfaced id).mono
    exact fun _ old _ => old.1
  have restored := switched.change (·.withWindows (·.multitaskingRestore id)) (alters_multitaskingRestore _ id) rfl
  simp only [advertSafe, Bool.or_eq_true, Bool.not_eq_true', ← switchToOwnWorkspace_desktop] at safe
  unfold World.multitaskingActivate
  split
  · apply restored.activate
    intro hidden
    -- The switch before the restore does not change what is minimized.
    rw [switchToOwnWorkspace_desktop, (alike_switchToOwnWorkspace w.desktop id).iconified] at hidden
    exact safe.resolve_left (by simp [hidden])
  · exact tracks

theorem Advertises.previewsActivate (tracks : w.Advertises) (surfaced : w.desktop.windows.Surfaced)
    (id : Nat) (safe : w.desktop.advertSafe (.previewsActivate id) = true) :
    (w.previewsActivate id).Advertises := by
  have restored := tracks.change (·.withWindows (·.previewsRestore id)) (alters_previewsRestore _ id) rfl
  have switched := restored.switchToOwnWorkspace (surfaced.keepsLives
    (keepsLives_arranged (edits_previewsRestore w.desktop.windows id).arranged)) id
  simp only [advertSafe, Bool.or_eq_true, Bool.not_eq_true'] at safe
  unfold World.previewsActivate
  split
  · have own := switched.mono fun id' old _ => And.intro old.1.1 (And.intro old.1.2 old.2)
    apply own.activate
    rintro ⟨hidden, stays⟩
    rw [switchToOwnWorkspace_desktop]
    -- Here the switch comes after the restore, and updates the window if it is made.
    rcases safe with (shown | switches) | told
    · rw [hidden] at shown
      cases shown
    · exact absurd switches stays
    · exact told
  · exact tracks

section

variable (tracks : w.Tracks stale)

include tracks

theorem Tracks.mapLayer (id : Nat) : (w.mapLayer id).Tracks stale := by
  unfold World.mapLayer
  split
  · have changed := tracks.alike (fun s =>
      { s with layers := s.layers.modify id fun layer => { layer with mapped := true } }) (Alike.refl _) rfl
    exact changed.focusExclusive id
  · exact tracks

theorem Tracks.commitLayer (id : Nat) (interactivity : Interactivity) :
    (w.commitLayer id interactivity).Tracks stale := by
  unfold World.commitLayer
  split
  · have changed := tracks.alike (fun s => { s with
      layers := s.layers.modify id fun layer => { layer with interactivity := interactivity } }) (Alike.refl _) rfl
    exact changed.focusExclusive id
  · exact tracks

theorem Tracks.unmapLayer (id : Nat) : (w.unmapLayer id).Tracks stale := by
  unfold World.unmapLayer
  split
  · have changed := tracks.alike (fun s =>
      { s with layers := s.layers.modify id fun layer => { layer with mapped := false } }) (Alike.refl _) rfl
    split
    · rename_i focused
      apply changed.focusNext
      intro _
      simp only [focusShown, change_desktop, focused]
    · exact changed
  · exact tracks

theorem Tracks.destroyLayer (id : Nat) : (w.destroyLayer id).Tracks stale := by
  have changed := (tracks.unmapLayer id).alike (fun s => { s with
    layers := s.layers.modify id fun layer => { layer with alive := false, mapped := false } }) (Alike.refl _) rfl
  apply (changed.orphan (· == Surface.layer id)).mono
  rintro id' (old | gone) _
  · exact old
  · cases gone

theorem Tracks.destroyLayersOf (o : Nat) : (w.destroyLayersOf o).Tracks stale := by
  -- Each surface is destroyed in the world that those before it have left.
  refine List.foldlRecOn (motive := Tracks stale) _ _ tracks fun _ tracks layer _ => ?_
  split
  · exact tracks.destroyLayer layer
  · exact tracks

theorem Tracks.addKeyboard : w.addKeyboard.Tracks stale := by
  have added := tracks.alike (fun s => { s with
    keyboards := s.keyboards ++ [true], keyboard := some s.keyboards.length }) (Alike.refl _) rfl
  unfold World.addKeyboard
  cases focused : w.desktop.focus with
  | some =>
    apply added.alike
    · simp only [notifyEnter]
      split <;> exact .refl _
    · exact notifyEnter_focus focused
  | none =>
    apply added.focusNext
    intro _
    simp only [focusShown, change_desktop, focused]

end

section

variable (tracks : w.Tracks stale)

include tracks

theorem Tracks.retire (f : State → State) (ws : (f w.desktop).windows = w.desktop.windows)
    (safe : w.desktop.focusShown = false)
    (unmoved : ∀ id, (f w.desktop).focus = some (.toplevel id) → w.desktop.focus = some (.toplevel id)) :
    (w.change f).Tracks stale := by
  apply (tracks.refocus f ws).mono
  intro id old mapped
  rw [change_desktop, ws] at mapped
  have unfocused : ¬ w.desktop.focus = some (.toplevel id) := by
    intro focused
    rw [focusShown_of_mapped focused mapped] at safe
    cases safe
  rcases old with old | focused | focused
  · exact old
  · exact absurd focused unfocused
  · exact absurd (unmoved id focused) unfocused

theorem Tracks.beginSessionLock (bc : Bool) (safe : w.desktop.advertSafe (.lockRequest bc) = true) :
    (w.beginSessionLock bc).Tracks stale := by
  simp only [advertSafe, Bool.or_eq_true, Bool.not_eq_true'] at safe
  unfold World.beginSessionLock
  dsimp only
  split
  -- A second lock is refused and leaves the focus alone.
  · exact tracks.alike _ (Alike.refl _) rfl
  · rename_i free
    have cleared := tracks.retire (fun s => { s with
      session := w.desktop.session.beginSessionLock bc, keyboardGrab := false, focus := none }) rfl
      (safe.resolve_left free) (fun _ focused => by cases focused)
    split
    · exact cleared
    · exact cleared.focusNext fun _ => rfl

theorem Tracks.unlock (l : Nat) (safe : w.desktop.advertSafe (.unlock l) = true) : (w.unlock l).Tracks stale := by
  have unlocked := tracks.alike (fun s => { s with session := s.session.onUnlock l }) (Alike.refl _) rfl
  simp only [advertSafe, Bool.not_eq_true', Bool.and_eq_false_iff] at safe
  unfold World.unlock
  dsimp only
  split
  · apply unlocked.focusNext
    intro dropped
    apply safe.resolve_right
    rw [← Bool.not_eq_true]
    exact fun kept => kept dropped
  · exact unlocked

theorem Tracks.changeSession (ss : Session.ProtocolManager) : (w.changeSession ss).Tracks stale := by
  have changed := tracks.alike (fun s => { s with session := ss }) (Alike.refl _) rfl
  apply (changed.orphan (lockSurfaceGone w.desktop.session ss)).mono
  rintro id' (old | gone) _
  · exact old
  · cases gone

end

theorem focusShown_orphan {s : State} {gone : Surface → Bool} (there : ∀ id, gone (.toplevel id) = false) :
    (s.orphan gone).focusShown = s.focusShown := by
  cases focused : s.focus with
  | none => simp [State.focusShown, State.orphan, focused]
  | some x =>
    cases x with
    | toplevel => simp [State.focusShown, State.orphan, focused, there]
    | layer _ | lock _ | other =>
      simp only [State.focusShown, State.orphan, focused, Option.map_some]
      split
      · rename_i id'
        split at id' <;> cases id'
      · rfl

theorem Tracks.destroyLock (tracks : w.Tracks stale) (l : Nat)
    (safe : w.desktop.advertSafe (.destroyLock l) = true) : (w.destroyLock l).Tracks stale := by
  have ended := tracks.changeSession (w.desktop.session.onDestroy l)
  simp only [advertSafe, Bool.or_eq_true, Bool.not_eq_true', decide_eq_true_eq] at safe
  unfold World.destroyLock
  split
  · split
    · rename_i held found dies
      rw [destroyLock_focus found dies] at safe
      apply ended.retire (·.clearFocus) rfl
      · apply (focusShown_orphan fun _ => rfl).trans
        rcases safe with hidden | unfocused
        · exact hidden
        · simp only [focusShown, change_desktop, ← unfocused]
      · exact fun _ focused => by cases focused
    · exact ended
  · exact ended

theorem Advertises.surfaceGone (tracks : w.Advertises) : w.surfaceGone.Advertises := by
  unfold World.surfaceGone
  split
  · rename_i focused
    have cleared := Tracks.retire tracks (·.clearFocus) rfl (by simp only [focusShown, focused])
      (fun _ focused => by cases focused)
    exact ⟨cleared.handled, cleared.agrees⟩
  · exact tracks

theorem Advertises.mapLockSurface (tracks : w.Advertises) (id : Nat)
    (safe : w.desktop.advertSafe (.mapLockSurface id) = true) : (w.change (·.mapLockSurface id)).Advertises := by
  simp only [advertSafe, Bool.or_eq_true, Bool.not_eq_true', decide_eq_true_eq] at safe
  have ws := w.desktop.mapLockSurface_windows id
  rcases safe with hidden | same
  · apply Tracks.retire tracks _ ws hidden
    intro id' focused
    rcases mapLockSurface_focus focused with l | kept
    · cases l
    · exact kept
  · apply Tracks.alike tracks _ _ same
    rw [ws]
    exact .refl _

theorem Advertises.plain (tracks : w.Advertises) {e : Event} (plain : w.handle e = w.change (FlakeWM.Desktop.step · e))
    (alike : Alike w.desktop.windows (FlakeWM.Desktop.step w.desktop e).windows)
    (focus : (FlakeWM.Desktop.step w.desktop e).focus = w.desktop.focus) :
    (w.handle e).Advertises := by
  rw [plain]
  exact .alike tracks _ alike focus

theorem Advertises.handle (tracks : w.Advertises) (staged : w.desktop.Staged) (e : Event)
    (safe : w.desktop.advertSafe e = true) : (w.handle e).Advertises := by
  have surfaced := staged.surfaced
  cases e with
  | newToplevel xw => exact tracks.plain rfl (alike_add _ xw) rfl
  | associate id tc sm big =>
    exact .associate tracks surfaced id tc sm big
  | dissociate id => exact .dissociate tracks id
  | map id big => exact .map tracks surfaced id big
  | unmap id => exact .unmap tracks id
  | destroy id => exact .destroyToplevel tracks id
  | setHints id overrideRedirect overrideWantsFocus transient =>
    exact tracks.plain rfl (alike_setHints _ id overrideRedirect overrideWantsFocus transient) rfl
  | minimize id => exact tracks.minimize surfaced id
  | requestRestore id =>
    apply (tracks.change (·.withWindows (·.requestRestore id)) (alters_requestRestore _ id) rfl).mono
    rintro id' ⟨_, hidden, able⟩ _
    simp [advertSafe, hidden, able] at safe
  | xRequestRestore id => exact tracks.xRequestRestore id safe
  | switcherActivate id => exact tracks.switcherActivate id safe
  | multitaskingActivate id => exact tracks.multitaskingActivate surfaced id safe
  | previewsActivate id => exact tracks.previewsActivate surfaced id safe
  | setMaximized id mx => exact .setMaximized tracks surfaced id mx
  | tile id u captured => exact tracks.tileToplevel surfaced id u captured
  | animationEnd => exact tracks.plain rfl (alike_reshown (edits_cancelAnimation _ 0)) rfl
  | highlight id | unhighlight id =>
    apply tracks.plain rfl
    · dsimp only [FlakeWM.Desktop.step]
      split
      · dsimp only [State.withWindows]
        exact alike_reshown (edits_setHighlight w.desktop.windows id _)
      · exact .refl _
    · dsimp only [FlakeWM.Desktop.step]
      split <;> rfl
  | switchWorkspace n =>
    apply (Tracks.switchWorkspace tracks surfaced n).mono
    exact fun _ old _ => old.1
  | moveToWorkspace id n => exact tracks.moveToplevelToWorkspace surfaced id n
  | addWorkspace => exact tracks.plain rfl (alike_addWorkspace _) rfl
  | removeWorkspace n =>
    exact tracks.renumber surfaced (alike_removeWorkspace _ n) (keepsLives_removeWorkspace _ n)
  | reorderWorkspace source target =>
    exact tracks.renumber surfaced (alike_reorderWorkspace _ source target)
      (keepsLives_reorderWorkspace _ source target)
  | setAllWorkspaces id everywhere => exact tracks.setAllWorkspaces surfaced id everywhere
  | setKeptAbove id above => exact tracks.setKeptAbove surfaced id above
  | hideMultitaskingSources | hideWindowPreviewsSources => exact tracks.plain rfl (alike_nodes rfl) rfl
  | focusToplevel id =>
    apply (Tracks.focusToplevel tracks id).mono
    exact fun _ old _ => old.1
  | focusNextToplevel =>
    apply Tracks.focusNext tracks
    intro dropped
    simpa [advertSafe, dropped] using safe
  | mapLayer id => exact .mapLayer tracks id
  | unmapLayer id => exact .unmapLayer tracks id
  | commitLayer id interactivity => exact .commitLayer tracks id interactivity
  | destroyLayer id => exact .destroyLayer tracks id
  | focusLayerSurface id => exact .focusLayerSurface tracks id
  | addKeyboard => exact .addKeyboard tracks
  | useKeyboard =>
    apply tracks.plain rfl
    · dsimp only [FlakeWM.Desktop.step, useKeyboard]
      split <;> exact .refl _
    · dsimp only [FlakeWM.Desktop.step, useKeyboard]
      split <;> rfl
  | lockRequest bc => exact .beginSessionLock tracks bc safe
  | unlock l => exact .unlock tracks l safe
  | destroyLock l => exact .destroyLock tracks l safe
  | mapLockSurface id => exact tracks.mapLockSurface id safe
  | destroyLockSurface => exact .changeSession tracks _
  | outputDestroy o => exact (Tracks.destroyLayersOf tracks o).changeSession _
  | surfaceGone => exact tracks.surfaceGone
  | newLayer | removeKeyboard | beginGrab | endGrab | newLockSurface | newOutput | outputCommit | outputPresent =>
    exact tracks.plain rfl (Alike.refl _) rfl

end

end World
end FlakeWM.Desktop
