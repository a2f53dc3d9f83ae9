import FlakeWM.Desktop.WindowEdits

/-! Scene nodes and visibility.

Most writers of a node's enabled bit compute it from `IsToplevelVisible`; a few
write a constant. For each operation on the windows, this module says when it
keeps the nodes of all windows but the source of a running tile animation in
line with their visibility, as long as no highlight is in progress. -/

set_option autoImplicit false

namespace FlakeWM.Desktop
namespace Windows

open Toplevel

/-- The node of a mapped window with a scene tree is enabled exactly when the
window is visible. -/
def Settled (windows : Windows) (toplevel : Toplevel) : Prop :=
  toplevel.mapped = true → toplevel.sceneTree = true →
    toplevel.nodeEnabled = windows.isToplevelVisible toplevel

/-- With no animation and no highlight in progress every window is settled. -/
def NodesMatch (windows : Windows) : Prop :=
  windows.tileAnimation = none → windows.highlight = none →
    ∀ toplevel ∈ windows.toplevels, windows.Settled toplevel

/-- Every window other than `id` and the source of the animation is settled. -/
def SettledExcept (windows : Windows) (id : Option Nat) : Prop :=
  windows.highlight = none → ∀ other toplevel, windows.toplevels[other]? = some toplevel →
    windows.tileAnimation ≠ some other → id ≠ some other → windows.Settled toplevel

/-- The invariant: only the source of a running animation may be unsettled. -/
abbrev Consistent (windows : Windows) : Prop := windows.SettledExcept none

theorem Consistent.nodesMatch {ws : Windows} (consistent : ws.Consistent) : ws.NodesMatch := by
  intro still plain t mem
  obtain ⟨id, found⟩ := List.mem_iff_getElem?.mp mem
  exact consistent plain id t found (by simp [still]) (by simp)

def presentable (windows : Windows) (toplevel : Toplevel) : Bool :=
  windows.onWorkspace toplevel && !windows.multitaskingSourcesHidden && !windows.windowPreviewsSourcesHidden

theorem isToplevelVisible_eq (ws : Windows) (t : Toplevel) : ws.isToplevelVisible t =
      (t.mapped && !t.minimized && ws.presentable t) := by
  simp [isToplevelVisible, presentable, Bool.and_assoc]

theorem settled_setNodeEnabled (ws : Windows) (t : Toplevel) :
    ws.Settled (t.setNodeEnabled (ws.isToplevelVisible t)) := by
  intro mapped tree
  unfold setNodeEnabled at *
  split at tree
  · rename_i owned
    simp [owned, isToplevelVisible, onWorkspace]
  · rename_i owned
    exact absurd tree owned

theorem settled_unmapped (ws : Windows) {t : Toplevel} (hidden : t.mapped = false) : ws.Settled t := by
  intro mapped
  rw [hidden] at mapped
  cases mapped

section

variable {ws : Windows} {id : Nat} {f : Toplevel → Toplevel}

theorem SettledExcept.settle (settled : ws.SettledExcept (some id))
    (settles : ws.highlight = none → ∀ t, ws.toplevels[id]? = some t → ws.tileAnimation ≠ some id → ws.Settled (f t)) :
    (ws.update id f).Consistent := by
  intro plain id' t found still _
  rw [update_get, Option.map_eq_some_iff] at found
  obtain ⟨before, found, rfl⟩ := found
  split
  · rename_i same
    subst same
    exact settles plain before found still
  · rename_i ne
    exact settled plain id' before found still (by simpa using ne)

/-- Changing one window keeps the others settled; it remains to settle that one,
which may be assumed settled before. -/
theorem SettledExcept.update (settled : ws.SettledExcept none)
    (settles : ws.highlight = none → ∀ t, ws.toplevels[id]? = some t →
      ws.tileAnimation ≠ some id → ws.Settled t → ws.Settled (f t)) :
    (ws.update id f).Consistent := by
  have others : ws.SettledExcept (some id) :=
    fun plain id' t found still _ => settled plain id' t found still (by simp)
  apply others.settle
  intro plain t found still
  exact settles plain t found still (settled plain id t found still (by simp))

theorem Consistent.except (consistent : ws.Consistent) (id : Option Nat) : ws.SettledExcept id :=
  fun plain id' t found still _ => consistent plain id' t found still (by simp)

theorem consistent_refreshNodes (ws : Windows) : ws.refreshNodes.Consistent := by
  intro _ id' t found _ _
  simp only [refreshNodes, List.getElem?_map, Option.map_eq_some_iff] at found
  obtain ⟨before, _, rfl⟩ := found
  exact settled_setNodeEnabled ws before

theorem SettledExcept.refreshNode (settled : ws.SettledExcept (some id)) :
    ((ws.update id f).refreshNode id).Consistent := by
  rw [refreshNode_update]
  exact settled.settle fun _ t _ _ => settled_setNodeEnabled ws (f t)

end

def sourceVisible (windows : Windows) : Bool :=
  match windows.tileAnimation with
  | none => true
  | some source => !windows.test source fun toplevel =>
    toplevel.mapped && toplevel.sceneTree && !windows.isToplevelVisible toplevel

def restoreShows (windows : Windows) (id : Nat) : Bool :=
  !windows.test id fun toplevel =>
    toplevel.mapped && toplevel.sceneTree && toplevel.minimized && !windows.presentable toplevel

/-- Every window other than `except` and the source of the animation is visible
unless it is minimized. -/
def unhighlightShows (windows : Windows) (except : Option Nat) : Bool :=
  (List.range windows.toplevels.length).all fun id =>
    except == some id || windows.tileAnimation == some id || !windows.test id fun toplevel =>
      toplevel.mapped && toplevel.sceneTree && !toplevel.minimized && !windows.presentable toplevel

theorem sourceVisible_spec {ws : Windows} (shown : ws.sourceVisible = true) {source : Nat}
    (animated : ws.tileAnimation = some source) {t : Toplevel}
    (found : ws.toplevels[source]? = some t) (mapped : t.mapped = true)
    (tree : t.sceneTree = true) : ws.isToplevelVisible t = true := by
  simpa [sourceVisible, animated, test, found, mapped, tree] using shown

theorem settled_show {ws : Windows} {t : Toplevel}
    (visible : t.mapped = true → t.sceneTree = true → ws.isToplevelVisible t = true) :
    ws.Settled (t.setNodeEnabled true) := by
  unfold setNodeEnabled
  split
  · rename_i tree
    intro mapped _
    exact (visible mapped tree).symm
  · rename_i treeless
    intro _ tree
    exact absurd tree treeless

theorem settled_restore {ws : Windows} {t : Toplevel}
    (shown : t.mapped = true → t.sceneTree = true → ws.presentable t = true) :
    ws.Settled { t.setNodeEnabled true with minimized := false } := by
  unfold setNodeEnabled
  split
  · rename_i tree
    intro mapped _
    rw [isToplevelVisible_eq]
    have present := shown mapped tree
    simp only [presentable, onWorkspace] at present ⊢
    simp [show t.mapped = true from mapped, present]
  · rename_i treeless
    intro _ tree
    exact absurd tree treeless

theorem Settled.of_same {ws : Windows} {t changed : Toplevel} (settled : ws.Settled t)
    (mapped : changed.mapped = t.mapped) (tree : changed.sceneTree = t.sceneTree)
    (node : changed.nodeEnabled = t.nodeEnabled) (minimized : changed.minimized = t.minimized)
    (n : changed.workspace = t.workspace)
    (everywhere : changed.allWorkspaces = t.allWorkspaces) : ws.Settled changed := by
  intro isMapped isTree
  rw [node, settled (mapped ▸ isMapped) (tree ▸ isTree)]
  simp [isToplevelVisible, onWorkspace, mapped, minimized, n, everywhere]

section

variable {ws : Windows} {id : Nat}

theorem Consistent.cancel (consistent : ws.Consistent) {except : Option Nat}
    (safe : ws.tileAnimation = except ∨ ws.sourceVisible = true) :
    ws.cancelAnimation.SettledExcept except := by
  cases animated : ws.tileAnimation with
  | none =>
    rw [cancelAnimation_none animated]
    exact consistent.except except
  | some source =>
    rw [cancelAnimation_some animated]
    intro plain id' t found _ ne
    rw [animated] at safe
    have get := ws.update_get source id' (·.setNodeEnabled true)
    rw [get, Option.map_eq_some_iff] at found
    obtain ⟨before, found, rfl⟩ := found
    split
    · rename_i same
      subst same
      have visible := safe.resolve_left (fun excepted => ne excepted.symm)
      exact settled_show fun mapped tree => sourceVisible_spec visible animated found mapped tree
    · rename_i ne
      exact consistent plain id' before found (by simpa [animated] using ne) (by simp)

/-- The condition of `SetMaximized`. -/
def maximizeSafe (windows : Windows) (id : Nat) (maximized : Bool) : Bool :=
  !windows.test id (fun toplevel => toplevel.alive && toplevel.sceneTree) ||
    windows.sourceVisible && (!maximized || windows.test id (·.maximized) || windows.restoreShows id)

theorem cancelAnimation_fields (ws : Windows) :
    ws.cancelAnimation.tileAnimation = none ∧ ws.cancelAnimation.highlight = ws.highlight ∧
      ws.cancelAnimation.isToplevelVisible = ws.isToplevelVisible ∧
      ws.cancelAnimation.presentable = ws.presentable := by
  cases animated : ws.tileAnimation with
  | none => simp [cancelAnimation_none animated, animated]
  | some =>
    rw [cancelAnimation_some animated]
    exact ⟨rfl, rfl, rfl, rfl⟩

theorem Consistent.setMaximized (consistent : ws.Consistent) (mx : Bool)
    (safe : ws.maximizeSafe id mx = true) : (ws.setMaximized id mx).Consistent := by
  unfold Windows.setMaximized
  split
  · rename_i u
    simp only [maximizeSafe, u, Bool.not_true, Bool.false_or, Bool.and_eq_true] at safe
    refine .update (consistent.cancel (.inr safe.1)) ?_
    intro _ t found _ settled
    obtain ⟨before, foundBefore, reshown⟩ := (edits_cancelAnimation ws id).own found
    rw [reshown] at settled ⊢
    split
    · split
      · exact settled.of_same rfl rfl rfl rfl rfl rfl
      · exact settled
    · rename_i changes
      dsimp only
      split
      · -- the restoring branch: the window was minimized and is now shown
        rename_i restores
        refine settled_restore ?_
        intro mapped tree
        obtain ⟨rfl, minimized⟩ := Bool.and_eq_true_iff.mp restores
        rw [ws.cancelAnimation_fields.2.2.2]
        have shows := safe.2
        simp only [Windows.test, foundBefore, Windows.restoreShows, Option.any_some, Bool.not_true,
          Bool.false_or] at shows
        simp_all [presentable, onWorkspace]
      · exact settled.of_same rfl rfl rfl rfl rfl rfl
  · exact consistent

theorem settled_hide (ws : Windows) (t : Toplevel) : ws.Settled { t.setNodeEnabled false with minimized := true } := by
  unfold setNodeEnabled
  split
  · intro _ _
    simp [isToplevelVisible]
  · rename_i treeless
    intro _ tree
    exact absurd tree treeless

theorem Consistent.minimize (consistent : ws.Consistent)
    (safe : ws.mayMinimize id = true → ws.tileAnimation = some id ∨ ws.sourceVisible = true) :
    (ws.minimize id).Consistent := by
  unfold Windows.minimize
  split
  · rename_i accepted
    refine (consistent.cancel (safe accepted)).settle ?_
    intro _ t _ _
    exact settled_hide ws.cancelAnimation t
  · exact consistent

/-- The tile animation of the window can start: it has a snapshot and something
to show, or it is the source already and is shown again first. -/
def animates (windows : Windows) (id : Nat) (captured : Bool) : Bool :=
  captured && (windows.tileAnimation == some id || windows.test id (·.nodeEnabled))

/-- The condition of `TileToplevel`: the running animation ends well, and if no
new one starts the window that is shown is visible. -/
def tileSafe (windows : Windows) (id : Nat) (captured : Bool) : Bool :=
  (windows.tileAnimation == some id || windows.sourceVisible) &&
    (windows.animates id captured || windows.tileAnimation != some id && !windows.test id (·.minimized) ||
      windows.test id windows.presentable)

theorem SettledExcept.animate {f : Toplevel → Toplevel} (settled : ws.SettledExcept (some id))
    (still : ws.tileAnimation = none) :
    Consistent { ws.update id f with tileAnimation := some id } := by
  intro plain id' t found ne _
  have get := ws.update_get id id' f
  rw [get, Option.map_eq_some_iff] at found
  obtain ⟨before, found, rfl⟩ := found
  have apart : id ≠ id' := by simpa using ne
  rw [if_neg apart]
  exact settled plain id' before found (by simp [still]) (by simpa using apart)

/-- A new animation starts exactly when `animates` says so. -/
theorem startAnimation_eq (tree : ws.test id (·.sceneTree) = true) (captured : Bool) : ws.startAnimation id captured =
      if ws.animates id captured then
        { ws.cancelAnimation.update id (·.setNodeEnabled false) with tileAnimation := some id }
      else ws.cancelAnimation := by
  have shown : ws.cancelAnimation.test id (·.nodeEnabled) =
      (ws.tileAnimation == some id || ws.test id (·.nodeEnabled)) := by
    obtain ⟨t, found, owned⟩ := test_iff.mp tree
    simp only [test, cancelAnimation_get, found, Option.map_some, Option.any_some]
    by_cases source : ws.tileAnimation = some id
    · simp [source, setNodeEnabled, owned]
    · simp [source]
  simp only [startAnimation, shown, animates]
  rfl

/-- The state changes of `TileToplevel` settle a window that is presentable if it
has to be restored and was settled otherwise. -/
theorem settled_tile {t : Toplevel} (settled : t.minimized = false → ws.Settled t)
    (shown : t.minimized = true → ws.presentable t = true) :
    ws.Settled ( let tiled := { t with maximized := false, tiled := true }
      if tiled.minimized then { tiled.setNodeEnabled true with minimized := false } else tiled) := by
  dsimp only
  split
  · rename_i minimized
    exact settled_restore fun _ _ => shown minimized
  · rename_i visible
    exact (settled (by simpa using visible)).of_same rfl rfl rfl rfl rfl rfl

theorem Consistent.tile (consistent : ws.Consistent) (u captured : Bool)
    (safe : ws.mayTile id u = true → ws.tileSafe id captured = true) :
    (ws.tile id u captured).Consistent := by
  unfold Windows.tile
  split
  · rename_i accepted
    obtain ⟨t, found, guards⟩ := test_iff.mp (Bool.and_eq_true_iff.mp accepted).2
    simp only [Bool.and_eq_true] at guards
    have safe := safe accepted
    simp only [tileSafe, Bool.and_eq_true, Bool.or_eq_true, beq_iff_eq, bne_iff_ne] at safe
    rw [startAnimation_eq (test_iff.mpr ⟨t, found, guards.2⟩)]
    split
    · -- the window becomes the source of a new animation and is exempt
      refine .update ((consistent.cancel safe.1).animate ws.cancelAnimation_fields.1) ?_
      intro _ _ _ ne _
      exact absurd rfl ne
    · rename_i quiet
      have present : ws.tileAnimation = some id ∨ t.minimized = true → ws.cancelAnimation.presentable t = true := by
        intro shown
        rw [ws.cancelAnimation_fields.2.2.2]
        have shows := safe.2
        simp only [quiet, test, found, Option.any_some] at shows
        grind
      by_cases source : ws.tileAnimation = some id
      · -- the source of the cancelled animation is shown whatever its state
        refine (consistent.cancel (.inl source)).settle ?_
        intro _ after foundAfter _
        rw [cancelAnimation_get, found, Option.map_some, if_pos source, Option.some.injEq] at foundAfter
        subst foundAfter
        refine settled_tile (fun shown => settled_show fun _ _ => ?_) fun _ => ?_
        · rw [isToplevelVisible_eq, present (.inl source)]
          simp_all [setNodeEnabled]
        · have shown := present (.inl source)
          simp_all [setNodeEnabled, presentable, onWorkspace]
      · refine .update (consistent.cancel (.inr (safe.1.resolve_left source))) ?_
        intro _ after foundAfter _ settled
        rw [cancelAnimation_get, found, Option.map_some, if_neg source, Option.some.injEq] at foundAfter
        subst foundAfter
        exact settled_tile (fun _ => settled) fun minimized => present (.inr minimized)
  · exact consistent

theorem Consistent.requestRestore (consistent : ws.Consistent) : (ws.requestRestore id).Consistent := by
  unfold Windows.requestRestore
  split
  · exact (consistent.except (some id)).refreshNode
  · exact consistent

/-- A window on another workspace or behind an overview is not restored, unless
the animation has it. -/
def xRestoreSafe (windows : Windows) (id : Nat) : Bool :=
  windows.tileAnimation == some id || !windows.test id fun toplevel =>
    toplevel.xwayland && toplevel.alive && toplevel.mapped && toplevel.sceneTree && !windows.presentable toplevel

theorem Consistent.xRequestRestore (consistent : ws.Consistent) (safe : ws.xRestoreSafe id = true) :
    (ws.xRequestRestore id).Consistent := by
  unfold Windows.xRequestRestore
  split
  · rename_i live
    refine consistent.update ?_
    intro _ t found ne _
    refine settled_restore fun mapped tree => ?_
    simp only [test, found, Option.any_some, Bool.and_eq_true] at live
    simpa [xRestoreSafe, ne, test, found, live, mapped, tree] using safe
  · exact consistent

def switcherSafe (windows : Windows) (id : Nat) : Bool :=
  windows.tileAnimation == some id || !windows.overviewHidden || !windows.test id fun toplevel =>
    toplevel.mapped && toplevel.sceneTree && toplevel.minimized && windows.onWorkspace toplevel

theorem Consistent.switcherRestore (consistent : ws.Consistent) (safe : ws.switcherSafe id = true) :
    (ws.switcherRestore id).Consistent := by
  refine consistent.update ?_
  intro _ t found ne settled
  split
  · rename_i minimized
    dsimp only
    split
    · rename_i here
      refine settled_show fun mapped tree => ?_
      have here : ws.onWorkspace t = true := here
      simp only [switcherSafe, test, found] at safe
      have seen : ws.overviewHidden = false := by simp_all
      simp_all [isToplevelVisible, overviewHidden]
    · rename_i elsewhere
      -- the node was disabled for being minimized and stays so for the workspace
      intro mapped tree
      have hidden := settled mapped tree
      simp_all [isToplevelVisible, onWorkspace]
  · exact settled

theorem Consistent.multitaskingRestore (consistent : ws.Consistent)
    (safe : ws.tileAnimation = some id ∨ ws.restoreShows id = true) :
    (ws.multitaskingRestore id).Consistent := by
  refine consistent.update ?_
  intro _ t found ne settled
  have shows := safe.resolve_left ne
  split
  · rename_i minimized
    refine settled_restore fun mapped tree => ?_
    simpa [restoreShows, test, found, minimized, mapped, tree] using shows
  · exact settled

def previewsSafe (windows : Windows) (id : Nat) : Bool :=
  windows.tileAnimation == some id || !windows.test id fun toplevel =>
    toplevel.mapped && toplevel.sceneTree && toplevel.minimized && windows.presentable toplevel

theorem Consistent.previewsRestore (consistent : ws.Consistent) (safe : ws.previewsSafe id = true) :
    (ws.previewsRestore id).Consistent := by
  refine consistent.update ?_
  intro _ t found ne settled mapped tree
  have before := settled mapped tree
  simp only [previewsSafe, test, found] at safe
  rw [isToplevelVisible_eq] at before ⊢
  have same : ws.presentable { t with minimized := false } = ws.presentable t := rfl
  cases minimized : t.minimized <;> simp_all

theorem consistent_switchTo (ws : Windows) (n : Int) : (ws.switchTo n).Consistent :=
  consistent_refreshNodes _

section

variable (consistent : ws.Consistent)

include consistent

theorem Consistent.moveToWorkspace (n : Int) : (ws.moveToWorkspace id n).Consistent := by
  unfold Windows.moveToWorkspace
  split
  · exact (consistent.except (some id)).refreshNode
  · exact consistent

theorem Consistent.addWorkspace : ws.addWorkspace.Consistent := by
  unfold Windows.addWorkspace
  split
  · exact consistent
  · exact consistent

theorem Consistent.removeWorkspace (n : Int) : (ws.removeWorkspace n).Consistent := by
  unfold Windows.removeWorkspace
  split
  · exact consistent
  · exact consistent_refreshNodes _

omit consistent in
theorem reorderRemap_injective (source target : Int) {first second : Int}
    (same : reorderRemap source target first = reorderRemap source target second) : first = second := by
  unfold reorderRemap at same
  grind

theorem Consistent.reorderWorkspace (source target : Int) : (ws.reorderWorkspace source target).Consistent := by
  unfold Windows.reorderWorkspace
  split
  · exact consistent
  · intro plain id' t found still _
    simp only [List.getElem?_map, Option.map_eq_some_iff] at found
    obtain ⟨before, found, rfl⟩ := found
    intro mapped tree
    have settled := consistent plain id' before found still (by simp) mapped tree
    have here : reorderRemap source target before.workspace = reorderRemap source target ws.currentWorkspace ↔
        before.workspace = ws.currentWorkspace :=
      ⟨reorderRemap_injective source target, fun same => by rw [same]⟩
    simp only [isToplevelVisible, onWorkspace] at settled ⊢
    rw [settled]
    congr 4
    rw [Bool.eq_iff_iff]
    simp [here]

theorem Consistent.setAllWorkspaces (everywhere : Bool) : (ws.setAllWorkspaces id everywhere).Consistent := by
  unfold Windows.setAllWorkspaces
  split
  · exact (consistent.except (some id)).refreshNode
  · exact consistent

end

theorem unhighlightShows_spec {except : Option Nat} (shows : ws.unhighlightShows except = true)
    {id' : Nat} {t : Toplevel} (found : ws.toplevels[id']? = some t)
    (still : ws.tileAnimation ≠ some id') (ne : except ≠ some id')
    (mapped : t.mapped = true) (tree : t.sceneTree = true) (visible : t.minimized = false) :
    ws.presentable t = true := by
  have listed : id' < ws.toplevels.length := (List.getElem?_eq_some_iff.mp found).1
  simp only [unhighlightShows, List.all_eq_true, List.mem_range] at shows
  simpa [still, ne, test, found, mapped, tree, visible] using shows id' listed

theorem settledExcept_unhighlight {except : Option Nat} (shows : ws.unhighlightShows except = true) :
    (ws.setHighlight none).SettledExcept except := by
  intro _ id' t found still ne
  simp only [setHighlight, List.getElem?_mapIdx, Option.map_eq_some_iff] at found
  obtain ⟨before, found, rfl⟩ := found
  split
  · rename_i mapped
    unfold setNodeEnabled
    split
    · rename_i tree
      intro _ _
      have present := unhighlightShows_spec shows found still ne mapped tree
      rw [isToplevelVisible_eq]
      have same : (ws.setHighlight none).presentable { before with nodeEnabled := !before.minimized } =
          ws.presentable before := rfl
      cases minimized : before.minimized <;> simp_all
    · rename_i treeless
      exact fun _ tree => absurd tree treeless
  · rename_i hidden
    exact settled_unmapped _ (by simpa using hidden)

theorem Consistent.sourceUnavailable (consistent : ws.Consistent) (id : Nat) :
    (ws.sourceUnavailable id).SettledExcept (some id) := by
  unfold Windows.sourceUnavailable
  split
  · rename_i source
    simp only [completeAnimation, source]
    intro plain id' t found _ ne
    exact consistent plain id' t found (by simpa [source] using ne) (by simp)
  · exact consistent.except (some id)

def unmapSafe (windows : Windows) (id : Nat) : Bool :=
  !windows.test id (·.mapped) || windows.highlight != some id || windows.unhighlightShows (some id)

section

variable (consistent : ws.Consistent)

include consistent

theorem Consistent.unmap (safe : ws.unmapSafe id = true) : (ws.unmap id).Consistent := by
  unfold Windows.unmap
  split
  · rename_i mapped
    split
    · rename_i highlighted
      have shows : ws.unhighlightShows (some id) = true := by
        simpa [unmapSafe, mapped, highlighted] using safe
      have shows : (ws.sourceUnavailable id).unhighlightShows (some id) = true := by
        unfold Windows.sourceUnavailable
        split
        · rename_i source
          simp_all [unhighlightShows, completeAnimation, test, presentable, onWorkspace]
        · exact shows
      exact (settledExcept_unhighlight shows).settle fun _ _ _ _ => settled_unmapped _ rfl
    · exact (consistent.sourceUnavailable id).settle fun _ _ _ _ => settled_unmapped _ rfl
  · exact consistent

theorem Consistent.loseSurface : (ws.loseSurface id).Consistent :=
  consistent.update fun _ _ _ _ _ => settled_unmapped _ rfl

theorem Consistent.loseHandle : (ws.loseHandle id).Consistent :=
  (consistent.sourceUnavailable id).settle fun _ _ _ _ => settled_unmapped _ rfl

theorem Consistent.add (xw : Bool) : (ws.add xw).Consistent := by
  intro plain id' t found still _
  simp only [Windows.add, List.getElem?_append] at found
  split at found
  · exact consistent plain id' t found still (by simp)
  · have fresh : t ∈ [create xw ws.currentWorkspace] := List.mem_of_getElem? found
    rw [List.mem_singleton.mp fresh]
    exact settled_unmapped _ rfl

theorem Consistent.associate (tc sm : Bool) (unmapped : ws.test id (·.mapped) = false) :
    (ws.associate id tc sm).Consistent := by
  unfold Windows.associate
  split
  · refine consistent.update ?_
    intro _ t found _ _
    refine settled_unmapped _ ?_
    simpa [test, found] using unmapped
  · exact consistent

end

def mapSafe (windows : Windows) (id : Nat) (requestedMaximized : Bool) : Bool :=
  !requestedMaximized || !windows.test id (·.canManage) ||
    windows.tileAnimation != some id && windows.sourceVisible &&
      !windows.test id fun toplevel => !toplevel.maximized && toplevel.minimized && !windows.presentable toplevel

theorem sourceVisible_update {f : Toplevel → Toplevel} (ne : ws.tileAnimation ≠ some id) :
    (ws.update id f).sourceVisible = ws.sourceVisible := by
  unfold sourceVisible
  rw [show (ws.update id f).tileAnimation = ws.tileAnimation from rfl]
  cases animated : ws.tileAnimation with
  | none => rfl
  | some source =>
    have apart : id ≠ source := by simpa [animated, eq_comm] using ne
    simp only [test_update, if_neg apart]
    rfl

/-- The change leaves what `mapSafe` looks at in the window that is about to be mapped. -/
def KeepsPlacement (change : Toplevel → Toplevel) : Prop :=
  ∀ toplevel, (change toplevel).canManage = toplevel.canManage ∧ (change toplevel).maximized = toplevel.maximized ∧
    (change toplevel).minimized = toplevel.minimized ∧ (change toplevel).workspace = toplevel.workspace ∧
    (change toplevel).allWorkspaces = toplevel.allWorkspaces

theorem mapSafe_update {f : Toplevel → Toplevel} (keeps : KeepsPlacement f) {big : Bool}
    (safe : ws.mapSafe id big = true) :
    (ws.update id f).mapSafe id big = true := by
  have present : ∀ t, (ws.update id f).presentable (f t) = ws.presentable t := by
    intro t
    simp [presentable, onWorkspace, update, keeps t]
  simp only [mapSafe, test_update, if_true, present, keeps _] at safe ⊢
  by_cases ne : ws.tileAnimation = some id
  · simp_all [update]
  · rwa [sourceVisible_update ne]

theorem maximizeSafe_of_mapSafe {big : Bool} (maximizes : big = true ∧ ws.test id (·.canManage) = true)
    (safe : ws.mapSafe id big = true) : ws.maximizeSafe id true = true := by
  simp only [mapSafe, maximizes, Bool.not_true, Bool.false_or, Bool.and_eq_true] at safe
  have shows := safe.2
  simp only [maximizeSafe, restoreShows, test, safe.1.2] at shows ⊢
  cases found : ws.toplevels[id]? with
  | none => rfl
  | some t =>
    simp only [found, Option.any_some] at shows ⊢
    grind

theorem Consistent.map (consistent : ws.Consistent) {big : Bool} (safe : ws.mapSafe id big = true) :
    (ws.map id big).Consistent := by
  unfold Windows.map
  split
  · have shown : ((ws.update id fun t => { t with mapped := true }).refreshNode id).Consistent :=
      (consistent.except (some id)).refreshNode
    dsimp only
    split
    · rename_i maximizes
      refine shown.setMaximized true (maximizeSafe_of_mapSafe (Bool.and_eq_true_iff.mp maximizes) ?_)
      rw [refreshNode_update]
      refine mapSafe_update ?_ safe
      intro t
      unfold setNodeEnabled
      dsimp only
      split <;> exact ⟨rfl, rfl, rfl, rfl, rfl⟩
    · exact shown
  · exact consistent

section

variable (ws : Windows)

@[simp] theorem cancelAnimation_highlight : ws.cancelAnimation.highlight = ws.highlight :=
  ws.cancelAnimation_fields.2.1

@[simp] theorem setMaximized_highlight (id : Nat) (mx : Bool) : (ws.setMaximized id mx).highlight = ws.highlight := by
  unfold Windows.setMaximized
  split <;> simp [Windows.update]

@[simp] theorem map_highlight (id : Nat) (big : Bool) : (ws.map id big).highlight = ws.highlight := by
  unfold Windows.map
  split
  · dsimp only
    split <;> simp [Windows.update, Windows.refreshNode]
  · rfl

@[simp] theorem associate_highlight (id : Nat) (tc sm : Bool) : (ws.associate id tc sm).highlight = ws.highlight := by
  unfold Windows.associate
  split <;> rfl

@[simp] theorem minimize_highlight (id : Nat) : (ws.minimize id).highlight = ws.highlight := by
  unfold Windows.minimize
  split <;> simp [Windows.update]

@[simp] theorem tile_highlight (id : Nat) (u captured : Bool) : (ws.tile id u captured).highlight = ws.highlight := by
  unfold Windows.tile Windows.startAnimation
  split
  · dsimp only
    split <;> simp [Windows.update]
  · rfl

@[simp] theorem xRequestRestore_highlight (id : Nat) : (ws.xRequestRestore id).highlight = ws.highlight := by
  unfold Windows.xRequestRestore
  split <;> rfl

theorem Consistent.of_plain {next : Windows} (same : next.highlight = ws.highlight)
    (settled : ws.highlight = none → next.Consistent) : next.Consistent :=
  fun plain => settled (same ▸ plain) plain

end

end

end Windows
end FlakeWM.Desktop
