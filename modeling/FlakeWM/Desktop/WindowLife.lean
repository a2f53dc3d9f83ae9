import FlakeWM.Desktop.WindowEdits

/-! The life of a window: whether it is mapped, and what its client still holds of it.

Six events change that. Every other event, whatever it does to the arrangement of
the windows, leaves it to each of them. -/

set_option autoImplicit false

namespace FlakeWM.Desktop

structure Toplevel.SameLife (toplevel next : Toplevel) : Prop where
  xwayland : next.xwayland = toplevel.xwayland
  alive : next.alive = toplevel.alive
  surface : next.surface = toplevel.surface
  sceneTree : next.sceneTree = toplevel.sceneTree
  mapped : next.mapped = toplevel.mapped

section

variable {t next last : Toplevel}

theorem Toplevel.SameLife.refl (t : Toplevel) : t.SameLife t := ⟨rfl, rfl, rfl, rfl, rfl⟩

theorem Toplevel.SameLife.trans (first : t.SameLife next) (second : next.SameLife last) : t.SameLife last :=
  ⟨second.xwayland.trans first.xwayland, second.alive.trans first.alive, second.surface.trans first.surface,
    second.sceneTree.trans first.sceneTree, second.mapped.trans first.mapped⟩

theorem Toplevel.Arranged.sameLife (arranged : t.Arranged next) : t.SameLife next := by
  rw [arranged]
  exact ⟨rfl, rfl, rfl, rfl, rfl⟩

theorem Toplevel.Reshown.sameLife (reshown : t.Reshown next) : t.SameLife next :=
  reshown.arranged.sameLife

end

namespace Windows

structure KeepsLives (before after : Windows) : Prop where
  length : after.toplevels.length = before.toplevels.length
  kept : ∀ (id : Nat) next, after.toplevels[id]? = some next →
    ∃ toplevel, before.toplevels[id]? = some toplevel ∧ toplevel.SameLife next

section

variable {before middle after ws : Windows} {id : Nat}

theorem KeepsLives.refl (ws : Windows) : KeepsLives ws ws :=
  ⟨rfl, fun _ next found => ⟨next, found, .refl next⟩⟩

theorem KeepsLives.trans (left : KeepsLives before middle) (right : KeepsLives middle after) :
    KeepsLives before after := by
  refine ⟨right.length.trans left.length, fun id last found => ?_⟩
  obtain ⟨next, found, second⟩ := right.kept id last found
  obtain ⟨t, found, first⟩ := left.kept id next found
  exact ⟨t, found, first.trans second⟩

/-- A test that reads only what a window keeps has the same outcome. -/
theorem KeepsLives.test (kept : KeepsLives before after) {condition : Toplevel → Bool}
    (read : ∀ t next : Toplevel, t.SameLife next → condition next = condition t) :
    after.test id condition = before.test id condition := by
  cases found : after.toplevels[id]? with
  | none =>
    have missing : before.toplevels[id]? = none := by
      rw [List.getElem?_eq_none_iff] at found ⊢
      rwa [← kept.length]
    simp [Windows.test, found, missing]
  | some next =>
    obtain ⟨t, original, same⟩ := kept.kept id next found
    simp [Windows.test, found, original, read t next same]

theorem Edits.keepsLives {edit : Toplevel → Toplevel → Prop} (edits : Edits id edit before after)
    (kept : ∀ t next, edit t next → t.SameLife next) : KeepsLives before after := by
  refine ⟨edits.length, fun i next found => ?_⟩
  obtain ⟨t, original, f⟩ := edits.origin found
  refine ⟨t, original, ?_⟩
  rcases f with ⟨_, reshown⟩ | ⟨_, edited⟩
  · exact reshown.sameLife
  · exact kept t next edited

theorem keepsLives_arranged (edits : Edits id Toplevel.Arranged before after) : KeepsLives before after :=
  edits.keepsLives fun _ _ => Toplevel.Arranged.sameLife

theorem keepsLives_map {f : Toplevel → Toplevel} (same : after.toplevels = ws.toplevels.map f)
    (kept : ∀ t : Toplevel, t.SameLife (f t)) : KeepsLives ws after := by
  refine ⟨by simp [same], fun id next found => ?_⟩
  rw [same, List.getElem?_map, Option.map_eq_some_iff] at found
  obtain ⟨t, found, rfl⟩ := found
  exact ⟨t, found, kept t⟩

theorem keepsLives_nodes {enabled : Toplevel → Bool}
    (same : after.toplevels = ws.toplevels.map fun t => t.setNodeEnabled (enabled t)) :
    KeepsLives ws after :=
  keepsLives_map same fun t => (t.reshown_setNodeEnabled _).sameLife

theorem keepsLives_renumber (ws : Windows) (remap : Int → Int) (count current : Int) : KeepsLives ws { ws with
      workspaceCount := count
      currentWorkspace := current
      toplevels := ws.toplevels.map fun t => { t with workspace := remap t.workspace } } :=
  keepsLives_map rfl fun _ => ⟨rfl, rfl, rfl, rfl, rfl⟩

theorem keepsLives_removeWorkspace (ws : Windows) (n : Int) : KeepsLives ws (ws.removeWorkspace n) := by
  unfold removeWorkspace
  split
  · exact .refl ws
  · exact (keepsLives_renumber ws _ _ _).trans (keepsLives_nodes rfl)

theorem keepsLives_reorderWorkspace (ws : Windows) (source target : Int) :
    KeepsLives ws (ws.reorderWorkspace source target) := by
  unfold reorderWorkspace
  split
  · exact .refl ws
  · exact keepsLives_renumber ws _ _ _

theorem keepsLives_switchTo (ws : Windows) (n : Int) : KeepsLives ws (ws.switchTo n) :=
  keepsLives_nodes rfl

end

end Windows

namespace State

/-- The events in which a window appears, gains or loses its surface, is mapped
or unmapped, or is destroyed. -/
def changesLives : Event → Bool
  | .newToplevel _ | .associate .. | .dissociate _ | .destroy _ | .map .. | .unmap _ => true
  | _ => false

/-- Only the overlays send these. -/
def setsFlag : Event → Bool
  | .hideMultitaskingSources _ | .hideWindowPreviewsSources _ => true
  | _ => false

open Windows in
theorem windowsAfter_keepsLives (s : State) (e : Event) (kept : changesLives e = false) :
    KeepsLives s.windows (s.windowsAfter e) := by
  have own (s : State) (id : Nat) : KeepsLives s.windows (s.ownWorkspaceShown id) :=
    s.ownWorkspaceShown_induction id (.refl _) fun n _ => keepsLives_switchTo _ n
  by_cases arranges : arrangesWindow e = true
  · obtain ⟨_, edits⟩ := s.windowsAfter_arranged arranges
    exact keepsLives_arranged edits
  cases e with
  | newToplevel | associate | dissociate | destroy | map | unmap => cases kept
  | setHints id =>
    refine (edits_setHints _ id _ _ _).keepsLives fun t next edited => ?_
    rw [edited]
    exact ⟨rfl, rfl, rfl, rfl, rfl⟩
  | minimize | requestRestore | xRequestRestore | switcherActivate | setMaximized | tile | animationEnd | highlight
  | unhighlight => exact absurd rfl arranges
  | multitaskingActivate id =>
    dsimp only [windowsAfter]
    split
    · exact (own s id).trans (keepsLives_arranged (edits_multitaskingRestore _ id).arranged)
    · exact .refl _
  | previewsActivate id =>
    dsimp only [windowsAfter]
    split
    · exact (keepsLives_arranged (edits_previewsRestore _ id).arranged).trans
        (own { s with windows := s.windows.previewsRestore id } id)
    · exact .refl _
  | switchWorkspace n =>
    dsimp only [windowsAfter]
    split
    · exact keepsLives_switchTo _ n
    · exact .refl _
  | moveToWorkspace id n =>
    refine (edits_moveToWorkspace _ id n).keepsLives fun t next edited => ?_
    rw [edited.1]
    exact ⟨rfl, rfl, rfl, rfl, rfl⟩
  | addWorkspace =>
    dsimp only [windowsAfter]
    unfold addWorkspace
    split
    · exact .refl _
    · exact ⟨rfl, fun _ next found => ⟨next, found, .refl next⟩⟩
  | removeWorkspace n => exact keepsLives_removeWorkspace _ n
  | reorderWorkspace source target => exact keepsLives_reorderWorkspace _ source target
  | setAllWorkspaces id everywhere =>
    refine (edits_setAllWorkspaces _ id everywhere).keepsLives fun t next edited => ?_
    rw [edited.1]
    exact ⟨rfl, rfl, rfl, rfl, rfl⟩
  | setKeptAbove id above =>
    dsimp only [windowsAfter]
    split
    · refine (edits_setKeptAbove _ id above).keepsLives fun t next edited => ?_
      rw [edited]
      exact ⟨rfl, rfl, rfl, rfl, rfl⟩
    · exact .refl _
  | hideMultitaskingSources | hideWindowPreviewsSources => exact keepsLives_nodes rfl
  | _ => exact .refl _

/-! ## The end of a window in two parts

The handlers of an unmapped or destroyed window tell the overviews first and
change the window only then. -/

def hadFocus (state : State) (id : Nat) : Bool :=
  decide (state.surfaceOf id = some (.toplevel id) ∧ state.focus = some (.toplevel id))

/-- What `OnUnmap` does once the overviews have been told. -/
def finishUnmap (state : State) (id : Nat) (hadFocus : Bool) : State :=
  let hidden := { state with windows := state.windows.unmap id }
  if hadFocus then hidden.focusNextToplevel (some id) else hidden

/-- What `Dissociate` does after the unmap. -/
def finishDissociate (state : State) (id : Nat) : State :=
  { state with
    windows := state.windows.loseSurface id
    stack := state.stack.erase id }.orphan (· == Surface.toplevel id)

/-- What `OnDestroy` does once the overviews have been told. -/
def finishDestroy (state : State) (id : Nat) : State :=
  { state with
    windows := state.windows.loseHandle id
    stack := state.stack.erase id }.orphan (· == Surface.toplevel id)

section

variable (s : State) (id : Nat)

theorem unmap_eq : s.unmap id = if s.windows.test id (·.mapped) then s.finishUnmap id (s.hadFocus id) else s := by
  unfold unmap finishUnmap hadFocus
  simp only [decide_eq_true_eq]

theorem dissociate_eq : s.dissociate id =
    if s.windows.test id (·.xwayland) then (s.unmap id).finishDissociate id else s := rfl

theorem destroyToplevel_eq : s.destroyToplevel id = (s.unmap id).finishDestroy id := rfl

theorem finishUnmap_windows (hadFocus : Bool) : (s.finishUnmap id hadFocus).windows = s.windows.unmap id := by
  unfold finishUnmap
  split <;> simp

end

end State
end FlakeWM.Desktop
