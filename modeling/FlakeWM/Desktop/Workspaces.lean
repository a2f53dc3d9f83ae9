import FlakeWM.Desktop.SceneNodes
import Mathlib

/-! The workspace numbers.

Workspaces are renumbered when one is removed or moved, the current workspace
and the windows each by their own arithmetic. The numbers in use stay inside the
count over every run; moving a workspace permutes the numbers and removing one
keeps their order. -/

set_option autoImplicit false

namespace FlakeWM.Desktop
namespace Windows

/-- The numbers of the workspaces there are. -/
abbrev workspaces (windows : Windows) : Set Int := Set.Ico 0 windows.workspaceCount

/-- The count is within its bounds and every number in use is within the count. -/
structure WorkspacesValid (windows : Windows) : Prop where
  positive : 1 ≤ windows.workspaceCount
  bounded : windows.workspaceCount ≤ kMaximumWorkspaceCount
  current : windows.currentWorkspace ∈ windows.workspaces
  toplevel : ∀ toplevel ∈ windows.toplevels, toplevel.workspace ∈ windows.workspaces

theorem workspacesValid_initial : initial.WorkspacesValid where
  positive := by decide
  bounded := by decide
  current := ⟨by decide, by decide⟩
  toplevel := by simp [initial]

section

variable {ws after : Windows} {id : Nat}

variable {n count : Int} {edit : Toplevel → Toplevel → Prop}

theorem WorkspacesValid.edits (valid : ws.WorkspacesValid) (edits : Edits id edit ws after)
    (kept : ∀ t next, edit t next → t.workspace ∈ ws.workspaces → next.workspace ∈ ws.workspaces) :
    after.WorkspacesValid where
  positive := edits.count ▸ valid.positive
  bounded := edits.count ▸ valid.bounded
  current := by
    rw [edits.workspace, workspaces, edits.count]
    exact valid.current
  toplevel := by
    intro next mem
    obtain ⟨i, found⟩ := List.mem_iff_getElem?.mp mem
    obtain ⟨t, original, f⟩ := edits.origin found
    have inside := valid.toplevel t (List.mem_of_getElem? original)
    rw [workspaces, edits.count]
    rcases f with ⟨_, reshown⟩ | ⟨_, edited⟩
    · exact reshown.workspace ▸ inside
    · exact kept t next edited inside

theorem WorkspacesValid.same (valid : ws.WorkspacesValid) (edits : Edits id edit ws after)
    (kept : ∀ t next, edit t next → next.workspace = t.workspace) : after.WorkspacesValid :=
  valid.edits edits fun t next edited inside => kept t next edited ▸ inside

theorem WorkspacesValid.arranged (valid : ws.WorkspacesValid) (edits : Edits id Toplevel.Arranged ws after) :
    after.WorkspacesValid :=
  valid.same edits fun _ _ => Toplevel.Arranged.workspace

theorem WorkspacesValid.renumber (valid : ws.WorkspacesValid) {count : Int} {remap : Int → Int}
    (positive : 1 ≤ count) (bounded : count ≤ kMaximumWorkspaceCount)
    (inside : ∀ i ∈ ws.workspaces, remap i ∈ Set.Ico 0 count) :
    WorkspacesValid { ws with
      workspaceCount := count
      currentWorkspace := remap ws.currentWorkspace
      toplevels := ws.toplevels.map fun t =>
        { t with workspace := remap t.workspace } } where
  positive := positive
  bounded := bounded
  current := inside _ valid.current
  toplevel := by
    intro t mem
    obtain ⟨original, there, rfl⟩ := List.mem_map.mp mem
    exact inside _ (valid.toplevel original there)

theorem WorkspacesValid.refreshNodes (valid : ws.WorkspacesValid) : ws.refreshNodes.WorkspacesValid where
  positive := valid.positive
  bounded := valid.bounded
  current := valid.current
  toplevel := by
    intro t mem
    obtain ⟨original, there, rfl⟩ := List.mem_map.mp mem
    rw [(original.reshown_setNodeEnabled _).workspace]
    exact valid.toplevel original there

theorem WorkspacesValid.switchTo (valid : ws.WorkspacesValid) {n : Int}
    (inside : n ∈ ws.workspaces) : (ws.switchTo n).WorkspacesValid :=
  WorkspacesValid.refreshNodes { valid with current := inside }

theorem WorkspacesValid.add (valid : ws.WorkspacesValid) (xw : Bool) : (ws.add xw).WorkspacesValid where
  positive := valid.positive
  bounded := valid.bounded
  current := valid.current
  toplevel := by
    intro t mem
    rcases List.mem_append.mp mem with old | new
    · exact valid.toplevel t old
    · rw [List.mem_singleton.mp new]
      exact valid.current

theorem WorkspacesValid.addWorkspace (valid : ws.WorkspacesValid) : ws.addWorkspace.WorkspacesValid := by
  unfold Windows.addWorkspace
  split
  · exact valid
  · rename_i room
    have wider : ∀ i ∈ ws.workspaces, i ∈ Set.Ico 0 (ws.workspaceCount + 1) :=
      fun i inside => ⟨inside.1, by have := inside.2; omega⟩
    exact ⟨by have := valid.positive; dsimp only; omega, by dsimp only; omega, wider _ valid.current,
      fun t mem => wider _ (valid.toplevel t mem)⟩

theorem removeRemap_inside {i : Int} (removed : n ∈ Set.Ico 0 (count + 1)) (remains : 1 ≤ count)
    (inside : i ∈ Set.Ico 0 (count + 1)) :
    removeRemap n count i ∈ Set.Ico 0 count := by
  rw [Set.mem_Ico] at removed inside ⊢
  unfold removeRemap
  split
  · omega
  · split <;> omega

theorem removeRemap_mono {first second : Int} (removed : n ≤ count) (ordered : first ≤ second) :
    removeRemap n count first ≤ removeRemap n count second := by
  unfold removeRemap
  split_ifs <;> omega

theorem WorkspacesValid.removeWorkspace (valid : ws.WorkspacesValid) (n : Int) :
    (ws.removeWorkspace n).WorkspacesValid := by
  unfold Windows.removeWorkspace
  split
  · exact valid
  · rename_i accepted
    have bounded := valid.bounded
    refine .refreshNodes (valid.renumber (by omega) (by omega) fun i inside => ?_)
    refine removeRemap_inside ⟨by omega, by omega⟩ (by omega) ⟨inside.1, ?_⟩
    have := inside.2
    omega

theorem reorderRemap_reorderRemap (source target i : Int) :
    reorderRemap target source (reorderRemap source target i) = i := by
  unfold reorderRemap
  grind

theorem reorderRemap_inside {source target i : Int} (moved : source ∈ Set.Ico 0 count)
    (there : target ∈ Set.Ico 0 count) (inside : i ∈ Set.Ico 0 count) :
    reorderRemap source target i ∈ Set.Ico 0 count := by
  rw [Set.mem_Ico] at moved there inside ⊢
  unfold reorderRemap
  split
  · omega
  · split
    · omega
    · split <;> omega

def reorderPerm (source target : Int) : Equiv.Perm Int where
  toFun := reorderRemap source target
  invFun := reorderRemap target source
  left_inv := reorderRemap_reorderRemap source target
  right_inv := reorderRemap_reorderRemap target source

theorem reorderPerm_inside_iff {source target : Int} (moved : source ∈ Set.Ico 0 count)
    (there : target ∈ Set.Ico 0 count) (i : Int) :
    reorderPerm source target i ∈ Set.Ico 0 count ↔ i ∈ Set.Ico 0 count := by
  constructor
  · intro inside
    have back := reorderRemap_inside there moved inside
    rwa [show reorderRemap target source (reorderPerm source target i) = i from
      reorderRemap_reorderRemap source target i] at back
  · exact reorderRemap_inside moved there

theorem WorkspacesValid.reorderWorkspace (valid : ws.WorkspacesValid) (source target : Int) :
    (ws.reorderWorkspace source target).WorkspacesValid := by
  unfold Windows.reorderWorkspace
  split
  · exact valid
  · rename_i accepted
    refine valid.renumber valid.positive valid.bounded fun i => ?_
    exact reorderRemap_inside ⟨by omega, by omega⟩ ⟨by omega, by omega⟩

/-- The current workspace and the workspace of every window are sent through the map. -/
structure Renumbers (remap : Int → Int) (before after : Windows) : Prop where
  current : after.currentWorkspace = remap before.currentWorkspace
  toplevels : after.toplevels.map (·.workspace) = before.toplevels.map fun toplevel => remap toplevel.workspace

def visible (windows : Windows) : List Bool := windows.toplevels.map windows.isToplevelVisible

section

variable (ws : Windows) (source target : Int)

theorem reorderWorkspace_permutes : ∃ permutation : Equiv.Perm Int,
      (∀ i, permutation i ∈ ws.workspaces ↔ i ∈ ws.workspaces) ∧
        Renumbers permutation ws (ws.reorderWorkspace source target) := by
  unfold Windows.reorderWorkspace
  split
  · exact ⟨Equiv.refl Int, fun _ => Iff.rfl, rfl, rfl⟩
  · rename_i accepted
    refine ⟨reorderPerm source target, reorderPerm_inside_iff ⟨by omega, by omega⟩ ⟨by omega, by omega⟩, rfl, ?_⟩
    simp only [List.map_map]
    rfl

theorem reorderWorkspace_reorderWorkspace :
    (ws.reorderWorkspace source target).reorderWorkspace target source = ws := by
  by_cases refused : source < 0 ∨ target < 0 ∨ ws.workspaceCount ≤ source ∨ ws.workspaceCount ≤ target ∨ source = target
  · have again : target < 0 ∨ source < 0 ∨ ws.workspaceCount ≤ target ∨ ws.workspaceCount ≤ source ∨
        target = source := by omega
    simp only [Windows.reorderWorkspace, if_pos refused, if_pos again]
  · have again : ¬ (target < 0 ∨ source < 0 ∨ ws.workspaceCount ≤ target ∨ ws.workspaceCount ≤ source ∨
        target = source) := by omega
    simp only [Windows.reorderWorkspace, if_neg refused, if_neg again, List.map_map, Function.comp_def,
      reorderRemap_reorderRemap, List.map_id']

theorem reorderWorkspace_visible : (ws.reorderWorkspace source target).visible = ws.visible := by
  unfold Windows.reorderWorkspace
  split
  · rfl
  · simp only [visible, List.map_map]
    refine List.map_congr_left fun t _ => ?_
    -- a window is on the current workspace before exactly when it is there after
    have same : (reorderRemap source target t.workspace ==
        reorderRemap source target ws.currentWorkspace) = (t.workspace == ws.currentWorkspace) := by
      rw [Bool.eq_iff_iff, beq_iff_eq, beq_iff_eq]
      exact ⟨reorderRemap_injective source target, congrArg _⟩
    simp [Windows.isToplevelVisible, onWorkspace, same]

end

theorem removeWorkspace_renumbers (accepted : ¬ (ws.workspaceCount ≤ 1 ∨ n < 0 ∨ ws.workspaceCount ≤ n)) :
    Renumbers (removeRemap n (ws.workspaceCount - 1)) ws (ws.removeWorkspace n) := by
  unfold Windows.removeWorkspace
  rw [if_neg accepted]
  refine ⟨rfl, ?_⟩
  simp only [Windows.refreshNodes, List.map_map]
  refine List.map_congr_left fun t _ => ?_
  exact (Toplevel.reshown_setNodeEnabled _ _).workspace

theorem renumbers_removeWorkspace (ws : Windows) (n : Int) :
    ∃ remap : Int → Int, Monotone remap ∧ Renumbers remap ws (ws.removeWorkspace n) := by
  by_cases accepted : ws.workspaceCount ≤ 1 ∨ n < 0 ∨ ws.workspaceCount ≤ n
  · rw [Windows.removeWorkspace, if_pos accepted]
    exact ⟨id, monotone_id, rfl, rfl⟩
  · exact ⟨removeRemap n (ws.workspaceCount - 1), fun _ _ => removeRemap_mono (by omega),
      removeWorkspace_renumbers accepted⟩

theorem removeWorkspace_visible (ws : Windows) (n : Int) {id : Nat} (shown : ws.test id ws.isToplevelVisible = true) :
    (ws.removeWorkspace n).test id (ws.removeWorkspace n).isToplevelVisible = true := by
  obtain ⟨t, found, shown⟩ := test_iff.mp shown
  unfold Windows.removeWorkspace
  split
  · exact test_iff.mpr ⟨t, found, shown⟩
  · -- the same map is applied to the window and to the current workspace
    refine test_iff.mpr ⟨_, by simp only [Windows.refreshNodes, List.getElem?_map, found, Option.map_some]; rfl, ?_⟩
    refine (isToplevelVisible_reshown _ (Toplevel.reshown_setNodeEnabled _ _)).trans ?_
    simp only [Windows.isToplevelVisible, onWorkspace, Bool.and_eq_true, Bool.or_eq_true, beq_iff_eq] at shown ⊢
    obtain ⟨⟨⟨rest, there⟩, multitasking⟩, p⟩ := shown
    exact ⟨⟨⟨rest, there.imp_right (congrArg _)⟩, multitasking⟩, p⟩

end

end Windows

namespace State

variable {s : State}

theorem maySwitch_inside {n : Int} (accepted : s.maySwitch n = true) : n ∈ s.windows.workspaces := by
  simp only [maySwitch, Bool.and_eq_true, decide_eq_true_eq] at accepted
  exact accepted.1.1

theorem workspacesValid_ownWorkspaceShown (valid : s.windows.WorkspacesValid) (id : Nat) :
    (s.ownWorkspaceShown id).WorkspacesValid :=
  s.ownWorkspaceShown_induction id valid fun _ accepted => valid.switchTo (maySwitch_inside accepted)

open Windows in
theorem step_workspacesValid (s : State) (e : Event) (valid : s.windows.WorkspacesValid) :
    (step s e).windows.WorkspacesValid := by
  rw [step_windows]
  -- by what the event may edit
  have mapped : ∀ {ws : Windows} {id : Nat} {big : Bool}, ws.WorkspacesValid →
      (ws.map id big).WorkspacesValid := fun valid =>
    valid.same (edits_map _ _ _) fun _ _ edited => edited.1.workspace
  have unmapped : ∀ {id : Nat}, (s.windows.unmap id).WorkspacesValid := fun {id} =>
    valid.same (edits_unmap _ id) fun _ _ edited => edited.2.workspace
  by_cases arranges : arrangesWindow e = true
  · obtain ⟨_, edits⟩ := s.windowsAfter_arranged arranges
    exact valid.arranged edits
  cases e with
  | newToplevel xw => exact valid.add xw
  | associate id tc sm =>
    have associated : (s.windows.associate id tc sm).WorkspacesValid :=
      valid.same (edits_associate _ _ _ _) fun _ _ edited => edited.1.workspace
    dsimp only [windowsAfter]
    split
    · exact mapped associated
    · exact associated
  | dissociate id =>
    dsimp only [windowsAfter]
    split
    · exact unmapped.same (edits_loseSurface _ id) fun _ _ edited => by rw [edited]
    · exact valid
  | map => exact mapped valid
  | unmap => exact unmapped
  | destroy id => exact unmapped.same (edits_loseHandle _ id) fun _ _ edited => edited.workspace
  | setHints => exact valid.same (edits_setHints ..) fun _ _ edited => by rw [edited]
  | minimize | requestRestore | xRequestRestore | switcherActivate | setMaximized | tile | animationEnd | highlight
  | unhighlight => exact absurd rfl arranges
  | multitaskingActivate id =>
    dsimp only [windowsAfter]
    split
    · exact (workspacesValid_ownWorkspaceShown valid id).arranged (edits_multitaskingRestore _ id).arranged
    · exact valid
  | previewsActivate id =>
    dsimp only [windowsAfter]
    split
    · exact workspacesValid_ownWorkspaceShown (valid.arranged (edits_previewsRestore _ id).arranged) id
    · exact valid
  | switchWorkspace n =>
    dsimp only [windowsAfter]
    split
    · rename_i accepted
      exact valid.switchTo (maySwitch_inside accepted)
    · exact valid
  | moveToWorkspace id n =>
    refine valid.edits (edits_moveToWorkspace _ id n) ?_
    rintro t next ⟨_, same | inside⟩ before
    · exact same ▸ before
    · exact inside
  | addWorkspace => exact valid.addWorkspace
  | removeWorkspace n => exact valid.removeWorkspace n
  | reorderWorkspace source target => exact valid.reorderWorkspace source target
  | setAllWorkspaces id everywhere =>
    refine valid.edits (edits_setAllWorkspaces _ id everywhere) ?_
    rintro t next ⟨_, same | current⟩ before
    · exact same ▸ before
    · exact current ▸ valid.current
  | setKeptAbove id above =>
    dsimp only [windowsAfter]
    split
    · exact valid.same (edits_setKeptAbove _ id above) fun _ _ edited => by rw [edited]
    · exact valid
  | hideMultitaskingSources | hideWindowPreviewsSources => exact .refreshNodes { valid with }
  | _ => exact valid

end State

open Windows in
/-- In every state reached, the workspace numbers in use are valid; moving a
workspace permutes the numbers of the workspaces there are, is undone by moving
it back and changes nothing about which windows are visible; removing one keeps
the order of the windows' workspaces and every visible window visible. -/
theorem workspaces_stay_consistent (events : List Event) :
    let windows := (Transition.run step State.initial events).windows
    windows.WorkspacesValid ∧
      (∀ source target,
        (∃ permutation : Equiv.Perm Int,
          (∀ index, permutation index ∈ windows.workspaces ↔ index ∈ windows.workspaces) ∧
            Renumbers permutation windows (windows.reorderWorkspace source target)) ∧
        (windows.reorderWorkspace source target).reorderWorkspace target source = windows ∧
        (windows.reorderWorkspace source target).visible = windows.visible) ∧
      ∀ workspace,
        (∃ remap : Int → Int, Monotone remap ∧ Renumbers remap windows (windows.removeWorkspace workspace)) ∧
        ∀ id, windows.test id windows.isToplevelVisible = true →
          (windows.removeWorkspace workspace).test id (windows.removeWorkspace workspace).isToplevelVisible = true := by
  refine ⟨?_, fun source target => ⟨?_, ?_, ?_⟩, fun workspace => ⟨?_, fun id => ?_⟩⟩
  · exact Transition.run_invariant State.step_workspacesValid workspacesValid_initial events
  · exact reorderWorkspace_permutes _ source target
  · exact reorderWorkspace_reorderWorkspace _ source target
  · exact reorderWorkspace_visible _ source target
  · exact renumbers_removeWorkspace _ workspace
  · exact removeWorkspace_visible _ workspace

end FlakeWM.Desktop
