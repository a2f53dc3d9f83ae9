import FlakeWM.Desktop.Workspaces
import FlakeWM.View.Multitasking

/-! The selected workspace when another one is closed in the multitasking view.

The compositor renumbers its current workspace and the windows; the windows of the
closed workspace go to the one that takes its number, or to the last one. The view
keeps the number of the workspace it has selected and only brings it into range. So
it shows the next workspace when one further left is closed, unless the selected one
is the last. -/

set_option autoImplicit false

namespace FlakeWM.View

open FlakeWM.Input FlakeWM.Desktop

theorem removeRemap_eq_iff {closed count first second : Int} (stays : first ≠ closed) (stays' : second ≠ closed) :
    Windows.removeRemap closed count first = Windows.removeRemap closed count second ↔ first = second := by
  unfold Windows.removeRemap
  split_ifs <;> omega

/-- The number that a selected workspace keeps is its new one exactly if the closed
one was further right, or if it is the last one. -/
theorem clamp_eq_removeRemap_iff {closed count selected : Int} (several : 1 < count)
    (inside : closed ∈ Set.Ico 0 count) (valid : selected ∈ Set.Ico 0 count) (stays : selected ≠ closed) :
    max 0 (min selected (max 1 (count - 1) - 1)) = Windows.removeRemap closed (count - 1) selected ↔
      selected < closed ∨ selected = count - 1 := by
  rw [Set.mem_Ico] at inside valid
  unfold Windows.removeRemap
  rw [if_neg stays]
  split_ifs <;> omega

theorem Renumbers.test_workspace {remap : Int → Int} {before after : Windows}
    (renumbers : Windows.Renumbers remap before after) (id : Nat) (n : Int) :
    after.test id (·.workspace == n) = before.test id fun t => remap t.workspace == n := by
  have here := congrArg (·[id]?) renumbers.toplevels
  simp only [List.getElem?_map] at here
  unfold Windows.test
  cases old : before.toplevels[id]? <;> cases new : after.toplevels[id]? <;> simp_all

namespace Overview

open Windows

/-- The window lies on the workspace. -/
def holds (overview : Overview) (workspace : Int) (id : Nat) : Bool :=
  overview.sources.desktop.windows.test id (·.workspace == workspace)

/-- The left button goes up over the close button of a workspace on which it went down,
while the view is open on one of several workspaces and another one stays. -/
structure Closes (overview : Overview) (closed : Int) : Prop where
  active : overview.view.active = true
  steady : overview.view.closing = false
  hovered : overview.view.hoveredControl = .workspaceClose
  control : overview.view.pressedControl = .workspaceClose
  pressed : overview.view.pressedWorkspace = closed
  several : 1 < overview.sources.desktop.windows.workspaceCount
  inside : closed ∈ overview.sources.desktop.windows.workspaces
  selected : overview.selectedWorkspace ∈ overview.sources.desktop.windows.workspaces

/-- The workspace that was selected is selected: it has its new number, the windows it
had, and it is current if it was. -/
structure KeepsSelected (before after : Overview) (closed : Int) : Prop where
  number : after.selectedWorkspace =
    Windows.removeRemap closed (before.sources.desktop.windows.workspaceCount - 1) before.selectedWorkspace
  windows : ∀ id, before.holds before.selectedWorkspace id = true → after.holds after.selectedWorkspace id = true
  current : before.sources.desktop.windows.currentWorkspace = before.selectedWorkspace →
    after.sources.desktop.windows.currentWorkspace = after.selectedWorkspace

variable {o : Overview} {closed : Int}

/-- What the release does: the compositor removes the workspace, and the view brings
its own number into range. -/
theorem Closes.released (closes : o.Closes closed) (under target : Int) :
    (o.handleButton .left false under target true).sources.desktop.windows =
        o.sources.desktop.windows.removeWorkspace closed ∧
      (o.handleButton .left false under target true).selectedWorkspace =
        max 0 (min o.selectedWorkspace (max 1 (o.sources.desktop.windows.workspaceCount - 1) - 1)) := by
  obtain ⟨active, steady, hovered, control, rfl, several, ⟨low, high⟩, -⟩ := closes
  have released : o.handleButton .left false under target true = o.releaseClick true := by
    unfold handleButton release
    simp only [active, steady, control, Bool.not_true, Bool.false_or, Bool.false_eq_true, if_false, ne_eq, not_true]
    split <;> simp_all
  have removal : removable o.sources.desktop.windows o.view.pressedWorkspace = true := by
    simp [removable, several, low, high]
  have count : (o.sources.desktop.windows.removeWorkspace o.view.pressedWorkspace).workspaceCount =
      o.sources.desktop.windows.workspaceCount - 1 := by
    rw [removeWorkspace, if_neg (by omega)]
    rfl
  have clamp (number : Int) : (o.sources.perform (.removeWorkspace o.view.pressedWorkspace)).clampWorkspace number =
        max 0 (min number (max 1 (o.sources.desktop.windows.workspaceCount - 1) - 1)) := by
    rw [← count]
    rfl
  rw [released, releaseClick, if_pos (hovered.trans control.symm)]
  unfold click
  simp only [hovered, Int.not_lt.mpr low, if_false, removal, if_true, updateView, Bool.not_true, Bool.and_false,
    Bool.false_eq_true]
  refine ⟨rfl, ?_⟩
  simp only [refresh, perform, clamp]
  omega

section

variable {before after : Overview} {remap : Int → Int} {n : Int} {id : Nat}

theorem holds_renumbered (renumbers : Renumbers remap before.sources.desktop.windows after.sources.desktop.windows)
    (held : before.holds n id = true) (target : Int) :
    after.holds target id = (remap n == target) := by
  obtain ⟨t, found, there⟩ := Windows.test_iff.mp held
  rw [beq_iff_eq] at there
  unfold holds
  rw [Renumbers.test_workspace renumbers, test, found, Option.any_some, there]

theorem holds_of_elsewhere {last : Int} (renumbers : Renumbers (removeRemap closed last) before.sources.desktop.windows
      after.sources.desktop.windows)
    (stays : n ≠ closed) (elsewhere : before.holds closed id = false) :
    after.holds (Windows.removeRemap closed last n) id = before.holds n id := by
  unfold holds at elsewhere ⊢
  rw [Renumbers.test_workspace renumbers]
  unfold Windows.test at elsewhere ⊢
  cases found : before.sources.desktop.windows.toplevels[id]? with
  | none => rfl
  | some t =>
    rw [found] at elsewhere
    have apart : t.workspace ≠ closed := by simpa using elsewhere
    rw [Option.any_some, Option.any_some, Bool.eq_iff_iff, beq_iff_eq, beq_iff_eq]
    exact removeRemap_eq_iff apart stays

theorem holds_one (held : before.holds n id = true) {other : Int} (apart : other ≠ n) : before.holds other id = false := by
  obtain ⟨t, found, there⟩ := test_iff.mp held
  rw [beq_iff_eq] at there
  rw [holds, test, found, Option.any_some, there]
  simpa using Ne.symm apart

end

/-- After another workspace than the selected one has been closed, the selected one is
still selected exactly if the closed one was further right or the selected one is
the last. It has no other windows than before exactly if those of the closed one have
not come to it. -/
theorem closeWorkspace_keepsSelected_iff (overview : Overview) (closed under target : Int)
    (closes : overview.Closes closed) (stays : overview.selectedWorkspace ≠ closed) :
    let after := overview.handleButton .left false under target true
    let remap := Windows.removeRemap closed (overview.sources.desktop.windows.workspaceCount - 1)
    (KeepsSelected overview after closed ↔
        overview.selectedWorkspace < closed ∨
          overview.selectedWorkspace = overview.sources.desktop.windows.workspaceCount - 1) ∧
      (KeepsSelected overview after closed →
        ((∀ id, after.holds after.selectedWorkspace id = overview.holds overview.selectedWorkspace id) ↔
          ((∃ id, overview.holds closed id = true) → remap closed ≠ remap overview.selectedWorkspace))) := by
  intro after remap
  obtain ⟨windows, selected⟩ := closes.released under target
  have accepted : ¬ (overview.sources.desktop.windows.workspaceCount ≤ 1 ∨ closed < 0 ∨
      overview.sources.desktop.windows.workspaceCount ≤ closed) := by
    have several := closes.several
    obtain ⟨low, high⟩ := closes.inside
    omega
  have renumbers : Windows.Renumbers remap overview.sources.desktop.windows after.sources.desktop.windows := by
    rw [show after.sources.desktop.windows = _ from windows]
    exact Windows.removeWorkspace_renumbers accepted
  have number := clamp_eq_removeRemap_iff closes.several closes.inside closes.selected stays
  rw [← selected] at number
  constructor
  · rw [← number]
    refine ⟨fun kept => kept.number, fun same => ⟨same, fun id held => ?_, fun current => ?_⟩⟩
    · rw [holds_renumbered renumbers held, beq_iff_eq]
      exact same.symm
    · rw [renumbers.current, current]
      exact same.symm
  · intro kept
    have same : after.selectedWorkspace = remap overview.selectedWorkspace := kept.number
    rw [same]
    constructor
    · rintro unchanged ⟨id, held⟩ merged
      have absent := (unchanged id).trans (holds_one held stays)
      rw [holds_renumbered renumbers held, merged] at absent
      simp at absent
    · intro unmerged id
      cases held : overview.holds closed id with
      -- The windows of the closed workspace are the only ones that can come to another.
      | false => exact holds_of_elsewhere renumbers stays held
      | true =>
        rw [holds_renumbered renumbers held, holds_one held stays]
        simpa using unmerged ⟨id, held⟩

/-- A window on the third of four workspaces, which is the current one; the view is
opened on it, and the close button of another workspace is pressed. -/
def pressedClose (workspace : Int) : Overview :=
  Transition.run step initial
    [.desktop (.newToplevel false) 10 true, .desktop (.map 0 false) 0 true,
      .desktop (.moveToWorkspace 0 2) 0 true, .desktop (.switchWorkspace 2) 0 true,
      .toggle true, .tick true true, .motion ⟨false, 1, workspace, -1, false, false, false, true⟩ true,
      .button .left true (-1) (-1) true]

/-- The fourth workspace is closed. -/
theorem closeWorkspace_keepsSelected_fourth :
    (pressedClose 3).selectedWorkspace = 2 ∧
      KeepsSelected (pressedClose 3) ((pressedClose 3).handleButton .left false (-1) (-1) true) 3 := by
  have closes : (pressedClose 3).Closes 3 :=
    ⟨by decide +kernel, by decide +kernel, by decide +kernel, by decide +kernel, by decide +kernel, by decide +kernel,
      ⟨by decide +kernel, by decide +kernel⟩, ⟨by decide +kernel, by decide +kernel⟩⟩
  have selected : (pressedClose 3).selectedWorkspace = 2 := by decide +kernel
  refine ⟨selected, (closeWorkspace_keepsSelected_iff _ 3 (-1) (-1) closes (by omega)).1.mpr (.inl ?_)⟩
  omega

/-- The first workspace is closed: the view goes over to what was the fourth, while the
window and the compositor stay on what was the third. -/
theorem closeWorkspace_selects_other :
    let after := (pressedClose 0).handleButton .left false (-1) (-1) true
    (pressedClose 0).selectedWorkspace = 2 ∧ (pressedClose 0).sources.desktop.windows.currentWorkspace = 2 ∧
      (pressedClose 0).holds 2 0 = true ∧ after.selectedWorkspace = 2 ∧
      after.sources.desktop.windows.currentWorkspace = 1 ∧ after.holds 1 0 = true ∧ after.view.visibleEntries = [] ∧
      ¬ KeepsSelected (pressedClose 0) after 0 := by
  intro after
  refine ⟨by decide +kernel, by decide +kernel, by decide +kernel, by decide +kernel, by decide +kernel,
    by decide +kernel, by decide +kernel, fun kept => ?_⟩
  have number := kept.number
  revert number
  decide +kernel

end Overview

end FlakeWM.View
