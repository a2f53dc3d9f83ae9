import Mathlib.Data.List.Basic

/-! The compositor's windows, their workspaces and their scene nodes.

Toplevels are numbered by their place in the compositor's list, which only grows.
Workspace numbers are integers, as the protocols send them. -/

set_option autoImplicit false

namespace FlakeWM.Desktop

/-- A toplevel of either kind. The last four fields are what an X11 client or an
XDG dialog sets on its window. -/
structure Toplevel where
  xwayland : Bool
  /-- Its protocol object exists. -/
  alive : Bool
  /-- It has a `wl_surface`; an X11 window may have none. -/
  surface : Bool
  sceneTree : Bool
  nodeEnabled : Bool
  mapped : Bool
  minimized : Bool
  maximized : Bool
  tiled : Bool
  keptAbove : Bool
  allWorkspaces : Bool
  workspace : Int
  overrideRedirect : Bool
  overrideWantsFocus : Bool
  /-- It has a parent or is modal. -/
  transient : Bool
  deriving DecidableEq, Repr

namespace Toplevel

def wantsFocus (toplevel : Toplevel) : Bool :=
  if toplevel.xwayland then
    if !toplevel.alive || !toplevel.overrideRedirect then toplevel.alive else toplevel.overrideWantsFocus
  else true

def canManage (toplevel : Toplevel) : Bool :=
  if toplevel.xwayland then toplevel.alive && !toplevel.overrideRedirect else true

def canMinimize (toplevel : Toplevel) : Bool :=
  if toplevel.xwayland then toplevel.canManage && !toplevel.transient else toplevel.alive

/-- A window that has just been announced on the given workspace. -/
def create (xwayland : Bool) (workspace : Int) : Toplevel where
  xwayland := xwayland
  alive := true
  surface := !xwayland
  sceneTree := !xwayland
  nodeEnabled := true
  mapped := false
  minimized := false
  maximized := false
  tiled := false
  keptAbove := false
  allWorkspaces := false
  workspace := workspace
  overrideRedirect := false
  overrideWantsFocus := false
  transient := false

/-- `wlr_scene_node_set_enabled` on the window's tree, where it has one. -/
def setNodeEnabled (toplevel : Toplevel) (enabled : Bool) : Toplevel :=
  if toplevel.sceneTree then { toplevel with nodeEnabled := enabled } else toplevel

end Toplevel

def kInitialWorkspaceCount : Int := 4
def kMaximumWorkspaceCount : Int := 6

structure Windows where
  toplevels : List Toplevel
  workspaceCount : Int
  currentWorkspace : Int
  multitaskingSourcesHidden : Bool
  windowPreviewsSourcesHidden : Bool
  /-- The window whose scene tree is the source of the running tile animation. -/
  tileAnimation : Option Nat
  /-- The window highlighted through the UKUI protocol. -/
  highlight : Option Nat
  deriving DecidableEq, Repr

namespace Windows

def initial : Windows where
  toplevels := []
  workspaceCount := kInitialWorkspaceCount
  currentWorkspace := 0
  multitaskingSourcesHidden := false
  windowPreviewsSourcesHidden := false
  tileAnimation := none
  highlight := none

def onWorkspace (windows : Windows) (toplevel : Toplevel) : Bool :=
  toplevel.allWorkspaces || toplevel.workspace == windows.currentWorkspace

def overviewHidden (windows : Windows) : Bool :=
  windows.multitaskingSourcesHidden || windows.windowPreviewsSourcesHidden

def isToplevelVisible (windows : Windows) (toplevel : Toplevel) : Bool :=
  toplevel.mapped && !toplevel.minimized && windows.onWorkspace toplevel &&
    !windows.multitaskingSourcesHidden && !windows.windowPreviewsSourcesHidden

def update (windows : Windows) (id : Nat) (change : Toplevel → Toplevel) : Windows :=
  { windows with toplevels := windows.toplevels.modify id change }

def test (windows : Windows) (id : Nat) (condition : Toplevel → Bool) : Bool :=
  windows.toplevels[id]?.any condition

def refreshNode (windows : Windows) (id : Nat) : Windows :=
  windows.update id fun toplevel => toplevel.setNodeEnabled (windows.isToplevelVisible toplevel)

def refreshNodes (windows : Windows) : Windows :=
  { windows with toplevels := windows.toplevels.map fun toplevel =>
      toplevel.setNodeEnabled (windows.isToplevelVisible toplevel) }

/-- `TileAnimation::Complete`. -/
def completeAnimation (windows : Windows) (restoreSource : Bool) : Windows :=
  match windows.tileAnimation with
  | none => windows
  | some source =>
    let restored := if restoreSource then windows.update source (·.setNodeEnabled true) else windows
    { restored with tileAnimation := none }

def cancelAnimation (windows : Windows) : Windows := windows.completeAnimation true

def sourceUnavailable (windows : Windows) (id : Nat) : Windows :=
  if windows.tileAnimation = some id then windows.completeAnimation false else windows

/-- `TileAnimation::Start`; `captured` says whether the scene supplied the
snapshot. The buffers of a disabled tree are not visited. -/
def startAnimation (windows : Windows) (id : Nat) (captured : Bool) : Windows :=
  let windows := windows.cancelAnimation
  if captured && windows.test id (·.nodeEnabled) then
    { windows.update id (·.setNodeEnabled false) with tileAnimation := some id }
  else windows

/-- `SetHighlight`; the protocol's windows are the mapped ones. -/
def setHighlight (windows : Windows) (highlight : Option Nat) : Windows :=
  { windows with
    highlight := highlight
    toplevels := windows.toplevels.mapIdx fun id toplevel =>
      if toplevel.mapped then
        toplevel.setNodeEnabled (match highlight with
          | none => !toplevel.minimized
          | some window => id == window)
      else toplevel }

def setMaximized (windows : Windows) (id : Nat) (maximized : Bool) : Windows :=
  if windows.test id fun toplevel => toplevel.alive && toplevel.sceneTree then
    windows.cancelAnimation.update id fun toplevel =>
      if maximized == toplevel.maximized then
        if !maximized && toplevel.tiled then { toplevel with tiled := false } else toplevel
      else
        let changed := { toplevel with tiled := false, maximized := maximized }
        -- a maximize request also brings a hidden window back
        if maximized && changed.minimized then { changed.setNodeEnabled true with minimized := false }
        else changed
  else windows

/-- The guard of `Minimize`. -/
def mayMinimize (windows : Windows) (id : Nat) : Bool :=
  windows.test id fun toplevel =>
    toplevel.canMinimize && toplevel.mapped && !toplevel.minimized && toplevel.sceneTree

def minimize (windows : Windows) (id : Nat) : Windows :=
  if windows.mayMinimize id then
    windows.cancelAnimation.update id fun toplevel => { toplevel.setNodeEnabled false with minimized := true }
  else windows

/-- The guard of `TileToplevel`; `usable` says whether the output under the
pointer, or else the central one, has room for tiles. -/
def mayTile (windows : Windows) (id : Nat) (usable : Bool) : Bool :=
  usable && windows.test id fun toplevel =>
    toplevel.mapped && toplevel.alive && toplevel.canManage && toplevel.sceneTree

def tile (windows : Windows) (id : Nat) (usable captured : Bool) : Windows :=
  if windows.mayTile id usable then
    (windows.startAnimation id captured).update id fun toplevel =>
      let tiled := { toplevel with maximized := false, tiled := true }
      if tiled.minimized then { tiled.setNodeEnabled true with minimized := false } else tiled
  else windows

def requestRestore (windows : Windows) (id : Nat) : Windows :=
  if windows.test id (·.canMinimize) then
    (windows.update id fun toplevel => { toplevel with minimized := false }).refreshNode id
  else windows

def xRequestRestore (windows : Windows) (id : Nat) : Windows :=
  if windows.test id fun toplevel => toplevel.xwayland && toplevel.alive then
    windows.update id fun toplevel => { toplevel.setNodeEnabled true with minimized := false }
  else windows

def switcherRestore (windows : Windows) (id : Nat) : Windows :=
  windows.update id fun toplevel =>
    if toplevel.minimized then
      let restored := { toplevel with minimized := false }
      if windows.onWorkspace restored then restored.setNodeEnabled true else restored
    else toplevel

def multitaskingRestore (windows : Windows) (id : Nat) : Windows :=
  windows.update id fun toplevel =>
    if toplevel.minimized then { toplevel.setNodeEnabled true with minimized := false } else toplevel

def previewsRestore (windows : Windows) (id : Nat) : Windows :=
  windows.update id fun toplevel => { toplevel with minimized := false }

/-- The windows' part of `SwitchWorkspace`, past its guard. -/
def switchTo (windows : Windows) (workspace : Int) : Windows :=
  { windows with currentWorkspace := workspace }.refreshNodes

def mayMove (windows : Windows) (id : Nat) (workspace : Int) : Bool :=
  decide (0 ≤ workspace) && decide (workspace < windows.workspaceCount) &&
    windows.test id fun toplevel => toplevel.workspace != workspace

def moveToWorkspace (windows : Windows) (id : Nat) (workspace : Int) : Windows :=
  if windows.mayMove id workspace then
    (windows.update id fun toplevel => { toplevel with workspace := workspace }).refreshNode id
  else windows

def addWorkspace (windows : Windows) : Windows :=
  if kMaximumWorkspaceCount ≤ windows.workspaceCount then windows
  else { windows with workspaceCount := windows.workspaceCount + 1 }

/-- Where `RemoveWorkspace` leaves an index, `count` workspaces remaining. -/
def removeRemap (workspace count index : Int) : Int :=
  if index = workspace then min workspace (count - 1)
  else if workspace < index then index - 1
  else index

def removeWorkspace (windows : Windows) (workspace : Int) : Windows :=
  if windows.workspaceCount ≤ 1 ∨ workspace < 0 ∨ windows.workspaceCount ≤ workspace then windows
  else
    let count := windows.workspaceCount - 1
    let renumbered : Windows := { windows with
      workspaceCount := count
      toplevels := windows.toplevels.map fun toplevel =>
        { toplevel with workspace := removeRemap workspace count toplevel.workspace }
      currentWorkspace := removeRemap workspace count windows.currentWorkspace }
    renumbered.refreshNodes

def reorderRemap (source target index : Int) : Int :=
  if index = source then target
  else if source < target ∧ source < index ∧ index ≤ target then index - 1
  else if target < source ∧ target ≤ index ∧ index < source then index + 1
  else index

def reorderWorkspace (windows : Windows) (source target : Int) : Windows :=
  if source < 0 ∨ target < 0 ∨ windows.workspaceCount ≤ source ∨ windows.workspaceCount ≤ target ∨
      source = target then windows
  else { windows with
    currentWorkspace := reorderRemap source target windows.currentWorkspace
    toplevels := windows.toplevels.map fun toplevel =>
      { toplevel with workspace := reorderRemap source target toplevel.workspace } }

def setAllWorkspaces (windows : Windows) (id : Nat) (allWorkspaces : Bool) : Windows :=
  if windows.test id fun toplevel => toplevel.allWorkspaces != allWorkspaces then
    (windows.update id fun toplevel =>
      let changed := { toplevel with allWorkspaces := allWorkspaces }
      if !allWorkspaces then { changed with workspace := windows.currentWorkspace } else changed).refreshNode id
  else windows

def setMultitaskingSourcesHidden (windows : Windows) (hidden : Bool) : Windows :=
  { windows with multitaskingSourcesHidden := hidden }.refreshNodes

def setWindowPreviewsSourcesHidden (windows : Windows) (hidden : Bool) : Windows :=
  { windows with windowPreviewsSourcesHidden := hidden }.refreshNodes

def add (windows : Windows) (xwayland : Bool) : Windows :=
  { windows with toplevels := windows.toplevels ++ [.create xwayland windows.currentWorkspace] }

/-- An X11 window gains its surface; `treeCreated` says whether its scene tree
was created, which starts enabled when the surface is mapped. -/
def associate (windows : Windows) (id : Nat) (treeCreated surfaceMapped : Bool) : Windows :=
  if windows.test id fun toplevel => toplevel.xwayland && toplevel.alive && !toplevel.surface then
    windows.update id fun toplevel =>
      { toplevel with surface := true, sceneTree := treeCreated, nodeEnabled := surfaceMapped }
  else windows

/-- Whether a map event of the surface reaches `OnMap`. -/
def mayMap (windows : Windows) (id : Nat) : Bool :=
  windows.test id fun toplevel => toplevel.alive && toplevel.surface && toplevel.sceneTree && !toplevel.mapped

/-- The windows' part of `OnMap`. -/
def map (windows : Windows) (id : Nat) (requestedMaximized : Bool) : Windows :=
  if windows.mayMap id then
    let shown := (windows.update id fun toplevel => { toplevel with mapped := true }).refreshNode id
    if requestedMaximized && shown.test id (·.canManage) then shown.setMaximized id true else shown
  else windows

/-- The windows' part of `OnUnmap`. The scene disables the tree of an X11 window
with its surface. -/
def unmap (windows : Windows) (id : Nat) : Windows :=
  if windows.test id (·.mapped) then
    let unavailable := windows.sourceUnavailable id
    let plain := if windows.highlight = some id then unavailable.setHighlight none else unavailable
    plain.update id fun toplevel =>
      { toplevel with mapped := false, nodeEnabled := toplevel.nodeEnabled && !toplevel.xwayland }
  else windows

def loseSurface (windows : Windows) (id : Nat) : Windows :=
  windows.update id fun toplevel => { toplevel with surface := false, sceneTree := false, mapped := false }

def loseHandle (windows : Windows) (id : Nat) : Windows :=
  (windows.sourceUnavailable id).update id fun toplevel =>
    { toplevel with alive := false, surface := false, sceneTree := false, mapped := false }

def setHints (windows : Windows) (id : Nat) (overrideRedirect overrideWantsFocus transient : Bool) : Windows :=
  windows.update id fun toplevel => { toplevel with
    overrideRedirect := overrideRedirect && toplevel.xwayland
    overrideWantsFocus := overrideWantsFocus
    transient := transient }

def setKeptAbove (windows : Windows) (id : Nat) (keptAbove : Bool) : Windows :=
  windows.update id fun toplevel => { toplevel with keptAbove := keptAbove }

theorem test_iff {ws : Windows} {id : Nat} {condition : Toplevel → Bool} : ws.test id condition = true ↔
      ∃ t, ws.toplevels[id]? = some t ∧ condition t = true := by
  simp [test, Option.any_eq_true]

section

variable (ws : Windows) (id : Nat)

theorem test_and (first second : Toplevel → Bool) : ws.test id (fun t => first t && second t) =
      (ws.test id first && ws.test id second) := by
  unfold test
  cases ws.toplevels[id]? <;> rfl

theorem update_get (id' : Nat) (f : Toplevel → Toplevel) : (ws.update id f).toplevels[id']? =
      (ws.toplevels[id']?).map fun t => if id = id' then f t else t := by
  simp [update, List.getElem?_modify]

theorem test_update (id' : Nat) (f : Toplevel → Toplevel) (condition : Toplevel → Bool) :
    (ws.update id f).test id' condition = ws.test id' fun t => condition (if id = id' then f t else t) := by
  simp only [test, update_get, Option.any_map]

theorem refreshNode_update (f : Toplevel → Toplevel) : (ws.update id f).refreshNode id = ws.update id fun t =>
      (f t).setNodeEnabled (ws.isToplevelVisible (f t)) := by
  simp only [refreshNode, update, List.modify_modify_eq]
  rfl

theorem cancelAnimation_none {ws : Windows} (still : ws.tileAnimation = none) : ws.cancelAnimation = ws := by
  simp [cancelAnimation, completeAnimation, still]

theorem cancelAnimation_some {ws : Windows} {source : Nat} (animated : ws.tileAnimation = some source) :
    ws.cancelAnimation = { ws.update source (·.setNodeEnabled true) with tileAnimation := none } := by
  simp [cancelAnimation, completeAnimation, animated]

theorem cancelAnimation_get (id' : Nat) : ws.cancelAnimation.toplevels[id']? = (ws.toplevels[id']?).map fun t =>
      if ws.tileAnimation = some id' then t.setNodeEnabled true else t := by
  cases animated : ws.tileAnimation with
  | none => simp [cancelAnimation_none animated]
  | some source =>
    rw [cancelAnimation_some animated]
    simpa using ws.update_get source id' (·.setNodeEnabled true)

end

end Windows
end FlakeWM.Desktop
