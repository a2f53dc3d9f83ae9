import Mathlib.Logic.Function.Basic
import FlakeWM.Desktop.Focus

/-! Surfaces of the Plasma shell and of the UKUI shell.

A client gives its window a role, a position and for a panel that hides whether it is
shown. All of it is kept in the shell surface and applied as a whole: by Plasma after
the requests that change it, by UKUI also whenever the window is updated, which is
after every commit and every change of its state.

Windows are numbered as the compositor's toplevels. A shell surface belongs to one
window and may be there before it. -/

set_option autoImplicit false

namespace FlakeWM.Protocol

/-- The largest coordinate a shell surface takes, a quarter of the largest `int32_t`. -/
def kMaximumCoordinate : Int := 536870911

def clampCoordinate (value : Int) : Int := max (-kMaximumCoordinate) (min value kMaximumCoordinate)

/-- The scene tree a window is in. -/
inductive Layer
  | toplevels
  | background
  | top
  | overlay
  deriving DecidableEq

/-- The roles of version 6, which is the one announced. -/
inductive PlasmaRole
  | normal
  | desktop
  | panel
  | onScreenDisplay
  | notification
  | tooltip
  | criticalNotification
  deriving DecidableEq

def PlasmaRole.layer : PlasmaRole → Layer
  | .desktop => .background
  | .panel => .top
  | .onScreenDisplay | .notification | .criticalNotification | .tooltip => .overlay
  | .normal => .toplevels

inductive PanelBehavior
  | alwaysVisible
  | autoHide
  | windowsCanCover
  | windowsGoBelow
  deriving DecidableEq

structure PlasmaSurface where
  x : Int := 0
  y : Int := 0
  positionSet : Bool := false
  role : PlasmaRole := .normal
  panelBehavior : PanelBehavior := .alwaysVisible
  roleSet : Bool := false
  hidden : Bool := false
  deriving DecidableEq

/-- The requests of a Plasma surface; `none` is a value its version does not have. -/
inductive PlasmaRequest
  | setOutput
  | setPosition (x y : Int)
  | setRole (role : Option PlasmaRole)
  | setPanelBehavior (behavior : Option PanelBehavior)
  | setSkipTaskbar
  | hidePanel
  | showPanel
  | setPanelTakesFocus
  | setSkipSwitcher
  deriving DecidableEq

namespace PlasmaSurface

def autoHides (surface : PlasmaSurface) : Bool := surface.role == .panel && surface.panelBehavior == .autoHide

/-- What a request makes of the surface, and whether the surface is then applied. One
that is not allowed is a protocol error. -/
def answer (surface : PlasmaSurface) : PlasmaRequest → PlasmaSurface × Bool
  | .setPosition x y =>
    ({ surface with x := clampCoordinate x, y := clampCoordinate y, positionSet := true }, true)
  | .setRole role =>
    match role with
    | some role => if surface.roleSet then (surface, false) else ({ surface with role := role, roleSet := true }, true)
    | none => (surface, false)
  | .setPanelBehavior behavior => ({ surface with panelBehavior := behavior.getD surface.panelBehavior }, false)
  | .hidePanel => if surface.autoHides then ({ surface with hidden := true }, true) else (surface, false)
  | .showPanel => if surface.autoHides then ({ surface with hidden := false }, true) else (surface, false)
  | .setOutput | .setSkipTaskbar | .setPanelTakesFocus | .setSkipSwitcher => (surface, false)

end PlasmaSurface

namespace Ukui

inductive Role
  | normal
  | desktop
  | panel
  | onScreenDisplay
  | notification
  | tooltip
  | criticalNotification
  | appletPopup
  | screenLock
  | watermark
  | systemWindow
  | inputPanel
  | logout
  | screenLockNotification
  | switcher
  | authentication
  deriving DecidableEq

def Role.layer : Role → Layer
  | .normal => .toplevels
  | .desktop => .background
  | .panel => .top
  | _ => .overlay

structure ShellSurface where
  x : Int := 0
  y : Int := 0
  positionSet : Bool := false
  role : Role := .normal
  panelAutoHide : Bool := false
  deriving DecidableEq

inductive Request
  | setOutput
  | setPosition (x y : Int)
  | setSkipTaskbar
  | setSkipSwitcher
  | setProperty
  | setRole (role : Option Role)
  | setPanelAutoHide (hide : Bool)
  | openUnderCursor (x y : Int)
  | setPanelTakesFocus
  /-- For the seat of the compositor, or for another one. -/
  | grabKeyboard (ownSeat : Bool)
  | setIcon
  | activate
  deriving DecidableEq

/-- As for Plasma. The two requests to skip update the window, which applies its surface. -/
def ShellSurface.answer (cursor : Int × Int) (surface : ShellSurface) : Request → ShellSurface × Bool
  | .setPosition x y =>
    ({ surface with x := clampCoordinate x, y := clampCoordinate y, positionSet := true }, true)
  | .openUnderCursor x y =>
    ({ surface with
        x := clampCoordinate (cursor.1 + x), y := clampCoordinate (cursor.2 + y), positionSet := true }, true)
  | .setRole role =>
    match role with
    | some role => ({ surface with role := role }, true)
    | none => (surface, false)
  | .setPanelAutoHide hide => ({ surface with panelAutoHide := hide }, true)
  | .setSkipTaskbar | .setSkipSwitcher => (surface, true)
  | .setOutput | .setProperty | .setPanelTakesFocus | .grabKeyboard _ | .setIcon | .activate => (surface, false)

def Request.activates : Request → Bool
  | .activate => true
  | .grabKeyboard ownSeat => ownSeat
  | _ => false

end Ukui

structure Shells where
  desktop : Desktop.State
  position : Nat → Int × Int
  layer : Nat → Layer
  plasma : Nat → Option PlasmaSurface
  ukui : Nat → Option Ukui.ShellSurface
  cursor : Int × Int

namespace Shells

def initial : Shells where
  desktop := .initial
  position := fun _ => (0, 0)
  layer := fun _ => .toplevels
  plasma := fun _ => none
  ukui := fun _ => none
  cursor := (0, 0)

def hasNode (state : Shells) (id : Nat) : Bool :=
  state.desktop.windows.test id fun toplevel => toplevel.surface && toplevel.sceneTree

def place (state : Shells) (id : Nat) (x y : Int) : Shells :=
  { state with position := Function.update state.position id (x, y) }

def reparent (state : Shells) (id : Nat) (layer : Layer) : Shells :=
  { state with layer := Function.update state.layer id layer }

/-- `wlr_scene_node_set_enabled` on the tree of the window. -/
def setEnabled (state : Shells) (id : Nat) (enabled : Bool) : Shells :=
  { state with desktop := state.desktop.withWindows (·.update id (·.setNodeEnabled enabled)) }

def applyPlasmaSurface (state : Shells) (id : Nat) (surface : PlasmaSurface) : Shells :=
  if state.hasNode id then
    let placed := if surface.positionSet then state.place id surface.x surface.y else state
    (placed.reparent id surface.role.layer).setEnabled id (!surface.hidden)
  else state

def applyShellSurface (state : Shells) (id : Nat) (surface : Ukui.ShellSurface) : Shells :=
  if state.hasNode id then
    (if surface.positionSet then state.place id surface.x surface.y else state).reparent id surface.role.layer
  else state

def plasmaRequest (state : Shells) (id : Nat) (request : PlasmaRequest) : Shells :=
  match state.plasma id with
  | none => state
  | some surface =>
    let stored := { state with plasma := Function.update state.plasma id (some (surface.answer request).1) }
    if (surface.answer request).2 then stored.applyPlasmaSurface id (surface.answer request).1 else stored

def ukuiRequest (state : Shells) (id : Nat) (request : Ukui.Request) : Shells :=
  match state.ukui id with
  | none => state
  | some surface =>
    let answer := surface.answer state.cursor request
    let stored := { state with ukui := Function.update state.ukui id (some answer.1) }
    let applied := if answer.2 then stored.applyShellSurface id answer.1 else stored
    if request.activates && state.desktop.windows.test id (·.mapped) then
      { applied with desktop := applied.desktop.focusToplevel id }
    else applied

/-- `UpdateToplevel` of UKUI. -/
def updateToplevel (state : Shells) (id : Nat) : Shells :=
  match state.ukui id with
  | none => state
  | some surface => state.applyShellSurface id surface

def release (state : Shells) (id : Nat) : Shells :=
  if state.hasNode id then state.reparent id .toplevels else state

/-- `move` is the user or the compositor placing a window, `update` what follows a
commit or a change of a window's state, `compositor` everything else. -/
inductive Event
  | getPlasmaSurface (id : Nat)
  | plasma (id : Nat) (request : PlasmaRequest)
  | destroyPlasmaSurface (id : Nat)
  | createShellSurface (id : Nat)
  | ukui (id : Nat) (request : Ukui.Request)
  | destroyShellSurface (id : Nat)
  | update (id : Nat)
  | move (id : Nat) (x y : Int)
  | pointer (x y : Int)
  | compositor (event : Desktop.Event)

def step (state : Shells) : Event → Shells
  | .getPlasmaSurface id =>
    if (state.plasma id).isSome then state
    else { state with plasma := Function.update state.plasma id (some {}) }
  | .plasma id request => state.plasmaRequest id request
  | .destroyPlasmaSurface id =>
    if (state.plasma id).isSome then { state.release id with plasma := Function.update state.plasma id none } else state
  | .createShellSurface id =>
    if (state.ukui id).isSome then state else { state with ukui := Function.update state.ukui id (some {}) }
  | .ukui id request => state.ukuiRequest id request
  | .destroyShellSurface id =>
    if (state.ukui id).isSome then { state.release id with ukui := Function.update state.ukui id none } else state
  | .update id => state.updateToplevel id
  | .move id x y => state.place id x y
  | .pointer x y => { state with cursor := (x, y) }
  | .compositor event => { state with desktop := Desktop.step state.desktop event }

end Shells

end FlakeWM.Protocol
