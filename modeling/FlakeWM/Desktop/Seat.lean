import FlakeWM.Desktop.Windows
import FlakeWM.Session.Lock

/-! Keyboard focus and the events that move it.

The seat's focus is written by a handful of functions; each names a surface by
the object it belongs to. A surface whose object is gone but which itself still
exists is `other`. -/

set_option autoImplicit false

namespace FlakeWM.Desktop

inductive Interactivity where
  | none
  | exclusive
  | onDemand
  deriving DecidableEq, Repr

structure LayerSurface where
  alive : Bool
  mapped : Bool
  interactivity : Interactivity
  output : Nat
  deriving DecidableEq, Repr

inductive Surface where
  | toplevel (id : Nat)
  | layer (id : Nat)
  | lock (id : Nat)
  | other
  deriving DecidableEq, Repr

structure State where
  windows : Windows
  layers : List LayerSurface
  /-- The toplevels that own a scene tree, bottom to top. -/
  stack : List Nat
  /-- Which keyboards ever added are still plugged in. -/
  keyboards : List Bool
  /-- The seat's current keyboard. -/
  keyboard : Option Nat
  /-- A client holds a keyboard grab, for a popup or a drag; it ignores focus
  notifications. -/
  keyboardGrab : Bool
  focus : Option Surface
  session : Session.ProtocolManager
  deriving DecidableEq, Repr

namespace State

def initial : State where
  windows := .initial
  layers := []
  stack := []
  keyboards := []
  keyboard := none
  keyboardGrab := false
  focus := none
  session := .initial

def sessionLocked (state : State) : Bool := state.session.sessionLocked

def surfaceOf (state : State) (id : Nat) : Option Surface :=
  if state.windows.test id (·.surface) then some (.toplevel id) else none

/-- `wlr_seat_keyboard_notify_enter`, past the check that the seat has a keyboard. -/
def notifyEnter (state : State) (surface : Surface) : State :=
  if state.keyboardGrab then state else { state with focus := some surface }

def enter (state : State) (surface : Surface) : State :=
  if state.keyboard.isSome then state.notifyEnter surface else state

def clearFocus (state : State) : State := { state with focus := none }

def layerExclusive (state : State) (id : Nat) : Bool :=
  state.layers[id]?.any fun layer => layer.mapped && layer.alive && layer.interactivity == .exclusive

def exclusiveLayer (state : State) : Option Nat :=
  (List.range state.layers.length).reverse.find? state.layerExclusive

def focusLayerSurface (state : State) (id : Nat) : State :=
  if state.sessionLocked ||
      !(state.layers[id]?.any fun layer => layer.mapped && layer.alive && layer.interactivity != .none) then state
  else if state.focus = some (.layer id) then state
  else state.enter (.layer id)

def raise (stack : List Nat) (id : Nat) : List Nat := stack.erase id ++ [id]

def restack (state : State) (id : Nat) : List Nat :=
  let windows := state.windows
  let above := (List.range windows.toplevels.length).foldl (fun stack other =>
    if other != id && windows.test other (fun toplevel =>
        toplevel.keptAbove && toplevel.sceneTree && windows.isToplevelVisible toplevel)
    then raise stack other else stack) (raise state.stack id)
  if windows.test id (·.keptAbove) then raise above id else above

/-- `FocusToplevel` does not return at once. -/
def acceptsFocus (state : State) (id : Nat) : Bool :=
  !state.sessionLocked && state.windows.test id fun toplevel =>
    toplevel.mapped && toplevel.alive && toplevel.surface && toplevel.wantsFocus &&
      state.windows.onWorkspace toplevel && !toplevel.minimized

def focusToplevel (state : State) (id : Nat) : State :=
  if !state.acceptsFocus id then state
  else match state.exclusiveLayer with
    | some layer => state.focusLayerSurface layer
    | none =>
      if state.focus = some (.toplevel id) then state
      else { state with stack := state.restack id }.enter (.toplevel id)

/-- The windows `FocusNextToplevel` considers. -/
def eligible (windows : Windows) (id : Nat) : Bool :=
  windows.test id fun toplevel =>
    toplevel.mapped && !toplevel.minimized && toplevel.alive && windows.onWorkspace toplevel

def nextCandidate (state : State) (excluding : Option Nat) : Option Nat :=
  (List.range state.windows.toplevels.length).reverse.find? fun id =>
    excluding != some id && eligible state.windows id

def focusNextToplevel (state : State) (excluding : Option Nat) : State :=
  if state.sessionLocked then state
  else match state.exclusiveLayer with
    | some layer => state.focusLayerSurface layer
    | none =>
      match state.nextCandidate excluding with
      | some candidate => state.focusToplevel candidate
      | none => state.clearFocus

def orphan (state : State) (gone : Surface → Bool) : State :=
  { state with focus := state.focus.map fun surface => if gone surface then .other else surface }

def minimize (state : State) (id : Nat) : State :=
  if state.windows.mayMinimize id then
    let hidden := { state with windows := state.windows.minimize id }
    if state.focus = state.surfaceOf id then hidden.focusNextToplevel (some id) else hidden
  else state

def map (state : State) (id : Nat) (requestedMaximized : Bool) : State :=
  if state.windows.mayMap id then
    let shown := { state with windows := state.windows.map id requestedMaximized }
    if shown.windows.test id (·.wantsFocus) then shown.focusToplevel id else shown
  else state

def unmap (state : State) (id : Nat) : State :=
  if state.windows.test id (·.mapped) then
    let hidden := { state with windows := state.windows.unmap id }
    if state.surfaceOf id = some (.toplevel id) ∧ state.focus = some (.toplevel id) then
      hidden.focusNextToplevel (some id)
    else hidden
  else state

def addToplevel (state : State) (xwayland : Bool) : State :=
  let id := state.windows.toplevels.length
  { state with
    windows := state.windows.add xwayland
    stack := if xwayland then state.stack else state.stack ++ [id] }

def associate (state : State) (id : Nat) (treeCreated surfaceMapped requestedMaximized : Bool) : State :=
  if state.windows.test id fun toplevel => toplevel.xwayland && toplevel.alive && !toplevel.surface then
    let associated := { state with
      windows := state.windows.associate id treeCreated surfaceMapped
      stack := if treeCreated then state.stack ++ [id] else state.stack }
    if treeCreated && surfaceMapped then associated.map id requestedMaximized else associated
  else state

def dissociate (state : State) (id : Nat) : State :=
  if state.windows.test id (·.xwayland) then
    let hidden := state.unmap id
    { hidden with
      windows := hidden.windows.loseSurface id
      stack := hidden.stack.erase id }.orphan (· == Surface.toplevel id)
  else state

def destroyToplevel (state : State) (id : Nat) : State :=
  let hidden := state.unmap id
  { hidden with
    windows := hidden.windows.loseHandle id
    stack := hidden.stack.erase id }.orphan (· == Surface.toplevel id)

def tileToplevel (state : State) (id : Nat) (usable captured : Bool) : State :=
  if state.windows.mayTile id usable then
    { state with windows := state.windows.tile id usable captured }.focusToplevel id
  else state

def xRequestRestore (state : State) (id : Nat) : State :=
  let restored := { state with windows := state.windows.xRequestRestore id }
  if state.windows.test id (fun toplevel => toplevel.xwayland && toplevel.mapped && toplevel.wantsFocus) then
    restored.focusToplevel id
  else restored

/-- The guard of `SwitchWorkspace`. -/
def maySwitch (state : State) (workspace : Int) : Bool :=
  decide (0 ≤ workspace) && decide (workspace < state.windows.workspaceCount) &&
    decide (workspace ≠ state.windows.currentWorkspace) && !state.sessionLocked

def focusLeftBehind (state : State) : Bool :=
  match state.focus with
  | some (.toplevel id) => state.windows.test id fun toplevel => !state.windows.onWorkspace toplevel
  | _ => false

def switchWorkspace (state : State) (workspace : Int) : State :=
  if state.maySwitch workspace then
    let switched := { state with windows := state.windows.switchTo workspace }
    let left := if switched.focusLeftBehind then switched.clearFocus else switched
    left.focusNextToplevel none
  else state

def moveToplevelToWorkspace (state : State) (id : Nat) (workspace : Int) : State :=
  if state.windows.mayMove id workspace then
    let moved := { state with windows := state.windows.moveToWorkspace id workspace }
    if state.focus = state.surfaceOf id ∧ workspace ≠ state.windows.currentWorkspace then
      moved.focusNextToplevel (some id)
    else moved
  else state

def mayActivate (state : State) (id : Nat) : Bool :=
  state.windows.test id fun toplevel => toplevel.mapped && toplevel.alive && toplevel.surface

def switcherActivate (state : State) (id : Nat) : State :=
  if state.mayActivate id then
    { state with windows := state.windows.switcherRestore id }.focusToplevel id
  else state

def switchToOwnWorkspace (state : State) (id : Nat) : State :=
  match state.windows.toplevels[id]? with
  | none => state
  | some toplevel => state.switchWorkspace toplevel.workspace

def multitaskingActivate (state : State) (id : Nat) : State :=
  if state.mayActivate id then
    let switched := state.switchToOwnWorkspace id
    { switched with windows := switched.windows.multitaskingRestore id }.focusToplevel id
  else state

def previewsActivate (state : State) (id : Nat) : State :=
  if state.mayActivate id then
    ({ state with windows := state.windows.previewsRestore id }.switchToOwnWorkspace id).focusToplevel id
  else state

def setKeptAbove (state : State) (id : Nat) (keptAbove : Bool) : State :=
  if state.windows.test id (·.keptAbove != keptAbove) then
    { state with
      windows := state.windows.setKeptAbove id keptAbove
      stack := if keptAbove && state.windows.test id (·.sceneTree) then raise state.stack id else state.stack }
  else state

def addLayer (state : State) (output : Nat) : State :=
  { state with layers := state.layers ++
      [{ alive := true, mapped := false, interactivity := .none, output := output }] }

def mapLayer (state : State) (id : Nat) : State :=
  if state.layers[id]?.any fun layer => layer.alive && !layer.mapped then
    let mapped := { state with layers := state.layers.modify id fun layer => { layer with mapped := true } }
    if mapped.layerExclusive id then mapped.focusLayerSurface id else mapped
  else state

def unmapLayer (state : State) (id : Nat) : State :=
  if state.layers[id]?.any fun layer => layer.alive && layer.mapped then
    let unmapped := { state with layers := state.layers.modify id fun layer => { layer with mapped := false } }
    if state.focus = some (.layer id) then unmapped.focusNextToplevel none else unmapped
  else state

def commitLayer (state : State) (id : Nat) (interactivity : Interactivity) : State :=
  if state.layers[id]?.any (·.alive) then
    let committed := { state with layers := state.layers.modify id fun layer =>
      { layer with interactivity := interactivity } }
    if committed.layerExclusive id then committed.focusLayerSurface id else committed
  else state

/-- The surface is unmapped before the layer surface is destroyed. -/
def destroyLayer (state : State) (id : Nat) : State :=
  let unmapped := state.unmapLayer id
  { unmapped with layers := unmapped.layers.modify id fun layer =>
      { layer with alive := false, mapped := false } }.orphan (· == Surface.layer id)

def destroyLayersOf (state : State) (output : Nat) : State :=
  (List.range state.layers.length).foldl (fun state layer =>
    if state.layers[layer]?.any fun surface => surface.alive && surface.output == output then
      state.destroyLayer layer
    else state) state

def addKeyboard (state : State) : State :=
  let id := state.keyboards.length
  let added := { state with keyboards := state.keyboards ++ [true], keyboard := some id }
  match added.focus with
  | some surface => added.notifyEnter surface
  | none => added.focusNextToplevel none

def useKeyboard (state : State) (id : Nat) : State :=
  if state.keyboards[id]? = some true then { state with keyboard := some id } else state

def removeKeyboard (state : State) (id : Nat) : State :=
  { state with
    keyboards := state.keyboards.set id false
    keyboard := if state.keyboard = some id then none else state.keyboard }

def beginSessionLock (state : State) (blankCreated : Bool) : State :=
  let session := state.session.beginSessionLock blankCreated
  if state.session.sessionLock.isSome then { state with session := session }
  else
    let cleared := { state with session := session, keyboardGrab := false, focus := none }
    -- without a blank the session stays unlocked and the focus is given back
    if session.sessionLocked then cleared else cleared.focusNextToplevel none

def unlock (state : State) (lock : Nat) : State :=
  let unlocked := { state with session := state.session.onUnlock lock }
  if state.sessionLocked && !unlocked.sessionLocked then unlocked.focusNextToplevel none else unlocked

def lockSurfaces (session : Session.ProtocolManager) : List Session.LockSurface :=
  (session.sessionLock.map (·.surfaces)).getD []

/-- The lock surface existed in `before` and does not exist now. -/
def lockSurfaceGone (before after : Session.ProtocolManager) (surface : Surface) : Bool :=
  match surface with
  | .lock id => (lockSurfaces before).any (·.id == id) && !(lockSurfaces after).any (·.id == id)
  | _ => false

/-- A lock that dies without unlocking takes the focus with it. -/
def destroyLock (state : State) (lock : Nat) : State :=
  let session := state.session.onDestroy lock
  let ended := { state with session := session }.orphan (lockSurfaceGone state.session session)
  match state.session.sessionLock with
  | some held => if held.listening = some lock ∧ held.unlocked = false then ended.clearFocus else ended
  | none => ended

def mapLockSurface (state : State) (id : Nat) : State :=
  let mapped := { state with session := state.session.onSurfaceMap id }
  if mapped.sessionLocked && (lockSurfaces state.session).any (fun surface => surface.id == id && !surface.mapped)
  then mapped.enter (.lock id)
  else mapped

def destroyLockSurface (state : State) (id : Nat) : State :=
  let session := state.session.onSurfaceDestroy id
  { state with session := session }.orphan (lockSurfaceGone state.session session)

def destroyOutput (state : State) (id : Nat) : State :=
  let bare := state.destroyLayersOf id
  let session := bare.session.destroyOutput id
  { bare with session := session }.orphan (lockSurfaceGone bare.session session)

end State

/-- What reaches the compositor. Maximize requests, bindings, menus and titlebar
buttons all end in the same few functions, whatever their own checks. -/
inductive Event where
  | newToplevel (xwayland : Bool)
  | associate (id : Nat) (treeCreated surfaceMapped requestedMaximized : Bool)
  | dissociate (id : Nat)
  | map (id : Nat) (requestedMaximized : Bool)
  | unmap (id : Nat)
  | destroy (id : Nat)
  | setHints (id : Nat) (overrideRedirect overrideWantsFocus transient : Bool)
  | minimize (id : Nat)
  | requestRestore (id : Nat)
  | xRequestRestore (id : Nat)
  | switcherActivate (id : Nat)
  | multitaskingActivate (id : Nat)
  | previewsActivate (id : Nat)
  | setMaximized (id : Nat) (maximized : Bool)
  | tile (id : Nat) (usable captured : Bool)
  | animationEnd
  | highlight (id : Nat)
  | unhighlight (id : Nat)
  | switchWorkspace (workspace : Int)
  | moveToWorkspace (id : Nat) (workspace : Int)
  | addWorkspace
  | removeWorkspace (workspace : Int)
  | reorderWorkspace (source target : Int)
  | setAllWorkspaces (id : Nat) (allWorkspaces : Bool)
  | setKeptAbove (id : Nat) (keptAbove : Bool)
  | hideMultitaskingSources (hidden : Bool)
  | hideWindowPreviewsSources (hidden : Bool)
  | focusToplevel (id : Nat)
  | focusNextToplevel
  | newLayer (output : Nat)
  | mapLayer (id : Nat)
  | unmapLayer (id : Nat)
  | commitLayer (id : Nat) (interactivity : Interactivity)
  | destroyLayer (id : Nat)
  | focusLayerSurface (id : Nat)
  | addKeyboard
  | useKeyboard (id : Nat)
  | removeKeyboard (id : Nat)
  | beginGrab
  | endGrab
  | lockRequest (blankCreated : Bool)
  | unlock (lock : Nat)
  | destroyLock (lock : Nat)
  | newLockSurface (lock output : Nat) (treeCreated : Bool)
  | mapLockSurface (id : Nat)
  | destroyLockSurface (id : Nat)
  | newOutput (commitSeq : Nat)
  | outputCommit (output : Nat) (enabled : Bool)
  | outputPresent (output commitSeq : Nat) (presented : Bool)
  | outputDestroy (output : Nat)
  /-- A surface that belongs to nothing any more is destroyed. -/
  | surfaceGone
  deriving DecidableEq, Repr

namespace State

def withWindows (state : State) (change : Windows → Windows) : State :=
  { state with windows := change state.windows }

def withSession (state : State) (change : Session.ProtocolManager → Session.ProtocolManager) : State :=
  { state with session := change state.session }

end State

def step (state : State) : Event → State
  | .newToplevel xwayland => state.addToplevel xwayland
  | .associate id treeCreated surfaceMapped requestedMaximized =>
    state.associate id treeCreated surfaceMapped requestedMaximized
  | .dissociate id => state.dissociate id
  | .map id requestedMaximized => state.map id requestedMaximized
  | .unmap id => state.unmap id
  | .destroy id => state.destroyToplevel id
  | .setHints id overrideRedirect overrideWantsFocus transient =>
    state.withWindows (·.setHints id overrideRedirect overrideWantsFocus transient)
  | .minimize id => state.minimize id
  | .requestRestore id => state.withWindows (·.requestRestore id)
  | .xRequestRestore id => state.xRequestRestore id
  | .switcherActivate id => state.switcherActivate id
  | .multitaskingActivate id => state.multitaskingActivate id
  | .previewsActivate id => state.previewsActivate id
  | .setMaximized id maximized => state.withWindows (·.setMaximized id maximized)
  | .tile id usable captured => state.tileToplevel id usable captured
  | .animationEnd => state.withWindows (·.cancelAnimation)
  | .highlight id =>
    if state.windows.test id (·.mapped) && state.windows.highlight != some id then
      state.withWindows (·.setHighlight (some id))
    else state
  | .unhighlight id =>
    if state.windows.highlight = some id then state.withWindows (·.setHighlight none) else state
  | .switchWorkspace workspace => state.switchWorkspace workspace
  | .moveToWorkspace id workspace => state.moveToplevelToWorkspace id workspace
  | .addWorkspace => state.withWindows (·.addWorkspace)
  | .removeWorkspace workspace => state.withWindows (·.removeWorkspace workspace)
  | .reorderWorkspace source target => state.withWindows (·.reorderWorkspace source target)
  | .setAllWorkspaces id allWorkspaces => state.withWindows (·.setAllWorkspaces id allWorkspaces)
  | .setKeptAbove id keptAbove => state.setKeptAbove id keptAbove
  | .hideMultitaskingSources hidden => state.withWindows (·.setMultitaskingSourcesHidden hidden)
  | .hideWindowPreviewsSources hidden => state.withWindows (·.setWindowPreviewsSourcesHidden hidden)
  | .focusToplevel id => state.focusToplevel id
  | .focusNextToplevel => state.focusNextToplevel none
  | .newLayer output => state.addLayer output
  | .mapLayer id => state.mapLayer id
  | .unmapLayer id => state.unmapLayer id
  | .commitLayer id interactivity => state.commitLayer id interactivity
  | .destroyLayer id => state.destroyLayer id
  | .focusLayerSurface id => state.focusLayerSurface id
  | .addKeyboard => state.addKeyboard
  | .useKeyboard id => state.useKeyboard id
  | .removeKeyboard id => state.removeKeyboard id
  | .beginGrab => { state with keyboardGrab := true }
  | .endGrab => { state with keyboardGrab := false }
  | .lockRequest blankCreated => state.beginSessionLock blankCreated
  | .unlock lock => state.unlock lock
  | .destroyLock lock => state.destroyLock lock
  | .newLockSurface lock output treeCreated => state.withSession (·.onNewSurface lock output treeCreated)
  | .mapLockSurface id => state.mapLockSurface id
  | .destroyLockSurface id => state.destroyLockSurface id
  | .newOutput commitSeq => state.withSession (·.addOutput commitSeq)
  | .outputCommit output enabled => state.withSession (·.commitOutput output enabled)
  | .outputPresent output commitSeq presented => state.withSession (·.presentOutput output commitSeq presented)
  | .outputDestroy output => state.destroyOutput output
  | .surfaceGone => if state.focus = some .other then state.clearFocus else state

end FlakeWM.Desktop
