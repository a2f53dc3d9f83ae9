import FlakeWM.Lib.Transition

/-! The session-lock part of the protocol manager.

Lock objects are numbered as the display hands them out, outputs by their place
in the compositor's list, which only grows. A signal reaches the compositor only
through a connected listener, so an event of a lock object is dispatched by
comparing it with the object the live `SessionLockState` listens to. -/

set_option autoImplicit false

namespace FlakeWM.Session

structure Output where
  alive : Bool
  enabled : Bool
  commitSeq : Nat
  deriving DecidableEq, Repr

/-- `output` is empty once the output is destroyed. -/
structure OutputPresentation where
  output : Option Nat
  minimumCommitSeq : Nat
  presented : Bool
  presentConnected : Bool
  deriving DecidableEq, Repr

structure LockSurface where
  id : Nat
  output : Nat
  mapped : Bool
  deriving DecidableEq, Repr

/-- `listening` is the lock object whose new-surface, unlock and destroy signals
are connected; the three are connected and disconnected together. -/
structure SessionLockState where
  handle : Option Nat
  listening : Option Nat
  unlocked : Bool
  lockedSent : Bool
  outputs : List OutputPresentation
  surfaces : List LockSurface
  deriving DecidableEq, Repr

structure ProtocolManager where
  sessionLock : Option SessionLockState
  sessionLocked : Bool
  /-- Whether the opaque blank has been created; it is never destroyed. -/
  sessionLockBlank : Bool
  outputs : List Output
  nextLock : Nat
  nextSurface : Nat
  /-- The lock objects told `locked`, latest first. -/
  lockedEvents : List Nat
  deriving DecidableEq, Repr

def ProtocolManager.initial : ProtocolManager where
  sessionLock := none
  sessionLocked := false
  sessionLockBlank := false
  outputs := []
  nextLock := 0
  nextSurface := 0
  lockedEvents := []

def ProtocolManager.currentLock (manager : ProtocolManager) : Option Nat :=
  manager.sessionLock.bind (·.handle)

def OutputPresentation.create (id : Nat) (output : Output) : OutputPresentation where
  output := some id
  minimumCommitSeq := output.commitSeq + 1
  presented := false
  presentConnected := true

def SessionLockState.addOutput (outputs : List Output) (lock : SessionLockState) (id : Nat) : SessionLockState :=
  match outputs[id]? with
  | none => lock
  | some output =>
    if lock.lockedSent || !output.alive || !output.enabled || lock.outputs.any (·.output == some id) then lock
    else { lock with outputs := lock.outputs ++ [.create id output] }

def SessionLockState.listen (handle : Nat) : SessionLockState where
  handle := some handle
  listening := some handle
  unlocked := false
  lockedSent := false
  outputs := []
  surfaces := []

def SessionLockState.create (outputs : List Output) (handle : Nat) : SessionLockState :=
  (List.range outputs.length).foldl (SessionLockState.addOutput outputs) (.listen handle)

namespace ProtocolManager

def maybeSendLocked (manager : ProtocolManager) : ProtocolManager :=
  match manager.sessionLock with
  | none => manager
  | some lock =>
    match lock.handle with
    | none => manager
    | some handle =>
      if lock.lockedSent || !lock.outputs.all (·.presented) then manager
      else { manager with
        sessionLock := some { lock with lockedSent := true }
        lockedEvents := handle :: manager.lockedEvents }

def startSessionLock (manager : ProtocolManager) (handle : Nat) : ProtocolManager :=
  { manager with sessionLock := some (.create manager.outputs handle) }.maybeSendLocked

def finishSessionLock (manager : ProtocolManager) (unlocked : Bool) : ProtocolManager :=
  let finished := { manager with sessionLock := none }
  if unlocked then finished else { finished with sessionLocked := true }

def unlockSession (manager : ProtocolManager) : ProtocolManager :=
  if !manager.sessionLocked then manager else { manager with sessionLocked := false }

def onDestroy (manager : ProtocolManager) (handle : Nat) : ProtocolManager :=
  match manager.sessionLock with
  | none => manager
  | some lock => if lock.listening = some handle then manager.finishSessionLock lock.unlocked else manager

def onUnlock (manager : ProtocolManager) (handle : Nat) : ProtocolManager :=
  match manager.sessionLock with
  | none => manager
  | some lock =>
    if lock.listening = some handle then
      { manager with sessionLock := some { lock with unlocked := true } }.unlockSession
    else manager

/-- A lock request creates a lock object; `blankCreated` says whether the scene
can supply the blank if it does not exist yet. -/
def beginSessionLock (manager : ProtocolManager) (blankCreated : Bool) : ProtocolManager :=
  let handle := manager.nextLock
  let manager := { manager with nextLock := handle + 1 }
  match manager.sessionLock with
  | some _ => manager.onDestroy handle
  | none =>
    let locked := { manager with sessionLocked := true }
    if !locked.sessionLockBlank && !blankCreated then
      { locked with sessionLocked := false }.onDestroy handle
    else { locked with sessionLockBlank := true }.startSessionLock handle

/-- A new surface of a lock object; `treeCreated` says whether its scene tree was. -/
def onNewSurface (manager : ProtocolManager) (handle output : Nat) (treeCreated : Bool) : ProtocolManager :=
  match manager.sessionLock with
  | none => manager
  | some lock =>
    if lock.listening = some handle then
      let surfaces := if treeCreated then
          lock.surfaces ++ [{ id := manager.nextSurface, output := output, mapped := false }]
        else lock.surfaces
      { manager with
        nextSurface := manager.nextSurface + 1
        sessionLock := some { lock with surfaces := surfaces } }
    else manager

def onSurfaceMap (manager : ProtocolManager) (id : Nat) : ProtocolManager :=
  { manager with sessionLock := manager.sessionLock.map fun lock =>
      { lock with surfaces := lock.surfaces.map fun surface =>
          if surface.id = id then { surface with mapped := true } else surface } }

def onSurfaceDestroy (manager : ProtocolManager) (id : Nat) : ProtocolManager :=
  { manager with sessionLock := manager.sessionLock.map fun lock =>
      { lock with surfaces := lock.surfaces.filter (·.id ≠ id) } }

def addOutput (manager : ProtocolManager) (commitSeq : Nat) : ProtocolManager :=
  let id := manager.outputs.length
  let outputs := manager.outputs ++ [{ alive := true, enabled := true, commitSeq := commitSeq }]
  { manager with
    outputs := outputs
    sessionLock := manager.sessionLock.map (·.addOutput outputs id) }

/-- A commit of a live output takes the next sequence number and may enable or
disable the output. -/
def commitOutput (manager : ProtocolManager) (id : Nat) (enabled : Bool) : ProtocolManager :=
  { manager with outputs := manager.outputs.modify id fun output =>
      if output.alive then { output with enabled := enabled, commitSeq := output.commitSeq + 1 } else output }

/-- Whether a present event of output `id` completes the presentation. -/
def OutputPresentation.completedBy (presentation : OutputPresentation) (id commitSeq : Nat) (presented : Bool) :
    Bool :=
  presentation.output == some id && presentation.presentConnected && presented &&
    decide (presentation.minimumCommitSeq ≤ commitSeq)

def OutputPresentation.complete (presentation : OutputPresentation) : OutputPresentation :=
  { presentation with presented := true, presentConnected := false }

def presentOutput (manager : ProtocolManager) (id commitSeq : Nat) (presented : Bool) : ProtocolManager :=
  match manager.sessionLock with
  | none => manager
  | some lock =>
    if lock.outputs.any (OutputPresentation.completedBy · id commitSeq presented) then
      let outputs := lock.outputs.map fun item =>
        if OutputPresentation.completedBy item id commitSeq presented then OutputPresentation.complete item else item
      { manager with sessionLock := some { lock with outputs := outputs } }.maybeSendLocked
    else manager

/-- Destroying an output ends its presentation and destroys the lock surfaces
shown on it. -/
def destroyOutput (manager : ProtocolManager) (id : Nat) : ProtocolManager :=
  let manager := { manager with outputs := manager.outputs.modify id fun output => { output with alive := false } }
  match manager.sessionLock with
  | none => manager
  | some lock =>
    let surfaces := lock.surfaces.filter (·.output ≠ id)
    if lock.outputs.any (·.output == some id) then
      let outputs := lock.outputs.map fun item =>
        if item.output = some id then { OutputPresentation.complete item with output := none } else item
      { manager with
        sessionLock := some { lock with outputs := outputs, surfaces := surfaces } }.maybeSendLocked
    else { manager with sessionLock := some { lock with surfaces := surfaces } }

end ProtocolManager

inductive Event where
  | lockRequest (blankCreated : Bool)
  | unlock (lock : Nat)
  | destroy (lock : Nat)
  | newSurface (lock output : Nat) (treeCreated : Bool)
  | surfaceMap (surface : Nat)
  | surfaceDestroy (surface : Nat)
  | newOutput (commitSeq : Nat)
  | outputCommit (output : Nat) (enabled : Bool)
  | outputPresent (output commitSeq : Nat) (presented : Bool)
  | outputDestroy (output : Nat)
  deriving DecidableEq, Repr

def step (manager : ProtocolManager) : Event → ProtocolManager
  | .lockRequest blankCreated => manager.beginSessionLock blankCreated
  | .unlock lock => manager.onUnlock lock
  | .destroy lock => manager.onDestroy lock
  | .newSurface lock output treeCreated => manager.onNewSurface lock output treeCreated
  | .surfaceMap surface => manager.onSurfaceMap surface
  | .surfaceDestroy surface => manager.onSurfaceDestroy surface
  | .newOutput commitSeq => manager.addOutput commitSeq
  | .outputCommit output enabled => manager.commitOutput output enabled
  | .outputPresent output commitSeq presented => manager.presentOutput output commitSeq presented
  | .outputDestroy output => manager.destroyOutput output

end FlakeWM.Session
