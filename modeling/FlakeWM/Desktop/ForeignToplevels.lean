import FlakeWM.Desktop.WindowLife

/-! What the protocols tell others of the windows and of the focus.

Every mapped window has a foreign-toplevel handle, and its states are sent where the
compositor calls `UpdateToplevel`. The keyboard-shortcut inhibitors are switched where
it calls `UpdateKeyboardFocus`. The handlers of the desktop are repeated here with these
calls at the places where the compositor makes them. -/

set_option autoImplicit false

namespace FlakeWM.Desktop

structure Advert where
  maximized : Bool
  minimized : Bool
  fullscreen : Bool
  activated : Bool
  deriving DecidableEq, Repr

/-- An inhibitor of a surface, or of one that can no longer have the focus. The
surface `other` is the one that has the focus. -/
structure Inhibitor where
  surface : Option Surface
  active : Bool
  deriving DecidableEq, Repr

def Surface.orphan (surface : Surface) (focus : Option Surface) (gone : Surface → Bool) : Option Surface :=
  if surface = .other ∨ gone surface = true then
    if focus = some surface then some .other else none
  else some surface

def Inhibitor.orphan (inhibitor : Inhibitor) (focus : Option Surface) (gone : Surface → Bool) : Inhibitor :=
  { inhibitor with surface := inhibitor.surface.bind (·.orphan focus gone) }

/-- `requested` is what `RequestedFullscreen` returns for a window, and `configured`
what `SetFullscreenState` has made of it. An X11 window has one flag for both. -/
structure Mirror where
  requested : Nat → Bool
  configured : Nat → Bool
  handles : Nat → Option Advert
  inhibitors : List Inhibitor

namespace Mirror

def initial : Mirror where
  requested := fun _ => false
  configured := fun _ => false
  handles := fun _ => none
  inhibitors := []

def updateKeyboardFocus (mirror : Mirror) (surface : Option Surface) : Mirror :=
  { mirror with inhibitors := mirror.inhibitors.map fun inhibitor =>
      { inhibitor with active := surface.isSome && decide (inhibitor.surface = surface) } }

/-- What `UpdateToplevel` sends of a window. -/
def advert (mirror : Mirror) (state : State) (id : Nat) (toplevel : Toplevel) : Advert where
  maximized := toplevel.maximized
  minimized := toplevel.minimized
  fullscreen := mirror.requested id
  activated := decide (state.focus = some (.toplevel id))

def updateToplevel (mirror : Mirror) (state : State) : Option Surface → Mirror
  | some (.toplevel id) =>
    match mirror.handles id, state.windows.toplevels[id]? with
    | some _, some toplevel =>
      { mirror with handles := Function.update mirror.handles id (some (mirror.advert state id toplevel)) }
    | _, _ => mirror
  | _ => mirror

def createHandle (mirror : Mirror) (id : Nat) : Mirror :=
  { mirror with handles := Function.update mirror.handles id (some ⟨false, false, false, false⟩) }

def mapToplevel (mirror : Mirror) (state : State) (id : Nat) : Mirror :=
  if (mirror.handles id).isSome then mirror
  else (mirror.createHandle id).updateToplevel state (some (.toplevel id))

def unmapToplevel (mirror : Mirror) (id : Nat) : Mirror :=
  { mirror with handles := Function.update mirror.handles id none }

/-- `SetFullscreenState`. -/
def setFullscreenState (mirror : Mirror) (xwayland : Bool) (id : Nat) (fullscreen : Bool) : Mirror :=
  { mirror with
    configured := Function.update mirror.configured id fullscreen
    requested := if xwayland then Function.update mirror.requested id fullscreen else mirror.requested }

def forgetRequests (mirror : Mirror) (xwayland : Bool) (id : Nat) : Mirror :=
  if xwayland then mirror else { mirror with requested := Function.update mirror.requested id false }

def orphan (mirror : Mirror) (focus : Option Surface) (gone : Surface → Bool) : Mirror :=
  { mirror with inhibitors := mirror.inhibitors.map (·.orphan focus gone) }

theorem updateToplevel_frame (mirror : Mirror) (s : State) (x : Option Surface) :
    mirror.updateToplevel s x = { mirror with handles := (mirror.updateToplevel s x).handles } := by
  unfold updateToplevel
  split
  · split <;> rfl
  · rfl

end Mirror

structure World where
  desktop : State
  mirror : Mirror

namespace World

def initial : World := ⟨.initial, .initial⟩

def change (world : World) (handler : State → State) : World := { world with desktop := handler world.desktop }

def updateKeyboardFocus (world : World) (surface : Option Surface) : World :=
  { world with mirror := world.mirror.updateKeyboardFocus surface }

def updateToplevel (world : World) (surface : Option Surface) : World :=
  { world with mirror := world.mirror.updateToplevel world.desktop surface }

def updateEach (world : World) (ids : List Nat) : World :=
  ids.foldl (fun world id =>
    if world.desktop.windows.test id (·.mapped) then world.updateToplevel (world.desktop.surfaceOf id) else world) world

def updateToplevels (world : World) : World := world.updateEach (List.range world.desktop.windows.toplevels.length)

def orphan (world : World) (gone : Surface → Bool) : World where
  desktop := world.desktop.orphan gone
  mirror := world.mirror.orphan world.desktop.focus gone

def focusLayerSurface (world : World) (id : Nat) : World :=
  if world.desktop.sessionLocked ||
      !(world.desktop.layers[id]?.any fun layer => layer.mapped && layer.alive && layer.interactivity != .none) then world
  else if world.desktop.focus = some (.layer id) then world
  else
    ((world.change (·.enter (.layer id))).updateKeyboardFocus (some (.layer id))).updateToplevel world.desktop.focus

def focusToplevel (world : World) (id : Nat) : World :=
  if !world.desktop.acceptsFocus id then world
  else match world.desktop.exclusiveLayer with
    | some layer => world.focusLayerSurface layer
    | none =>
        -- Focusing the focused window only tells of it again.
        if world.desktop.focus = some (.toplevel id) then
          (world.updateKeyboardFocus (some (.toplevel id))).updateToplevel (some (.toplevel id))
        else
          (((world.change fun state => { state with stack := state.restack id }.enter (.toplevel id)).updateKeyboardFocus
            (some (.toplevel id))).updateToplevel world.desktop.focus).updateToplevel (some (.toplevel id))

def focusNextToplevel (world : World) (excluding : Option Nat) : World :=
  if world.desktop.sessionLocked then world
  else match world.desktop.exclusiveLayer with
    | some layer => world.focusLayerSurface layer
    | none =>
      match world.desktop.nextCandidate excluding with
      | some candidate => world.focusToplevel candidate
      -- The window that had the focus is not updated here.
      | none => (world.change (·.clearFocus)).updateKeyboardFocus none

def setMaximized (world : World) (id : Nat) (maximized : Bool) : World :=
  let changed := world.change (·.withWindows (·.setMaximized id maximized))
  if world.desktop.windows.test id fun toplevel =>
      toplevel.alive && toplevel.sceneTree && (maximized != toplevel.maximized) then
    changed.updateToplevel (world.desktop.surfaceOf id)
  else changed

def minimize (world : World) (id : Nat) : World :=
  if world.desktop.windows.mayMinimize id then
    let hidden := world.change (·.withWindows (·.minimize id))
    let refocused := if world.desktop.focus = world.desktop.surfaceOf id then hidden.focusNextToplevel (some id) else hidden
    refocused.updateToplevel (world.desktop.surfaceOf id)
  else world

/-- The first part of `OnMap`: the window is mapped and gets its handle. -/
def announce (world : World) (id : Nat) : World :=
  let shown := world.desktop.withWindows fun windows =>
    (windows.update id fun toplevel => { toplevel with mapped := true }).refreshNode id
  ⟨shown, world.mirror.mapToplevel shown id⟩

def honorMaximized (world : World) (id : Nat) (requestedMaximized : Bool) : World :=
  if requestedMaximized && world.desktop.windows.test id (·.canManage) then world.setMaximized id true else world

def honorFullscreen (world : World) (id : Nat) : World :=
  if world.mirror.requested id then
    { world with mirror := world.mirror.setFullscreenState (world.desktop.windows.test id (·.xwayland)) id true }
  else world

/-- `OnMap`. -/
def map (world : World) (id : Nat) (requestedMaximized : Bool) : World :=
  if world.desktop.windows.mayMap id then
    let placed := ((world.announce id).honorMaximized id requestedMaximized).honorFullscreen id
    if placed.desktop.windows.test id (·.wantsFocus) then placed.focusToplevel id else placed
  else world

/-- The first part of `OnUnmap`: the window is unmapped and loses its handle. -/
def withdraw (world : World) (id : Nat) : World :=
  let hidden := world.change (·.withWindows (·.unmap id))
  { hidden with mirror := (hidden.mirror.unmapToplevel id).forgetRequests (world.desktop.windows.test id (·.xwayland)) id }

/-- `OnUnmap`. -/
def unmap (world : World) (id : Nat) : World :=
  if world.desktop.windows.test id (·.mapped) then
    if world.desktop.surfaceOf id = some (.toplevel id) ∧ world.desktop.focus = some (.toplevel id) then
      (world.withdraw id).focusNextToplevel (some id)
    else world.withdraw id
  else world

def associate (world : World) (id : Nat) (treeCreated surfaceMapped requestedMaximized : Bool) : World :=
  if world.desktop.windows.test id fun toplevel => toplevel.xwayland && toplevel.alive && !toplevel.surface then
    let associated := world.change fun state => { state with
      windows := state.windows.associate id treeCreated surfaceMapped
      stack := if treeCreated then state.stack ++ [id] else state.stack }
    if treeCreated && surfaceMapped then associated.map id requestedMaximized else associated
  else world

def dissociate (world : World) (id : Nat) : World :=
  if world.desktop.windows.test id (·.xwayland) then
    ((world.unmap id).change fun state => { state with
      windows := state.windows.loseSurface id
      stack := state.stack.erase id }).orphan (· == Surface.toplevel id)
  else world

def destroyToplevel (world : World) (id : Nat) : World :=
  ((world.unmap id).change fun state => { state with
    windows := state.windows.loseHandle id
    stack := state.stack.erase id }).orphan (· == Surface.toplevel id)

def tileToplevel (world : World) (id : Nat) (usable captured : Bool) : World :=
  if world.desktop.windows.mayTile id usable then
    ((world.change (·.withWindows (·.tile id usable captured))).focusToplevel id).updateToplevel
      (world.desktop.surfaceOf id)
  else world

def xRequestRestore (world : World) (id : Nat) : World :=
  let restored := world.change (·.withWindows (·.xRequestRestore id))
  if world.desktop.windows.test id (fun toplevel => toplevel.xwayland && toplevel.mapped && toplevel.wantsFocus) then
    restored.focusToplevel id
  else restored

def switchWorkspace (world : World) (workspace : Int) : World :=
  if world.desktop.maySwitch workspace then
    let switched := world.change (·.withWindows (·.switchTo workspace))
    let left := if switched.desktop.focusLeftBehind then switched.change (·.clearFocus) else switched
    let refocused := left.focusNextToplevel none
    (refocused.updateKeyboardFocus refocused.desktop.focus).updateToplevels
  else world

def moveToplevelToWorkspace (world : World) (id : Nat) (workspace : Int) : World :=
  if world.desktop.windows.mayMove id workspace then
    let moved := world.change (·.withWindows (·.moveToWorkspace id workspace))
    let refocused :=
      if world.desktop.focus = world.desktop.surfaceOf id ∧ workspace ≠ world.desktop.windows.currentWorkspace then
        moved.focusNextToplevel (some id)
      else moved
    refocused.updateToplevel (world.desktop.surfaceOf id)
  else world

def renumber (world : World) (handler : Windows → Windows) : World :=
  (world.change (·.withWindows handler)).updateToplevels

def setAllWorkspaces (world : World) (id : Nat) (allWorkspaces : Bool) : World :=
  if world.desktop.windows.test id fun toplevel => toplevel.allWorkspaces != allWorkspaces then
    (world.change (·.withWindows (·.setAllWorkspaces id allWorkspaces))).updateToplevel (world.desktop.surfaceOf id)
  else world

def setKeptAbove (world : World) (id : Nat) (keptAbove : Bool) : World :=
  if world.desktop.windows.test id (·.keptAbove != keptAbove) then
    (world.change (·.setKeptAbove id keptAbove)).updateToplevel (world.desktop.surfaceOf id)
  else world

def switcherActivate (world : World) (id : Nat) : World :=
  if world.desktop.mayActivate id then
    (world.change (·.withWindows (·.switcherRestore id))).focusToplevel id
  else world

def switchToOwnWorkspace (world : World) (id : Nat) : World :=
  match world.desktop.windows.toplevels[id]? with
  | none => world
  | some toplevel => world.switchWorkspace toplevel.workspace

def multitaskingActivate (world : World) (id : Nat) : World :=
  if world.desktop.mayActivate id then
    ((world.switchToOwnWorkspace id).change (·.withWindows (·.multitaskingRestore id))).focusToplevel id
  else world

def previewsActivate (world : World) (id : Nat) : World :=
  if world.desktop.mayActivate id then
    ((world.change (·.withWindows (·.previewsRestore id))).switchToOwnWorkspace id).focusToplevel id
  else world

def focusExclusive (world : World) (id : Nat) : World :=
  if world.desktop.layerExclusive id then world.focusLayerSurface id else world

def mapLayer (world : World) (id : Nat) : World :=
  if world.desktop.layers[id]?.any fun layer => layer.alive && !layer.mapped then
    (world.change fun state =>
      { state with layers := state.layers.modify id fun layer => { layer with mapped := true } }).focusExclusive id
  else world

def unmapLayer (world : World) (id : Nat) : World :=
  if world.desktop.layers[id]?.any fun layer => layer.alive && layer.mapped then
    let unmapped := world.change fun state =>
      { state with layers := state.layers.modify id fun layer => { layer with mapped := false } }
    if world.desktop.focus = some (.layer id) then unmapped.focusNextToplevel none else unmapped
  else world

def commitLayer (world : World) (id : Nat) (interactivity : Interactivity) : World :=
  if world.desktop.layers[id]?.any (·.alive) then
    (world.change fun state =>
      { state with layers := state.layers.modify id fun layer => { layer with interactivity := interactivity } }
    ).focusExclusive id
  else world

def destroyLayer (world : World) (id : Nat) : World :=
  ((world.unmapLayer id).change fun state =>
    { state with layers := state.layers.modify id fun layer =>
        { layer with alive := false, mapped := false } }).orphan (· == Surface.layer id)

def destroyLayersOf (world : World) (output : Nat) : World :=
  (List.range world.desktop.layers.length).foldl (fun world layer =>
    if world.desktop.layers[layer]?.any fun surface => surface.alive && surface.output == output then
      world.destroyLayer layer
    else world) world

def addKeyboard (world : World) : World :=
  let added := world.change fun state =>
    { state with keyboards := state.keyboards ++ [true], keyboard := some state.keyboards.length }
  match world.desktop.focus with
  | some surface => added.change (·.notifyEnter surface)
  | none => added.focusNextToplevel none

/-! ## The session lock

The functions of the lock change the focus and tell nobody. -/

def beginSessionLock (world : World) (blankCreated : Bool) : World :=
  let session := world.desktop.session.beginSessionLock blankCreated
  if world.desktop.session.sessionLock.isSome then world.change fun state => { state with session := session }
  else
    let cleared := world.change fun state => { state with session := session, keyboardGrab := false, focus := none }
    if session.sessionLocked then cleared else cleared.focusNextToplevel none

def unlock (world : World) (lock : Nat) : World :=
  let unlocked := world.change fun state => { state with session := state.session.onUnlock lock }
  if world.desktop.sessionLocked && !unlocked.desktop.sessionLocked then unlocked.focusNextToplevel none else unlocked

def changeSession (world : World) (session : Session.ProtocolManager) : World :=
  (world.change fun state => { state with session := session }).orphan
    (State.lockSurfaceGone world.desktop.session session)

def destroyLock (world : World) (lock : Nat) : World :=
  let ended := world.changeSession (world.desktop.session.onDestroy lock)
  match world.desktop.session.sessionLock with
  | some held => if held.listening = some lock ∧ held.unlocked = false then ended.change (·.clearFocus) else ended
  | none => ended

def destroyLockSurface (world : World) (id : Nat) : World :=
  world.changeSession (world.desktop.session.onSurfaceDestroy id)

def destroyOutput (world : World) (id : Nat) : World :=
  let bare := world.destroyLayersOf id
  bare.changeSession (bare.desktop.session.destroyOutput id)

def surfaceGone (world : World) : World :=
  if world.desktop.focus = some .other then
    { desktop := world.desktop.clearFocus
      mirror := { world.mirror with
        inhibitors := world.mirror.inhibitors.filter fun inhibitor => inhibitor.surface ≠ some .other } }
  else world

def handle (world : World) : Event → World
  | .associate id treeCreated surfaceMapped requestedMaximized =>
    world.associate id treeCreated surfaceMapped requestedMaximized
  | .dissociate id => world.dissociate id
  | .map id requestedMaximized => world.map id requestedMaximized
  | .unmap id => world.unmap id
  | .destroy id => world.destroyToplevel id
  | .minimize id => world.minimize id
  | .xRequestRestore id => world.xRequestRestore id
  | .switcherActivate id => world.switcherActivate id
  | .multitaskingActivate id => world.multitaskingActivate id
  | .previewsActivate id => world.previewsActivate id
  | .setMaximized id maximized => world.setMaximized id maximized
  | .tile id usable captured => world.tileToplevel id usable captured
  | .switchWorkspace workspace => world.switchWorkspace workspace
  | .moveToWorkspace id workspace => world.moveToplevelToWorkspace id workspace
  | .removeWorkspace workspace => world.renumber (·.removeWorkspace workspace)
  | .reorderWorkspace source target => world.renumber (·.reorderWorkspace source target)
  | .setAllWorkspaces id allWorkspaces => world.setAllWorkspaces id allWorkspaces
  | .setKeptAbove id keptAbove => world.setKeptAbove id keptAbove
  | .focusToplevel id => world.focusToplevel id
  | .focusNextToplevel => world.focusNextToplevel none
  | .mapLayer id => world.mapLayer id
  | .unmapLayer id => world.unmapLayer id
  | .commitLayer id interactivity => world.commitLayer id interactivity
  | .destroyLayer id => world.destroyLayer id
  | .focusLayerSurface id => world.focusLayerSurface id
  | .addKeyboard => world.addKeyboard
  | .lockRequest blankCreated => world.beginSessionLock blankCreated
  | .unlock lock => world.unlock lock
  | .destroyLock lock => world.destroyLock lock
  | .destroyLockSurface id => world.destroyLockSurface id
  | .outputDestroy output => world.destroyOutput output
  | .surfaceGone => world.surfaceGone
  -- The other handlers call neither function.
  | event => world.change (step · event)

end World

/-- Beside the events of the desktop, a client asks for fullscreen or not, others ask for
it through a protocol, a window is updated for its title, its position or a commit, and
inhibitors come and go. -/
inductive WorldEvent where
  | desktop (event : Event)
  | requestFullscreen (id : Nat) (fullscreen initialized : Bool)
  | foreignFullscreen (id : Nat) (fullscreen : Bool)
  | refresh (id : Nat)
  | newInhibitor (surface : Option Surface)
  | destroyInhibitor (index : Nat)
  deriving DecidableEq, Repr

namespace World

/-- The request of a client. wlroots sets the flag of an X11 window before it reports the
request, which the handler then ignores. Before an XDG window is initialized its
request is only kept for `OnMap`. -/
def requestFullscreen (world : World) (id : Nat) (fullscreen initialized : Bool) : World :=
  if world.desktop.windows.test id (·.xwayland) then
    { world with mirror := world.mirror.setFullscreenState true id fullscreen }
  else
    let asked := { world with mirror := { world.mirror with
      requested := Function.update world.mirror.requested id fullscreen } }
    if initialized || world.desktop.windows.test id (·.mapped) then
      { asked with mirror := asked.mirror.setFullscreenState false id fullscreen }.updateToplevel
        (world.desktop.surfaceOf id)
    else asked

/-- `RequestFullscreen` of the protocol manager. -/
def foreignFullscreen (world : World) (id : Nat) (fullscreen : Bool) : World :=
  if world.desktop.windows.test id (·.surface) then
    { world with mirror :=
        world.mirror.setFullscreenState (world.desktop.windows.test id (·.xwayland)) id fullscreen }.updateToplevel
      (world.desktop.surfaceOf id)
  else world

/-- `OnNewShortcutsInhibitor`. -/
def newInhibitor (world : World) (surface : Option Surface) : World :=
  let named := surface.bind (·.orphan world.desktop.focus fun _ => false)
  let inhibitor : Inhibitor := ⟨named, named.isSome && decide (named = world.desktop.focus)⟩
  { world with mirror := { world.mirror with inhibitors := world.mirror.inhibitors ++ [inhibitor] } }

def step (world : World) : WorldEvent → World
  | .desktop event => world.handle event
  | .requestFullscreen id fullscreen initialized => world.requestFullscreen id fullscreen initialized
  | .foreignFullscreen id fullscreen => world.foreignFullscreen id fullscreen
  | .refresh id => world.updateToplevel (world.desktop.surfaceOf id)
  | .newInhibitor surface => world.newInhibitor surface
  | .destroyInhibitor index =>
    { world with mirror := { world.mirror with inhibitors := world.mirror.inhibitors.eraseIdx index } }

section

variable (w : World)

variable (x : Option Surface) (f : State → State) (id : Nat) (big : Bool)

@[simp] theorem change_desktop : (w.change f).desktop = f w.desktop := rfl

@[simp] theorem change_mirror : (w.change f).mirror = w.mirror := rfl

@[simp] theorem updateKeyboardFocus_desktop : (w.updateKeyboardFocus x).desktop = w.desktop := rfl

@[simp] theorem updateToplevel_desktop : (w.updateToplevel x).desktop = w.desktop := rfl

@[simp] theorem orphan_desktop (gone : Surface → Bool) : (w.orphan gone).desktop = w.desktop.orphan gone := rfl

theorem updateEach_cons (rest : List Nat) : w.updateEach (id :: rest) =
    (if w.desktop.windows.test id (·.mapped) then w.updateToplevel (w.desktop.surfaceOf id)
      else w).updateEach rest := rfl

@[simp] theorem updateEach_desktop (ids : List Nat) : (w.updateEach ids).desktop = w.desktop := by
  induction ids generalizing w with
  | nil => rfl
  | cons id rest ih =>
    rw [updateEach_cons, ih]
    split <;> rfl

@[simp] theorem updateToplevels_desktop : w.updateToplevels.desktop = w.desktop := updateEach_desktop w _

@[simp] theorem focusLayerSurface_desktop : (w.focusLayerSurface id).desktop = w.desktop.focusLayerSurface id := by
  unfold focusLayerSurface State.focusLayerSurface
  split
  · rfl
  · split <;> rfl

@[simp] theorem focusToplevel_desktop : (w.focusToplevel id).desktop = w.desktop.focusToplevel id := by
  unfold focusToplevel State.focusToplevel
  split
  · rfl
  · cases w.desktop.exclusiveLayer with
    | some layer => exact focusLayerSurface_desktop w layer
    | none =>
      simp only
      split <;> rfl

@[simp] theorem focusNextToplevel_desktop (ex : Option Nat) :
    (w.focusNextToplevel ex).desktop = w.desktop.focusNextToplevel ex := by
  unfold focusNextToplevel State.focusNextToplevel
  split
  · rfl
  · cases w.desktop.exclusiveLayer with
    | some layer => exact focusLayerSurface_desktop w layer
    | none =>
      cases w.desktop.nextCandidate ex with
      | some candidate => exact focusToplevel_desktop w candidate
      | none => rfl

@[simp] theorem setMaximized_desktop (mx : Bool) :
    (w.setMaximized id mx).desktop = w.desktop.withWindows (·.setMaximized id mx) := by
  unfold setMaximized
  split <;> rfl

@[simp] theorem minimize_desktop : (w.minimize id).desktop = w.desktop.minimize id := by
  unfold minimize State.minimize
  split
  · simp only [updateToplevel_desktop]
    split
    · simp [State.withWindows]
    · rfl
  · rfl

@[simp] theorem honorMaximized_desktop : (w.honorMaximized id big).desktop = w.desktop.withWindows fun ws =>
      if big && ws.test id (·.canManage) then ws.setMaximized id true else ws := by
  unfold honorMaximized State.withWindows
  split <;> rename_i chosen <;> simp [chosen, State.withWindows]

@[simp] theorem honorFullscreen_desktop : (w.honorFullscreen id).desktop = w.desktop := by
  unfold honorFullscreen
  split <;> rfl

@[simp] theorem map_desktop : (w.map id big).desktop = w.desktop.map id big := by
  unfold map State.map
  split
  · rename_i accepted
    have placed : (((w.announce id).honorMaximized id big).honorFullscreen id).desktop =
        { w.desktop with windows := w.desktop.windows.map id big } := by
      rw [honorFullscreen_desktop, honorMaximized_desktop, Windows.map, if_pos accepted]
      rfl
    simp only [placed]
    split
    · rw [focusToplevel_desktop, placed]
    · exact placed
  · rfl

@[simp] theorem unmap_desktop : (w.unmap id).desktop = w.desktop.unmap id := by
  unfold unmap State.unmap
  split
  · simp only
    split
    · exact focusNextToplevel_desktop (w.withdraw id) (some id)
    · rfl
  · rfl

@[simp] theorem associate_desktop (tc sm big : Bool) : (w.associate id tc sm big).desktop =
      w.desktop.associate id tc sm big := by
  unfold associate State.associate
  split
  · simp only
    split
    · exact map_desktop _ id big
    · rfl
  · rfl

@[simp] theorem dissociate_desktop : (w.dissociate id).desktop = w.desktop.dissociate id := by
  unfold dissociate State.dissociate
  split
  · simp
  · rfl

@[simp] theorem destroyToplevel_desktop : (w.destroyToplevel id).desktop = w.desktop.destroyToplevel id := by
  simp [destroyToplevel, State.destroyToplevel]

@[simp] theorem tileToplevel_desktop (u captured : Bool) :
    (w.tileToplevel id u captured).desktop = w.desktop.tileToplevel id u captured := by
  unfold tileToplevel State.tileToplevel
  split
  · simp [State.withWindows]
  · rfl

@[simp] theorem xRequestRestore_desktop : (w.xRequestRestore id).desktop = w.desktop.xRequestRestore id := by
  unfold xRequestRestore State.xRequestRestore
  split
  · exact focusToplevel_desktop _ id
  · rfl

@[simp] theorem switchWorkspace_desktop (n : Int) : (w.switchWorkspace n).desktop = w.desktop.switchWorkspace n := by
  unfold switchWorkspace State.switchWorkspace
  split
  · simp only [updateToplevels_desktop, updateKeyboardFocus_desktop, focusNextToplevel_desktop]
    congr 1
    split <;> rename_i left <;> simp only [change_desktop, State.withWindows] at left <;> simp [left, State.withWindows]
  · rfl

@[simp] theorem moveToplevelToWorkspace_desktop (n : Int) :
    (w.moveToplevelToWorkspace id n).desktop = w.desktop.moveToplevelToWorkspace id n := by
  unfold moveToplevelToWorkspace State.moveToplevelToWorkspace
  split
  · simp only [updateToplevel_desktop]
    split
    · exact focusNextToplevel_desktop _ (some id)
    · rfl
  · rfl

@[simp] theorem setAllWorkspaces_desktop (everywhere : Bool) :
    (w.setAllWorkspaces id everywhere).desktop = w.desktop.withWindows (·.setAllWorkspaces id everywhere) := by
  unfold setAllWorkspaces
  split
  · rfl
  · rename_i same
    simp [State.withWindows, Windows.setAllWorkspaces, same]

@[simp] theorem setKeptAbove_desktop (above : Bool) :
    (w.setKeptAbove id above).desktop = w.desktop.setKeptAbove id above := by
  unfold setKeptAbove
  split
  · rfl
  · rename_i same
    simp [State.setKeptAbove, same]

@[simp] theorem switcherActivate_desktop : (w.switcherActivate id).desktop = w.desktop.switcherActivate id := by
  unfold switcherActivate State.switcherActivate
  split
  · exact focusToplevel_desktop _ id
  · rfl

@[simp] theorem switchToOwnWorkspace_desktop :
    (w.switchToOwnWorkspace id).desktop = w.desktop.switchToOwnWorkspace id := by
  unfold switchToOwnWorkspace State.switchToOwnWorkspace
  cases w.desktop.windows.toplevels[id]? with
  | none => rfl
  | some t => exact switchWorkspace_desktop w t.workspace

@[simp] theorem multitaskingActivate_desktop :
    (w.multitaskingActivate id).desktop = w.desktop.multitaskingActivate id := by
  unfold multitaskingActivate State.multitaskingActivate
  split
  · simp [State.withWindows]
  · rfl

@[simp] theorem previewsActivate_desktop : (w.previewsActivate id).desktop = w.desktop.previewsActivate id := by
  unfold previewsActivate State.previewsActivate
  split
  · simp [State.withWindows]
  · rfl

@[simp] theorem focusExclusive_desktop : (w.focusExclusive id).desktop =
      if w.desktop.layerExclusive id then w.desktop.focusLayerSurface id else w.desktop := by
  unfold focusExclusive
  split
  · exact focusLayerSurface_desktop w id
  · rfl

@[simp] theorem mapLayer_desktop : (w.mapLayer id).desktop = w.desktop.mapLayer id := by
  unfold mapLayer State.mapLayer
  split
  · exact focusExclusive_desktop _ id
  · rfl

@[simp] theorem unmapLayer_desktop : (w.unmapLayer id).desktop = w.desktop.unmapLayer id := by
  unfold unmapLayer State.unmapLayer
  split
  · simp only
    split
    · exact focusNextToplevel_desktop _ none
    · rfl
  · rfl

@[simp] theorem commitLayer_desktop (interactivity : Interactivity) :
    (w.commitLayer id interactivity).desktop = w.desktop.commitLayer id interactivity := by
  unfold commitLayer State.commitLayer
  split
  · exact focusExclusive_desktop _ id
  · rfl

@[simp] theorem destroyLayer_desktop : (w.destroyLayer id).desktop = w.desktop.destroyLayer id := by
  simp [destroyLayer, State.destroyLayer]

@[simp] theorem destroyLayersOf_desktop (o : Nat) : (w.destroyLayersOf o).desktop = w.desktop.destroyLayersOf o := by
  unfold destroyLayersOf State.destroyLayersOf
  generalize List.range w.desktop.layers.length = layers
  induction layers generalizing w with
  | nil => rfl
  | cons layer rest ih =>
    rw [List.foldl_cons, List.foldl_cons, ih]
    split
    · rw [destroyLayer_desktop]
    · rfl

@[simp] theorem addKeyboard_desktop : w.addKeyboard.desktop = w.desktop.addKeyboard := by
  unfold addKeyboard State.addKeyboard
  cases focused : w.desktop.focus with
  | some | none => simp [focused]

@[simp] theorem beginSessionLock_desktop (bc : Bool) :
    (w.beginSessionLock bc).desktop = w.desktop.beginSessionLock bc := by
  unfold beginSessionLock State.beginSessionLock
  simp only
  split
  · rfl
  · split
    · rfl
    · exact focusNextToplevel_desktop _ none

@[simp] theorem unlock_desktop (l : Nat) : (w.unlock l).desktop = w.desktop.unlock l := by
  unfold unlock State.unlock
  simp only
  split
  · rename_i released
    exact (focusNextToplevel_desktop _ none).trans (if_pos released).symm
  · rename_i still
    exact (if_neg still).symm

@[simp] theorem destroyLock_desktop (l : Nat) : (w.destroyLock l).desktop = w.desktop.destroyLock l := by
  unfold destroyLock State.destroyLock
  cases w.desktop.session.sessionLock with
  | none => rfl
  | some =>
    simp only
    split <;> rfl

@[simp] theorem destroyOutput_desktop : (w.destroyOutput id).desktop = w.desktop.destroyOutput id := by
  simp [destroyOutput, State.destroyOutput, changeSession]

theorem handle_desktop (e : Event) : (w.handle e).desktop = FlakeWM.Desktop.step w.desktop e := by
  cases e <;> simp [handle, FlakeWM.Desktop.step, renumber]
  case destroyLockSurface id => rfl
  case surfaceGone =>
    unfold surfaceGone
    split <;> rfl

end

end World

def WorldEvent.reaches : WorldEvent → Option Event
  | .desktop event => some event
  | _ => none

/-- The protocols over the desktop only watch it: it runs as it does without them. -/
theorem World.run_desktop (w : World) (events : List WorldEvent) : (Transition.run World.step w events).desktop =
      Transition.run FlakeWM.Desktop.step w.desktop (events.filterMap WorldEvent.reaches) := by
  refine Transition.run_part (fun w e => ?_) w events
  cases e with
  | desktop e => exact w.handle_desktop e
  | requestFullscreen id fullscreen initialized =>
    show (w.requestFullscreen id fullscreen initialized).desktop = w.desktop
    unfold requestFullscreen
    split
    · rfl
    · dsimp only
      split <;> rfl
  | foreignFullscreen id fullscreen =>
    show (w.foreignFullscreen id fullscreen).desktop = w.desktop
    unfold foreignFullscreen
    split <;> rfl
  | refresh | newInhibitor | destroyInhibitor => rfl

end FlakeWM.Desktop
