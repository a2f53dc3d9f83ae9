import FlakeWM.View.Overlays
import FlakeWM.View.Sources

/-! The multitasking view over the desktop it shows.

What the overlay takes as answers of its surroundings is computed here: the view
asks for the mapped windows in the middle of the handlers that unmap them, and
what it asks of the compositor is carried out at once. Only geometry stays with
the events: what lies under the pointer, and whether there is a screen to draw on. -/

set_option autoImplicit false

namespace FlakeWM.View

open FlakeWM.Input FlakeWM.Desktop

structure Entry where
  surface : Nat
  workspace : Int
  deriving DecidableEq, Repr

namespace Sources

/-- `std::clamp(workspace, 0, count - 1)`, on at least one workspace. -/
def clampWorkspace (sources : Sources) (workspace : Int) : Int :=
  max 0 (min workspace (max 1 sources.desktop.windows.workspaceCount - 1))

def entriesProvider (sources : Sources) : List Entry :=
  (List.range sources.surfaces.length).filterMap fun id =>
    match sources.desktop.windows.toplevels[id]?, sources.surfaceOf id with
    | some toplevel, some surface =>
      if toplevel.mapped && toplevel.alive && toplevel.wantsFocus then some ⟨surface, toplevel.workspace⟩ else none
    | _, _ => none

def listedEntries (sources : Sources) : List Entry :=
  sources.entriesProvider.filter fun entry =>
    decide (0 ≤ entry.workspace) && decide (entry.workspace < max 1 sources.desktop.windows.workspaceCount)

def visibleOn (sources : Sources) (workspace : Int) : List Nat :=
  (sources.listedEntries.reverse.filter (·.workspace == workspace)).map (·.surface)

/-- How the compositor carries out a request of the view. A request to close a
window goes to its client. -/
def eventOf (sources : Sources) : Request → Option Desktop.Event
  | .activate surface => (sources.toplevelForSurface surface).map .multitaskingActivate
  | .moveToWorkspace surface workspace =>
    (sources.toplevelForSurface surface).map fun id => .moveToWorkspace id workspace
  | .toggleKeptAbove surface =>
    (sources.toplevelForSurface surface).bind fun id =>
      (sources.desktop.windows.toplevels[id]?.filter (·.alive)).map fun toplevel =>
        .setKeptAbove id !toplevel.keptAbove
  | .reorderWorkspace source target => some (.reorderWorkspace source target)
  | .switchWorkspace workspace => some (.switchWorkspace workspace)
  | .removeWorkspace workspace => some (.removeWorkspace workspace)
  | .addWorkspace => some .addWorkspace
  | _ => none

def perform (sources : Sources) (request : Request) : Sources :=
  match sources.eventOf request with
  | some event => { sources with desktop := Desktop.step sources.desktop event }
  | none => sources

/-- `SetMultitaskingSourcesHidden`. -/
def setMultitaskingHidden (sources : Sources) (hidden : Bool) : Sources :=
  { sources with desktop := Desktop.step sources.desktop (.hideMultitaskingSources hidden) }

end Sources

/-- What lies under the pointer after a motion. -/
structure Hit where
  /-- The pointer is more than ten pixels from where the button was pressed. -/
  far : Bool
  /-- How many windows the view has placed. -/
  placed : Int
  workspaceAt : Int
  windowAt : Int
  onCloseButton : Bool
  onTopButton : Bool
  onAddButton : Bool
  onWorkspaceCloseButton : Bool
  deriving DecidableEq, Repr

def Hit.control (hit : Hit) : Control :=
  if 0 ≤ hit.windowAt then
    if hit.onCloseButton then .windowClose else if hit.onTopButton then .windowTop else .window
  else if hit.onAddButton then .addWorkspace
  else if 0 ≤ hit.workspaceAt then
    if hit.onWorkspaceCloseButton then .workspaceClose else .workspace
  else .none

structure Overview where
  sources : Sources
  view : Multitasking
  entries : List Entry
  selectedWorkspace : Int
  animating : Bool
  /-- The window that was under the pointer at the last press. -/
  pressed : Option Nat
  /-- What the view has asked for, each time with the window pressed last. -/
  performed : List (Request × Option Nat)
  deriving DecidableEq, Repr

namespace Overview

def initial : Overview := ⟨.initial, .initial, [], 0, false, none, []⟩

def perform (overview : Overview) (request : Request) : Overview :=
  { overview with
    sources := overview.sources.perform request
    performed := overview.performed ++ [(request, overview.pressed)] }

def refresh (overview : Overview) : Overview :=
  let selected := overview.sources.clampWorkspace overview.selectedWorkspace
  { overview with
    entries := overview.sources.listedEntries
    selectedWorkspace := selected
    view := { overview.view with visibleEntries := overview.sources.visibleOn selected, hoveredWindow := -1 } }

def completeClose (overview : Overview) : Overview :=
  let closed := overview.view.completeClose
  closed.2.foldl perform { overview with
    sources := overview.sources.setMultitaskingHidden false
    view := closed.1
    animating := false
    entries := [] }

def updateView (overview : Overview) (usable : Bool) : Overview :=
  if overview.view.isActive && !usable then overview.completeClose else overview

def startAnimation (overview : Overview) (closing usable : Bool) : Overview :=
  if !overview.view.active || overview.view.closing && closing then overview
  else
    let started := { overview with view := { overview.view with closing := closing }, animating := true }
    started.updateView usable

/-- `finished` says whether the duration of the animation has passed. -/
def updateAnimation (overview : Overview) (finished usable : Bool) : Overview :=
  if !overview.animating then overview
  else if finished then
    let stopped := { overview with animating := false }
    if overview.view.closing then stopped.completeClose else stopped.updateView usable
  else overview.updateView usable

def toggle (overview : Overview) (usable : Bool) : Overview :=
  let windows := overview.sources.desktop.windows
  if overview.view.isActive then
    if overview.view.closing then overview else overview.startAnimation true usable
  else if windows.workspaceCount ≤ 0 then overview
  else
    let view := { overview.view with
      active := true, closing := false, pendingActivation := none, pendingClose := none, pendingWorkspace := -1
      hoveredWorkspace := -1, hoveredWindow := -1, hoveredControl := .none }
    let selected := overview.sources.clampWorkspace windows.currentWorkspace
    let shown := ({ overview with view := view, selectedWorkspace := selected }.refresh).updateView usable
    -- without a screen the view has closed again
    if !shown.view.active then shown
    else { shown with sources := shown.sources.setMultitaskingHidden true }.startAnimation false usable

def cancel (overview : Overview) (usable : Bool) : Overview :=
  if overview.view.active && !overview.view.closing then overview.startAnimation true usable else overview

def handleKey (overview : Overview) (event : KeyEvent) (usable : Bool) : Overview :=
  if !overview.view.active || overview.view.closing then overview
  else if !event.hasState then overview
  else if event.modifiers.has .logo && Multitasking.toggleKey event.symbol then overview
  else if event.pressed && (event.symbol == Keysym.escape || Multitasking.toggleKey event.symbol) then
    overview.startAnimation true usable
  else overview

def handleMotion (overview : Overview) (hit : Hit) (usable : Bool) : Overview :=
  let view := overview.view
  if !view.active || view.closing then overview
  else
    let grabbed := view.pressedControl = .window ∨ view.pressedControl = .workspace
    let dragging := view.dragging || decide grabbed && hit.far
    let moved := { overview with view := { view with dragging := dragging } }
    if dragging ∧ view.pressedControl = .window ∧ 0 ≤ view.pressedWindow ∧ view.pressedWindow < hit.placed ∨
        dragging ∧ view.pressedControl = .workspace then
      moved.updateView usable
    else if view.hoveredWorkspace ≠ hit.workspaceAt ∨ view.hoveredWindow ≠ hit.windowAt ∨
        view.hoveredControl ≠ hit.control then
      let hovered := { moved with view := { moved.view with
        hoveredWorkspace := hit.workspaceAt, hoveredWindow := hit.windowAt, hoveredControl := hit.control } }
      hovered.updateView usable
    else moved

/-- Whether `RemoveWorkspace` removes the workspace. -/
def removable (windows : Windows) (workspace : Int) : Bool :=
  decide (1 < windows.workspaceCount) && decide (0 ≤ workspace) && decide (workspace < windows.workspaceCount)

def click (overview : Overview) (usable : Bool) : Overview :=
  let view := overview.view
  let windows := overview.sources.desktop.windows
  match view.hoveredControl, view.windowAt view.pressedWindow with
  | .windowClose, some surface =>
    { overview with view := { view with pendingClose := some surface } }.startAnimation true usable
  | .windowTop, some surface => ((overview.perform (.toggleKeptAbove surface)).refresh).updateView usable
  | .window, some surface =>
    { overview with view := { view with pendingActivation := some surface } }.startAnimation true usable
  | .workspace, _ =>
    if 0 ≤ view.pressedWorkspace then
      { overview with view := { view with pendingWorkspace := view.pressedWorkspace } }.startAnimation true usable
    else overview
  | .workspaceClose, _ =>
    if view.pressedWorkspace < 0 then overview
    else
      let removed := overview.perform (.removeWorkspace view.pressedWorkspace)
      if removable windows view.pressedWorkspace then
        let selected := removed.sources.clampWorkspace overview.selectedWorkspace
        ({ removed with selectedWorkspace := selected }.refresh).updateView usable
      else removed
  | .addWorkspace, _ =>
    if windows.workspaceCount < 6 then
      let added := overview.perform .addWorkspace
      if windows.workspaceCount < kMaximumWorkspaceCount then added.refresh.updateView usable else added
    else overview
  | .none, _ => overview.startAnimation true usable
  | _, none => overview

def drop (overview : Overview) (usable : Bool) : Overview :=
  { overview with view := { overview.view with dragging := false, pressedControl := .none } }.updateView usable

/-- The window under the pointer need not be the hovered one: the previews move
without the pointer. -/
def press (overview : Overview) (under : Int) : Overview :=
  { overview with
    pressed := overview.view.windowAt under
    view := { overview.view with
      pressedControl := overview.view.hoveredControl, pressedWorkspace := overview.view.hoveredWorkspace
      pressedWindow := overview.view.hoveredWindow, dragging := false } }

def releaseClick (overview : Overview) (usable : Bool) : Overview :=
  let clicked :=
    if overview.view.hoveredControl = overview.view.pressedControl then overview.click usable else overview
  { clicked with view := { clicked.view with pressedControl := .none, pressedWorkspace := -1, pressedWindow := -1 } }

def release (overview : Overview) (target : Int) (usable : Bool) : Overview :=
  match overview.view.dragging, overview.view.pressedControl, overview.view.windowAt overview.view.pressedWindow with
  | true, .window, some surface =>
    if 0 ≤ target then ((overview.perform (.moveToWorkspace surface target)).refresh).drop usable
    else overview.drop usable
  | true, .workspace, _ =>
    if 0 ≤ target ∧ target ≠ overview.view.pressedWorkspace then
      let reordered := overview.perform (.reorderWorkspace overview.view.pressedWorkspace target)
      ({ reordered with selectedWorkspace := target }.refresh).drop usable
    else overview.drop usable
  | _, _, _ => overview.releaseClick usable

def handleButton (overview : Overview) (button : Button) (pressed : Bool) (under target : Int) (usable : Bool) :
    Overview :=
  if !overview.view.active || overview.view.closing then overview
  else if button ≠ .left then overview
  else if pressed then overview.press under
  else overview.release target usable

def forget (overview : Overview) (surface : Nat) : Overview :=
  { overview with view := { overview.view with
    pendingActivation := overview.view.pendingActivation.filter (· != surface)
    pendingClose := overview.view.pendingClose.filter (· != surface) } }

def surfaceUnavailable (overview : Overview) (surface : Option Nat) (usable : Bool) : Overview :=
  match surface with
  | none => overview
  | some surface =>
    if overview.view.isActive then ((overview.forget surface).refresh).updateView usable else overview

/-- `OnUnmap`: the view is told while the window still counts as mapped. -/
def onUnmap (overview : Overview) (id : Nat) (usable : Bool) : Overview :=
  if overview.sources.desktop.windows.test id (·.mapped) then
    let told := overview.surfaceUnavailable (overview.sources.surfaceOf id) usable
    { told with sources := told.sources.finishUnmap id (overview.sources.desktop.hadFocus id) }
  else overview

def onDissociate (overview : Overview) (id : Nat) (usable : Bool) : Overview :=
  if overview.sources.desktop.windows.test id (·.xwayland) then
    let hidden := overview.onUnmap id usable
    { hidden with sources := hidden.sources.finishDissociate id }
  else overview

/-- An X11 window has already lost its handle, and with it its surface, when the
view is told of its destruction. -/
def onDestroy (overview : Overview) (id : Nat) (usable : Bool) : Overview :=
  let hidden := overview.onUnmap id usable
  let surface := if overview.sources.desktop.windows.test id (·.xwayland) then none else hidden.sources.surfaceOf id
  let told := hidden.surfaceUnavailable surface usable
  { told with sources := told.sources.finishDestroy id }

inductive Event where
  | desktop (event : Desktop.Event) (surface : Nat) (usable : Bool)
  | toggle (usable : Bool)
  | cancel (usable : Bool)
  | key (event : KeyEvent) (usable : Bool)
  | motion (hit : Hit) (usable : Bool)
  | button (button : Button) (pressed : Bool) (under target : Int) (usable : Bool)
  | tick (finished usable : Bool)
  deriving DecidableEq, Repr

def step (overview : Overview) : Event → Overview
  | .desktop (.unmap id) _ usable => overview.onUnmap id usable
  | .desktop (.dissociate id) _ usable => overview.onDissociate id usable
  | .desktop (.destroy id) _ usable => overview.onDestroy id usable
  | .desktop event surface _ => { overview with sources := overview.sources.step event surface }
  | .toggle usable => overview.toggle usable
  | .cancel usable => overview.cancel usable
  | .key event usable => overview.handleKey event usable
  | .motion hit usable => overview.handleMotion hit usable
  | .button button pressed under target usable => overview.handleButton button pressed under target usable
  | .tick finished usable => overview.updateAnimation finished usable

/-! ## The view does what the overlay model says

When it completes its close, the view changes and asks exactly as the handler of
the overlay says. -/

theorem foldl_perform (o : Overview) (requests : List Request) : requests.foldl perform o = { o with
      sources := requests.foldl Sources.perform o.sources
      performed := o.performed ++ requests.map fun q => (q, o.pressed) } := by
  induction requests generalizing o with
  | nil => simp
  | cons q rest ih =>
    rw [List.foldl_cons, ih]
    simp [perform]

structure Follows (before after : Overview) (reply : Multitasking × List Request) : Prop where
  view : after.view = reply.1
  pressed : after.pressed = before.pressed
  performed : after.performed = before.performed ++ reply.2.map fun request => (request, before.pressed)

theorem completeClose_follows (o : Overview) : Follows o o.completeClose o.view.completeClose := by
  unfold completeClose
  rw [foldl_perform]
  exact ⟨rfl, rfl, rfl⟩

end Overview
end FlakeWM.View
