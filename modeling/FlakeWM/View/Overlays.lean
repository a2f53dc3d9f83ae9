import FlakeWM.Input.KeyBinding

/-! The overlays that may take keys and pointer buttons before any client sees
them: window menu, window selector, window previews, multitasking view,
application switcher and split-screen switcher.

A handler returns the overlay after the call and whether it consumed the event.
Geometry is not modelled: what lies under the pointer, what a relayout lists and
whether a screen is usable are answers the event carries. Drawing is left out. -/

set_option autoImplicit false

namespace FlakeWM.View

open FlakeWM.Input

inductive MenuAction where
  | minimize
  | toggleMaximize
  | move
  | resize
  | toggleKeepAbove
  | toggleAllWorkspaces
  | moveWorkspaceLeft
  | moveWorkspaceRight
  | close
  deriving DecidableEq, Repr

inductive SelectorMode where
  | output
  | window
  | region
  deriving DecidableEq, Repr

structure SelectorTarget where
  surface : Option Nat
  output : Option Nat
  width : Int
  height : Int
  deriving DecidableEq, Repr

inductive Control where
  | none
  | window
  | windowClose
  | windowTop
  | workspace
  | workspaceClose
  | addWorkspace
  deriving DecidableEq, Repr

inductive Tile where
  | left
  | right
  | topLeft
  | bottomLeft
  | topRight
  | bottomRight
  deriving DecidableEq, Repr

/-- What a handler asks of the rest of the compositor. -/
inductive Request where
  | menuAction (surface : Nat) (action : MenuAction)
  | selection (selected : Option (SelectorMode × SelectorTarget))
  | activate (surface : Nat)
  | close (surface : Nat)
  | moveToWorkspace (surface : Nat) (workspace : Int)
  | reorderWorkspace (source target : Int)
  | switchWorkspace (workspace : Int)
  | toggleKeptAbove (surface : Nat)
  | removeWorkspace (workspace : Int)
  | addWorkspace
  | tile (surface : Nat) (tile : Tile)
  deriving DecidableEq, Repr

structure Answers where
  /-- `WindowPreviews::RelativeItem` -/
  relativeItem : Int
  /-- The surfaces `WindowPreviews::Refresh` lists. -/
  previewed : List Nat
  /-- `WindowPreviews::ItemAt` and `CloseButtonAt` at the pointer. -/
  itemAt : Int
  onCloseButton : Bool
  /-- Whether `Multitasking::UpdateView` finds a screen it can draw on. -/
  screenUsable : Bool
  /-- `Multitasking::WorkspaceAt` at the pointer. -/
  workspaceAt : Int
  workspaceCount : Nat
  workspaceRemoved : Bool
  workspaceAdded : Bool
  /-- The surfaces of the selected workspace after `Multitasking::Refresh`. -/
  refreshed : List Nat
  /-- `WindowSelector::ToolbarModeAt` and the hit test at the cursor. -/
  toolbarMode : Option SelectorMode
  hitTest : Option SelectorTarget
  deriving DecidableEq, Repr

inductive Button where
  | left
  | right
  | other (code : Nat)
  deriving DecidableEq, Repr

structure Reply (σ : Type) where
  next : σ
  consumed : Bool
  requests : List Request
  deriving DecidableEq, Repr

def Reply.pass {σ : Type} (next : σ) : Reply σ := ⟨next, false, []⟩

def Reply.consume {σ : Type} (next : σ) (requests : List Request) : Reply σ := ⟨next, true, requests⟩

structure MenuItem where
  action : MenuAction
  enabled : Bool
  deriving DecidableEq, Repr

/-- `pointerTarget` is -1 outside the panel and -2 on it but on no enabled item. -/
structure WindowMenu where
  active : Bool
  surface : Option Nat
  items : List MenuItem
  hoveredIndex : Int
  pressedIndex : Int
  pointerTarget : Int
  deriving DecidableEq, Repr

namespace WindowMenu

def initial : WindowMenu := ⟨false, none, [], -1, -1, -1⟩

def cancel (menu : WindowMenu) : WindowMenu :=
  { menu with active := false, surface := none, hoveredIndex := -1, pressedIndex := -1, pointerTarget := -1 }

def itemAt (menu : WindowMenu) (index : Int) : Option MenuItem :=
  if index < 0 then none else menu.items[index.toNat]?

def activate (menu : WindowMenu) (index : Int) : WindowMenu × List Request :=
  match menu.itemAt index, menu.surface with
  | some item, some surface =>
    if item.enabled then (menu.cancel, [.menuAction surface item.action]) else (menu, [])
  | _, _ => (menu, [])

/-- Steps from `index` to the next enabled item, at most `count` times. -/
def nextEnabled (menu : WindowMenu) (delta : Int) : Nat → Int → Option Int
  | 0, _ => none
  | count + 1, index =>
    let next := (index + delta + menu.items.length).tmod menu.items.length
    if (menu.itemAt next).any MenuItem.enabled then some next else nextEnabled menu delta count next

def moveHighlight (menu : WindowMenu) (delta : Int) : WindowMenu :=
  let start := if menu.hoveredIndex < 0 then (if 0 < delta then -1 else 0) else menu.hoveredIndex
  match menu.nextEnabled delta menu.items.length start with
  | none => menu
  | some index => { menu with hoveredIndex := index }

def handleKey (menu : WindowMenu) (event : KeyEvent) : Reply WindowMenu :=
  if !menu.active then .pass menu
  else if !event.hasState then .consume menu []
  -- The release of F3 is left to the key-binding manager, which owns Alt+F3.
  else if !event.pressed && event.symbol == Keysym.f3 then .pass menu
  else if event.pressed then
    if event.symbol = Keysym.up then .consume (menu.moveHighlight (-1)) []
    else if event.symbol = Keysym.down then .consume (menu.moveHighlight 1) []
    else if event.symbol = Keysym.altL ∨ event.symbol = Keysym.altR then .consume menu.cancel []
    else .consume menu []
  else if event.symbol = Keysym.escape then .consume menu.cancel []
  else if event.symbol = Keysym.returnKey ∨ event.symbol = Keysym.kpEnter then
    let activated := menu.activate menu.hoveredIndex
    .consume activated.1 activated.2
  else .consume menu []

def handleButton (menu : WindowMenu) (button : Button) (pressed : Bool) : Reply WindowMenu :=
  if !menu.active then .pass menu
  else if button ≠ .left then .consume (if pressed then menu.cancel else menu) []
  else if pressed then
    if menu.hoveredIndex < 0 then .consume (if menu.pointerTarget = -1 then menu.cancel else menu) []
    else .consume { menu with pressedIndex := menu.hoveredIndex } []
  else
    let released := { menu with pressedIndex := -1 }
    if 0 ≤ menu.pressedIndex ∧ menu.pressedIndex = menu.hoveredIndex then
      let activated := released.activate menu.pressedIndex
      .consume activated.1 activated.2
    else .consume released []

end WindowMenu

structure WindowSelector where
  active : Bool
  allowedModes : List SelectorMode
  mode : SelectorMode
  current : Option SelectorTarget
  pressTarget : Option SelectorTarget
  buttonDown : Bool
  toolbarHover : Option SelectorMode
  toolbarPressed : Option SelectorMode
  deriving DecidableEq, Repr

namespace WindowSelector

def initial : WindowSelector := ⟨false, [], .output, none, none, false, none, none⟩

def validTarget : Option SelectorTarget → Bool
  | none => false
  | some target => target.output.isSome && 0 < target.width && 0 < target.height

def finish (selector : WindowSelector) (selection : Option SelectorTarget) : Reply WindowSelector :=
  .consume { WindowSelector.initial with mode := selector.mode }
    [.selection (selection.map fun target => (selector.mode, target))]

def handleKey (selector : WindowSelector) (event : KeyEvent) : Reply WindowSelector :=
  if !selector.active then .pass selector
  else if !event.hasState then .consume selector []
  else if event.pressed then .consume selector []
  else if event.symbol = Keysym.escape then selector.finish none
  else if (event.symbol = Keysym.returnKey ∨ event.symbol = Keysym.kpEnter) ∧ validTarget selector.current then
    selector.finish selector.current
  else .consume selector []

def updateHover (selector : WindowSelector) (answers : Answers) : WindowSelector :=
  match answers.toolbarMode with
  | some mode => { selector with toolbarHover := some mode }
  | none => { selector with toolbarHover := none, current := answers.hitTest }

def setMode (selector : WindowSelector) (mode : SelectorMode) (answers : Answers) : WindowSelector :=
  if selector.allowedModes.contains mode then
    updateHover { selector with
      mode := mode, buttonDown := false, current := none, pressTarget := none, toolbarHover := none } answers
  else selector

def handleButton (selector : WindowSelector) (button : Button) (pressed : Bool) (answers : Answers) :
    Reply WindowSelector :=
  if !selector.active then .pass selector
  else if button = .right then
    -- Closing waits for the release, so the client below never sees it alone.
    if pressed then .consume selector [] else selector.finish none
  else if button ≠ .left then .consume selector []
  else if pressed then
    match answers.toolbarMode with
    | some mode => .consume { selector with toolbarPressed := some mode } []
    | none =>
      .consume { selector with toolbarPressed := none, pressTarget := selector.current, buttonDown := true } []
  else
    match selector.toolbarPressed with
    | some mode =>
      let released := { selector with toolbarPressed := none }
      .consume (if answers.toolbarMode = some mode then released.setMode mode answers else released) []
    | none =>
      if !selector.buttonDown then .consume selector []
      else
        let target := if validTarget selector.current then selector.current else selector.pressTarget
        if validTarget target then selector.finish target
        else .consume (updateHover { selector with buttonDown := false } answers) []

end WindowSelector

structure WindowPreviews where
  active : Bool
  closing : Bool
  items : List Nat
  highlighted : Int
  filter : List Char
  lastKey : Nat
  keyReleased : Bool
  deriving DecidableEq, Repr

namespace WindowPreviews

def initial : WindowPreviews := ⟨false, false, [], -1, [], 0, true⟩

def isActive (previews : WindowPreviews) : Bool := previews.active || previews.closing

def startClose (previews : WindowPreviews) : WindowPreviews :=
  if !previews.active || previews.closing then previews
  else { previews with active := false, closing := true }

def surfaceAt (previews : WindowPreviews) (index : Int) : Option Nat :=
  if index < 0 then none else previews.items[index.toNat]?

def activateItem (previews : WindowPreviews) (index : Int) : Reply WindowPreviews :=
  .consume previews.startClose ((previews.surfaceAt index).toList.map Request.activate)

def reflow (previews : WindowPreviews) (answers : Answers) : WindowPreviews :=
  if !previews.active || previews.closing then previews
  else
    let listed := { previews with items := answers.previewed }
    if answers.previewed.isEmpty then listed.startClose
    else if !previews.filter.isEmpty then { listed with highlighted := 0 }
    else
      match previews.surfaceAt previews.highlighted with
      | none => { listed with highlighted := 0 }
      | some surface => { listed with highlighted := ((answers.previewed.idxOf? surface).getD 0 : Nat) }

def closeItem (previews : WindowPreviews) (index : Int) (answers : Answers) : Reply WindowPreviews :=
  match previews.surfaceAt index with
  | none => .consume previews []
  | some surface =>
    let highlighted := if previews.highlighted = index then -1 else previews.highlighted
    .consume (reflow { previews with highlighted := highlighted } answers) [.close surface]

def setFilter (previews : WindowPreviews) (filter : List Char) (answers : Answers) : WindowPreviews :=
  reflow { previews with filter := filter, highlighted := -1 } answers

def navigates (symbol : Keysym) : Bool :=
  [Keysym.left, Keysym.right, Keysym.up, Keysym.down, Keysym.home, Keysym.endKey, Keysym.pageUp,
    Keysym.pageDown].contains symbol

/-- A press, once the key has been remembered; `RelativeItem` also reads whether
the key repeats, which is part of its answer here. -/
def handlePress (previews : WindowPreviews) (event : KeyEvent) (answers : Answers) : Reply WindowPreviews :=
  if event.symbol = Keysym.escape then .consume previews.startClose []
  else if event.symbol = Keysym.returnKey ∨ event.symbol = Keysym.kpEnter then
    previews.activateItem previews.highlighted
  else if navigates event.symbol then .consume { previews with highlighted := answers.relativeItem } []
  else if event.symbol = Keysym.backSpace then
    .consume (if previews.filter.isEmpty then previews else previews.setFilter previews.filter.dropLast answers) []
  else if event.symbol = Keysym.delete then
    .consume (if previews.filter.isEmpty then previews else previews.setFilter [] answers) []
  else if event.symbol = Keysym.tab ∨ event.symbol = Keysym.isoLeftTab then .consume previews []
  else if event.modifiers.has (.ctrl ||| .alt ||| .logo) || event.text.isEmpty then .consume previews []
  else .consume (previews.setFilter (previews.filter ++ event.text) answers) []

/-- The shortcut that opens the previews also closes them and is left to the key-binding manager. -/
def ownShortcut (event : KeyEvent) : Bool :=
  event.modifiers.has .logo && (event.symbol == Keysym.lowerA || event.symbol == Keysym.upperA)

def noteRelease (previews : WindowPreviews) (event : KeyEvent) : WindowPreviews :=
  if !event.pressed && previews.lastKey == event.key.keycode then { previews with keyReleased := true } else previews

def handleKey (previews : WindowPreviews) (event : KeyEvent) (answers : Answers) : Reply WindowPreviews :=
  if !previews.isActive then .pass previews
  else if !event.hasState then .consume previews []
  else
    let noted := previews.noteRelease event
    if ownShortcut event then .pass noted
    else if !event.pressed || noted.closing then .consume noted []
    else handlePress { noted with lastKey := event.key.keycode, keyReleased := false } event answers

def handleButton (previews : WindowPreviews) (button : Button) (pressed : Bool) (answers : Answers) :
    Reply WindowPreviews :=
  if !previews.isActive then .pass previews
  else if pressed || previews.closing || (button != .left && button != .right) then .consume previews []
  else if 0 ≤ answers.itemAt then
    if button = .left ∧ !answers.onCloseButton then previews.activateItem answers.itemAt
    else previews.closeItem answers.itemAt answers
  else .consume (if button = .left then previews.startClose else previews) []

end WindowPreviews

structure Multitasking where
  active : Bool
  closing : Bool
  visibleEntries : List Nat
  hoveredControl : Control
  hoveredWorkspace : Int
  hoveredWindow : Int
  pressedControl : Control
  pressedWorkspace : Int
  pressedWindow : Int
  dragging : Bool
  pendingActivation : Option Nat
  pendingClose : Option Nat
  pendingWorkspace : Int
  deriving DecidableEq, Repr

namespace Multitasking

def initial : Multitasking := ⟨false, false, [], .none, -1, -1, .none, -1, -1, false, none, none, -1⟩

def isActive (view : Multitasking) : Bool := view.active || view.closing

/-- The window asked to close is closed; then the chosen window is activated or,
without one, the chosen workspace shown. -/
def completeClose (view : Multitasking) : Multitasking × List Request :=
  let chosen : List Request :=
    match view.pendingActivation with
    | some surface => [.activate surface]
    | none => if 0 ≤ view.pendingWorkspace then [.switchWorkspace view.pendingWorkspace] else []
  ({ view with
      active := false, closing := false, dragging := false, visibleEntries := []
      pendingActivation := none, pendingClose := none, pendingWorkspace := -1 },
    view.pendingClose.toList.map Request.close ++ chosen)

def updateView (view : Multitasking) (answers : Answers) : Multitasking × List Request :=
  if view.isActive && !answers.screenUsable then view.completeClose else (view, [])

/-- `StartAnimation(true)` -/
def startClosing (view : Multitasking) (answers : Answers) : Multitasking × List Request :=
  if !view.active || view.closing then (view, []) else updateView { view with closing := true } answers

def refresh (view : Multitasking) (answers : Answers) : Multitasking :=
  { view with visibleEntries := answers.refreshed, hoveredWindow := -1 }

def windowAt (view : Multitasking) (index : Int) : Option Nat :=
  if index < 0 then none else view.visibleEntries[index.toNat]?

def toggleKey (symbol : Keysym) : Bool :=
  [Keysym.lowerS, Keysym.upperS, Keysym.tab, Keysym.isoLeftTab].contains symbol

def handleKey (view : Multitasking) (event : KeyEvent) (answers : Answers) : Reply Multitasking :=
  if !view.active || view.closing then ⟨view, view.isActive, []⟩
  else if !event.hasState then .consume view []
  -- The registered shortcuts are left to the key-binding manager.
  else if event.modifiers.has .logo && toggleKey event.symbol then .pass view
  else if event.pressed && (event.symbol == Keysym.escape || toggleKey event.symbol) then
    let closed := view.startClosing answers
    .consume closed.1 closed.2
  else .consume view []

def click (view : Multitasking) (answers : Answers) : Multitasking × List Request :=
  match view.hoveredControl, view.windowAt view.pressedWindow with
  | .windowClose, some surface => startClosing { view with pendingClose := some surface } answers
  | .windowTop, some surface =>
    let shown := (view.refresh answers).updateView answers
    (shown.1, .toggleKeptAbove surface :: shown.2)
  | .window, some surface => startClosing { view with pendingActivation := some surface } answers
  | .workspace, _ =>
    if 0 ≤ view.pressedWorkspace then startClosing { view with pendingWorkspace := view.pressedWorkspace } answers
    else (view, [])
  | .workspaceClose, _ =>
    if view.pressedWorkspace < 0 then (view, [])
    else
      let shown := if answers.workspaceRemoved then (view.refresh answers).updateView answers else (view, [])
      (shown.1, .removeWorkspace view.pressedWorkspace :: shown.2)
  | .addWorkspace, _ =>
    if answers.workspaceCount < 6 then
      let shown := if answers.workspaceAdded then (view.refresh answers).updateView answers else (view, [])
      (shown.1, .addWorkspace :: shown.2)
    else (view, [])
  | .none, _ => view.startClosing answers
  | _, none => (view, [])

def handleButton (view : Multitasking) (button : Button) (pressed : Bool) (answers : Answers) :
    Reply Multitasking :=
  if !view.active || view.closing then ⟨view, view.isActive, []⟩
  else if button ≠ .left then .consume view []
  else if pressed then
    .consume { view with
      pressedControl := view.hoveredControl, pressedWorkspace := view.hoveredWorkspace
      pressedWindow := view.hoveredWindow, dragging := false } []
  else
    let target := answers.workspaceAt
    match view.dragging, view.pressedControl, view.windowAt view.pressedWindow with
    | true, .window, some surface =>
      let moved := if 0 ≤ target then view.refresh answers else view
      let shown := updateView { moved with dragging := false, pressedControl := .none } answers
      .consume shown.1 ((if 0 ≤ target then [.moveToWorkspace surface target] else []) ++ shown.2)
    | true, .workspace, _ =>
      let reorders := 0 ≤ target ∧ target ≠ view.pressedWorkspace
      let moved := if reorders then view.refresh answers else view
      let shown := updateView { moved with dragging := false, pressedControl := .none } answers
      .consume shown.1 ((if reorders then [.reorderWorkspace view.pressedWorkspace target] else []) ++ shown.2)
    | _, _, _ =>
      let clicked := if view.hoveredControl = view.pressedControl then view.click answers else (view, [])
      .consume { clicked.1 with pressedControl := .none, pressedWorkspace := -1, pressedWindow := -1 } clicked.2

end Multitasking

structure AppSwitcher where
  active : Bool
  entries : List Nat
  currentIndex : Int
  deriving DecidableEq, Repr

namespace AppSwitcher

def initial : AppSwitcher := ⟨false, [], -1⟩

def finish (switcher : AppSwitcher) (activate : Bool) : AppSwitcher × List Request :=
  let selected := if activate && 0 ≤ switcher.currentIndex then switcher.entries[switcher.currentIndex.toNat]? else none
  (AppSwitcher.initial, selected.toList.map Request.activate)

def isForwardedModifier (symbol : Keysym) : Bool :=
  [Keysym.altL, Keysym.altR, Keysym.shiftL, Keysym.shiftR, Keysym.controlL, Keysym.controlR, Keysym.superL,
    Keysym.superR, Keysym.metaL, Keysym.metaR].contains symbol

def isAlt (symbol : Keysym) : Bool := symbol == Keysym.altL || symbol == Keysym.altR

def handleKey (switcher : AppSwitcher) (event : KeyEvent) : Reply AppSwitcher :=
  if !switcher.active then .pass switcher
  else if !event.hasState then .consume switcher []
  -- Tab cycles through the key-binding manager.
  else if event.symbol = Keysym.tab ∨ event.symbol = Keysym.isoLeftTab then .pass switcher
  else if event.symbol = Keysym.escape then
    let finished := if event.pressed then (switcher, []) else switcher.finish false
    .consume finished.1 finished.2
  else if event.symbol = Keysym.returnKey ∨ event.symbol = Keysym.kpEnter then
    let finished := if event.pressed then (switcher, []) else switcher.finish true
    .consume finished.1 finished.2
  else if !event.pressed && isAlt event.symbol then
    let finished := switcher.finish true
    ⟨finished.1, false, finished.2⟩
  else ⟨switcher, !isForwardedModifier event.symbol, []⟩

end AppSwitcher

structure SplitScreenSwitcher where
  active : Bool
  surface : Option Nat
  pointerInside : Bool
  hoveredItem : Int
  pressedItem : Int
  deriving DecidableEq, Repr

namespace SplitScreenSwitcher

def initial : SplitScreenSwitcher := ⟨false, none, false, -1, -1⟩

def tiles : List Tile := [.left, .right, .topLeft, .bottomLeft, .topRight, .bottomRight]

/-- `pointerInside` survives. -/
def cancel (switcher : SplitScreenSwitcher) : SplitScreenSwitcher :=
  { switcher with active := false, surface := none, hoveredItem := -1, pressedItem := -1 }

def owns (switcher : SplitScreenSwitcher) : Bool := switcher.active && switcher.pointerInside

def handleButton (switcher : SplitScreenSwitcher) (button : Button) (pressed : Bool) :
    Reply SplitScreenSwitcher :=
  if !switcher.owns then .pass switcher
  else if button ≠ .left then .consume (if pressed then switcher.cancel else switcher) []
  else if pressed then .consume { switcher with pressedItem := switcher.hoveredItem } []
  else
    let released := { switcher with pressedItem := -1, pointerInside := false }
    let selected := switcher.pressedItem
    match if 0 ≤ selected ∧ selected = switcher.hoveredItem then tiles[selected.toNat]? else none, switcher.surface with
    | some tile, some surface => .consume released.cancel [.tile surface tile]
    | _, _ => .consume released []

end SplitScreenSwitcher

structure Overlays where
  windowMenu : WindowMenu
  windowSelector : WindowSelector
  windowPreviews : WindowPreviews
  multitasking : Multitasking
  appSwitcher : AppSwitcher
  splitScreenSwitcher : SplitScreenSwitcher
  deriving DecidableEq, Repr

def Overlays.initial : Overlays where
  windowMenu := .initial
  windowSelector := .initial
  windowPreviews := .initial
  multitasking := .initial
  appSwitcher := .initial
  splitScreenSwitcher := .initial

end FlakeWM.View
