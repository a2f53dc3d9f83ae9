import FlakeWM.View.Overlays

/-! Pointer buttons in the compositor, `OnCursorButton`.

A button is taken by the lock screen, by the first overlay that owns the
pointer, or by the compositor itself, which keeps presses on decorations and
interactive grabs from the client and remembers in one flag, for all buttons,
that the next release is to be kept too. What lies under the cursor, and whether
a click is near the last one, is part of the event. -/

set_option autoImplicit false

namespace FlakeWM.View

def Overlays.ownsPointer (overlays : Overlays) : Bool :=
  overlays.windowMenu.active || overlays.splitScreenSwitcher.owns || overlays.multitasking.isActive ||
    overlays.windowPreviews.isActive || overlays.windowSelector.active

/-- The part of `OnCursorButton` up to the first overlay that consumes the button. -/
def Overlays.handleButton (overlays : Overlays) (button : Button) (pressed : Bool) (answers : Answers) :
    Reply Overlays :=
  let menu := overlays.windowMenu.handleButton button pressed
  if menu.consumed then .consume { overlays with windowMenu := menu.next } menu.requests
  else
    let split := overlays.splitScreenSwitcher.handleButton button pressed
    if split.consumed then .consume { overlays with splitScreenSwitcher := split.next } split.requests
    else
      let multitasking := overlays.multitasking.handleButton button pressed answers
      if multitasking.consumed then
        .consume { overlays with multitasking := multitasking.next } multitasking.requests
      else
        let previews := overlays.windowPreviews.handleButton button pressed answers
        if previews.consumed then .consume { overlays with windowPreviews := previews.next } previews.requests
        else
          let selector := overlays.windowSelector.handleButton button pressed answers
          if selector.consumed then .consume { overlays with windowSelector := selector.next } selector.requests
          else .pass overlays

section
variable (button : Button) (pressed : Bool) (ans : Answers)

theorem WindowMenu.handleButton_consumed (menu : WindowMenu) :
    (menu.handleButton button pressed).consumed = menu.active := by
  unfold WindowMenu.handleButton
  simp only [apply_ite Reply.consumed, Reply.pass, Reply.consume, ite_self]
  cases menu.active <;> rfl

theorem SplitScreenSwitcher.handleButton_consumed (switcher : SplitScreenSwitcher) :
    (switcher.handleButton button pressed).consumed = switcher.owns := by
  unfold SplitScreenSwitcher.handleButton
  cases switcher.owns with
  | false => rfl
  | true =>
    simp only [Bool.not_true, Bool.false_eq_true, if_false]
    split
    · rfl
    · split
      · rfl
      · split <;> rfl

theorem Multitasking.handleButton_consumed (view : Multitasking) :
    (view.handleButton button pressed ans).consumed = view.isActive := by
  unfold Multitasking.handleButton
  split
  · rfl
  · rename_i open_
    have active : view.isActive = true := by
      simp only [Bool.or_eq_true, Bool.not_eq_true', not_or, Bool.not_eq_false] at open_
      simp [Multitasking.isActive, open_.1]
    rw [active]
    split
    · rfl
    · split
      · rfl
      · dsimp only
        split <;> rfl

theorem WindowPreviews.handleButton_consumed (p : WindowPreviews) :
    (p.handleButton button pressed ans).consumed = p.isActive := by
  have closing (i : Int) : (p.closeItem i ans).consumed = true := by
    unfold WindowPreviews.closeItem
    split <;> rfl
  unfold WindowPreviews.handleButton WindowPreviews.activateItem
  simp only [apply_ite Reply.consumed, Reply.pass, Reply.consume, closing, ite_self]
  cases p.isActive <;> rfl

theorem WindowSelector.handleButton_consumed (selector : WindowSelector) :
    (selector.handleButton button pressed ans).consumed = selector.active := by
  unfold WindowSelector.handleButton
  cases selector.active with
  | false => rfl
  | true =>
    simp only [Bool.not_true, Bool.false_eq_true, if_false]
    split
    · split <;> rfl
    · split
      · rfl
      · split
        · split <;> rfl
        · split
          · rfl
          · split
            · rfl
            · exact (apply_ite Reply.consumed _ _ _).trans (ite_self true)

theorem Overlays.handleButton_consumed (overlays : Overlays) :
    (overlays.handleButton button pressed ans).consumed = overlays.ownsPointer := by
  unfold Overlays.handleButton Overlays.ownsPointer
  simp only [apply_ite Reply.consumed, Reply.consume, Reply.pass, WindowMenu.handleButton_consumed,
    SplitScreenSwitcher.handleButton_consumed, Multitasking.handleButton_consumed,
    WindowPreviews.handleButton_consumed, WindowSelector.handleButton_consumed]
  cases overlays.windowMenu.active <;> cases overlays.splitScreenSwitcher.owns <;>
    cases overlays.multitasking.isActive <;> cases overlays.windowPreviews.isActive <;>
    cases overlays.windowSelector.active <;> rfl

end

end FlakeWM.View

namespace FlakeWM.Input

open FlakeWM.View

inductive CursorMode where
  | passthrough
  | move
  | resize
  deriving DecidableEq, Repr

/-- The parts of a server-side decoration. -/
inductive SsdPart where
  | none
  | titlebar
  | minimize
  | maximize
  | close
  | resize
  deriving DecidableEq, Repr

/-- What is under the cursor: the toplevel, the part of its decoration, the
toplevel whose client-side border is hit, and whether the point is on a
client-side title bar. `nearLastClick` is short and close enough for a double
click; `grabs` says whether `BeginInteractive` accepts the window; `menu` is the
menu `ShowWindowMenu` leaves behind, if it comes so far. -/
structure PointerHit where
  toplevel : Option Nat
  ssdPart : SsdPart
  csdResize : Option Nat
  titlebarPoint : Bool
  nearLastClick : Bool
  grabs : Bool
  menu : Option WindowMenu
  deriving DecidableEq, Repr

structure ButtonEvent where
  button : Button
  pressed : Bool
  hit : PointerHit
  answers : Answers
  deriving DecidableEq, Repr

structure PointerState where
  sessionLocked : Bool
  overlays : Overlays
  suppressButtonRelease : Bool
  pendingWindowMenu : Option Nat
  cursorMode : CursorMode
  lastClickToplevel : Option Nat
  deriving DecidableEq, Repr

namespace PointerState

def initial : PointerState := ⟨false, .initial, false, none, .passthrough, none⟩

def beginInteractive (mode : CursorMode) (hit : PointerHit) : CursorMode :=
  if hit.grabs then mode else .passthrough

def pressDecoration (state : PointerState) (hit : PointerHit) : PointerState :=
  match hit.ssdPart with
  | .close | .minimize => { state with lastClickToplevel := none }
  | .maximize =>
    { state with
      lastClickToplevel := none
      overlays := { state.overlays with splitScreenSwitcher := state.overlays.splitScreenSwitcher.cancel } }
  | .resize => { state with lastClickToplevel := none, cursorMode := beginInteractive .resize hit }
  | _ =>
    if state.lastClickToplevel = hit.toplevel ∧ hit.nearLastClick then
      { state with lastClickToplevel := none, cursorMode := .passthrough }
    else { state with lastClickToplevel := hit.toplevel, cursorMode := beginInteractive .move hit }

def press (state : PointerState) (button : Button) (hit : PointerHit) : PointerState × Bool :=
  let suppressed := { state with suppressButtonRelease := true }
  -- A menu-driven move or resize runs without a held button; a press confirms it.
  if state.cursorMode ≠ .passthrough then ({ suppressed with cursorMode := .passthrough }, false)
  else if button = .left ∧ hit.csdResize.isSome then
    ({ suppressed with lastClickToplevel := none, cursorMode := beginInteractive .resize hit }, false)
  else if hit.ssdPart ≠ .none then
    if button ≠ .left then
      ({ suppressed with
          pendingWindowMenu := if button = .right ∧ hit.ssdPart = .titlebar then hit.toplevel else none },
        false)
    else (suppressed.pressDecoration hit, false)
  else
    let titlebarClick := button == .left && hit.titlebarPoint
    if titlebarClick && state.lastClickToplevel.isSome && state.lastClickToplevel == hit.toplevel &&
        hit.nearLastClick then
      ({ suppressed with lastClickToplevel := none, cursorMode := .passthrough }, false)
    else ({ state with lastClickToplevel := if titlebarClick then hit.toplevel else none }, true)

def showWindowMenu (overlays : Overlays) : Option WindowMenu → Overlays
  | none => overlays
  | some menu => { overlays with windowMenu := menu, appSwitcher := .initial }

def release (state : PointerState) (button : Button) (hit : PointerHit) : PointerState × Bool :=
  if button = .right ∧ state.pendingWindowMenu.isSome then
    ({ state with
        pendingWindowMenu := none, suppressButtonRelease := false, cursorMode := .passthrough
        overlays := showWindowMenu state.overlays hit.menu },
      false)
  else ({ state with suppressButtonRelease := false, cursorMode := .passthrough }, !state.suppressButtonRelease)

def onCursorButton (state : PointerState) (event : ButtonEvent) : PointerState × Bool :=
  if state.sessionLocked then (state, true)
  else
    let reply := state.overlays.handleButton event.button event.pressed event.answers
    if reply.consumed then
      -- A press that closes the window menu has its release kept.
      let closesMenu := state.overlays.windowMenu.active && !reply.next.windowMenu.active
      ({ state with
          overlays := reply.next
          suppressButtonRelease := state.suppressButtonRelease || (event.pressed && closesMenu) },
        false)
    else if event.pressed then state.press event.button event.hit
    else state.release event.button event.hit

end PointerState

end FlakeWM.Input
