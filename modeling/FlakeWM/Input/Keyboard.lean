import FlakeWM.View.Overlays

/-! The way of a key event through the compositor, `Keyboard::OnKey`.

The event is offered to the overlays in a fixed order, then, unless the session
is locked, to the key-binding manager and the input method, and reaches the
seat when nobody has taken it. For each overlay it is said which keys it takes
and which of those it leaves alone still change it. -/

set_option autoImplicit false

namespace FlakeWM.View

open FlakeWM.Input

section
variable {σ : Type} (next : σ) (requests : List Request)

@[simp] theorem Reply.pass_consumed : (Reply.pass next).consumed = false := rfl
@[simp] theorem Reply.pass_next : (Reply.pass next).next = next := rfl
@[simp] theorem Reply.consume_consumed : (Reply.consume next requests).consumed = true := rfl

end

def WindowMenu.takesKey (menu : WindowMenu) (event : KeyEvent) : Bool :=
  menu.active && !(event.hasState && !event.pressed && event.symbol == Keysym.f3)

theorem WindowMenu.handleKey_consumed (menu : WindowMenu) (e : KeyEvent) :
    (menu.handleKey e).consumed = menu.takesKey e := by
  unfold WindowMenu.handleKey WindowMenu.takesKey
  simp only [apply_ite Reply.consumed, Reply.pass_consumed, Reply.consume_consumed, ite_self]
  cases menu.active <;> cases e.hasState <;> cases e.pressed <;>
    cases e.symbol == Keysym.f3 <;> rfl

theorem WindowMenu.handleKey_next {menu : WindowMenu} {e : KeyEvent} (passes : menu.takesKey e = false) :
    (menu.handleKey e).next = menu := by
  unfold WindowMenu.handleKey
  unfold WindowMenu.takesKey at passes
  split
  · rfl
  · split
    · simp_all
    · split
      · rfl
      · simp_all

def WindowSelector.takesKey (selector : WindowSelector) : Bool := selector.active

theorem WindowSelector.handleKey_consumed (selector : WindowSelector) (e : KeyEvent) :
    (selector.handleKey e).consumed = selector.takesKey := by
  unfold WindowSelector.handleKey WindowSelector.takesKey WindowSelector.finish
  simp only [apply_ite Reply.consumed, Reply.pass_consumed, Reply.consume_consumed, ite_self]
  cases selector.active <;> rfl

theorem WindowSelector.handleKey_next {selector : WindowSelector} (e : KeyEvent)
    (passes : selector.takesKey = false) : (selector.handleKey e).next = selector := by
  unfold WindowSelector.handleKey
  rw [show selector.active = false from passes]
  rfl

def WindowPreviews.takesKey (previews : WindowPreviews) (event : KeyEvent) : Bool :=
  previews.isActive && !(event.hasState && WindowPreviews.ownShortcut event)

variable (previews : WindowPreviews) (e : KeyEvent)

theorem WindowPreviews.handlePress_consumed (ans : Answers) : (previews.handlePress e ans).consumed = true := by
  unfold WindowPreviews.handlePress WindowPreviews.activateItem
  simp only [apply_ite Reply.consumed, Reply.consume_consumed, ite_self]

theorem WindowPreviews.handleKey_consumed (ans : Answers) :
    (previews.handleKey e ans).consumed = previews.takesKey e := by
  unfold WindowPreviews.handleKey WindowPreviews.takesKey
  simp only [apply_ite Reply.consumed, Reply.pass_consumed, Reply.consume_consumed,
    WindowPreviews.handlePress_consumed, ite_self]
  cases previews.isActive <;> cases e.hasState <;> cases WindowPreviews.ownShortcut e <;> rfl

/-- The event is the release that `noteRelease` writes down. -/
def WindowPreviews.notesRelease (previews : WindowPreviews) (event : KeyEvent) : Bool :=
  previews.isActive && !event.pressed && previews.lastKey == event.key.keycode && !previews.keyReleased

theorem WindowPreviews.noteRelease_eq : previews.noteRelease e = previews ↔
      (!e.pressed && previews.lastKey == e.key.keycode && !previews.keyReleased) = false := by
  obtain ⟨active, closing, items, highlighted, filter, lastKey, keyReleased⟩ := previews
  unfold WindowPreviews.noteRelease
  cases e.pressed <;> cases keyReleased <;> cases lastKey == e.key.keycode <;> simp

theorem WindowPreviews.handleKey_next {p : WindowPreviews} {e : KeyEvent} (ans : Answers)
    (passes : p.takesKey e = false) :
    (p.handleKey e ans).next = p ↔ p.notesRelease e = false := by
  unfold WindowPreviews.handleKey WindowPreviews.notesRelease
  unfold WindowPreviews.takesKey at passes
  cases active : p.isActive with
  | false => simp
  | true =>
    simp only [active, Bool.true_and, Bool.not_eq_false', Bool.and_eq_true] at passes
    simp only [passes.1, passes.2, Bool.not_true, Bool.false_eq_true, if_false, if_true, Reply.pass_next, Bool.true_and]
    exact p.noteRelease_eq e

def Multitasking.takesKey (view : Multitasking) (event : KeyEvent) : Bool :=
  view.isActive &&
    !(!view.closing && event.hasState && event.modifiers.has .logo && Multitasking.toggleKey event.symbol)

theorem Multitasking.handleKey_consumed (view : Multitasking) (e : KeyEvent) (ans : Answers) :
    (view.handleKey e ans).consumed = view.takesKey e := by
  unfold Multitasking.handleKey Multitasking.takesKey Multitasking.isActive
  simp only [apply_ite Reply.consumed, Reply.pass_consumed, Reply.consume_consumed, ite_self]
  cases view.active <;> cases view.closing <;> cases e.hasState <;> cases e.modifiers.has .logo <;>
    cases Multitasking.toggleKey e.symbol <;> rfl

theorem Multitasking.handleKey_next {view : Multitasking} {e : KeyEvent} (ans : Answers)
    (passes : view.takesKey e = false) : (view.handleKey e ans).next = view := by
  unfold Multitasking.handleKey
  unfold Multitasking.takesKey Multitasking.isActive at passes
  split
  · rfl
  · split
    · simp_all
    · split
      · rfl
      · simp_all

def AppSwitcher.takesKey (switcher : AppSwitcher) (event : KeyEvent) : Bool :=
  switcher.active &&
    !(event.hasState &&
      (event.symbol == Keysym.tab || event.symbol == Keysym.isoLeftTab ||
        AppSwitcher.isForwardedModifier event.symbol))

def AppSwitcher.endsOn (switcher : AppSwitcher) (event : KeyEvent) : Bool :=
  switcher.active && !event.pressed && AppSwitcher.isAlt event.symbol

theorem AppSwitcher.isAlt_forwarded {symbol : Keysym} (alt : AppSwitcher.isAlt symbol = true) :
    AppSwitcher.isForwardedModifier symbol = true := by
  simp only [AppSwitcher.isAlt, Bool.or_eq_true, beq_iff_eq] at alt
  rcases alt with rfl | rfl <;> rfl

theorem AppSwitcher.handleKey_consumed (switcher : AppSwitcher) (e : KeyEvent) :
    (switcher.handleKey e).consumed = switcher.takesKey e := by
  unfold AppSwitcher.handleKey AppSwitcher.takesKey
  cases switcher.active with
  | false => rfl
  | true =>
    cases e.hasState with
    | false => rfl
    | true =>
      -- Escape and Return are neither Tab nor modifiers, Alt is a modifier.
      simp only [Bool.not_true, Bool.false_eq_true, if_false, Bool.true_and]
      split
      · rename_i cycles
        rcases cycles with same | same <;> rw [same] <;> rfl
      · rename_i plain
        push Not at plain
        split
        · rename_i same
          rw [same]
          rfl
        · split
          · rename_i enter
            rcases enter with same | same <;> rw [same] <;> rfl
          · split
            · rename_i ends
              rw [AppSwitcher.isAlt_forwarded (Bool.and_eq_true_iff.mp ends).2]
              simp
            · simp [plain]

theorem AppSwitcher.handleKey_next {switcher : AppSwitcher} {e : KeyEvent} (passes : switcher.takesKey e = false) :
    (switcher.handleKey e).next = switcher ↔ switcher.endsOn e = false := by
  rw [← AppSwitcher.handleKey_consumed] at passes
  unfold AppSwitcher.endsOn
  cases active : switcher.active with
  | false => simp [AppSwitcher.handleKey, active]
  | true =>
    have changed : (switcher.finish true).1 ≠ switcher := by
      intro same
      rw [← same] at active
      cases active
    revert passes
    simp only [AppSwitcher.handleKey, active, Bool.not_true, Bool.false_eq_true, if_false, Bool.true_and]
    split
    · exact nofun
    · split
      · -- Tab moves the selection and is no Alt.
        rename_i cycles
        have noAlt : AppSwitcher.isAlt e.symbol = false := by
          rcases cycles with same | same <;> rw [same] <;> rfl
        simp [noAlt]
      · -- Escape and Enter are consumed, so only the release of Alt is left.
        split
        · exact nofun
        · split
          · exact nofun
          · split
            · rename_i ends
              simp [ends, changed]
            · rename_i stays
              simpa using fun _ => stays

def Overlays.takesKey (overlays : Overlays) (event : KeyEvent) : Bool :=
  overlays.windowMenu.takesKey event || overlays.windowSelector.takesKey ||
    overlays.windowPreviews.takesKey event || overlays.multitasking.takesKey event ||
    overlays.appSwitcher.takesKey event

/-- The overlays let the key through and none of them changes. -/
def Overlays.ignoresKey (overlays : Overlays) (event : KeyEvent) : Bool :=
  !overlays.takesKey event && !overlays.windowPreviews.notesRelease event && !overlays.appSwitcher.endsOn event

/-- The part of `OnKey` up to the first overlay that consumes the event. -/
def Overlays.handleKey (overlays : Overlays) (event : KeyEvent) (answers : Answers) : Reply Overlays :=
  let menu := overlays.windowMenu.handleKey event
  let overlays := { overlays with windowMenu := menu.next }
  if menu.consumed then .consume overlays menu.requests
  else
    let selector := overlays.windowSelector.handleKey event
    let overlays := { overlays with windowSelector := selector.next }
    if selector.consumed then .consume overlays selector.requests
    else
      let previews := overlays.windowPreviews.handleKey event answers
      let overlays := { overlays with windowPreviews := previews.next }
      if previews.consumed then .consume overlays previews.requests
      else
        let multitasking := overlays.multitasking.handleKey event answers
        let overlays := { overlays with multitasking := multitasking.next }
        if multitasking.consumed then .consume overlays multitasking.requests
        else
          let switcher := overlays.appSwitcher.handleKey event
          ⟨{ overlays with appSwitcher := switcher.next }, switcher.consumed, switcher.requests⟩

theorem Overlays.handleKey_consumed (overlays : Overlays) (e : KeyEvent) (ans : Answers) :
    (overlays.handleKey e ans).consumed = overlays.takesKey e := by
  unfold Overlays.handleKey Overlays.takesKey
  simp only [apply_ite Reply.consumed, Reply.consume_consumed, WindowMenu.handleKey_consumed,
    WindowSelector.handleKey_consumed, WindowPreviews.handleKey_consumed, Multitasking.handleKey_consumed,
    AppSwitcher.handleKey_consumed]
  cases overlays.windowMenu.takesKey e <;> cases overlays.windowSelector.takesKey <;>
    cases overlays.windowPreviews.takesKey e <;> cases overlays.multitasking.takesKey e <;> rfl

theorem Overlays.handleKey_next {overlays : Overlays} {e : KeyEvent} (ans : Answers)
    (passes : overlays.takesKey e = false) :
    (overlays.handleKey e ans).next = overlays ↔ overlays.ignoresKey e = true := by
  have all := passes
  simp only [Overlays.takesKey, Bool.or_eq_false_iff] at all
  obtain ⟨⟨⟨⟨menu, selector⟩, previews⟩, multitasking⟩, switcher⟩ := all
  have kept := WindowPreviews.handleKey_next ans previews
  have open_ := AppSwitcher.handleKey_next switcher
  unfold Overlays.handleKey Overlays.ignoresKey
  simp only [WindowMenu.handleKey_consumed, WindowSelector.handleKey_consumed, WindowPreviews.handleKey_consumed,
    Multitasking.handleKey_consumed, menu, selector, previews, multitasking, passes, Bool.false_eq_true, if_false,
    WindowMenu.handleKey_next menu, WindowSelector.handleKey_next e selector,
    Multitasking.handleKey_next ans multitasking]
  obtain ⟨windowMenu, windowSelector, windowPreviews, view, appSwitcher, split⟩ := overlays
  simp [kept, open_]

end FlakeWM.View

namespace FlakeWM.Input

open FlakeWM.View

variable {α : Type}

/-- Who takes a key event. -/
inductive Receiver where
  | overlay
  | binding
  | inputMethod
  | seat
  deriving DecidableEq, Repr

structure KeyState (α : Type) where
  sessionLocked : Bool
  overlays : Overlays
  manager : KeyBindingManager α

/-- What the rest of the compositor contributes to one key event. -/
structure KeyContext where
  shortcutsInhibited : Bool
  inputMethodGrab : Bool
  answers : Answers
  deriving DecidableEq, Repr

/-- `handled` is the call of the key-binding manager; without one it is empty. -/
structure KeyResult (α : Type) where
  overlays : Overlays
  handled : Handled α
  receiver : Receiver
  requests : List Request

def KeyState.onKey (xkb : Xkb) (state : KeyState α) (event : KeyEvent) (context : KeyContext) : KeyResult α :=
  let reply := state.overlays.handleKey event context.answers
  let untouched := state.manager.answer false
  if reply.consumed then ⟨reply.next, untouched, .overlay, reply.requests⟩
  else if state.sessionLocked then ⟨reply.next, untouched, .seat, reply.requests⟩
  else
    let handled := state.manager.handleKey xkb event context.shortcutsInhibited
    ⟨reply.next, handled,
      if handled.consumed then .binding else if context.inputMethodGrab then .inputMethod else .seat,
      reply.requests⟩

theorem KeyState.onKey_handled (xkb : Xkb) (s : KeyState α) (e : KeyEvent) (context : KeyContext) :
    (s.onKey xkb e context).handled = if s.sessionLocked || s.overlays.takesKey e then s.manager.answer false
      else s.manager.handleKey xkb e context.shortcutsInhibited := by
  unfold KeyState.onKey
  simp only [Overlays.handleKey_consumed]
  cases s.overlays.takesKey e <;> cases s.sessionLocked <;> rfl

/-- With the session locked, a key reaches the seat with no overlay changed and
no action run exactly when the overlays that are still open all ignore it. -/
theorem locked_key_reaches_seat_iff (xkb : Xkb) (state : KeyState α) (locked : state.sessionLocked = true)
    (event : KeyEvent) (context : KeyContext) :
    ((state.onKey xkb event context).receiver = .seat ∧
        (state.onKey xkb event context).overlays = state.overlays ∧
        (state.onKey xkb event context).handled.action = none) ↔
      state.overlays.ignoresKey event = true := by
  cases taken : state.overlays.takesKey event with
  | true =>
    -- An overlay consumed the key, so nobody else sees it.
    have consumed : (state.onKey xkb event context).receiver = .overlay := by
      simp [KeyState.onKey, Overlays.handleKey_consumed, taken]
    rw [consumed]
    simp [Overlays.ignoresKey, taken]
  | false =>
    have result : state.onKey xkb event context =
        ⟨(state.overlays.handleKey event context.answers).next, state.manager.answer false, .seat,
          (state.overlays.handleKey event context.answers).requests⟩ := by
      simp [KeyState.onKey, Overlays.handleKey_consumed, taken, locked]
    rw [result, ← Overlays.handleKey_next context.answers taken]
    exact ⟨fun reached => reached.2.1, fun same => ⟨rfl, same, rfl⟩⟩

section
-- A keyboard whose layout types `symbol` and a compositor that answers nothing.

def plainXkb : Xkb := ⟨id, fun _ => ""⟩

def plainKey (keycode : Nat) (pressed : Bool) (symbol : Keysym) (modifiers : Modifiers) : KeyEvent :=
  ⟨⟨0, keycode⟩, pressed, true, symbol, [symbol], [], modifiers⟩

def plainContext : KeyContext := ⟨false, false, ⟨-1, [], -1, false, true, -1, 1, false, false, [], none, none⟩⟩

def overviewOpen : Overlays := { Overlays.initial with multitasking := { Multitasking.initial with active := true } }

end

/-- On a lock screen without overlays every key is typed into the lock client. -/
theorem bare_lock_screen_receives_key :
    (⟨true, .initial, .initial⟩ : KeyState Unit).sessionLocked = true ∧
      ((⟨true, .initial, .initial⟩ : KeyState Unit).onKey plainXkb (plainKey 45 true 0x78 0) plainContext).receiver =
        .seat :=
  ⟨rfl, ((locked_key_reaches_seat_iff plainXkb ⟨true, .initial, .initial⟩ rfl (plainKey 45 true 0x78 0)
    plainContext).mpr (by decide)).1⟩

/-- The multitasking view was open when the session was locked: it swallows the
password, and Escape closes it. -/
theorem overview_swallows_locked_key :
    ((⟨true, overviewOpen, .initial⟩ : KeyState Unit).onKey plainXkb (plainKey 45 true 0x78 0) plainContext).receiver =
        .overlay ∧
      ((⟨true, overviewOpen, .initial⟩ : KeyState Unit).onKey plainXkb (plainKey 1 true Keysym.escape 0)
        plainContext).overlays ≠ overviewOpen := by
  decide

end FlakeWM.Input
