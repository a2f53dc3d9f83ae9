import FlakeWM.Input.Pointer
import FlakeWM.Lib.Pairing
import FlakeWM.Lib.Transition

/-! Whole button strokes at the seat.

Beside the pointer state stand the buttons that are held down, each with whether
the seat got its press. Overlays, the lock, interactive grabs and windows come
and go between the buttons as they please. -/

set_option autoImplicit false

namespace FlakeWM.Input

open FlakeWM.View

structure PointerRun where
  pointer : PointerState
  held : List (Button × Bool)
  deriving DecidableEq, Repr

inductive PointerRun.Event where
  | button (event : ButtonEvent)
  | setLocked (locked : Bool)
  | setOverlays (overlays : Overlays)
  | setCursorMode (mode : CursorMode)
  | toplevelGone (id : Nat)
  deriving DecidableEq, Repr

namespace PointerState

def releasable (state : PointerState) (button : Button) : Bool :=
  !state.suppressButtonRelease && !(button == .right && state.pendingWindowMenu.isSome)

def delivers (state : PointerState) (button : Button) : Bool :=
  state.sessionLocked || (!state.overlays.ownsPointer && state.releasable button)

def suppresses (state : PointerState) (button : Button) (hit : PointerHit) : Bool :=
  state.cursorMode != .passthrough || (button == .left && hit.csdResize.isSome) || hit.ssdPart != .none ||
    (button == .left && hit.titlebarPoint && state.lastClickToplevel.isSome &&
      state.lastClickToplevel == hit.toplevel && hit.nearLastClick)

section
variable {s : PointerState} {button : Button} {hit : PointerHit}

theorem pressDecoration_suppress (s : PointerState) (hit : PointerHit) :
    (s.pressDecoration hit).suppressButtonRelease = s.suppressButtonRelease ∧
      (s.pressDecoration hit).sessionLocked = s.sessionLocked := by
  unfold pressDecoration
  split
  · exact ⟨rfl, rfl⟩
  · exact ⟨rfl, rfl⟩
  · exact ⟨rfl, rfl⟩
  · exact ⟨rfl, rfl⟩
  · split <;> exact ⟨rfl, rfl⟩

theorem press_suppressed (kept : s.suppresses button hit = true) :
    (s.press button hit).2 = false ∧ (s.press button hit).1.suppressButtonRelease = true ∧
      (s.press button hit).1.sessionLocked = s.sessionLocked := by
  unfold press
  unfold suppresses at kept
  dsimp only
  split
  · exact ⟨rfl, rfl, rfl⟩
  · split
    · exact ⟨rfl, rfl, rfl⟩
    · split
      · split
        · exact ⟨rfl, rfl, rfl⟩
        · exact ⟨rfl, pressDecoration_suppress _ hit⟩
      · split
        · exact ⟨rfl, rfl, rfl⟩
        · rename_i mode border part again
          exfalso
          simp_all

theorem press_delivered (passes : s.suppresses button hit = false) :
    (s.press button hit).2 = true ∧ ∃ click, (s.press button hit).1 = { s with lastClickToplevel := click } := by
  unfold press
  unfold suppresses at passes
  simp only [Bool.or_eq_false_iff, bne_eq_false_iff_eq] at passes
  obtain ⟨⟨⟨mode, border⟩, part⟩, again⟩ := passes
  rw [if_neg (by simp [mode]), if_neg (by simpa using border), if_neg (by simp [part])]
  rw [if_neg (by simpa using again)]
  exact ⟨rfl, _, rfl⟩

theorem delivers_of_suppress (unlocked : s.sessionLocked = false) (suppressed : s.suppressButtonRelease = true)
    (button : Button) : s.delivers button = false := by
  simp [delivers, releasable, unlocked, suppressed]

/-- `delivers` is what `onCursorButton` does with a release. -/
theorem onCursorButton_release {e : ButtonEvent} (up : e.pressed = false) :
    (s.onCursorButton e).2 = s.delivers e.button := by
  unfold onCursorButton delivers
  simp only [Overlays.handleButton_consumed, up]
  cases s.sessionLocked with
  | true => rfl
  | false =>
    cases s.overlays.ownsPointer with
    | true => rfl
    | false =>
      simp only [Bool.false_eq_true, if_false, release, releasable, Bool.false_or, Bool.not_false, Bool.true_and]
      split
      · rename_i pending
        simp [pending]
      · rename_i free
        have plain : (e.button == .right && s.pendingWindowMenu.isSome) = false := by
          rw [Bool.eq_false_iff]
          simpa using free
        simp [plain]

end

end PointerState

namespace PointerRun

open PointerState Pairing

def initial : PointerRun := ⟨.initial, []⟩

def step (run : PointerRun) : Event → PointerRun
  | .button event =>
    let result := run.pointer.onCursorButton event
    { pointer := result.1, held := Pairing.note run.held event.button event.pressed result.2 }
  | .setLocked locked =>
    { run with pointer := { run.pointer with
        sessionLocked := locked
        cursorMode := if locked then .passthrough else run.pointer.cursorMode } }
  | .setOverlays overlays => { run with pointer := { run.pointer with overlays := overlays } }
  | .setCursorMode mode => { run with pointer := { run.pointer with cursorMode := mode } }
  | .toplevelGone id =>
    { run with pointer := { run.pointer with
        pendingWindowMenu :=
          if run.pointer.pendingWindowMenu = some id then none else run.pointer.pendingWindowMenu } }

/-- The seat gets the release of a held button exactly when it got the press. -/
def Paired (run : PointerRun) : Event → Prop
  | .button event =>
    event.pressed = false → Pairing.Paired run.held event.button (run.pointer.onCursorButton event).2
  | _ => True

/-- The seat got the press of a held button exactly if it would get the release now. -/
def Balanced (run : PointerRun) : Prop := Pairing.Balanced run.held run.pointer.delivers

def allKept (state : PointerState) (buttons : List (Button × Bool)) : Bool :=
  buttons.all fun entry => !state.releasable entry.1

/-- A button while no overlay owns the pointer. A press kept by the compositor
finds no other button held that belongs to the client, a press for the client
finds no release to be kept; a kept release is the only one; and the window menu
opens on a release only if the other held buttons are kept, too. -/
def freeButtonSafe (run : PointerRun) (event : ButtonEvent) : Bool :=
  let state := run.pointer
  let others := Pairing.others run.held event.button
  if event.pressed then
    if state.suppresses event.button event.hit then allKept state others else state.releasable event.button
  else if event.button = .right ∧ state.pendingWindowMenu.isSome then
    others.all fun entry => state.releasable entry.1 == !event.hit.menu.any WindowMenu.active
  else !state.suppressButtonRelease || others.all fun entry => entry.1 == .right && state.pendingWindowMenu.isSome

/-- A button an overlay takes: the overlay stays, or it is the window menu and
closes on the press, or no held button is due to the client. -/
def overlayButtonSafe (run : PointerRun) (event : ButtonEvent) : Bool :=
  let state := run.pointer
  let next := (state.overlays.handleButton event.button event.pressed event.answers).next
  next.ownsPointer || (event.pressed && (state.overlays.windowMenu.active && !next.windowMenu.active)) ||
    (allKept state (Pairing.others run.held event.button) && (!event.pressed || !state.releasable event.button))

/-- Besides the buttons: the lock changes while every held button belongs to the
client and no overlay owns the pointer; the overlays take or leave the pointer
while none does; and a window does not take its pending menu away from a right
button that is held for it alone. -/
def buttonSafe (run : PointerRun) : Event → Bool
  | .button event =>
    run.pointer.sessionLocked ||
      if run.pointer.overlays.ownsPointer then run.overlayButtonSafe event else run.freeButtonSafe event
  | .setLocked locked =>
    locked == run.pointer.sessionLocked ||
      run.held.all fun entry => !run.pointer.overlays.ownsPointer && run.pointer.releasable entry.1
  | .setOverlays overlays =>
    run.pointer.sessionLocked || overlays.ownsPointer == run.pointer.overlays.ownsPointer ||
      allKept run.pointer run.held
  | .setCursorMode _ => true
  | .toplevelGone id =>
    run.pointer.pendingWindowMenu != some id || run.pointer.sessionLocked || run.pointer.overlays.ownsPointer ||
      run.pointer.suppressButtonRelease || run.held.all fun entry => entry.1 != .right

section
variable {run : PointerRun}

theorem button_pressed_iff {e : ButtonEvent} (down : e.pressed = true) : (run.step (.button e)).Balanced ↔
      (run.pointer.onCursorButton e).2 = (run.step (.button e)).pointer.delivers e.button ∧
        Pairing.Balanced (Pairing.others run.held e.button) (run.step (.button e)).pointer.delivers :=
  Pairing.balanced_note_pressed down

theorem button_released_iff {e : ButtonEvent} (up : e.pressed = false) : (run.step (.button e)).Balanced ↔
      Pairing.Balanced (Pairing.others run.held e.button) (run.step (.button e)).pointer.delivers :=
  Pairing.balanced_note_released up

theorem locked_button_balanced (balanced : run.Balanced) (locked : run.pointer.sessionLocked = true)
    (e : ButtonEvent) : (run.step (.button e)).Balanced := by
  have result : run.pointer.onCursorButton e = (run.pointer, true) := by
    simp [onCursorButton, locked]
  have same : (run.step (.button e)).pointer = run.pointer := congrArg Prod.fst result
  have others : Pairing.Balanced (Pairing.others run.held e.button) (run.step (.button e)).pointer.delivers := by
    rw [same]
    exact (Pairing.Balanced.iff_agrees balanced Pairing.others_subset).mpr fun _ _ => rfl
  cases direction : e.pressed with
  | true =>
    refine (button_pressed_iff direction).mpr ⟨?_, others⟩
    rw [result, same]
    simp [delivers, locked]
  | false => exact (button_released_iff direction).mpr others

section

variable (balanced : run.Balanced) (unlocked : run.pointer.sessionLocked = false)

include balanced unlocked

theorem overlay_button_iff (owned : run.pointer.overlays.ownsPointer = true) (e : ButtonEvent) :
    (run.step (.button e)).Balanced ↔ run.overlayButtonSafe e = true := by
  have kept : ∀ en ∈ Pairing.others run.held e.button, en.2 = false := by
    intro en mem
    rw [balanced en (Pairing.mem_others.mp mem).1]
    simp [PointerState.delivers, unlocked, owned]
  have consumed : (run.pointer.onCursorButton e).2 = false := by
    simp [PointerState.onCursorButton, unlocked, Overlays.handleButton_consumed, owned]
  let next := (run.pointer.overlays.handleButton e.button e.pressed e.answers).next
  -- A press that closes the window menu sets the flag that keeps the next release.
  let closes := e.pressed && (run.pointer.overlays.windowMenu.active && !next.windowMenu.active)
  have delivers : ∀ button, (run.step (.button e)).pointer.delivers button =
      (!next.ownsPointer && (!closes && run.pointer.releasable button)) := by
    intro button
    simp only [step, PointerState.onCursorButton, unlocked, Overlays.handleButton_consumed, owned,
      PointerState.delivers, PointerState.releasable, Bool.false_eq_true, if_false, if_true, Bool.false_or,
      Bool.not_or, next, closes]
    rw [Bool.and_comm (!run.pointer.suppressButtonRelease), Bool.and_assoc]
  have others : Pairing.Balanced (Pairing.others run.held e.button) (run.step (.button e)).pointer.delivers ↔
      (next.ownsPointer || closes || allKept run.pointer (Pairing.others run.held e.button)) = true := by
    unfold allKept
    cases gone : next.ownsPointer || closes with
    | true =>
      refine iff_of_true ?_ rfl
      intro en mem
      rw [kept en mem, delivers, ← Bool.and_assoc, ← Bool.not_or, gone]
      rfl
    | false =>
      rw [Bool.false_or, List.all_eq_true]
      refine forall₂_congr fun en mem => ?_
      rw [kept en mem, delivers, ← Bool.and_assoc, ← Bool.not_or, gone]
      cases run.pointer.releasable en.1 <;> decide
  have safe : run.overlayButtonSafe e =
      (next.ownsPointer || closes || (allKept run.pointer (Pairing.others run.held e.button) &&
        (!e.pressed || !run.pointer.releasable e.button))) := rfl
  rw [safe]
  cases direction : e.pressed with
  | true =>
    rw [button_pressed_iff direction, others, consumed, delivers]
    cases next.ownsPointer <;> cases closes <;>
      cases allKept run.pointer (Pairing.others run.held e.button) <;>
      cases run.pointer.releasable e.button <;> decide
  | false => rw [button_released_iff direction, others, Bool.not_false, Bool.true_or, Bool.and_true]

theorem free_press_iff (free : run.pointer.overlays.ownsPointer = false) {e : ButtonEvent} (down : e.pressed = true) :
    (run.step (.button e)).Balanced ↔ run.freeButtonSafe e = true := by
  have result : run.pointer.onCursorButton e = run.pointer.press e.button e.hit := by
    simp [onCursorButton, unlocked, Overlays.handleButton_consumed, free, down]
  have before : ∀ button, run.pointer.delivers button = run.pointer.releasable button := by
    simp [delivers, unlocked, free]
  have ptr : (run.step (.button e)).pointer = (run.pointer.press e.button e.hit).1 :=
    congrArg Prod.fst result
  rw [button_pressed_iff down, result, ptr, freeButtonSafe, if_pos down]
  cases kept : run.pointer.suppresses e.button e.hit with
  | true =>
    obtain ⟨undelivered, suppressed, l⟩ := press_suppressed kept
    have after := delivers_of_suppress (l.trans unlocked) suppressed
    -- The flag is set for all buttons, so every other release is kept now, too.
    rw [undelivered, after, if_pos rfl, allKept, List.all_eq_true, and_iff_right rfl]
    refine forall₂_congr fun en mem => ?_
    rw [after, balanced en (mem_others.mp mem).1, before]
    simp
  | false =>
    obtain ⟨delivered, click, next⟩ := press_delivered kept
    have after : ∀ button, (run.pointer.press e.button e.hit).1.delivers button = run.pointer.delivers button := by
      rw [next]
      exact fun _ => rfl
    rw [delivered, after, before, if_neg (by decide), and_iff_left, eq_comm]
    intro en mem
    rw [after]
    exact balanced en (Pairing.mem_others.mp mem).1

omit balanced unlocked in
theorem showWindowMenu_ownsPointer {overlays : Overlays} (free : overlays.ownsPointer = false)
    (shown : Option WindowMenu) :
    (showWindowMenu overlays shown).ownsPointer = shown.any WindowMenu.active := by
  cases shown with
  | none => exact free
  | some =>
    simp only [Overlays.ownsPointer, Bool.or_eq_false_iff] at free
    obtain ⟨⟨⟨⟨_, split⟩, multitasking⟩, p⟩, selector⟩ := free
    simp [showWindowMenu, Overlays.ownsPointer, split, multitasking, p, selector]

theorem free_release_iff (free : run.pointer.overlays.ownsPointer = false) {e : ButtonEvent} (up : e.pressed = false) :
    (run.step (.button e)).Balanced ↔ run.freeButtonSafe e = true := by
  have result : run.pointer.onCursorButton e = run.pointer.release e.button e.hit := by
    simp [onCursorButton, unlocked, Overlays.handleButton_consumed, free, up]
  have before : ∀ button, run.pointer.delivers button = run.pointer.releasable button := by
    simp [delivers, unlocked, free]
  have ptr : (run.step (.button e)).pointer = (run.pointer.release e.button e.hit).1 :=
    congrArg Prod.fst result
  rw [button_released_iff up, ptr, freeButtonSafe, if_neg (by simp [up])]
  unfold release
  split
  · -- The pending menu opens, or it does not and the next release is delivered.
    have after : ∀ button, delivers { run.pointer with
        pendingWindowMenu := none, suppressButtonRelease := false, cursorMode := .passthrough
        overlays := showWindowMenu run.pointer.overlays e.hit.menu } button =
        !e.hit.menu.any WindowMenu.active := by
      intro button
      rw [delivers, showWindowMenu_ownsPointer free]
      simp [releasable, unlocked]
    rw [List.all_eq_true]
    refine forall₂_congr fun en mem => ?_
    rw [after, balanced en (mem_others.mp mem).1, before, beq_iff_eq]
  · cases suppressed : run.pointer.suppressButtonRelease with
    | false =>
      refine iff_of_true ?_ rfl
      intro en mem
      rw [balanced en (mem_others.mp mem).1]
      simp [delivers, releasable, suppressed]
    | true =>
      -- The flag is spent on this button; the others must be kept without it.
      rw [Bool.not_true, Bool.false_or, List.all_eq_true]
      refine forall₂_congr fun en mem => ?_
      rw [balanced en (mem_others.mp mem).1]
      simp [delivers, releasable, suppressed, unlocked, free]

end

theorem setLocked_iff (balanced : run.Balanced) (locked : Bool) :
    (run.step (.setLocked locked)).Balanced ↔ run.buttonSafe (.setLocked locked) = true := by
  have fewer : (run.step (.setLocked locked)).held ⊆ run.held := List.Subset.refl _
  refine (Balanced.iff_agrees balanced fewer).trans ?_
  rw [buttonSafe]
  have after : ∀ button, (run.step (.setLocked locked)).pointer.delivers button =
      (locked || (!run.pointer.overlays.ownsPointer && run.pointer.releasable button)) := fun _ => rfl
  cases same : locked == run.pointer.sessionLocked with
  | true =>
    refine iff_of_true ?_ rfl
    intro en _
    rw [after, beq_iff_eq.mp same]
    rfl
  | false =>
    rw [Bool.false_or, List.all_eq_true]
    refine forall₂_congr fun en _ => ?_
    rw [after, delivers]
    revert same
    cases locked <;> cases run.pointer.sessionLocked <;>
      cases !run.pointer.overlays.ownsPointer && run.pointer.releasable en.1 <;> decide

theorem setOverlays_iff (balanced : run.Balanced) (overlays : Overlays) :
    (run.step (.setOverlays overlays)).Balanced ↔ run.buttonSafe (.setOverlays overlays) = true := by
  have fewer : (run.step (.setOverlays overlays)).held ⊆ run.held := List.Subset.refl _
  refine (Balanced.iff_agrees balanced fewer).trans ?_
  rw [buttonSafe]
  have after : ∀ button, (run.step (.setOverlays overlays)).pointer.delivers button =
      (run.pointer.sessionLocked || (!overlays.ownsPointer && run.pointer.releasable button)) := fun _ => rfl
  cases same : run.pointer.sessionLocked || overlays.ownsPointer == run.pointer.overlays.ownsPointer with
  | true =>
    refine iff_of_true ?_ rfl
    intro en _
    rw [after, delivers]
    revert same
    cases run.pointer.sessionLocked <;> cases overlays.ownsPointer <;> cases run.pointer.overlays.ownsPointer <;>
      cases run.pointer.releasable en.1 <;> decide
  | false =>
    rw [Bool.false_or, allKept, List.all_eq_true]
    refine forall₂_congr fun en _ => ?_
    rw [after, delivers]
    revert same
    cases run.pointer.sessionLocked <;> cases overlays.ownsPointer <;> cases run.pointer.overlays.ownsPointer <;>
      cases run.pointer.releasable en.1 <;> decide

theorem toplevelGone_iff (balanced : run.Balanced) (id : Nat) :
    (run.step (.toplevelGone id)).Balanced ↔ run.buttonSafe (.toplevelGone id) = true := by
  have fewer : (run.step (.toplevelGone id)).held ⊆ run.held := List.Subset.refl _
  refine (Balanced.iff_agrees balanced fewer).trans ?_
  rw [buttonSafe]
  by_cases pending : run.pointer.pendingWindowMenu = some id
  · have after : ∀ button, (run.step (.toplevelGone id)).pointer.delivers button =
        (run.pointer.sessionLocked || (!run.pointer.overlays.ownsPointer && !run.pointer.suppressButtonRelease)) := by
      simp [step, pending, delivers, releasable]
    have before : ∀ button, run.pointer.delivers button = (run.pointer.sessionLocked ||
          (!run.pointer.overlays.ownsPointer && (!run.pointer.suppressButtonRelease && button != .right))) := by
      simp [pending, delivers, releasable, bne]
    have held : (run.step (.toplevelGone id)).held = run.held := rfl
    simp only [held, after, before, pending, bne_self_eq_false, Bool.false_or]
    cases run.pointer.sessionLocked <;> cases run.pointer.overlays.ownsPointer <;>
      cases run.pointer.suppressButtonRelease <;> simp
  · refine iff_of_true ?_ (by simp [pending])
    intro en _
    simp [step, pending, delivers, releasable]

end

theorem step_balanced_iff {run : PointerRun} (balanced : run.Balanced) (e : Event) :
    (run.step e).Balanced ↔ run.buttonSafe e = true := by
  cases e with
  | button e =>
    rw [buttonSafe]
    cases locked : run.pointer.sessionLocked with
    | true => exact iff_of_true (locked_button_balanced balanced locked e) rfl
    | false =>
      cases owned : run.pointer.overlays.ownsPointer with
      | true => exact overlay_button_iff balanced locked owned e
      | false =>
        cases direction : e.pressed with
        | true => exact free_press_iff balanced locked owned direction
        | false => exact free_release_iff balanced locked owned direction
  | setLocked locked => exact setLocked_iff balanced locked
  | setOverlays overlays => exact setOverlays_iff balanced overlays
  | setCursorMode => exact iff_of_true balanced rfl
  | toplevelGone id => exact toplevelGone_iff balanced id

theorem Balanced.paired {run : PointerRun} (balanced : run.Balanced) (e : Event) : run.Paired e := by
  cases e with
  | button =>
    intro up
    exact Pairing.Balanced.paired balanced (PointerState.onCursorButton_release up)
  | _ => trivial

end PointerRun

/-- The runs in which the seat gets the release of a button exactly when it got
the press, whenever the release may come, are exactly the safe ones. -/
theorem buttons_paired_iff (events : List PointerRun.Event) :
    Transition.Throughout PointerRun.step PointerRun.Balanced PointerRun.initial events ∧
        Transition.Along PointerRun.step PointerRun.Paired PointerRun.initial events ↔
      Transition.Along PointerRun.step (fun run event => run.buttonSafe event = true) PointerRun.initial events := by
  have kept : ∀ (run : PointerRun) (event : PointerRun.Event), True → True := fun _ _ fixed => fixed
  have exact_ : ∀ (run : PointerRun) event, True → run.Balanced →
      ((run.step event).Balanced ∧ run.Paired event ↔ run.buttonSafe event = true) := by
    intro run event _ balanced
    rw [and_iff_left (balanced.paired event)]
    exact PointerRun.step_balanced_iff balanced event
  have start : PointerRun.initial.Balanced := Pairing.balanced_nil
  exact Transition.throughout_along_iff kept exact_ trivial start events

section
-- A cursor over the client of window 0, and over its title bar.

def overClient : PointerHit := ⟨some 0, .none, none, false, false, true, none⟩

def overTitlebar : PointerHit := { overClient with ssdPart := .titlebar }

def plainButton (button : Button) (pressed : Bool) (hit : PointerHit) : PointerRun.Event :=
  .button ⟨button, pressed, hit, ⟨-1, [], -1, false, true, -1, 1, false, false, [], none, none⟩⟩

end

/-- With the middle button held on a client, the left one is pressed on a title
bar and starts a move; the release of the middle button is kept in its place and
the client is left with the button down. -/
theorem titlebar_press_keeps_foreign_release :
    ¬ Transition.Along PointerRun.step PointerRun.Paired PointerRun.initial
      [plainButton (.other 0x112) true overClient, plainButton .left true overTitlebar,
        plainButton (.other 0x112) false overTitlebar] := by
  intro paired
  have kept := paired.2.2.1 rfl true (by decide)
  revert kept
  decide

end FlakeWM.Input
