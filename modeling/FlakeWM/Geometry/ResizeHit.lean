import Mathlib.Data.Rat.Floor
import FlakeWM.Geometry.Frames

/-! The resize edges of windows without server-side decoration.

The stack is walked from its top. A window that is not of the right kind, or whose
edges the cursor is not near, is passed over; whether it is visible and whether it
covers the cursor is not looked at. -/

set_option autoImplicit false

namespace FlakeWM.Geometry

open Pixels

def kCsdResizeMargin : Int := 8

structure Edges where
  left : Bool
  right : Bool
  top : Bool
  bottom : Bool
  deriving DecidableEq, Repr

def Edges.none : Edges := ⟨false, false, false, false⟩

structure StackedToplevel where
  toplevel : Toplevel
  workspace : Int
  allWorkspaces : Bool
  minWidth : Int
  maxWidth : Int
  minHeight : Int
  maxHeight : Int
  deriving DecidableEq, Repr

/-- What visibility depends on besides the window. -/
structure Overview where
  currentWorkspace : Int
  multitaskingSourcesHidden : Bool
  windowPreviewsSourcesHidden : Bool
  deriving DecidableEq, Repr

namespace StackedToplevel

def isToplevelVisible (overview : Overview) (window : StackedToplevel) : Bool :=
  window.toplevel.mapped && !window.toplevel.minimized &&
    (window.allWorkspaces || window.workspace == overview.currentWorkspace) &&
    !overview.multitaskingSourcesHidden && !overview.windowPreviewsSourcesHidden

def resizable (window : StackedToplevel) : Bool :=
  let toplevel := window.toplevel
  toplevel.alive && !toplevel.xwayland && toplevel.ssd.isNone && toplevel.tree && toplevel.mapped &&
    !toplevel.minimized && !toplevel.maximized && !toplevel.tiled && !toplevel.fullscreen &&
    0 < toplevel.geometry.width && 0 < toplevel.geometry.height

def fixedWidth (window : StackedToplevel) : Bool :=
  0 < window.minWidth && 0 < window.maxWidth && window.minWidth == window.maxWidth

def fixedHeight (window : StackedToplevel) : Bool :=
  0 < window.minHeight && 0 < window.maxHeight && window.minHeight == window.maxHeight

variable (cursorX cursorY : ℚ)

def near (window : StackedToplevel) : Bool :=
  let left := window.toplevel.x
  let top := window.toplevel.y
  let right := left + window.toplevel.geometry.width
  let bottom := top + window.toplevel.geometry.height
  !(cursorX < (left - kCsdResizeMargin : Int) || cursorX ≥ (right + kCsdResizeMargin : Int) ||
    cursorY < (top - kCsdResizeMargin : Int) || cursorY ≥ (bottom + kCsdResizeMargin : Int))

def edgesAt (window : StackedToplevel) : Edges :=
  let left := window.toplevel.x
  let top := window.toplevel.y
  let right := left + window.toplevel.geometry.width
  let bottom := top + window.toplevel.geometry.height
  let atLeft := decide (cursorX < (left + kCsdResizeMargin : Int))
  let atTop := decide (cursorY < (top + kCsdResizeMargin : Int))
  { left := atLeft && !window.fixedWidth
    right := !atLeft && decide (cursorX ≥ (right - kCsdResizeMargin : Int)) && !window.fixedWidth
    top := atTop && !window.fixedHeight
    bottom := !atTop && decide (cursorY ≥ (bottom - kCsdResizeMargin : Int)) && !window.fixedHeight }

def resizeEdges (window : StackedToplevel) : Option Edges :=
  if window.resizable && window.near cursorX cursorY && window.edgesAt cursorX cursorY != .none then
    some (window.edgesAt cursorX cursorY)
  else none

def covers (window : StackedToplevel) : Bool :=
  let frame := window.toplevel.layoutFrame
  decide (frame.x ≤ cursorX) && decide (cursorX < (frame.x + frame.width : Int)) && decide (frame.y ≤ cursorY) &&
    decide (cursorY < (frame.y + frame.height : Int))

end StackedToplevel

/-- The scene nodes above each other, the topmost first; a node may belong to no
toplevel. -/
abbrev Stack := List (Option StackedToplevel)

namespace Stack

variable (overview : Overview) (cursorX cursorY : ℚ)

/-- `CsdResizeHitAt`: the place in the stack of the toplevel that is hit, and the edges. -/
def csdResizeHitAt : Stack → Option (Nat × Edges)
  | [] => none
  | node :: rest =>
    match node.bind (·.resizeEdges cursorX cursorY) with
    | some edges => some (0, edges)
    | none => (csdResizeHitAt rest).map fun hit => (hit.1 + 1, hit.2)

/-- The toplevel that is hit is visible, and no visible one above it covers the cursor. -/
def HitOnTop (stack : Stack) : Prop :=
  ∀ hit, csdResizeHitAt cursorX cursorY stack = some hit →
    (∀ window, stack[hit.1]? = some (some window) → window.isToplevelVisible overview = true) ∧
    ∀ (above : Nat) (window : StackedToplevel), above < hit.1 → stack[above]? = some (some window) →
      window.isToplevelVisible overview = true → window.covers cursorX cursorY = false

/-- The toplevel at this place has resize edges at the cursor. -/
def answers (stack : Stack) (place : Nat) : Bool :=
  stack[place]?.any fun node => (node.bind (·.resizeEdges cursorX cursorY)).isSome

/-- The toplevel at this place is hidden and has resize edges at the cursor, or is visible
and covers the cursor without such edges. -/
def Snag (stack : Stack) (place : Nat) : Prop :=
  ∃ window, stack[place]? = some (some window) ∧
    if answers cursorX cursorY stack place then window.isToplevelVisible overview = false
    else window.isToplevelVisible overview = true ∧ window.covers cursorX cursorY = true

/-- Every snag is below a toplevel with resize edges at the cursor, or above none. -/
def Unsnagged (stack : Stack) : Prop :=
  ∀ place, Snag overview cursorX cursorY stack place →
    (∃ above < place, answers cursorX cursorY stack above = true) ∨
      ∀ below ≥ place, answers cursorX cursorY stack below = false

section

variable {cursorX cursorY}

theorem csdResizeHitAt_none {stack : Stack} (missed : csdResizeHitAt cursorX cursorY stack = none) (place : Nat) :
    answers cursorX cursorY stack place = false := by
  induction stack generalizing place with
  | nil => rfl
  | cons node rest ih =>
    unfold csdResizeHitAt at missed
    cases answer : node.bind (·.resizeEdges cursorX cursorY) with
    | some => simp [answer] at missed
    | none =>
      cases place with
      | zero => simp [answers, answer]
      | succ place => exact ih (by simpa [answer] using missed) place

/-- The toplevel that is hit is the first with resize edges at the cursor. -/
theorem csdResizeHitAt_first {stack : Stack} {hit : Nat × Edges}
    (found : csdResizeHitAt cursorX cursorY stack = some hit) :
    answers cursorX cursorY stack hit.1 = true ∧ ∀ above < hit.1, answers cursorX cursorY stack above = false := by
  induction stack generalizing hit with
  | nil => cases found
  | cons node rest ih =>
    unfold csdResizeHitAt at found
    cases answer : node.bind (·.resizeEdges cursorX cursorY) with
    | some edges =>
      obtain rfl : (0, edges) = hit := by simpa [answer] using found
      exact ⟨by simp [answers, answer], fun above before => absurd before (Nat.not_lt_zero above)⟩
    | none =>
      rw [answer] at found
      obtain ⟨later, laterFound, rfl⟩ := Option.map_eq_some_iff.mp found
      obtain ⟨here, first⟩ := ih laterFound
      refine ⟨here, fun above before => ?_⟩
      cases above with
      | zero => simp [answers, answer]
      | succ above => exact first above (Nat.lt_of_succ_lt_succ before)

end

/-- For every stack and every cursor position the hit is on top exactly if no hidden
toplevel with resize edges at the cursor is the first that has them, and no visible one
without such edges covers the cursor above the first. -/
theorem hitOnTop_iff_unsnagged (stack : Stack) :
    HitOnTop overview cursorX cursorY stack ↔ Unsnagged overview cursorX cursorY stack := by
  constructor
  · rintro onTop place ⟨window, placed, snagged⟩
    cases found : csdResizeHitAt cursorX cursorY stack with
    | none => exact .inr fun below _ => csdResizeHitAt_none found below
    | some hit =>
      obtain ⟨visible, uncovered⟩ := onTop hit found
      obtain ⟨answer, first⟩ := csdResizeHitAt_first found
      left
      obtain before | rfl | after := lt_trichotomy place hit.1
      · -- above the hit nothing has edges here, so this one would cover the cursor
        rw [first place before] at snagged
        obtain ⟨shown, covers⟩ := snagged
        rw [uncovered place window before placed shown] at covers
        cases covers
      · rw [answer, if_pos rfl, visible window placed] at snagged
        cases snagged
      · exact ⟨hit.1, after, answer⟩
  · intro unsnagged hit found
    obtain ⟨answer, first⟩ := csdResizeHitAt_first found
    have clear : ∀ place ≤ hit.1, ¬ Snag overview cursorX cursorY stack place := by
      intro place reached snagged
      obtain ⟨above, before, answered⟩ | silent := unsnagged place snagged
      · rw [first above (by omega)] at answered
        cases answered
      · rw [silent hit.1 reached] at answer
        cases answer
    constructor
    · intro window placed
      by_contra hidden
      exact clear hit.1 le_rfl ⟨window, placed, by simpa [answer] using hidden⟩
    · intro above window before placed visible
      by_contra covers
      exact clear above before.le ⟨window, placed, by simpa [first above before, visible] using covers⟩

/-- The cursor is at the left edge of a window of another workspace; and at that of a
visible window, under a decorated one. -/
theorem not_hitOnTop_of_passed :
    let plain : Toplevel := { Toplevel.create false with
      mapped := true, x := 100, y := 100, geometry := ⟨0, 0, 800, 600⟩ }
    let decorated : Toplevel := { Toplevel.create false with
      mapped := true, x := 50, y := 150, geometry := ⟨0, 0, 400, 400⟩, ssd := some ⟨false, false⟩ }
    ¬ HitOnTop ⟨0, false, false⟩ 100 300 [some ⟨plain, 1, false, 0, 0, 0, 0⟩] ∧
      ¬ HitOnTop ⟨0, false, false⟩ 100 300
        [some ⟨decorated, 0, false, 0, 0, 0, 0⟩, some ⟨plain, 0, false, 0, 0, 0, 0⟩] := by
  refine ⟨fun top => ?_, fun top => ?_⟩
  · have visible := (top (0, ⟨true, false, false, false⟩) (by decide)).1 _ rfl
    exact absurd visible (by decide)
  · have uncovered := (top (1, ⟨true, false, false, false⟩) (by decide)).2 0 _ (by decide) rfl (by decide)
    exact absurd uncovered (by decide)

end Stack

end FlakeWM.Geometry
