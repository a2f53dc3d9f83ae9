import FlakeWM.Lib.Boxes
import FlakeWM.Lib.Rounding
import Mathlib.Tactic.IntervalCases
import Mathlib.Tactic.Ring

/-! The layout of the windows in the multitasking view.

The search tries ever smaller heights until the windows fill no more rows than
there is room for. The rows it has found are found again by the two passes that
place the windows. -/

set_option autoImplicit false

namespace FlakeWM.View.WindowLayout

open Rounding

structure Screen where
  width : Int
  height : Int

structure Window where
  width : Int
  height : Int

namespace Screen

variable (screen : Screen)

def spacingX : Int := max 1 (lround (screen.width * (20 / 1920)))

def spacingY : Int := max 1 (lround (screen.height * (20 / 1080)))

def windowAreaY : Int :=
  max 1 (lround (screen.height * (20 / 1080))) * 2 + max 1 (lround (screen.height * (240 / 1920)))

def contentHeight : Int := screen.height - screen.windowAreaY

end Screen

/-- The size of a window that is scaled down to the height of a row. -/
def fitted (scaleHeight : ℚ) (window : Window) : ℚ × ℚ :=
  let width : ℚ := (max 1 window.width : Int)
  let height : ℚ := (max 1 window.height : Int)
  if height > scaleHeight then (width * (scaleHeight / height), scaleHeight) else (width, height)

/-- The outcome of one round of the search, with the row of each window. -/
structure Fill where
  overlap : Bool
  usedRows : Nat
  rows : List Nat

section Passes

variable (screen : Screen) (scaleHeight : ℚ)

/-- `row` is one less than the rows used so far. -/
def fill (rows : Nat) : List Window → ℚ → Nat → Fill
  | [], _, row => ⟨false, row + 1, []⟩
  | window :: rest, rowWidth, row =>
    let width := (fitted scaleHeight window).1
    if rowWidth + (width + screen.spacingX) > screen.width then
      if row + 2 > rows then ⟨true, row + 2, []⟩ else
        let found := fill rows rest (screen.spacingX + width + screen.spacingX) (row + 1)
        { found with rows := (row + 1) :: found.rows }
    else
      let found := fill rows rest (rowWidth + (width + screen.spacingX)) row
      { found with rows := row :: found.rows }

def search (windows : List Window) : Nat → Nat → ℚ → Fill × ℚ
  | 0, _, scaleHeight => (⟨true, 1, []⟩, scaleHeight)
  | rounds + 1, rows, scaleHeight =>
    let found := fill screen scaleHeight rows windows screen.spacingX 0
    if found.overlap then
      let smaller := scaleHeight - 15
      let critical : ℚ := (screen.contentHeight - (rows + 2) * screen.spacingY) / (rows + 1)
      if smaller > 32 then search windows rounds (if smaller ≤ critical then rows + 1 else rows) smaller
      else (found, smaller)
    else (found, scaleHeight)

structure Placement where
  row : Nat
  x : ℚ
  y : ℚ
  width : ℚ
  height : ℚ

def place (usedRows : Nat) (widths : Nat → ℚ) : List Window → Nat → ℚ → ℚ → ℚ → List Placement
  | [], _, _, _, _ => []
  | window :: rest, row, x, y, usedWidth =>
    let (width, height) := fitted scaleHeight window
    if usedWidth + width + screen.spacingX > screen.width ∧ row + 1 < usedRows then
      let x := (screen.width - widths (row + 1)) / 2 + screen.spacingX
      let y := y + (scaleHeight + screen.spacingY)
      ⟨row + 1, x, y + (scaleHeight - height) / 2, width, height⟩ ::
        place usedRows widths rest (row + 1) (x + (width + screen.spacingX)) y (screen.spacingX + (width + screen.spacingX))
    else
      ⟨row, x, y + (scaleHeight - height) / 2, width, height⟩ ::
        place usedRows widths rest row (x + (width + screen.spacingX)) y (usedWidth + (width + screen.spacingX))

end Passes

def Placement.box (placement : Placement) : Pixels.Box :=
  ⟨lround placement.x, lround placement.y, lround placement.width, lround placement.height⟩

def found (screen : Screen) (windows : List Window) (rounds : Nat) : Fill × ℚ :=
  search screen windows rounds 1 (screen.height * (720 / 1080))

/-- A window in its row, with the width that is used before it. -/
structure Slot where
  row : Nat
  used : ℚ
  width : ℚ
  height : ℚ

/-- The rows of the search, with nothing but the width of the screen to end one. -/
def slots (screen : Screen) (scaleHeight : ℚ) : List Window → ℚ → Nat → List Slot
  | [], _, _ => []
  | window :: rest, rowWidth, row =>
    let (width, height) := fitted scaleHeight window
    if rowWidth + (width + screen.spacingX) > screen.width then
      ⟨row + 1, screen.spacingX, width, height⟩ ::
        slots screen scaleHeight rest (screen.spacingX + (width + screen.spacingX)) (row + 1)
    else ⟨row, rowWidth, width, height⟩ :: slots screen scaleHeight rest (rowWidth + (width + screen.spacingX)) row

section Rows

variable {s : Screen} {z w : ℚ} {ws : List Window} {row rows n : Nat}

variable (positive : 0 < z)
include positive

end Rows

section Placements

variable {s : Screen} {z : ℚ} {ws : List Window} {rows n : Nat} {f : Nat → ℚ}

end Placements

end FlakeWM.View.WindowLayout
