import Mathlib.Algebra.Order.Floor.Ring
import Mathlib.Data.Rat.Floor
import Mathlib.Tactic.Linarith

/-! Rounding to the nearest integer, halves away from zero. -/

set_option autoImplicit false

namespace Rounding

def lround (value : ℚ) : Int :=
  if 0 ≤ value then ⌊value + 1 / 2⌋ else -⌊-value + 1 / 2⌋

theorem lround_sub_le (value : ℚ) : -(1 / 2) ≤ lround value - value ∧ lround value - value ≤ 1 / 2 := by
  unfold lround
  split
  · have below := Int.floor_le (value + 1 / 2)
    have above := Int.lt_floor_add_one (value + 1 / 2)
    constructor <;> linarith
  · have below := Int.floor_le (-value + 1 / 2)
    have above := Int.lt_floor_add_one (-value + 1 / 2)
    push_cast
    constructor <;> linarith

theorem lround_eq {value : ℚ} {nearest : Int} (below : -(1 / 2) < value - nearest) (above : value - nearest < 1 / 2) :
    lround value = nearest := by
  have ⟨least, most⟩ := lround_sub_le value
  have upper : ((lround value - nearest : Int) : ℚ) < 1 := by push_cast; linarith
  have lower : (-1 : ℚ) < ((lround value - nearest : Int) : ℚ) := by push_cast; linarith
  have upper' : lround value - nearest < 1 := by exact_mod_cast upper
  have lower' : -1 < lround value - nearest := by exact_mod_cast lower
  omega

theorem lround_intCast (value : Int) : lround value = value := by
  apply lround_eq <;> norm_num

theorem lround_nonneg {value : ℚ} (positive : 0 ≤ value) : 0 ≤ lround value := by
  rw [lround, if_pos positive]
  exact Int.floor_nonneg.mpr (by linarith)

theorem lround_mono {least most : ℚ} (order : least ≤ most) : lround least ≤ lround most := by
  by_cases positive : 0 ≤ least
  · rw [lround, lround, if_pos positive, if_pos (positive.trans order)]
    exact Int.floor_mono (by linarith)
  · by_cases later : 0 ≤ most
    · -- a negative number is rounded to one that is not positive
      have negative : lround least ≤ 0 := by
        rw [lround, if_neg positive]
        have turned : 0 ≤ ⌊-least + 1 / 2⌋ := Int.floor_nonneg.mpr (by linarith)
        omega
      exact negative.trans (lround_nonneg later)
    · rw [lround, lround, if_neg positive, if_neg later]
      have turned : ⌊-most + 1 / 2⌋ ≤ ⌊-least + 1 / 2⌋ := Int.floor_mono (by linarith)
      omega

end Rounding
