import Mathlib.Data.List.Basic

/-! Boxes of whole pixels, and boxes that stand in a row.

A row is given by its steps: each box starts where the steps before it end. Boxes
that are no wider than their steps do not meet. -/

set_option autoImplicit false

namespace Pixels

@[ext] structure Box where
  x : Int
  y : Int
  width : Int
  height : Int
  deriving DecidableEq, Repr

namespace Box

def Contains (box : Box) (px py : Int) : Prop :=
  box.x ≤ px ∧ px < box.x + box.width ∧ box.y ≤ py ∧ py < box.y + box.height

def Disjoint (first second : Box) : Prop :=
  ∀ px py, first.Contains px py → ¬ second.Contains px py

theorem disjoint_of_left {first second : Box} (left : first.x + first.width ≤ second.x) : first.Disjoint second := by
  rintro px py ⟨_, before, _⟩ ⟨after, _⟩
  omega

theorem Disjoint.symm {first second : Box} (apart : first.Disjoint second) : second.Disjoint first :=
  fun px py inSecond inFirst => apart px py inFirst inSecond

end Box

def offset : List Int → Nat → Int
  | [], _ => 0
  | _ :: _, 0 => 0
  | step :: rest, index + 1 => step + offset rest index

@[simp] theorem offset_zero (steps : List Int) : offset steps 0 = 0 := by
  cases steps <;> rfl

variable {steps : List Int}

theorem offset_succ {i : Nat} {step : Int} (found : steps[i]? = some step) :
    offset steps (i + 1) = offset steps i + step := by
  induction steps generalizing i with
  | nil => simp at found
  | cons first rest ih =>
    cases i with
    | zero =>
      have same : first = step := by simpa using found
      simp [offset, same]
    | succ i =>
      have later := ih (by simpa using found)
      simp only [offset] at later ⊢
      omega

section

variable (forward : ∀ step ∈ steps, 0 ≤ step)

include forward

theorem offset_nonneg (i : Nat) : 0 ≤ offset steps i := by
  induction steps generalizing i with
  | nil => simp [offset]
  | cons first rest ih =>
    cases i with
    | zero => simp [offset]
    | succ i =>
      have here := forward first (.head _)
      have later := ih (fun step mem => forward step (.tail _ mem)) i
      simp only [offset]
      omega

theorem offset_add_le {i later : Nat} {step : Int} (found : steps[i]? = some step) (order : i < later) :
    offset steps i + step ≤ offset steps later := by
  induction steps generalizing i later with
  | nil => simp at found
  | cons first rest ih =>
    have forward' : ∀ step ∈ rest, 0 ≤ step := fun step mem => forward step (.tail _ mem)
    obtain ⟨later, rfl⟩ : ∃ previous, later = previous + 1 := ⟨later - 1, by omega⟩
    cases i with
    | zero =>
      have same : first = step := by simpa using found
      have after := offset_nonneg forward' later
      simp only [offset]
      omega
    | succ i =>
      have next := ih forward' (by simpa using found) (by omega : i < later)
      simp only [offset]
      omega

theorem disjoint_of_offset {i later : Nat} {step : Int} (found : steps[i]? = some step) (order : i < later)
    {first second : Box} (firstAt : first.x = offset steps i) (fits : first.width ≤ step)
    (secondAt : second.x = offset steps later) :
    first.Disjoint second := by
  have ends := offset_add_le forward found order
  apply Box.disjoint_of_left
  omega

end

end Pixels
