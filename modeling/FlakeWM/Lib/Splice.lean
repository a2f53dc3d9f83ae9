import Mathlib.Data.List.Basic

/-! Replacing a part of a list.

The part between two positions gives way to another list. Replacing with nothing
between the positions is an insertion, and a replacement is that insertion exactly
if nothing was between them. -/

set_option autoImplicit false

namespace Splice

variable {α : Type}

def replace (text : List α) (start stop : Nat) (part : List α) : List α := text.take start ++ part ++ text.drop stop

variable (text part : List α) {start stop pos : Nat}

theorem length_replace : (replace text start stop part).length =
    min start text.length + part.length + (text.length - stop) := by
  simp [replace, Nat.add_assoc]

theorem replace_replace (inside : start ≤ text.length) :
    replace (replace text start stop []) start start part = replace text start stop part := by
  have size : (text.take start).length = start := List.length_take_of_le inside
  have kept : (text.take start ++ text.drop stop).take start = text.take start := List.take_left' size
  have rest : (text.take start ++ text.drop stop).drop start = text.drop stop := List.drop_left' size
  simp only [replace, List.append_nil, kept, rest]

@[simp] theorem replace_nil (pos : Nat) : replace text pos pos [] = text := by
  simp [replace]

theorem replace_eq_insert_iff (first : start ≤ pos) (last : pos ≤ stop) (inside : pos ≤ text.length) :
    replace text start stop part = replace text pos pos part ↔ start = pos ∧ (stop = pos ∨ pos = text.length) := by
  constructor
  · intro same
    have lengths := congrArg List.length same
    rw [length_replace, length_replace] at lengths
    omega
  · rintro ⟨rfl, rfl | rfl⟩
    · rfl
    · simp [replace, List.drop_eq_nil_of_le last]

end Splice
