import Mathlib.Data.List.Basic
import Mathlib.Data.List.Nodup

/-! A stacking order kept as a list without repetitions, bottom first.

Items are raised to the top one at a time; what is not raised keeps its order
and lies below what is. -/

set_option autoImplicit false

namespace Stacking

variable {α : Type}

/-- `lower` lies somewhere below `upper`. -/
def Below (stack : List α) (lower upper : α) : Prop := [lower, upper].Sublist stack

theorem Below.lower_mem {stack : List α} {lower upper : α} (below : Below stack lower upper) : lower ∈ stack :=
  below.subset (by simp)

theorem Below.append {stack : List α} {lower upper : α} (below : Below stack lower upper) (items : List α) :
    Below (stack ++ items) lower upper :=
  below.trans (List.sublist_append_left stack items)

variable [DecidableEq α]

instance (stack : List α) (lower upper : α) : Decidable (Below stack lower upper) :=
  inferInstanceAs (Decidable ([lower, upper].Sublist stack))

def toTop (stack : List α) (item : α) : List α := stack.erase item ++ [item]

def raiseAll (chosen : α → Bool) (stack order : List α) : List α :=
  order.foldl (fun stack item => if chosen item then toTop stack item else stack) stack

section

variable {stack : List α} {item lower upper : α}

theorem mem_toTop : lower ∈ toTop stack item ↔ lower = item ∨ lower ∈ stack := by
  unfold toTop
  by_cases same : lower = item
  · simp [same]
  · simp [same, List.mem_erase_of_ne same]

theorem nodup_toTop (distinct : stack.Nodup) (item : α) : (toTop stack item).Nodup := by
  unfold toTop
  rw [List.nodup_append]
  refine ⟨distinct.erase item, List.nodup_singleton item, ?_⟩
  intro other mem last there equal
  rw [List.mem_singleton] at there
  subst equal
  subst there
  exact distinct.not_mem_erase mem

theorem below_toTop (mem : lower ∈ stack) (ne : lower ≠ item) : Below (toTop stack item) lower item := by
  have kept : [lower].Sublist (stack.erase item) :=
    List.singleton_sublist.mpr ((List.mem_erase_of_ne ne).mpr mem)
  exact kept.append (List.Sublist.refl [item])

theorem Below.toTop (below : Below stack lower upper) (ne : lower ≠ item) :
    Below (Stacking.toTop stack item) lower upper := by
  by_cases raised : upper = item
  · subst raised
    exact below_toTop below.lower_mem ne
  · have kept : ([lower, upper].erase item).Sublist (stack.erase item) := below.erase item
    rw [List.erase_of_not_mem (by simp [Ne.symm ne, Ne.symm raised])] at kept
    exact kept.trans (List.sublist_append_left _ _)

theorem Below.erase (below : Below stack lower upper) (left : lower ≠ item) (right : upper ≠ item) :
    Below (stack.erase item) lower upper := by
  have kept : ([lower, upper].erase item).Sublist (stack.erase item) := List.Sublist.erase item below
  rwa [List.erase_of_not_mem (by simp [Ne.symm left, Ne.symm right])] at kept

end

section

variable {chosen : α → Bool} {stack order : List α} {lower upper : α}

theorem raiseAll_cons (chosen : α → Bool) (stack : List α) (item : α) (rest : List α) :
    raiseAll chosen stack (item :: rest) = raiseAll chosen (if chosen item then toTop stack item else stack) rest := rfl

theorem nodup_raiseAll (distinct : stack.Nodup) : (raiseAll chosen stack order).Nodup := by
  induction order generalizing stack with
  | nil => exact distinct
  | cons item rest ih =>
    rw [raiseAll_cons]
    apply ih
    split
    · exact nodup_toTop distinct item
    · exact distinct

theorem mem_raiseAll : lower ∈ raiseAll chosen stack order ↔ lower ∈ stack ∨ lower ∈ order ∧ chosen lower = true := by
  induction order generalizing stack with
  | nil => simp [raiseAll]
  | cons item rest ih =>
    rw [raiseAll_cons, ih, List.mem_cons]
    by_cases raised : chosen item = true
    · rw [if_pos raised, mem_toTop]
      constructor
      · rintro ((rfl | mem) | later)
        · exact .inr ⟨.inl rfl, raised⟩
        · exact .inl mem
        · exact .inr ⟨.inr later.1, later.2⟩
      · rintro (mem | ⟨rfl | mem, picked⟩)
        · exact .inl (.inr mem)
        · exact .inl (.inl rfl)
        · exact .inr ⟨mem, picked⟩
    · rw [if_neg raised]
      constructor
      · rintro (mem | later)
        · exact .inl mem
        · exact .inr ⟨.inr later.1, later.2⟩
      · rintro (mem | ⟨rfl | mem, picked⟩)
        · exact .inl mem
        · exact absurd picked raised
        · exact .inr ⟨mem, picked⟩

theorem Below.raiseAll (below : Below stack lower upper) (kept : chosen lower = false) :
    Below (Stacking.raiseAll chosen stack order) lower upper := by
  induction order generalizing stack with
  | nil => exact below
  | cons item rest ih =>
    rw [raiseAll_cons]
    apply ih
    split
    · rename_i raised
      refine below.toTop ?_
      rintro rfl
      rw [kept] at raised
      cases raised
    · exact below

theorem below_raiseAll (mem : lower ∈ stack) (kept : chosen lower = false) (listed : upper ∈ order)
    (raised : chosen upper = true) : Below (raiseAll chosen stack order) lower upper := by
  induction order generalizing stack with
  | nil => cases listed
  | cons item rest ih =>
    rw [raiseAll_cons]
    have ne : lower ≠ upper := by
      rintro rfl
      rw [kept] at raised
      cases raised
    rcases List.mem_cons.mp listed with rfl | later
    · rw [if_pos raised]
      exact (below_toTop mem ne).raiseAll kept
    · apply ih _ later
      split
      · exact mem_toTop.mpr (.inr mem)
      · exact mem

end

end Stacking
