import Mathlib.Data.List.Basic

/-! Presses and their releases.

The keys that are down are listed, each with a mark made at its latest press. A
rule says what mark the release of a key would get if it came now. The marks are
balanced when they agree with the rule: then whichever key comes up next, its
release is treated as its press was. -/

set_option autoImplicit false

namespace Pairing

variable {κ : Type} [DecidableEq κ]

def others (down : List (κ × Bool)) (key : κ) : List (κ × Bool) := down.filter fun entry => entry.1 != key

def note (down : List (κ × Bool)) (key : κ) (pressed mark : Bool) : List (κ × Bool) :=
  if pressed then (key, mark) :: others down key else others down key

/-- The release of the key is marked as its latest press was; without a press
there is nothing to agree with. -/
def Paired (down : List (κ × Bool)) (key : κ) (mark : Bool) : Prop :=
  ∀ flag, (key, flag) ∈ down → mark = flag

def Balanced (down : List (κ × Bool)) (rule : κ → Bool) : Prop := ∀ entry ∈ down, entry.2 = rule entry.1

variable {down fewer : List (κ × Bool)} {rule next : κ → Bool} {key : κ}

theorem mem_others {en : κ × Bool} : en ∈ others down key ↔ en ∈ down ∧ en.1 ≠ key := by
  simp [others]

theorem others_subset : others down key ⊆ down := fun _ mem => (mem_others.mp mem).1

omit [DecidableEq κ] in
theorem balanced_nil : Balanced [] rule := fun _ mem => nomatch mem

theorem balanced_note_pressed {pressed mark : Bool} (press : pressed = true) :
    Balanced (note down key pressed mark) next ↔ mark = next key ∧ Balanced (others down key) next := by
  unfold note Balanced
  rw [if_pos press, List.forall_mem_cons]

theorem balanced_note_released {pressed mark : Bool} (release : pressed = false) :
    Balanced (note down key pressed mark) next ↔ Balanced (others down key) next := by
  unfold note
  rw [if_neg (by simp [release])]

omit [DecidableEq κ] in
theorem Balanced.iff_agrees (balanced : Balanced down rule) (subset : fewer ⊆ down) :
    Balanced fewer next ↔ ∀ en ∈ fewer, next en.1 = rule en.1 := by
  refine forall₂_congr fun en mem => ?_
  rw [balanced en (subset mem)]
  exact eq_comm

omit [DecidableEq κ] in
theorem Balanced.paired (balanced : Balanced down rule) {mark : Bool} (same : mark = rule key) :
    Paired down key mark := by
  intro flag mem
  rw [same]
  exact (balanced _ mem).symm

end Pairing
