import Mathlib.Data.List.Basic

/-! A list of steps that may fail, taken in order up to the first failure.

A step returns the state it leaves and whether it succeeded. A failed step may
have changed the state: nothing is undone. -/

set_option autoImplicit false

namespace Attempt

variable {σ α : Type}

/-- Take the steps in order; the first one that fails is the last one taken. -/
def run (step : σ → α → σ × Bool) : σ → List α → σ × Bool
  | state, [] => (state, true)
  | state, item :: rest =>
    let taken := step state item
    if taken.2 then run step taken.1 rest else (taken.1, false)

variable {step : σ → α → σ × Bool} {s : σ} {items first second : List α} {item : α}

theorem run_cons_of_success (success : (step s item).2 = true) :
    run step s (item :: items) = run step (step s item).1 items := by
  simp [run, success]

theorem run_cons_of_failure (failure : (step s item).2 = false) :
    run step s (item :: items) = ((step s item).1, false) := by
  simp [run, failure]

theorem success_of_run (success : (run step s (item :: items)).2 = true) : (step s item).2 = true := by
  by_contra failure
  rw [run_cons_of_failure (by simpa using failure)] at success
  cases success

theorem run_append : run step s (first ++ second) =
    if (run step s first).2 then run step (run step s first).1 second else run step s first := by
  induction first generalizing s with
  | nil => rfl
  | cons item rest ih =>
    cases taken : (step s item).2 with
    | false => rw [List.cons_append, run_cons_of_failure taken, run_cons_of_failure taken, if_neg Bool.false_ne_true]
    | true => rw [List.cons_append, run_cons_of_success taken, run_cons_of_success taken, ih]

theorem range_invariant {step : σ → Nat → σ × Bool} (invariant : Nat → σ → Prop) {count : Nat} (start : invariant 0 s)
    (built : ∀ i s, i < count → invariant i s → (step s i).2 = true → invariant (i + 1) (step s i).1)
    (success : (run step s (List.range count)).2 = true) :
    invariant count (run step s (List.range count)).1 := by
  induction count with
  | zero => exact start
  | succ count ih =>
    rw [List.range_succ, run_append] at success ⊢
    split at success
    · rename_i before
      have last := success_of_run success
      rw [if_pos before, run_cons_of_success last]
      apply built count _ (by omega) _ last
      apply ih _ before
      intro i s below
      exact built i s (by omega)
    · contradiction

end Attempt
