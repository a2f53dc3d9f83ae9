import Mathlib.Data.List.Basic
import Mathlib.Logic.Function.Iterate
import Mathlib.Logic.Relation
import Mathlib.Order.Monotone.Basic
import Mathlib.Tactic.Ring

/-! Nested calls, and when they come to an end.

What is left to do is a list of tasks. A job is done at once or starts a callee:
it is then replaced by the callee's own jobs and a closing task behind them. With
finitely many callees and bounded bodies this ends unless callees are started
again and again while they are still running. -/

set_option autoImplicit false

namespace Nesting

inductive Task (ω α β : Type) where
  | work (job : ω)
  | close (callee : α) (after : β)
  deriving DecidableEq, Repr

section
variable {ω α β : Type}

def running : List (Task ω α β) → List α
  | [] => []
  | .work _ :: rest => running rest
  | .close callee _ :: rest => callee :: running rest

@[simp] theorem running_work_append (jobs : List ω) (rest : List (Task ω α β)) :
    running (jobs.map Task.work ++ rest) = running rest := by
  induction jobs with
  | nil => rfl
  | cons job jobs ih => exact ih

variable [DecidableEq α]

def free (callees : List α) (tasks : List (Task ω α β)) : Nat :=
  (callees.filter fun callee => callee ∉ running tasks).length

def price (width : Nat) : Nat → Nat
  | 0 => 1
  | count + 1 => 2 + width * price width count

def load (callees : List α) (width : Nat) : List (Task ω α β) → Nat
  | [] => 0
  | .work _ :: rest => price width (free callees rest) + load callees width rest
  | .close _ _ :: rest => 1 + load callees width rest

theorem price_pos (width count : Nat) : 0 < price width count := by
  cases count with
  | zero => exact Nat.one_pos
  | succ count =>
    unfold price
    omega

theorem price_le_succ (width count : Nat) : price width count ≤ price width (count + 1) := by
  induction count with
  | zero =>
    simp only [price]
    omega
  | succ count ih =>
    have scaled := Nat.mul_le_mul_left width ih
    simp only [price] at scaled ⊢
    omega

theorem price_mono (width : Nat) : Monotone (price width) :=
  monotone_nat_of_le_succ (price_le_succ width)

theorem free_close_lt {callees : List α} {callee : α} {after : β} {rest : List (Task ω α β)}
    (mem : callee ∈ callees) (fresh : callee ∉ running rest) :
    free callees (.close callee after :: rest) < free callees rest := by
  have split : callees.filter (fun en => en ∉ running (.close callee after :: rest)) =
      (callees.filter fun en => en ∉ running rest).filter fun en => en ≠ callee := by
    rw [List.filter_filter]
    congr 1
    funext en
    simp [running]
  unfold free
  rw [split, List.length_filter_lt_length_iff_exists]
  exact ⟨callee, List.mem_filter.mpr ⟨mem, by simpa using fresh⟩, by simp⟩

theorem load_jobs (callees : List α) (width : Nat) (jobs : List ω) (rest : List (Task ω α β)) :
    load callees width (jobs.map Task.work ++ rest) =
      jobs.length * price width (free callees rest) + load callees width rest := by
  induction jobs with
  | nil => simp
  | cons job jobs ih =>
    simp only [List.map_cons, List.cons_append, load, ih, List.length_cons]
    rw [free, running_work_append, ← free]
    ring

theorem load_drop (callees : List α) (width : Nat) (task : Task ω α β) (rest : List (Task ω α β)) :
    load callees width rest < load callees width (task :: rest) := by
  cases task with
  | work job =>
    have positive := price_pos width (free callees rest)
    simp only [load]
    omega
  | close callee after =>
    simp only [load]
    omega

theorem load_start {callees : List α} {width : Nat} {callee : α} {jobs : List ω} (job : ω) (after : β)
    {rest : List (Task ω α β)} (mem : callee ∈ callees) (short : jobs.length ≤ width)
    (fresh : callee ∉ running rest) :
    load callees width (jobs.map Task.work ++ .close callee after :: rest) <
      load callees width (.work job :: rest) := by
  have fewer : free callees (.close callee after :: rest) + 1 ≤ free callees rest := free_close_lt mem fresh
  have dearer := price_mono width fewer
  have bounded := Nat.mul_le_mul_right (price width (free callees (.close callee after :: rest))) short
  rw [load_jobs]
  simp only [load]
  simp only [price] at dearer
  omega

end

section
variable {ω α β : Type} {calls : α → α → Prop} {jobs : α → List ω}

/-- The jobs in front of a closing task are its callee's, and every callee is
reached by calls from those it runs inside of. -/
def Nested (calls : α → α → Prop) (jobs : α → List ω) : List (Task ω α β) → Prop
  | [] => True
  | .work job :: rest => (∀ caller ∈ (running rest).head?, job ∈ jobs caller) ∧ Nested calls jobs rest
  | .close callee _ :: rest => (∀ outer ∈ running rest, Relation.TransGen calls outer callee) ∧ Nested calls jobs rest

theorem Nested.outer {tasks : List (Task ω α β)} (nested : Nested calls jobs tasks) {caller : α} {others : List α}
    (inside : running tasks = caller :: others) : ∀ outer ∈ others, Relation.TransGen calls outer caller := by
  induction tasks with
  | nil => cases inside
  | cons task rest ih =>
    cases task with
    | work => exact ih nested.2 inside
    | close =>
      cases inside
      exact nested.1

section

variable {job : ω} {rest : List (Task ω α β)} (nested : Nested calls jobs (.work job :: rest)) {callee : α}
  (called : ∀ caller, job ∈ jobs caller → calls caller callee)

include nested called

theorem Nested.reached : ∀ outer ∈ running rest, Relation.TransGen calls outer callee := by
  cases inside : running rest with
  | nil => exact fun _ mem => nomatch mem
  | cons caller =>
    have last : calls caller callee := called caller (nested.1 caller (by simp [inside]))
    intro outer mem
    rcases List.mem_cons.mp mem with rfl | further
    · exact .single last
    · exact (nested.2.outer inside outer further).tail last

theorem Nested.start (after : β) : Nested calls jobs ((jobs callee).map Task.work ++ .close callee after :: rest) := by
  have body : ∀ part ⊆ jobs callee, Nested calls jobs (part.map Task.work ++ .close callee after :: rest) := by
    intro part
    induction part with
    | nil => exact fun _ => ⟨nested.reached called, nested.2⟩
    | cons first others ih =>
      intro subset
      refine ⟨?_, ih fun _ mem => subset (List.mem_cons_of_mem _ mem)⟩
      intro caller inside
      rw [List.append_eq, running_work_append] at inside
      cases inside
      exact subset List.mem_cons_self
  exact body _ (List.Subset.refl _)

/-- Without a cycle among the calls no running callee is started. -/
theorem Nested.fresh (acyclic : ¬ Relation.TransGen calls callee callee) : callee ∉ running rest :=
  fun again => acyclic (nested.reached called callee again)

end

end

theorem exists_width {ω α : Type} (jobs : α → List ω) (callees : List α) :
    ∃ width, ∀ callee ∈ callees, (jobs callee).length ≤ width := by
  induction callees with
  | nil => exact ⟨0, fun _ mem => nomatch mem⟩
  | cons first rest ih =>
    obtain ⟨width, bound⟩ := ih
    refine ⟨max (jobs first).length width, ?_⟩
    intro callee mem
    rcases List.mem_cons.mp mem with rfl | later
    · exact le_max_left _ _
    · exact le_max_of_le_right (bound callee later)

theorem iterate_reaches {σ : Type} {step : σ → σ} (measure : σ → Nat) (done : σ → Prop) {s : σ} {start : Nat}
    (descends : ∀ count, start ≤ count → ¬ done (step^[count] s) →
      measure (step (step^[count] s)) < measure (step^[count] s)) :
    ∃ count, done (step^[count] s) := by
  by_contra never
  push Not at never
  have below : ∀ count, measure (step^[start + count] s) + count ≤ measure (step^[start] s) := by
    intro count
    induction count with
    | zero => exact le_refl _
    | succ count ih =>
      have next := descends (start + count) (Nat.le_add_right start count) (never _)
      have follows : step^[start + (count + 1)] s = step (step^[start + count] s) :=
        Function.iterate_succ_apply' step (start + count) s
      rw [follows]
      omega
  have last := below (measure (step^[start] s) + 1)
  omega

end Nesting
