import Mathlib.Data.List.Basic

/-! Runs of a deterministic transition system.

A system is a step function from a state and an event to the next state; what
the environment decides is part of the event. Safety is stated of every state a
run visits, and conditional safety of the runs whose every step meets a
condition on the state it is taken from. -/

set_option autoImplicit false

namespace Transition

variable {σ ε : Type} (step : σ → ε → σ)

def run (state : σ) (events : List ε) : σ := events.foldl step state

/-- Every step meets the condition in the state it is taken from. -/
def Along (condition : σ → ε → Prop) : σ → List ε → Prop
  | _, [] => True
  | state, event :: rest => condition state event ∧ Along condition (step state event) rest

/-- The property holds in every visited state, the first and the last included. -/
def Throughout (property : σ → Prop) : σ → List ε → Prop
  | state, [] => property state
  | state, event :: rest => property state ∧ Throughout property (step state event) rest

instance Along.decidable (condition : σ → ε → Prop) [∀ state event, Decidable (condition state event)] :
    (state : σ) → (events : List ε) → Decidable (Along step condition state events)
  | _, [] => instDecidableTrue
  | state, event :: rest =>
    have := Along.decidable condition (step state event) rest
    inferInstanceAs (Decidable (condition state event ∧ Along step condition (step state event) rest))

@[simp] theorem run_nil (s : σ) : run step s [] = s := rfl

@[simp] theorem run_cons (s : σ) (e : ε) (rest : List ε) : run step s (e :: rest) = run step (step s e) rest := rfl

theorem run_append (s : σ) (first second : List ε) :
    run step s (first ++ second) = run step (run step s first) second :=
  List.foldl_append

variable {step} {condition taken : σ → ε → Prop} {invariant property : σ → Prop}

theorem run_invariant (kept : ∀ s e, invariant s → invariant (step s e))
    {s : σ} (holds : invariant s) (events : List ε) : invariant (run step s events) := by
  induction events generalizing s with
  | nil => exact holds
  | cons e rest ih => exact ih (kept s e holds)

/-- An invariant kept by the steps that meet the condition holds in every state
of a run all of whose steps meet it. -/
theorem along_invariant (kept : ∀ s e, invariant s → condition s e → invariant (step s e))
    {s : σ} (holds : invariant s) {events : List ε} (met : Along step condition s events) :
    Throughout step invariant s events := by
  induction events generalizing s with
  | nil => exact holds
  | cons e rest ih => exact ⟨holds, ih (kept s e holds met.1) met.2⟩

theorem Along.mono (weaker : ∀ s e, condition s e → taken s e) {s : σ} {events : List ε}
    (met : Along step condition s events) : Along step taken s events := by
  induction events generalizing s with
  | nil => trivial
  | cons e rest ih => exact ⟨weaker s e met.1, ih met.2⟩

theorem throughout_invariant (kept : ∀ s e, invariant s → invariant (step s e))
    {s : σ} (holds : invariant s) (events : List ε) : Throughout step invariant s events := by
  induction events generalizing s with
  | nil => exact holds
  | cons e rest ih => exact ⟨holds, ih (kept s e holds)⟩

theorem Throughout.mono (weaker : ∀ s, invariant s → property s) {s : σ} {events : List ε}
    (holds : Throughout step invariant s events) : Throughout step property s events := by
  induction events generalizing s with
  | nil => exact weaker s holds
  | cons e rest ih => exact ⟨weaker s holds.1, ih holds.2⟩

section

variable {s : σ} {events : List ε} (holds : Throughout step property s events)

include holds

theorem Throughout.first : property s := by
  cases events with
  | nil => exact holds
  | cons => exact holds.1

theorem Throughout.last : property (run step s events) := by
  induction events generalizing s with
  | nil => exact holds
  | cons e rest ih => exact ih holds.2

end

/-- A part of the state that changes only with the events that reach it, each as a
step of a system of its own, runs as that system does. -/
theorem run_part {τ δ : Type} {partStep : τ → δ → τ} {part : σ → τ} {reaches : ε → Option δ}
    (stepped : ∀ s e, part (step s e) = (reaches e).elim (part s) (partStep (part s))) (s : σ) (events : List ε) :
    part (run step s events) = run partStep (part s) (events.filterMap reaches) := by
  induction events generalizing s with
  | nil => rfl
  | cons e rest ih =>
    rw [run_cons, ih, stepped]
    cases reached : reaches e <;> simp [reached]

theorem throughout_iff_next {s : σ} {events : List ε} : Throughout step property s events ↔
      property s ∧ Along step (fun s e => property (step s e)) s events := by
  induction events generalizing s with
  | nil => simp [Throughout, Along]
  | cons e rest ih =>
    constructor
    · rintro ⟨here, later⟩
      exact ⟨here, ih.mp later⟩
    · rintro ⟨here, later⟩
      exact ⟨here, ih.mpr later⟩

section

variable {proper : σ → ε → Prop} (kept : ∀ s e, invariant s → invariant (step s e))

include kept

/-- When, from a good state, a step is proper and leads to a good state exactly if
it meets the condition, the runs of proper steps that stay good are exactly those
whose steps all meet it. What every step keeps may be used for this. -/
theorem throughout_along_iff (exact : ∀ s e, invariant s → property s →
      (property (step s e) ∧ proper s e ↔ condition s e))
    {s : σ} (start : invariant s) (holds : property s) (events : List ε) :
    Throughout step property s events ∧ Along step proper s events ↔ Along step condition s events := by
  induction events generalizing s with
  | nil => exact iff_of_true ⟨holds, trivial⟩ trivial
  | cons e rest ih =>
    have next := kept s e start
    have here := exact s e start holds
    constructor
    · rintro ⟨visited, steps⟩
      have good := visited.2.first
      exact ⟨here.mp ⟨good, steps.1⟩, (ih next good).mp ⟨visited.2, steps.2⟩⟩
    · intro met
      obtain ⟨good, taken⟩ := here.mpr met.1
      obtain ⟨visited, steps⟩ := (ih next good).mpr met.2
      exact ⟨⟨holds, visited⟩, taken, steps⟩

/-- When, from a good state, a step is proper exactly if it meets the condition,
and one that meets it leads to a good state, the runs of proper steps are exactly
those whose steps all meet the condition. -/
theorem along_iff_along (exact : ∀ s e, invariant s → property s → (proper s e ↔ condition s e))
    (next : ∀ s e, invariant s → property s → condition s e → property (step s e))
    {s : σ} (start : invariant s) (holds : property s) (events : List ε) :
    Along step proper s events ↔ Along step condition s events := by
  induction events generalizing s with
  | nil => exact .rfl
  | cons e rest ih =>
    have here := exact s e start holds
    constructor
    · rintro ⟨taken, steps⟩
      have met := here.mp taken
      exact ⟨met, (ih (kept s e start) (next s e start holds met)).mp steps⟩
    · rintro ⟨met, steps⟩
      exact ⟨here.mpr met, (ih (kept s e start) (next s e start holds met)).mpr steps⟩

end

/-- As `throughout_along_iff`, with every step proper. -/
theorem throughout_iff_along (kept : ∀ s e, invariant s → invariant (step s e))
    (exact : ∀ s e, invariant s → property s → (property (step s e) ↔ condition s e))
    {s : σ} (start : invariant s) (holds : property s) (events : List ε) :
    Throughout step property s events ↔ Along step condition s events := by
  have always : ∀ (s : σ) (events : List ε), Along step (fun _ _ => True) s events := by
    intro s events
    induction events generalizing s with
    | nil => trivial
    | cons e rest ih => exact ⟨trivial, ih _⟩
  rw [← throughout_along_iff kept (fun s e fixed good => by rw [and_true]; exact exact s e fixed good)
    start holds events]
  exact ⟨fun visited => ⟨visited, always s events⟩, And.left⟩

end Transition
