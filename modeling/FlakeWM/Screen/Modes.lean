import FlakeWM.Screen.Screens
import Mathlib

/-! The two searches for a mode.

Both go through a list of modes with the best one so far. The one takes the
fastest mode near what is asked for, the other the largest size that all outputs
offer. -/

set_option autoImplicit false

namespace FlakeWM.Screen

theorem Request.bestMode_eq_argmax (q : Request) (modes : List Mode) :
    q.bestMode modes = (modes.filter (q.accepts ·)).argmax Mode.refresh := by
  induction modes using List.reverseRecOn with
  | nil => rfl
  | append_singleton before mode ih =>
    rw [Request.bestMode, List.foldl_append, ← Request.bestMode, ih, List.filter_append]
    cases accepted : q.accepts mode with
    | false => simp [accepted]
    | true =>
      simp only [List.foldl_cons, List.foldl_nil, accepted, if_true, List.filter_cons_of_pos accepted,
        List.filter_nil, List.argmax_concat]
      cases (before.filter (q.accepts ·)).argmax Mode.refresh <;> rfl

theorem Request.bestMode_spec {q : Request} {modes : List Mode} {mode : Mode} (best : q.bestMode modes = some mode) :
    mode ∈ modes ∧ q.accepts mode = true ∧ ∀ other ∈ modes, q.accepts other = true → other.refresh ≤ mode.refresh := by
  rw [Request.bestMode_eq_argmax] at best
  have listed := List.mem_filter.mp (List.argmax_mem best)
  refine ⟨listed.1, listed.2, fun other mem accepted => ?_⟩
  exact List.le_of_mem_argmax (List.mem_filter.mpr ⟨mem, accepted⟩) best

theorem Request.bestMode_of_mem {q : Request} {modes : List Mode} {mode : Mode} (mem : mode ∈ modes)
    (accepted : q.accepts mode = true) : ∃ best, q.bestMode modes = some best := by
  rw [Request.bestMode_eq_argmax, ← Option.ne_none_iff_exists', ne_eq, List.argmax_eq_none]
  exact List.ne_nil_of_mem (List.mem_filter.mpr ⟨mem, accepted⟩)

namespace Screens

variable {F : Type}

def Offers (output : Output F) (size : Nat × Nat) : Prop :=
  ∃ mode ∈ output.modes, (mode.width, mode.height) = size

/-- All outputs offer the size. -/
def Common (outputs : List (Output F)) (size : Nat × Nat) : Prop := ∀ output ∈ outputs, Offers output size

def area (size : Nat × Nat) : Nat := size.1 * size.2

/-- Every mode of every output has a size. -/
def Sized (outputs : List (Output F)) : Prop :=
  ∀ output ∈ outputs, ∀ mode ∈ output.modes, 0 < mode.width ∧ 0 < mode.height

theorem foldl_eq_argmax (supports : Mode → Bool) (modes : List Mode)
    (positive : ∀ mode ∈ modes, 0 < mode.width * mode.height) :
    modes.foldl (fun best candidate =>
        if candidate.width * candidate.height ≤ best.1 * best.2 then best
        else if supports candidate then (candidate.width, candidate.height) else best) (0, 0) =
      (((modes.filter supports).argmax fun mode => mode.width * mode.height).map fun mode =>
        (mode.width, mode.height)).getD (0, 0) := by
  induction modes using List.reverseRecOn with
  | nil => rfl
  | append_singleton before candidate ih =>
    have earlier := ih fun mode mem => positive mode (List.mem_append_left _ mem)
    have here := positive candidate (by simp)
    rw [List.foldl_append, earlier, List.filter_append]
    simp only [List.foldl_cons, List.foldl_nil]
    cases accepted : supports candidate with
    | false => simp [accepted]
    | true =>
      rw [List.filter_cons_of_pos accepted, List.filter_nil, List.argmax_concat]
      cases (before.filter supports).argmax fun mode => mode.width * mode.height with
      | none => simp [Nat.not_le.mpr here]
      | some best =>
        by_cases larger : best.width * best.height < candidate.width * candidate.height
        · simp [larger, Nat.not_le.mpr larger]
        · simp [larger, Nat.not_lt.mp larger]

/-- What the search finds among the modes of the first output: no size at all, or
the size of the largest mode that the others offer too. -/
theorem duplicateSize_spec {front : Output F} {rest : List (Output F)} (sized : Sized (front :: rest)) :
    (duplicateSize (front :: rest) = (0, 0) ∧ ¬ ∃ size, Common (front :: rest) size) ∨
      ∃ mode ∈ front.modes, duplicateSize (front :: rest) = (mode.width, mode.height) ∧
        Common (front :: rest) (mode.width, mode.height) ∧
        ∀ other, Common (front :: rest) other → area other ≤ area (mode.width, mode.height) := by
  let supports (candidate : Mode) : Bool :=
    (front :: rest).all fun o => o.modes.any fun mode =>
      mode.width == candidate.width && mode.height == candidate.height
  have supports_iff (candidate : Mode) :
      supports candidate = true ↔ Common (front :: rest) (candidate.width, candidate.height) := by
    simp [supports, Common, Offers, Prod.ext_iff]
  -- A common size is one of the sizes that the loop tries.
  have tried {size : Nat × Nat} (common : Common (front :: rest) size) :
      ∃ mode ∈ front.modes.filter supports, (mode.width, mode.height) = size := by
    obtain ⟨mode, mem, rfl⟩ := common front List.mem_cons_self
    exact ⟨mode, List.mem_filter.mpr ⟨mem, (supports_iff mode).mpr common⟩, rfl⟩
  have found : duplicateSize (front :: rest) =
      (((front.modes.filter supports).argmax fun mode => mode.width * mode.height).map fun mode =>
        (mode.width, mode.height)).getD (0, 0) := by
    apply foldl_eq_argmax supports
    intro mode mem
    have positive := sized front List.mem_cons_self mode mem
    exact Nat.mul_pos positive.1 positive.2
  cases best : (front.modes.filter supports).argmax fun mode => mode.width * mode.height with
  | none =>
    left
    refine ⟨by rw [found, best]; rfl, ?_⟩
    rintro ⟨size, common⟩
    obtain ⟨mode, mem, -⟩ := tried common
    rw [List.argmax_eq_none.mp best] at mem
    exact List.not_mem_nil mem
  | some mode =>
    right
    have mem := List.mem_filter.mp (List.argmax_mem best)
    refine ⟨mode, mem.1, by rw [found, best]; rfl, (supports_iff mode).mp mem.2, ?_⟩
    intro other common
    obtain ⟨another, listed, rfl⟩ := tried common
    have smaller : another.width * another.height ≤ mode.width * mode.height :=
      List.le_of_mem_argmax listed best
    exact smaller

/-- The search fails exactly if there are fewer than two outputs or they have no
size in common; the size it finds is common and none of the common sizes is
larger. -/
theorem duplicateSearch_largest (outputs : List (Output F)) (sized : Sized outputs) :
    (duplicateSearch outputs = none ↔ outputs.length < 2 ∨ ¬ ∃ size, Common outputs size) ∧
      ∀ size, duplicateSearch outputs = some size →
        Common outputs size ∧ ∀ other, Common outputs other → area other ≤ area size := by
  by_cases few : outputs.length < 2
  · simp [duplicateSearch, few]
  obtain _ | ⟨front, rest⟩ := outputs
  · simp at few
  by_cases bare : front.modes = []
  · -- A first output without modes has no size in common with any other.
    have nothing : ¬ ∃ size, Common (front :: rest) size := by
      rintro ⟨size, common⟩
      obtain ⟨mode, member, -⟩ := common front List.mem_cons_self
      rw [bare] at member
      exact List.not_mem_nil member
    simp [duplicateSearch, bare, nothing]
  have searched : duplicateSearch (front :: rest) =
      if (duplicateSize (front :: rest)).1 = 0 ∨ (duplicateSize (front :: rest)).2 = 0 then none
      else some (duplicateSize (front :: rest)) := by
    have two : ¬ rest.length + 1 < 2 := few
    simp [duplicateSearch, two, bare]
  rw [searched]
  obtain ⟨none, nothing⟩ | ⟨mode, member, found, common, largest⟩ := duplicateSize_spec sized
  · simp [none, nothing]
  · have positive := sized front List.mem_cons_self mode member
    rw [found]
    have kept : ¬ ((mode.width, mode.height).1 = 0 ∨ (mode.width, mode.height).2 = 0) := by
      rintro (empty | empty) <;> simp only at empty <;> omega
    rw [if_neg kept]
    constructor
    · simp only [reduceCtorEq, false_iff, not_or, not_not]
      exact ⟨few, _, common⟩
    · rintro size ⟨⟩
      exact ⟨common, largest⟩

/-- Two outputs that share a small size and a larger one. -/
theorem duplicateSearch_largest_shared :
    let outputs : List (Output Nat) :=
      [⟨"HDMI-A-1", [⟨1920, 1080, 60000⟩, ⟨1280, 720, 60000⟩, ⟨640, 480, 60000⟩], true, 1920, 1080, 60000, 1, .normal⟩,
        ⟨"DP-1", [⟨640, 480, 75000⟩, ⟨1280, 720, 50000⟩], true, 1280, 720, 50000, 1, .normal⟩]
    Sized outputs ∧ duplicateSearch outputs = some (1280, 720) ∧
      ∀ other, Common outputs other → area other ≤ area (1280, 720) := by
  intro outputs
  have sized : Sized outputs := by simp [Sized, outputs]
  have found : duplicateSearch outputs = some (1280, 720) := by decide
  exact ⟨sized, found, ((duplicateSearch_largest outputs sized).2 _ found).2⟩

end Screens

end FlakeWM.Screen
