import Mathlib.Logic.Function.Basic

/-! A copy of a table that is refreshed entry by entry.

The copy is right except at the entries that are stale. A change of the table makes
the entries it touches stale, and a refresh makes one entry right again. -/

set_option autoImplicit false

namespace Staleness

variable {ι α : Type} {stale touched : ι → Prop} {copy table before after : ι → α}

def AgreesOff (stale : ι → Prop) (copy table : ι → α) : Prop := ∀ index, ¬ stale index → copy index = table index

theorem AgreesOff.mono (agrees : AgreesOff stale copy table) (more : ∀ i, stale i → touched i) :
    AgreesOff touched copy table := by
  intro i fresh
  apply agrees
  exact fun old => fresh (more i old)

theorem AgreesOff.change (agrees : AgreesOff stale copy before) (same : ∀ i, ¬ touched i → after i = before i) :
    AgreesOff (fun i => stale i ∨ touched i) copy after := by
  intro i fresh
  rw [not_or] at fresh
  rw [same i fresh.2]
  exact agrees i fresh.1

theorem AgreesOff.refresh [DecidableEq ι] (agrees : AgreesOff stale copy table) (i : ι) :
    AgreesOff (fun other => stale other ∧ other ≠ i) (Function.update copy i (table i)) table := by
  intro other fresh
  by_cases here : other = i
  · rw [here, Function.update_self]
  · rw [Function.update_of_ne here]
    apply agrees
    exact fun old => fresh ⟨old, here⟩

end Staleness
