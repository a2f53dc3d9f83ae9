import FlakeWM.Input.Clipboard

/-! When the copy of a selection may be offered.

It is meant for a selection whose owner went away. A seat without selection looks the
same whether its owner went away or somebody took the selection back, and the idle
callback installs the copy in both cases. -/

set_option autoImplicit false

namespace FlakeWM.Input.Clipboard

def mayHave : Holder → Option Source → Bool
  | .holding, some (.client _) => true
  | .gone, none => true
  | .gone, some .copy => true
  | .nobody, none => true
  | .cleared, none => true
  | _, _ => false

/-- The copy is offered only after its owner went away, and a selection that was
taken back leaves the seat empty until the next one. -/
def Rightful (clipboard : Clipboard) : Prop := mayHave clipboard.holder clipboard.seat = true

instance (clipboard : Clipboard) : Decidable clipboard.Rightful := inferInstanceAs (Decidable (_ = true))

/-- After a selection was taken back, the idle callback finds no type that has been
read to its end. -/
def installSafe (clipboard : Clipboard) : ClipboardEvent → Prop
  | .idle reads slots => clipboard.holder = .cleared → clipboard.found reads slots = []
  | _ => True

def Copied (clipboard : Clipboard) : Prop := clipboard.holder = .nobody → clipboard.cache = none

variable {c : Clipboard}

theorem install_cache_of_none (empty : c.cache = none) (reads : List (List Result)) (slots : Nat) :
    (c.install reads slots).cache = none := by
  simp [install, empty]

theorem rightful_loseSelection (rightful : c.Rightful) {holder : Holder} (may : mayHave holder none = true) :
    (c.loseSelection holder).Rightful := by
  unfold Rightful at rightful ⊢
  rw [loseSelection_seat, loseSelection_holder]
  split
  · rename_i empty
    rw [empty] at rightful
    exact rightful
  · exact may

theorem rightful_of_same {before after : Clipboard} (rightful : before.Rightful) (seat : after.seat = before.seat)
    (holder : after.holder = before.holder) : after.Rightful := by
  unfold Rightful at rightful ⊢
  rw [seat, holder]
  exact rightful

theorem rightful_install_iff (copied : c.Copied) (rightful : c.Rightful) (reads : List (List Result)) (slots : Nat) :
    (c.install reads slots).Rightful ↔ c.installSafe (.idle reads slots) := by
  unfold Rightful at rightful ⊢
  rw [install_seat, install_holder, installSafe]
  cases holder : c.holder with
  | nobody =>
    have nothing : c.found reads slots = [] := by simp [found, copied holder]
    rw [holder] at rightful
    simp [nothing, rightful]
  | holding =>
    rw [holder] at rightful
    cases seat : c.seat with
    | none => simp [mayHave, seat] at rightful
    | some => simpa [seat] using rightful
  | gone =>
    rw [holder] at rightful
    refine iff_of_true ?_ (fun cleared => nomatch cleared)
    split
    · rfl
    · exact rightful
  | cleared =>
    rw [holder] at rightful
    cases seat : c.seat with
    | none =>
      by_cases nothing : c.found reads slots = []
      · simp [nothing, mayHave]
      · simp [nothing, mayHave]
    | some => simp [mayHave, seat] at rightful

theorem rightful_step_iff (c : Clipboard) (e : ClipboardEvent) (copied : c.Copied)
    (rightful : c.Rightful) : (c.step e).Rightful ↔ c.installSafe e := by
  cases e with
  | idle reads slots => exact rightful_install_iff copied rightful reads slots
  | setSelection =>
    refine iff_of_true ?_ trivial
    simp [Rightful, step, setSelection_seat, setSelection_holder, mayHave]
  | clearSelection => exact iff_of_true (rightful_loseSelection rightful rfl) trivial
  | destroySource | disconnect =>
    refine iff_of_true ?_ trivial
    simp only [step]
    split
    · exact rightful_loseSelection rightful rfl
    · exact rightful
  | ownerWrites | ownerCloses | readable => exact iff_of_true rightful trivial
  | receive =>
    refine iff_of_true ?_ trivial
    simp only [step]
    split
    · exact rightful_of_same rightful (sendSelection_seat _ _ _ _) (sendSelection_holder _ _ _ _)
    · exact rightful
  | writable =>
    exact iff_of_true (rightful_of_same rightful (onWritable_seat _ _ _ _) (onWritable_holder _ _ _ _)) trivial

theorem copied_loseSelection (copied : c.Copied) {holder : Holder} (some : holder ≠ .nobody) :
    (c.loseSelection holder).Copied := by
  unfold loseSelection
  split
  · exact copied
  · intro nobody
    exact absurd nobody (by simpa [onSelectionLost] using some)

theorem copied_of_holder {before after : Clipboard} (copied : before.Copied) (holder : after.holder = before.holder)
    (cache : before.cache = none → after.cache = none) : after.Copied := by
  intro nobody
  rw [holder] at nobody
  exact cache (copied nobody)

theorem copied_step (c : Clipboard) (e : ClipboardEvent) (copied : c.Copied) : (c.step e).Copied := by
  cases e with
  | setSelection =>
    intro nobody
    simp [step, setSelection_holder] at nobody
  | clearSelection => exact copied_loseSelection copied (by decide)
  | destroySource | disconnect =>
    simp only [step]
    split
    · exact copied_loseSelection copied (by decide)
    · exact copied
  | idle reads slots =>
    exact copied_of_holder copied (install_holder c reads slots) fun empty => install_cache_of_none empty reads slots
  | ownerWrites | ownerCloses | readable =>
    exact copied_of_holder copied rfl fun empty => by simp [step, changeCache, empty]
  | receive =>
    simp only [step]
    split
    · exact copied_of_holder copied (sendSelection_holder _ _ _ _) fun empty => by simp [sendSelection, empty]
    · exact copied
  | writable =>
    exact copied_of_holder copied (onWritable_holder _ _ _ _) fun empty => by simp [step, onWritable, empty]

/-- Over every sequence of events the copy is offered only after its owner went away,
and a selection that was taken back leaves the seat empty, exactly if the idle callback
never finds a type that was read to its end after somebody took the selection back. -/
theorem rightful_iff (events : List ClipboardEvent) :
    Transition.Throughout step Rightful initial events ↔ Transition.Along step installSafe initial events := by
  have copied : initial.Copied := fun _ => rfl
  have rightful : initial.Rightful := by decide
  exact Transition.throughout_iff_along copied_step rightful_step_iff copied rightful events

/-- A client selects a text, writes it into the pipe, and takes its selection back. -/
def takenBack : List ClipboardEvent :=
  [.setSelection 1 [("text/plain", true)], .ownerWrites 0 [104, 105], .ownerCloses 0, .clearSelection,
    .idle [[.bytes 99, .bytes 0]] 1]

/-- The client is still there, and its text is offered again. -/
theorem takenBack_offered :
    (Transition.run step initial (takenBack.take 4)).seat = none ∧
      (Transition.run step initial takenBack).holder = .cleared ∧
      (Transition.run step initial takenBack).seat = some .copy ∧
      (Transition.run step initial takenBack).cache.map (·.mimeTypes) = some ["text/plain"] ∧
      ¬ Transition.Throughout step Rightful initial takenBack := by
  refine ⟨by decide +kernel, by decide +kernel, by decide +kernel, by decide +kernel, fun visited => ?_⟩
  have last : (Transition.run step initial takenBack).Rightful := visited.last
  revert last
  decide +kernel

end FlakeWM.Input.Clipboard
