import FlakeWM.Desktop.KeyboardFocus
import FlakeWM.Desktop.Stacking

/-! Which window `FocusNextToplevel` picks.

It is meant to pick the topmost window, but it walks the list of windows, newest
first, and raising a window does not move it in that list. -/

set_option autoImplicit false

namespace FlakeWM.Desktop
namespace State

open Windows

/-- A window that `FocusNextToplevel` may give the focus to. -/
def wanted (state : State) (excluding : Option Nat) (id : Nat) : Bool :=
  excluding != some id && eligible state.windows id && state.windows.test id (·.wantsFocus)

/-- The highest of them in the stacking order. -/
def topmost (state : State) (excluding : Option Nat) : Option Nat :=
  state.stack.reverse.find? (state.wanted excluding)

/-- A state in which an event from `state` may call `FocusNextToplevel`: the
stacking order has not changed yet, and the windows are as they were or as
hiding one or switching workspaces has left them. -/
inductive CallsFocusNext (state called : State) : Prop where
  | plain : called.stack = state.stack → called.windows = state.windows → CallsFocusNext state called
  | minimize (id : Nat) : called.stack = state.stack → called.windows = state.windows.minimize id →
      CallsFocusNext state called
  | unmap (id : Nat) : called.stack = state.stack → called.windows = state.windows.unmap id →
      CallsFocusNext state called
  | move (id : Nat) (workspace : Int) : called.stack = state.stack →
      called.windows = state.windows.moveToWorkspace id workspace → CallsFocusNext state called
  | switch (workspace : Int) : called.stack = state.stack → called.windows = state.windows.switchTo workspace →
      CallsFocusNext state called
  /-- The previews restore the window before they switch. -/
  | preview (id : Nat) (workspace : Int) : called.stack = state.stack →
      called.windows = (state.windows.previewsRestore id).switchTo workspace → CallsFocusNext state called

section

variable {s called : State} {ex : Option Nat}

theorem CallsFocusNext.staged (calls : CallsFocusNext s called) (staged : s.Staged) : called.Staged := by
  have moved : ∀ {ws : Windows}, KeepsTrees s.windows ws → called.stack = s.stack →
      called.windows = ws → called.Staged := by
    intro ws kept stack same
    exact (staged.windows kept).of_same same stack
  cases calls with
  | plain stack ws => exact staged.of_same ws stack
  | minimize id stack ws => exact moved (windowsAfter_keepsTrees s (.minimize id) rfl) stack ws
  | unmap id stack ws => exact moved (keepsTrees_unmap _ id) stack ws
  | move id n stack ws =>
    exact moved (windowsAfter_keepsTrees s (.moveToWorkspace id n) rfl) stack ws
  | switch n stack ws => exact moved (keepsTrees_switchTo _ n) stack ws
  | preview id n stack ws =>
    have restored := keepsTrees_arranged (edits_previewsRestore s.windows id).arranged
    exact moved (restored.trans (keepsTrees_switchTo _ n)) stack ws

theorem wanted_iff {id : Nat} : s.wanted ex id = true ↔
    ex ≠ some id ∧ eligible s.windows id = true ∧ s.windows.test id (·.wantsFocus) = true := by
  simp [wanted, and_assoc]

theorem eligible_mapped {id : Nat} (able : eligible s.windows id = true) : s.windows.test id (·.mapped) = true := by
  obtain ⟨t, found, able⟩ := test_iff.mp able
  simp only [Bool.and_eq_true] at able
  exact test_iff.mpr ⟨t, found, able.1.1.1⟩

theorem acceptsFocus_iff (staged : s.Staged) (unlocked : s.sessionLocked = false) {id : Nat}
    (able : eligible s.windows id = true) :
    s.acceptsFocus id = s.windows.test id (·.wantsFocus) := by
  rw [acceptsFocus_of_eligible s unlocked able]
  obtain ⟨t, found, x⟩ := test_iff.mp (staged.mapped_mem (eligible_mapped able)).2
  simp [test, found, x]

theorem topmost_wanted {top : Nat} (found : s.topmost ex = some top) : s.wanted ex top = true :=
  List.find?_some found

theorem exists_topmost (staged : s.Staged) (some_ : ∃ id, s.wanted ex id = true) : ∃ top, s.topmost ex = some top := by
  obtain ⟨id, wanted⟩ := some_
  have mem := (staged.mapped_mem (eligible_mapped (wanted_iff.mp wanted).2.1)).1
  have found : (s.stack.reverse.find? (s.wanted ex)).isSome = true :=
    List.find?_isSome.mpr ⟨id, List.mem_reverse.mpr mem, wanted⟩
  exact Option.isSome_iff_exists.mp found

/-- Of the windows that `FocusNextToplevel` considers, none is newer than `id`. -/
def newest (state : State) (excluding : Option Nat) (id : Nat) : Bool :=
  (List.range state.windows.toplevels.length).all fun other =>
    excluding == some other || !eligible state.windows other || decide (other ≤ id)

theorem newest_iff {id : Nat} : s.newest ex id = true ↔
    ∀ id', ex ≠ some id' → eligible s.windows id' = true → id' ≤ id := by
  simp only [newest, List.all_eq_true, List.mem_range, Bool.or_eq_true, beq_iff_eq, Bool.not_eq_true',
    decide_eq_true_eq]
  constructor
  · intro newest id' apart able
    have listed : id' < s.windows.toplevels.length := by
      obtain ⟨t, found, _⟩ := test_iff.mp able
      exact (List.getElem?_eq_some_iff.mp found).1
    rcases newest id' listed with (excluded | not) | older
    · exact absurd excluded apart
    · cases not.symm.trans able
    · exact older
  · intro newest id' _
    by_cases excluded : ex = some id'
    · exact .inl (.inl excluded)
    · cases able : eligible s.windows id' with
      | false => exact .inl (.inr rfl)
      | true => exact .inr (newest id' excluded able)

theorem find_last_range (property : Nat → Bool) (bound last : Nat)
    (found : (List.range bound).reverse.find? property = some last) :
    property last = true ∧ ∀ id', id' < bound → property id' = true → id' ≤ last := by
  obtain ⟨holds, i, inside, rfl, none⟩ := List.find?_eq_some_iff_getElem.mp found
  refine ⟨holds, fun id' below has => ?_⟩
  rw [List.length_reverse, List.length_range] at inside
  by_contra later
  rw [List.getElem_reverse, List.getElem_range, List.length_range] at later
  have earlier := none (bound - 1 - id') (by omega)
  rw [List.getElem_reverse, List.getElem_range, List.length_range, show bound - 1 - (bound - 1 - id') = id' by omega,
    has] at earlier
  cases earlier

/-- `FocusNextToplevel` takes the newest window that it considers. -/
theorem nextCandidate_newest {candidate : Nat} (found : s.nextCandidate ex = some candidate) :
    s.newest ex candidate = true := by
  refine newest_iff.mpr fun id' apart able => ?_
  have listed : id' < s.windows.toplevels.length := by
    obtain ⟨t, there, _⟩ := test_iff.mp able
    exact (List.getElem?_eq_some_iff.mp there).1
  exact (find_last_range _ _ _ found).2 id' listed (by simp [apart, able])

theorem newest_unique {first second : Nat} (one : s.newest ex first = true)
    (two : s.newest ex second = true) (apart : ex ≠ some first)
    (able : eligible s.windows first = true) (outside : ex ≠ some second)
    (also : eligible s.windows second = true) : first = second :=
  Nat.le_antisymm (newest_iff.mp two first apart able) (newest_iff.mp one second outside also)

def movable (state : State) : Bool := !state.sessionLocked && state.keyboard.isSome && !state.keyboardGrab

/-- The window on top is the newest one considered, and the focus can move to it
or is there; or the focus is there and the newest one cannot take it. -/
def reachesTopmost (state : State) (excluding : Option Nat) : Bool :=
  match state.topmost excluding with
  | none => false
  | some top =>
    if state.focus = some (.toplevel top) then
      !state.movable || state.newest excluding top ||
        (List.range state.windows.toplevels.length).any fun other =>
          excluding != some other && eligible state.windows other && state.newest excluding other &&
            !state.windows.test other (·.wantsFocus)
    else state.movable && state.newest excluding top

theorem movable_iff : s.movable = true ↔
    s.sessionLocked = false ∧ s.keyboard.isSome = true ∧ s.keyboardGrab = false := by
  simp [movable, and_assoc]

theorem focusToplevel_focus (staged : s.Staged) (unlocked : s.sessionLocked = false)
    (none : s.exclusiveLayer = none) {id : Nat} (able : eligible s.windows id = true) :
    (s.focusToplevel id).focus = if s.windows.test id (·.wantsFocus) = true ∧ s.movable = true then some (.toplevel id)
      else s.focus := by
  unfold focusToplevel
  rw [acceptsFocus_iff staged unlocked able, none]
  by_cases wants : s.windows.test id (·.wantsFocus) = true
  · by_cases focused : s.focus = some (.toplevel id)
    · simp [wants, focused]
    · simp only [wants, Bool.not_true, Bool.false_eq_true, if_false, if_neg focused, true_and]
      rw [enter_eq]
      by_cases free : s.keyboard.isSome = true ∧ s.keyboardGrab = false
      · rw [if_pos free, if_pos (movable_iff.mpr ⟨unlocked, free⟩)]
      · rw [if_neg free, if_neg (fun both => free (movable_iff.mp both).2)]
  · simp [wants]

theorem nextCandidate_exists {id : Nat} (apart : ex ≠ some id) (able : eligible s.windows id = true) :
    ∃ candidate, s.nextCandidate ex = some candidate := by
  refine Option.isSome_iff_exists.mp (List.find?_isSome.mpr ⟨id, ?_, by simp [apart, able]⟩)
  obtain ⟨t, found, _⟩ := test_iff.mp able
  simpa using (List.getElem?_eq_some_iff.mp found).1

/-- Where `FocusNextToplevel` leaves the focus, in terms of the newest window it
considers. -/
theorem focusNextToplevel_focus (staged : s.Staged) (none : s.exclusiveLayer = none) {candidate : Nat}
    (found : s.nextCandidate ex = some candidate) :
    (s.focusNextToplevel ex).focus =
      if s.windows.test candidate (·.wantsFocus) = true ∧ s.movable = true then some (.toplevel candidate)
      else s.focus := by
  by_cases locked : s.sessionLocked = true
  · simp [focusNextToplevel, movable, locked]
  · have unlocked : s.sessionLocked = false := by simpa using locked
    simp only [focusNextToplevel, unlocked, Bool.false_eq_true, if_false, none, found]
    exact focusToplevel_focus staged unlocked none (nextCandidate_eligible s found).2

theorem reachesTopmost_iff (staged : s.Staged) (none : s.exclusiveLayer = none) {top : Nat}
    (highest : s.topmost ex = some top) :
    (s.focusNextToplevel ex).focus = some (.toplevel top) ↔ s.reachesTopmost ex = true := by
  obtain ⟨apart, able, wants⟩ := wanted_iff.mp (topmost_wanted highest)
  obtain ⟨candidate, found⟩ := nextCandidate_exists apart able
  obtain ⟨unlike, also⟩ := nextCandidate_eligible s found
  have last := nextCandidate_newest found
  -- the newest window considered is the candidate
  have newest_top : s.newest ex top = true ↔ candidate = top :=
    ⟨fun newest => newest_unique last newest unlike also apart able, fun same => same ▸ last⟩
  have idle : ((List.range s.windows.toplevels.length).any fun id' =>
      ex != some id' && eligible s.windows id' && s.newest ex id' &&
        !s.windows.test id' (·.wantsFocus)) = true ↔ s.windows.test candidate (·.wantsFocus) = false := by
    simp only [List.any_eq_true, List.mem_range, Bool.and_eq_true, bne_iff_ne, Bool.not_eq_true']
    constructor
    · rintro ⟨id, _, ⟨⟨outside, fits⟩, newest⟩, ignores⟩
      rwa [newest_unique last newest unlike also outside fits]
    · intro ignores
      obtain ⟨t, there, _⟩ := test_iff.mp also
      exact ⟨candidate, (List.getElem?_eq_some_iff.mp there).1, ⟨⟨unlike, also⟩, last⟩, ignores⟩
  rw [focusNextToplevel_focus staged none found]
  simp only [reachesTopmost, highest]
  by_cases focused : s.focus = some (.toplevel top)
  · rw [if_pos focused, Bool.or_eq_true, Bool.or_eq_true, newest_top, idle, Bool.not_eq_true', focused]
    by_cases moves : s.windows.test candidate (·.wantsFocus) = true ∧ s.movable = true
    · simp [moves]
    · rw [if_neg moves]
      refine iff_of_true rfl ?_
      cases wanted : s.windows.test candidate (·.wantsFocus) with
      | false => exact .inr rfl
      | true => exact .inl (.inl (by simpa [wanted] using moves))
  · rw [if_neg focused, Bool.and_eq_true, newest_top]
    by_cases moves : s.windows.test candidate (·.wantsFocus) = true ∧ s.movable = true
    · simp [moves]
    · rw [if_neg moves]
      refine iff_of_false focused ?_
      rintro ⟨movable, rfl⟩
      exact moves ⟨wants, movable⟩

end

end State

/-- Whenever `FocusNextToplevel` runs with no exclusive layer surface and a window
to focus, the focus ends on the window on top exactly if that window is also
the newest of those considered and the focus can move, or has the focus already
and the newest one cannot take it. -/
theorem focus_next_topmost_iff (events : List Event) (called : State) (excluding : Option Nat)
    (calls : State.CallsFocusNext (Transition.run step State.initial events) called)
    (none : called.exclusiveLayer = none) (some_ : ∃ id, called.wanted excluding id = true) :
    (∃ top, called.topmost excluding = some top ∧
      (called.focusNextToplevel excluding).focus = some (.toplevel top)) ↔
      called.reachesTopmost excluding = true := by
  have staged := calls.staged (State.run_staged events)
  obtain ⟨top, highest⟩ := State.exists_topmost staged some_
  rw [← State.reachesTopmost_iff staged none highest]
  constructor
  · rintro ⟨other, found, focused⟩
    rw [highest, Option.some_inj] at found
    rwa [found]
  · intro focused
    exact ⟨top, highest, focused⟩

/-- The newest window is on top and gets the focus when the one above it goes. -/
theorem focus_next_topmost_newest :
    let events : List Event := [.addKeyboard, .newToplevel false, .map 0 false, .newToplevel false, .map 1 false,
      .focusToplevel 0]
    let state := Transition.run step State.initial events
    let called : State := { state with windows := state.windows.unmap 0 }
    ∃ top, called.topmost (some 0) = some top ∧ (called.focusNextToplevel (some 0)).focus = some (.toplevel top) := by
  intro events state called
  exact (focus_next_topmost_iff events called (some 0) (.unmap 0 rfl rfl) rfl ⟨1, by decide⟩).mpr (by decide)

/-- Three windows are mapped and the first is raised, then the second. When the
second is unmapped, the focus goes to the third, which lies below the first. -/
theorem unmap_skips_topmost :
    let events : List Event := [.addKeyboard, .newToplevel false, .map 0 false, .newToplevel false, .map 1 false,
      .newToplevel false, .map 2 false, .focusToplevel 0, .focusToplevel 1]
    let state := Transition.run step State.initial events
    let called : State := { state with windows := state.windows.unmap 1 }
    state.CallsFocusNext called ∧ called.exclusiveLayer = none ∧ called.wanted (some 1) 0 = true ∧
      called.topmost (some 1) = some 0 ∧ (called.focusNextToplevel (some 1)).focus = some (.toplevel 2) :=
  ⟨.unmap 1 rfl rfl, rfl, by decide, by decide, by decide⟩

end FlakeWM.Desktop
