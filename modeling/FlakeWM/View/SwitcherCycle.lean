import FlakeWM.View.Overlays
import FlakeWM.Lib.Transition
import Mathlib.Data.List.Nodup

/-! The application switcher over the windows it is offered.

Every cycle asks the compositor for the windows of the workspace anew and sorts
them by the focus history; the selection is carried over by surface and not by
index. -/

set_option autoImplicit false

namespace FlakeWM.View.AppSwitcher

/-- The windows of one call of the entries provider and which of them is the focused one. -/
structure Offer where
  windows : List Nat
  active : Nat → Bool
  distinct : windows.Nodup

structure WithHistory extends AppSwitcher where
  focusHistory : List Nat

inductive Change where
  | activated (surface : Nat)
  | unavailable (surface : Nat)
  | cycle (reverse : Bool) (offer : Offer)
  | finish (activate : Bool)

def selected (switcher : AppSwitcher) : Option Nat :=
  if 0 ≤ switcher.currentIndex then switcher.entries[switcher.currentIndex.toNat]? else none

/-- `std::find_if`: the length stands for `end()`. -/
def position (entries : List Nat) : Option Nat → Nat
  | none => entries.length
  | some surface => entries.idxOf surface

/-- The loop of `RefreshEntries`: each surface of the history takes its entry out of the available ones. -/
def arrange : List Nat → List Nat → List Nat
  | [], available => available
  | surface :: history, available =>
    if surface ∈ available then surface :: arrange history (available.erase surface) else arrange history available

namespace WithHistory

def initial : WithHistory := ⟨AppSwitcher.initial, []⟩

def surfaceActivated (switcher : WithHistory) (surface : Nat) : WithHistory :=
  { switcher with focusHistory := surface :: switcher.focusHistory.filter (· != surface) }

def surfaceUnavailable (switcher : WithHistory) (surface : Nat) : WithHistory :=
  let history := switcher.focusHistory.filter (· != surface)
  if !switcher.active then { switcher with focusHistory := history } else
    let entries := switcher.entries.filter (· != surface)
    if entries.isEmpty then ⟨(switcher.finish false).1, history⟩ else
      let current := position entries switcher.selected
      let index : Int := if current = entries.length then min switcher.currentIndex (entries.length - 1) else current
      ⟨⟨true, entries, index⟩, history⟩

def refreshEntries (switcher : WithHistory) (preferred : Option Nat) (offer : Offer) : List Nat × Nat :=
  let entries := arrange switcher.focusHistory offer.windows
  let chosen := position entries preferred
  let focused := entries.findIdx offer.active
  (entries, if chosen < entries.length then chosen else if focused < entries.length then focused else 0)

def cycle (switcher : WithHistory) (reverse : Bool) (offer : Offer) : WithHistory :=
  let preferred := if switcher.active then switcher.selected else none
  let (entries, index) := switcher.refreshEntries preferred offer
  if entries.length < 2 then
    if switcher.active then ⟨(switcher.finish false).1, switcher.focusHistory⟩
    else ⟨⟨false, entries, index⟩, switcher.focusHistory⟩
  else
    let next := if reverse then index + entries.length - 1 else index + 1
    ⟨⟨true, entries, (next % entries.length : Nat)⟩, switcher.focusHistory⟩

def step (switcher : WithHistory) : Change → WithHistory
  | .activated surface => switcher.surfaceActivated surface
  | .unavailable surface => switcher.surfaceUnavailable surface
  | .cycle reverse offer => switcher.cycle reverse offer
  | .finish activate => ⟨(switcher.finish activate).1, switcher.focusHistory⟩

end WithHistory

/-- Each surface once, where it stands first. -/
def latest : List Nat → List Nat
  | [] => []
  | surface :: earlier => surface :: (latest earlier).filter (· != surface)

/-- The switcher with a log of all activations, the last one first, of the surfaces that are
not lost, and with a record of its last cycle: what it was offered, the order of the
activations then, and the surfaces lost since. -/
structure Session where
  switcher : WithHistory
  activations : List Nat
  offered : List Nat
  recency : List Nat
  lost : List Nat

namespace Session

def initial : Session := ⟨WithHistory.initial, [], [], [], []⟩

def step (session : Session) (change : Change) : Session :=
  let next := { session with switcher := session.switcher.step change }
  match change with
  | .activated surface => { next with activations := surface :: session.activations }
  | .unavailable surface =>
    { next with activations := session.activations.filter (· != surface), lost := surface :: session.lost }
  | .cycle _ offer => { next with offered := offer.windows, recency := latest session.activations, lost := [] }
  | .finish _ => next

end Session

/-- The activated windows, the last one first, and then the others as they were offered. -/
def byRecency (recency offered : List Nat) : List Nat :=
  recency.filter (· ∈ offered) ++ offered.filter (· ∉ recency)

structure Listed (session : Session) : Prop where
  history : session.switcher.focusHistory = latest session.activations
  distinct : session.switcher.focusHistory.Nodup
  entries : session.switcher.active →
    session.switcher.entries = (byRecency session.recency session.offered).filter (· ∉ session.lost) ∧
    session.switcher.entries.Perm (session.offered.filter (· ∉ session.lost))
  index : session.switcher.active →
    0 ≤ session.switcher.currentIndex ∧ session.switcher.currentIndex < session.switcher.entries.length

/-- The selection is the same window after a full round and after a step there and back. -/
def Returns (switcher : WithHistory) (offer : Offer) : Prop :=
  let after := Transition.run WithHistory.step switcher
  let round := after (List.replicate switcher.entries.length (.cycle false offer))
  let back := after [.cycle false offer, .cycle true offer]
  (round.active ∧ round.selected = switcher.selected) ∧ back.active ∧ back.selected = switcher.selected

theorem latest_filter (log : List Nat) (x : Nat) : latest (log.filter (· != x)) = (latest log).filter (· != x) := by
  induction log with
  | nil => rfl
  | cons w log ih =>
    rw [List.filter_cons, latest, List.filter_cons]
    split
    next => rw [latest, ih, List.filter_comm]
    next same =>
      obtain rfl : w = x := by simpa using same
      rw [ih, List.filter_filter]
      simp

section Arrange

variable (hist av : List Nat)

theorem arrange_perm : (arrange hist av).Perm av := by
  induction hist generalizing av with
  | nil => exact .rfl
  | cons x hist ih =>
    simp only [arrange]
    split
    next present => exact ((ih _).cons x).trans (List.perm_cons_erase present).symm
    next => exact ih _

variable {hist av}

theorem arrange_eq (recent : hist.Nodup) (distinct : av.Nodup) :
    arrange hist av = byRecency hist av := by
  induction hist generalizing av with
  | nil => simp [arrange, byRecency]
  | cons x hist ih =>
    have apart : ∀ w ∈ hist, w ≠ x := fun w mem same => (List.nodup_cons.mp recent).1 (same ▸ mem)
    have known := fun {rest : List Nat} => @ih rest (List.nodup_cons.mp recent).2
    simp only [arrange, byRecency]
    split
    next present =>
      -- what the surface took out of the available ones is filtered away on the right
      rw [known (distinct.erase x), byRecency, List.filter_cons_of_pos (by simpa using present), List.cons_append,
        distinct.erase_eq_filter, List.filter_filter]
      congr 2
      · refine List.filter_congr fun w mem => ?_
        simp [apart w mem]
      · refine List.filter_congr fun w _ => ?_
        simp [Bool.and_comm, bne, Bool.beq_eq_decide_eq]
    next absent =>
      rw [known distinct, byRecency, List.filter_cons_of_neg (by simpa using absent)]
      congr 1
      refine List.filter_congr fun w mem => ?_
      have differs : w ≠ x := fun same => absent (same ▸ mem)
      simp [differs]

end Arrange

theorem selected_at {switcher : AppSwitcher} {i : Nat} (index : switcher.currentIndex = i) :
    switcher.selected = switcher.entries[i]? := by
  simp [selected, index]

theorem mem_of_selected {switcher : AppSwitcher} {w : Nat} (chosen : switcher.selected = some w) :
    w ∈ switcher.entries := by
  unfold selected at chosen
  split at chosen
  · exact List.mem_of_getElem? chosen
  · cases chosen

theorem selected_of_valid {switcher : AppSwitcher} (low : 0 ≤ switcher.currentIndex)
    (high : switcher.currentIndex < switcher.entries.length) : ∃ w, switcher.selected = some w := by
  rw [selected, if_pos low]
  exact ⟨_, List.getElem?_eq_getElem (by omega)⟩

namespace WithHistory

variable {s : WithHistory} {x w : Nat} {o : Offer} {rev : Bool}

theorem surfaceUnavailable_of_left (active : s.active) (left : s.entries.filter (· != x) ≠ []) :
    s.surfaceUnavailable x =
      let entries := s.entries.filter (· != x)
      let current := position entries s.selected
      ⟨⟨true, entries, if current = entries.length then min s.currentIndex (entries.length - 1) else current⟩,
        s.focusHistory.filter (· != x)⟩ := by
  have full : (s.entries.filter (· != x)).isEmpty = false := by rwa [← Bool.not_eq_true, List.isEmpty_iff]
  simp [surfaceUnavailable, active, full]

theorem surfaceUnavailable_history : (s.surfaceUnavailable x).focusHistory = s.focusHistory.filter (· != x) := by
  unfold surfaceUnavailable
  split
  · rfl
  · dsimp only
    split <;> rfl

theorem left_of_active (still : (s.surfaceUnavailable x).active) :
    s.active ∧ s.entries.filter (· != x) ≠ [] := by
  unfold surfaceUnavailable at still
  dsimp only at still
  split at still
  next idle => simp_all
  next running =>
    split at still
    next => exact absurd still (by simp [finish, AppSwitcher.initial])
    next full => exact ⟨by simpa using running, fun none => full (by rw [none]; rfl)⟩

theorem surfaceUnavailable_keeps (active : s.active) (chosen : s.selected = some w) (apart : w ≠ x) :
    (s.surfaceUnavailable x).active ∧ (s.surfaceUnavailable x).selected = some w := by
  have mem : w ∈ s.entries.filter (· != x) := by simp [mem_of_selected chosen, apart]
  have found := List.idxOf_lt_length_iff.mpr mem
  rw [surfaceUnavailable_of_left active (List.ne_nil_of_mem mem)]
  refine ⟨rfl, ?_⟩
  simp only [chosen, position, if_neg (Nat.ne_of_lt found)]
  rw [selected_at rfl, List.getElem?_eq_getElem found, List.getElem_idxOf]

theorem surfaceUnavailable_index (low : 0 ≤ s.currentIndex) (still : (s.surfaceUnavailable x).active) :
    0 ≤ (s.surfaceUnavailable x).currentIndex ∧
      (s.surfaceUnavailable x).currentIndex < (s.surfaceUnavailable x).entries.length := by
  obtain ⟨active, left⟩ := left_of_active still
  have bound : position (s.entries.filter (· != x)) s.selected ≤ (s.entries.filter (· != x)).length := by
    cases s.selected with
    | none => exact Nat.le_refl _
    | some => exact List.idxOf_le_length
  have some_left := List.length_pos_iff.mpr left
  rw [surfaceUnavailable_of_left active left]
  dsimp only
  split <;> omega

theorem cycle_of_few (few : o.windows.length < 2) : (s.cycle rev o).active = false := by
  have count := (arrange_perm s.focusHistory o.windows).length_eq
  simp only [cycle, refreshEntries, count, if_pos few]
  split <;> rfl

/-- The switcher on the `i`th of the windows offered. -/
def showing (history : List Nat) (offer : Offer) (i : Nat) : WithHistory :=
  ⟨⟨true, arrange history offer.windows, i⟩, history⟩

theorem cycle_of_two (two : 2 ≤ o.windows.length) :
    ∃ i < o.windows.length, s.cycle rev o = showing s.focusHistory o i := by
  have count := (arrange_perm s.focusHistory o.windows).length_eq
  simp only [cycle, refreshEntries, count, if_neg (Nat.not_lt.mpr two)]
  exact ⟨_, Nat.mod_lt _ (by omega), rfl⟩

theorem cycle_from (two : 2 ≤ o.windows.length) (active : s.active) (chosen : s.selected = some w)
    (mem : w ∈ o.windows) :
    s.cycle rev o = showing s.focusHistory o
      (((arrange s.focusHistory o.windows).idxOf w + if rev then o.windows.length - 1 else 1) %
        o.windows.length) := by
  have same := arrange_perm s.focusHistory o.windows
  have found := List.idxOf_lt_length_iff.mpr (same.mem_iff.mpr mem)
  rw [same.length_eq] at found
  simp only [cycle, refreshEntries, active, if_true, chosen, position, if_pos found, same.length_eq,
    if_neg (Nat.not_lt.mpr two), showing]
  cases rev with
  | false => rfl
  | true => simp only [if_true, Nat.add_sub_assoc (Nat.one_le_of_lt two)]

variable {hist : List Nat} {i : Nat}

theorem selected_showing (mem : w ∈ o.windows) :
    (showing hist o ((arrange hist o.windows).idxOf w)).selected = some w := by
  have found := List.idxOf_lt_length_iff.mpr ((arrange_perm hist o.windows).mem_iff.mpr mem)
  rw [selected_at rfl]
  exact (List.getElem?_eq_getElem found).trans (congrArg some (List.getElem_idxOf found))

theorem cycle_showing (two : 2 ≤ o.windows.length) (valid : i < o.windows.length) :
    (showing hist o i).cycle rev o =
      showing hist o ((i + if rev then o.windows.length - 1 else 1) % o.windows.length) := by
  have same := arrange_perm hist o.windows
  have inside : i < (arrange hist o.windows).length := same.length_eq ▸ valid
  have place := (same.nodup_iff.mpr o.distinct).idxOf_getElem i inside
  have mem := same.mem_iff.mp (List.getElem_mem inside)
  have shown := @selected_showing _ o hist mem
  rw [place] at shown
  rw [cycle_from two rfl shown mem]
  exact congrArg (fun j => showing hist o ((j + _) % _)) place

theorem run_showing (two : 2 ≤ o.windows.length) (k : Nat) (valid : i < o.windows.length) :
    Transition.run step (showing hist o i) (List.replicate k (.cycle false o)) =
      showing hist o ((i + k) % o.windows.length) := by
  induction k generalizing i with
  | zero => simp [Nat.mod_eq_of_lt valid]
  | succ k ih =>
    have next : step (showing hist o i) (.cycle false o) = _ := cycle_showing two valid
    rw [List.replicate_succ, Transition.run_cons, next, ih (Nat.mod_lt _ (by omega))]
    simp [Nat.add_assoc, Nat.add_comm 1]

theorem returns_iff (active : s.active) (chosen : s.selected = some w) (unchanged : s.entries.Perm o.windows) :
    Returns s o ↔ 2 ≤ s.entries.length := by
  have count := unchanged.length_eq
  have mem := unchanged.mem_iff.mp (mem_of_selected chosen)
  constructor
  · rintro ⟨-, still, -⟩
    -- with one window on offer every cycle ends closed
    by_contra few
    exact absurd still (by simp [step, cycle_of_few (show o.windows.length < 2 by omega)])
  · intro several
    have two : 2 ≤ o.windows.length := count ▸ several
    have valid := List.idxOf_lt_length_iff.mpr ((arrange_perm s.focusHistory o.windows).mem_iff.mpr mem)
    rw [(arrange_perm _ _).length_eq] at valid
    -- the first cycle depends on the selected window only, as if it were shown in the new order
    have first : s.step (.cycle false o) =
        (showing s.focusHistory o ((arrange s.focusHistory o.windows).idxOf w)).step (.cycle false o) :=
      (cycle_from two active chosen mem).trans (cycle_showing two valid).symm
    have place := @selected_showing w o s.focusHistory mem
    refine ⟨?_, ?_⟩
    · obtain ⟨k, size⟩ : ∃ k, o.windows.length = k + 1 := ⟨_, (Nat.succ_pred_eq_of_pos (Nat.zero_lt_of_lt valid)).symm⟩
      have round := @run_showing o s.focusHistory _ two o.windows.length valid
      rw [Nat.add_mod_right, Nat.mod_eq_of_lt valid, size, List.replicate_succ, Transition.run_cons, ← first] at round
      simp only [count, size, List.replicate_succ, Transition.run_cons, round]
      exact ⟨rfl, place.trans chosen.symm⟩
    · have there := @cycle_showing o false s.focusHistory _ two valid
      have again := @cycle_showing o true s.focusHistory _ two
        (Nat.mod_lt ((arrange s.focusHistory o.windows).idxOf w + 1) (Nat.zero_lt_of_lt valid))
      simp only [Bool.false_eq_true, if_false] at there
      simp only [if_true, Nat.mod_add_mod, Nat.add_assoc, Nat.add_sub_cancel' (Nat.one_le_of_lt two),
        Nat.add_mod_right, Nat.mod_eq_of_lt valid] at again
      simp only [Transition.run_cons, Transition.run_nil, first]
      simp only [step, there, again]
      exact ⟨rfl, place.trans chosen.symm⟩

end WithHistory

namespace Listed

variable {ss : Session}

theorem unavailable (listed : Listed ss) (x : Nat) : Listed (ss.step (.unavailable x)) where
  history := by
    rw [Session.step, latest_filter, ← listed.history]
    exact WithHistory.surfaceUnavailable_history
  distinct := by
    rw [Session.step]
    exact WithHistory.surfaceUnavailable_history ▸ listed.distinct.filter _
  entries still := by
    obtain ⟨active, left⟩ := WithHistory.left_of_active still
    have same := WithHistory.surfaceUnavailable_of_left active left
    have fewer : ∀ ws : List Nat, ws.filter (· ∉ x :: ss.lost) =
        (ws.filter (· ∉ ss.lost)).filter (· != x) := by
      intro ws
      rw [List.filter_filter]
      exact List.filter_congr fun w _ => by simp [bne, Bool.beq_eq_decide_eq]
    simp only [Session.step, WithHistory.step, same, fewer]
    exact ⟨congrArg _ (listed.entries active).1, (listed.entries active).2.filter _⟩
  index still := WithHistory.surfaceUnavailable_index (listed.index (WithHistory.left_of_active still).1).1 still

theorem cycle (listed : Listed ss) (rev : Bool) (o : Offer) : Listed (ss.step (.cycle rev o)) := by
  by_cases two : 2 ≤ o.windows.length
  · obtain ⟨i, valid, same⟩ := @WithHistory.cycle_of_two ss.switcher o rev two
    have perm := arrange_perm ss.switcher.focusHistory o.windows
    simp only [Session.step, WithHistory.step, same]
    refine ⟨listed.history, listed.distinct, fun _ => ?_, fun _ => ⟨Int.natCast_nonneg i, ?_⟩⟩
    · rw [← listed.history]
      simp only [WithHistory.showing, List.not_mem_nil, not_false_eq_true, decide_true, List.filter_true]
      exact ⟨arrange_eq listed.distinct o.distinct, perm⟩
    · exact Int.ofNat_lt.mpr (perm.length_eq.symm ▸ valid)
  · have closed := @WithHistory.cycle_of_few ss.switcher o rev (Nat.not_le.mp two)
    have kept : (ss.switcher.cycle rev o).focusHistory = ss.switcher.focusHistory := by
      simp only [WithHistory.cycle, apply_ite WithHistory.focusHistory, ite_self]
    refine ⟨kept.trans listed.history, kept ▸ listed.distinct, fun still => ?_, fun still => ?_⟩
    · exact absurd still (by simp [Session.step, WithHistory.step, closed])
    · exact absurd still (by simp [Session.step, WithHistory.step, closed])

theorem step (listed : Listed ss) (change : Change) : Listed (ss.step change) := by
  cases change with
  | activated =>
    refine ⟨?_, List.nodup_cons.mpr ⟨by simp, listed.distinct.filter _⟩, listed.entries, listed.index⟩
    exact congrArg (fun history : List Nat => _ :: history.filter _) listed.history
  | unavailable x => exact listed.unavailable x
  | cycle rev o => exact listed.cycle rev o
  | finish => exact ⟨listed.history, listed.distinct, fun still => Bool.noConfusion still, fun still => Bool.noConfusion still⟩

end Listed

/-- A round returns to its window unless it is the only one left. -/
theorem switcher_session (changes : List Change) :
    let session := Transition.run Session.step Session.initial changes
    let switcher := session.switcher
    Listed session ∧
    (∀ surface w, switcher.active → switcher.selected = some w → w ≠ surface →
      (switcher.step (.unavailable surface)).active ∧ (switcher.step (.unavailable surface)).selected = some w) ∧
    ∀ offer : Offer, switcher.active → switcher.entries.Perm offer.windows →
      (Returns switcher offer ↔ 2 ≤ switcher.entries.length) := by
  intro session switcher
  have start : Listed Session.initial := ⟨rfl, List.nodup_nil, Bool.noConfusion, Bool.noConfusion⟩
  have listed : Listed session := Transition.run_invariant (fun _ change holds => holds.step change) start changes
  refine ⟨listed, fun surface w => WithHistory.surfaceUnavailable_keeps, fun offer active unchanged => ?_⟩
  obtain ⟨w, chosen⟩ := selected_of_valid (listed.index active).1 (listed.index active).2
  exact WithHistory.returns_iff active chosen unchanged

/-- Of two windows one is lost; the next cycle has a single entry and closes the switcher. -/
theorem last_window_closes :
    let both : Offer := ⟨[0, 1], (· == 0), by decide⟩
    let one : Offer := ⟨[1], (· == 0), by decide⟩
    let switcher := (Transition.run Session.step Session.initial [.cycle false both, .unavailable 0]).switcher
    switcher.active ∧ switcher.entries = one.windows ∧ ¬Returns switcher one := by
  refine ⟨by decide, by decide, fun returns => ?_⟩
  exact absurd returns.1.1 (by decide)

end FlakeWM.View.AppSwitcher
