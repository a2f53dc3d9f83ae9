import FlakeWM.Input.BindingTable
import FlakeWM.Input.CapturedShortcut
import FlakeWM.Lib.FirstMatch

/-! The bindings that one key event matches.

Two bindings may have a keysym in common when their modifiers differ in any bit.
A press is compared with each of them up to Caps Lock and Num Lock, as far as that
binding leaves them open. So an event can match several bindings, and the one that
was registered first runs. -/

set_option autoImplicit false

namespace FlakeWM.Input

variable {α : Type}

namespace Modifiers

def locks : Modifiers := caps ||| mod2

def unlocked (modifiers : Modifiers) : Modifiers := modifiers &&& ~~~locks

end Modifiers

namespace KeyBindingManager

open FirstMatch

def isEnabled (manager : KeyBindingManager α) (binding : Binding α) : Bool := !manager.isTypeBlocked binding.type

/-- The enabled bindings that match the event. -/
def matching (xkb : Xkb) (manager : KeyBindingManager α) (event : KeyEvent) : List (Binding α) :=
  manager.bindings.filter fun binding => manager.isEnabled binding && spelledBy xkb event binding

def OrderFree (xkb : Xkb) (manager : KeyBindingManager α) (event : KeyEvent) : Prop :=
  ∀ bindings : List (Binding α), bindings.Perm manager.bindings → ∀ inhibited : Bool,
    ({ manager with bindings := bindings }.handleKey xkb event inhibited).action =
      (manager.handleKey xkb event inhibited).action

def MatchesOne (xkb : Xkb) (manager : KeyBindingManager α) (event : KeyEvent) : Prop :=
  (manager.matching xkb event).length ≤ 1 ∧ manager.OrderFree xkb event

def typesOnly (xkb : Xkb) (event : KeyEvent) (keysym : Keysym) : Bool :=
  event.keysyms.all fun typed => foldKeysym xkb typed == keysym

def Typable (xkb : Xkb) (binding : Binding α) : Prop := ∃ typed, foldKeysym xkb typed = binding.parsed.keysym

/-- Both bindings can be triggered, and they ask for the same modifiers but for
Caps Lock and Num Lock. -/
structure Confusable (xkb : Xkb) (manager : KeyBindingManager α) (first second : Binding α) : Prop where
  firstEnabled : manager.isEnabled first = true
  secondEnabled : manager.isEnabled second = true
  firstTypable : Typable xkb first
  secondTypable : Typable xkb second
  modifiers : first.parsed.modifiers.unlocked = second.parsed.modifiers.unlocked

def ModifiersApart (xkb : Xkb) (manager : KeyBindingManager α) : Prop :=
  manager.bindings.Pairwise fun first second => ¬ Confusable xkb manager first second

/-- No two bindings of one keysym differ in Caps Lock and Num Lock alone. -/
def LocksAgree (xkb : Xkb) (manager : KeyBindingManager α) : Prop :=
  manager.bindings.Pairwise fun first second =>
    first.parsed.keysym = second.parsed.keysym → ¬ Confusable xkb manager first second

theorem modifiersMatch_unlocked {active required : Modifiers} (matched : modifiersMatch active required = true) :
    active.unlocked = required.unlocked := by
  simp only [modifiersMatch, beq_iff_eq] at matched
  unfold Modifiers.unlocked
  change active &&& ~~~(Modifiers.locks &&& ~~~required) = required at matched
  generalize Modifiers.locks = locks at matched ⊢
  ext k bound
  have bit := congrArg (·[k]) matched
  simp only [BitVec.getElem_and, BitVec.getElem_not] at bit ⊢
  revert bit
  cases active[k] <;> cases locks[k] <;> cases required[k] <;> decide

theorem modifiersMatch_or {first second : Modifiers} (same : first.unlocked = second.unlocked) :
    modifiersMatch (first ||| second) first = true := by
  rw [modifiersMatch, beq_iff_eq]
  unfold Modifiers.unlocked at same
  change (first ||| second) &&& ~~~(Modifiers.locks &&& ~~~first) = first
  generalize Modifiers.locks = locks at same ⊢
  ext k bound
  have bit := congrArg (·[k]) same
  simp only [BitVec.getElem_and, BitVec.getElem_not, BitVec.getElem_or] at bit ⊢
  revert bit
  cases first[k] <;> cases locks[k] <;> cases second[k] <;> decide

section

variable {xkb : Xkb} {m : KeyBindingManager α} {e : KeyEvent} {first second : Binding α}

theorem spelledBy_iff : spelledBy xkb e first = true ↔
      (∃ typed ∈ e.keysyms, foldKeysym xkb typed = first.parsed.keysym) ∧
        modifiersMatch e.modifiers first.parsed.modifiers = true := by
  rw [spelledBy, Bool.and_eq_true, List.any_eq_true]
  simp only [beq_iff_eq, @eq_comm _ first.parsed.keysym]

theorem confusable_of_spelledBy (firstEnabled : m.isEnabled first = true)
    (secondEnabled : m.isEnabled second = true) (firstSpelled : spelledBy xkb e first = true)
    (secondSpelled : spelledBy xkb e second = true) : Confusable xkb m first second := by
  obtain ⟨⟨typed, _, folded⟩, fits⟩ := spelledBy_iff.mp firstSpelled
  obtain ⟨⟨typed', _, folded'⟩, fits'⟩ := spelledBy_iff.mp secondSpelled
  exact ⟨firstEnabled, secondEnabled, ⟨typed, folded⟩, ⟨typed', folded'⟩,
    (modifiersMatch_unlocked fits).symm.trans (modifiersMatch_unlocked fits')⟩

/-- A press of a key with both keysyms, or with the one they have in common, and with
all the modifiers they ask for. -/
def pressOf (keysyms : List Keysym) (first second : Binding α) : KeyEvent :=
  ⟨⟨0, 0⟩, true, true, 0, keysyms, [], first.parsed.modifiers ||| second.parsed.modifiers⟩

theorem Confusable.both_match (confusable : Confusable xkb m first second) {keysyms : List Keysym}
    (types : ∃ typed ∈ keysyms, foldKeysym xkb typed = first.parsed.keysym)
    (types' : ∃ typed ∈ keysyms, foldKeysym xkb typed = second.parsed.keysym) :
    (m.isEnabled first && spelledBy xkb (pressOf keysyms first second) first) = true ∧
      (m.isEnabled second && spelledBy xkb (pressOf keysyms first second) second) = true := by
  rw [confusable.firstEnabled, confusable.secondEnabled, Bool.true_and, Bool.true_and, spelledBy_iff, spelledBy_iff]
  refine ⟨⟨types, modifiersMatch_or confusable.modifiers⟩, types', ?_⟩
  rw [pressOf, BitVec.or_comm]
  exact modifiersMatch_or confusable.modifiers.symm

end

/-- The only parts of a call that read the bindings are the search for the binding of
an active key and the search for the binding of a press. -/
theorem handleKey_action (xkb : Xkb) (m : KeyBindingManager α) (e : KeyEvent) (inhibited : Bool) :
    (m.handleKey xkb e inhibited).action = if e.hasState && e.pressed && !m.isGrabbingKey then
        ((m.activeKeys.find? fun active => active.key == e.key).map fun active =>
          m.repeatAction active inhibited).getD
            (if inhibited || 0 < m.blockCount then none else (m.bindingFor xkb e).map Binding.action)
      else none := by
  have captured : (m.handleCapturedKey xkb e).action = none := by
    unfold handleCapturedKey
    split
    · rfl
    · dsimp only
      split
      · split
        · split <;> rfl
        · rfl
      · split
        · split <;> rfl
        · rfl
  unfold handleKey
  cases e.hasState with
  | false => rfl
  | true =>
    cases e.pressed with
    | false =>
      simp only [Bool.not_true, Bool.false_eq_true, if_false, Bool.not_false, if_true, Bool.and_false, Bool.false_and]
      split
      · rfl
      · split
        · exact captured
        · rfl
    | true =>
      cases m.isGrabbingKey with
      | true => exact captured
      | false =>
        cases m.activeKeys.find? fun active => active.key == e.key with
        | some => rfl
        | none =>
          simp only [Bool.not_true, Bool.false_eq_true, if_false, Bool.not_false, Bool.and_self, if_true,
            Option.map_none, Option.getD_none]
          split
          · rfl
          · cases m.bindingFor xkb e <;> rfl

section

variable {xkb : Xkb} {m : KeyBindingManager α} {e : KeyEvent} {bindings : List (Binding α)}

theorem repeatAction_perm (keyed : m.Keyed) (same : bindings.Perm m.bindings) (active : ActiveKey) (inhibited : Bool) :
    { m with bindings := bindings }.repeatAction active inhibited = m.repeatAction active inhibited := by
  have one : (m.bindings.filter fun b => b.id == active.bindingId).length ≤ 1 := by
    rw [length_filter_le_one_iff]
    refine (List.pairwise_map.mp keyed.ids).imp ?_
    rintro first second apart ⟨firstId, secondId⟩
    exact apart ((eq_of_beq firstId).trans (eq_of_beq secondId).symm)
  unfold repeatAction
  rw [find?_perm one same]
  rfl

def triggeredBy (xkb : Xkb) (manager : KeyBindingManager α) (event : KeyEvent) (keysym : Keysym) (binding : Binding α) :
    Bool :=
  !manager.isTypeBlocked binding.type && binding.parsed.keysym == foldKeysym xkb keysym &&
    modifiersMatch event.modifiers binding.parsed.modifiers

theorem bindingFor_perm (one : ∀ sym ∈ e.keysyms, (m.bindings.filter (m.triggeredBy xkb e sym)).length ≤ 1)
    (same : bindings.Perm m.bindings) :
    { m with bindings := bindings }.bindingFor xkb e = m.bindingFor xkb e := by
  change (e.keysyms.findSome? fun sym => bindings.find? (m.triggeredBy xkb e sym)) =
    e.keysyms.findSome? fun sym => m.bindings.find? (m.triggeredBy xkb e sym)
  generalize e.keysyms = keysyms at one
  -- the keysyms are tried in turn, and each finds the same binding in either list
  induction keysyms with
  | nil => rfl
  | cons sym rest ih =>
    rw [List.findSome?_cons, List.findSome?_cons, find?_perm (one sym (.head _)) same,
      ih fun other mem => one other (.tail _ mem)]

theorem orderFree_of_one (keyed : m.Keyed)
    (one : ∀ sym ∈ e.keysyms, (m.bindings.filter (m.triggeredBy xkb e sym)).length ≤ 1) :
    m.OrderFree xkb e := by
  intro bindings same inhibited
  have again : { m with bindings := bindings }.repeatAction = m.repeatAction := by
    funext active inhibited
    exact repeatAction_perm keyed same active inhibited
  rw [handleKey_action, handleKey_action, bindingFor_perm one same, again]
  rfl

theorem orderFree_of_matching (keyed : m.Keyed) (one : (m.matching xkb e).length ≤ 1) : m.OrderFree xkb e := by
  apply orderFree_of_one keyed
  intro sym typed
  refine le_trans (List.Sublist.length_le (List.monotone_filter_right _ ?_)) one
  intro b triggered
  simp only [triggeredBy, Bool.and_eq_true, beq_iff_eq] at triggered
  obtain ⟨⟨enabled, folded⟩, fits⟩ := triggered
  rw [Bool.and_eq_true, spelledBy_iff]
  exact ⟨enabled, ⟨sym, typed, folded.symm⟩, fits⟩

theorem LocksAgree.orderFree (keyed : m.Keyed) (agree : m.LocksAgree xkb) (e : KeyEvent) : m.OrderFree xkb e := by
  apply orderFree_of_one keyed
  intro sym typed
  rw [length_filter_le_one_iff]
  refine agree.imp ?_
  rintro first second apart ⟨firstTriggered, secondTriggered⟩
  simp only [triggeredBy, Bool.and_eq_true, beq_iff_eq] at firstTriggered secondTriggered
  obtain ⟨⟨enabled, folded⟩, fits⟩ := firstTriggered
  obtain ⟨⟨enabled', folded'⟩, fits'⟩ := secondTriggered
  have firstSpelled : spelledBy xkb e first = true := spelledBy_iff.mpr ⟨⟨sym, typed, folded.symm⟩, fits⟩
  have secondSpelled : spelledBy xkb e second = true := spelledBy_iff.mpr ⟨⟨sym, typed, folded'.symm⟩, fits'⟩
  exact apart (folded.trans folded'.symm) (confusable_of_spelledBy enabled enabled' firstSpelled secondSpelled)

theorem Keyed.matchesOne_iff (keyed : m.Keyed) : m.MatchesOne xkb e ↔ (m.matching xkb e).length ≤ 1 :=
  ⟨And.left, fun one => ⟨one, orderFree_of_matching keyed one⟩⟩

end

section

variable {xkb : Xkb} {m : KeyBindingManager α}

theorem Keyed.modifiersApart_iff (keyed : m.Keyed) : (∀ e, m.MatchesOne xkb e) ↔ m.ModifiersApart xkb := by
  simp only [keyed.matchesOne_iff, matching, length_filter_le_one_iff, ModifiersApart, List.pairwise_iff_getElem]
  constructor
  · intro one i j below bound less confusable
    obtain ⟨typed, folded⟩ := confusable.firstTypable
    obtain ⟨typed', folded'⟩ := confusable.secondTypable
    exact one (pressOf [typed, typed'] m.bindings[i] m.bindings[j]) i j below bound less
      (confusable.both_match ⟨typed, by simp, folded⟩ ⟨typed', by simp, folded'⟩)
  · rintro apart e i j below bound less ⟨first, second⟩
    rw [Bool.and_eq_true] at first second
    exact apart i j below bound less (confusable_of_spelledBy first.1 second.1 first.2 second.2)

theorem Keyed.locksAgree_iff (keyed : m.Keyed) :
    (∀ e sym, typesOnly xkb e sym = true → m.MatchesOne xkb e) ↔ m.LocksAgree xkb := by
  simp only [keyed.matchesOne_iff, matching, length_filter_le_one_iff, LocksAgree, List.pairwise_iff_getElem]
  constructor
  · intro one i j below bound less same confusable
    obtain ⟨typed, folded⟩ := confusable.firstTypable
    have only : typesOnly xkb (pressOf [typed] m.bindings[i] m.bindings[j]) m.bindings[i].parsed.keysym = true := by
      simp [typesOnly, pressOf, folded]
    exact one _ _ only i j below bound less
      (confusable.both_match ⟨typed, by simp, folded⟩ ⟨typed, by simp, folded.trans same⟩)
  · rintro agree e sym only i j below bound less ⟨first, second⟩
    rw [Bool.and_eq_true] at first second
    -- both bindings are spelled by keysyms that the event types, so by the same one
    have single : ∀ b : Binding α, spelledBy xkb e b = true → b.parsed.keysym = sym := by
      intro b spelled
      obtain ⟨⟨typed, mem, folded⟩, _⟩ := spelledBy_iff.mp spelled
      exact folded.symm.trans (eq_of_beq (List.all_eq_true.mp only typed mem))
    exact agree i j below bound less ((single _ first.2).trans (single _ second.2).symm)
      (confusable_of_spelledBy first.1 second.1 first.2 second.2)

end

/-- In every reachable state, each event matches at most one enabled binding, and the
action that runs does not depend on the order, exactly if no two enabled bindings
have the same modifiers but for the locks; for keys that type one keysym, exactly if
no two of one keysym have. The order matters only in the latter case. -/
theorem matchesOne_forall_iff (xkb : Xkb) (events : List (KeyRun.Event α)) :
    let manager := (Transition.run (KeyRun.step xkb) (KeyRun.initial : KeyRun α) events).keys.manager
    ((∀ event, manager.MatchesOne xkb event) ↔ manager.ModifiersApart xkb) ∧
      ((∀ event keysym, typesOnly xkb event keysym = true → manager.MatchesOne xkb event) ↔
        manager.LocksAgree xkb) ∧
      (manager.LocksAgree xkb → ∀ event, manager.OrderFree xkb event) := by
  intro manager
  have kept : ∀ (run : KeyRun α) event, run.keys.manager.Keyed → (run.step xkb event).keys.manager.Keyed :=
    fun _ event keyed => KeyRun.step_keyed keyed xkb event
  have keyed : manager.Keyed := Transition.run_invariant kept keyed_initial events
  exact ⟨keyed.modifiersApart_iff, keyed.locksAgree_iff, LocksAgree.orderFree keyed⟩

/-- A press of Ctrl and A with Caps Lock on matches a binding for each of the two
spellings, and the action of the one registered first runs. -/
theorem two_bindings_match_lock :
    let calls (first second : String × String) : List (KeyRun.Event String) :=
      [.call (.register (Shortcut.parseShortcut keysymNames first.1) .custom (some first.2)),
        .call (.register (Shortcut.parseShortcut keysymNames second.1) .custom (some second.2))]
    let xkb := keysymNames.toXkb
    let manager (first second : String × String) :=
      (Transition.run (KeyRun.step xkb) KeyRun.initial (calls first second)).keys.manager
    let event : KeyEvent := ⟨⟨0, 30⟩, true, true, Keysym.upperA, [Keysym.upperA], [], .ctrl ||| .caps⟩
    let plain := ("Ctrl+a", "select")
    let locked := ("Caps+Ctrl+a", "insert")
    ((manager plain locked).matching xkb event).map Binding.action = ["select", "insert"] ∧
      ((manager plain locked).handleKey xkb event false).action = some "select" ∧
      ((manager locked plain).handleKey xkb event false).action = some "insert" ∧
      ¬ (manager plain locked).MatchesOne xkb event := by
  refine ⟨by decide, by decide, by decide, ?_⟩
  intro one
  exact absurd one.1 (by decide)

end KeyBindingManager

end FlakeWM.Input
