import FlakeWM.Input.Keyboard
import FlakeWM.Lib.Pairing
import FlakeWM.Lib.Transition

/-! Whole key strokes at the key-binding manager.

Calls of the manager may be made while an action runs, so `handleKey` takes two
events: the key event itself and, for a press that triggered a binding, the
return of its action. Beside the manager stand the keys that have been pressed
and not yet released, each with whether its latest press was consumed. -/

set_option autoImplicit false

namespace FlakeWM.Input

variable {α : Type}

/-- `running` are the keys whose actions have not returned, innermost first. -/
structure Strokes (α : Type) where
  manager : KeyBindingManager α
  running : List ActiveKey
  pressed : List (Key × Bool)

inductive Strokes.Event (α : Type) where
  | key (event : KeyEvent) (inhibited : Bool)
  | actionReturns
  | call (call : ManagerCall α)
  | forgetKeyboard (keyboard : Nat)
  deriving DecidableEq, Repr

namespace Strokes

open KeyBindingManager Pairing

def initial : Strokes α := ⟨.initial, [], []⟩

def step (xkb : Xkb) (strokes : Strokes α) : Event α → Strokes α
  | .key event inhibited =>
    let handled := strokes.manager.handleKey xkb event inhibited
    { manager := handled.manager
      running := handled.records.toList ++ strokes.running
      pressed := Pairing.note strokes.pressed event.key event.pressed handled.consumed }
  | .actionReturns =>
    match strokes.running with
    | [] => strokes
    | last :: running => { strokes with manager := strokes.manager.record (some last), running := running }
  | .call call => { strokes with manager := strokes.manager.apply call }
  | .forgetKeyboard keyboard => { strokes with manager := strokes.manager.forgetKeyboard keyboard }

/-- The release of a pressed key is consumed exactly when its latest press was. -/
def Paired (xkb : Xkb) (strokes : Strokes α) : Event α → Prop
  | .key event inhibited =>
    event.pressed = false →
      Pairing.Paired strokes.pressed event.key (strokes.manager.handleKey xkb event inhibited).consumed
  | _ => True

def isRunning (strokes : Strokes α) (key : Key) : Bool := strokes.running.any fun active => active.key == key

def owns (strokes : Strokes α) (key : Key) : Bool := strokes.manager.isActive key || strokes.isRunning key

def willConsume (strokes : Strokes α) (key : Key) : Bool := strokes.owns key || strokes.manager.isGrabbingKey

/-- A key that is down was consumed exactly if it is owned or a key is being grabbed. -/
def Balanced (strokes : Strokes α) : Prop := Pairing.Balanced strokes.pressed strokes.willConsume

def grabSurvives (strokes : Strokes α) (keyboard : Nat) : Bool :=
  match strokes.manager.grab with
  | .off => false
  | .waiting => true
  | .captured key _ => key.keyboard != keyboard

/-- A key whose action is running is pressed again only if that press is consumed
too. Without an xkb state the press must be of a key the manager knows nothing of. -/
def pressSafe (xkb : Xkb) (strokes : Strokes α) (event : KeyEvent) (inhibited : Bool) : Bool :=
  if event.hasState then
    !strokes.isRunning event.key || strokes.manager.isGrabbingKey || strokes.manager.isActive event.key ||
      strokes.manager.triggers xkb event inhibited
  else !strokes.owns event.key && !strokes.manager.isGrabbingKey

/-- A consumed key is not released while its own action runs or without an xkb
state. A release that ends the grab finds every other key that is down owned. -/
def releaseSafe (strokes : Strokes α) (event : KeyEvent) : Bool :=
  (!strokes.pressed.contains (event.key, true) ||
      (event.hasState &&
        (!strokes.isRunning event.key || strokes.manager.isActive event.key || strokes.manager.isGrabbingKey))) &&
    (!strokes.manager.endsGrab event ||
      (Pairing.others strokes.pressed event.key).all fun entry => strokes.owns entry.1)

/-- Besides the key events: a grab starts while no key is down whose press was
passed on, and is cancelled while every key that is down is owned; a keyboard is
forgotten while every consumed key stays owned or grabbed without it. -/
def strokeSafe (xkb : Xkb) (strokes : Strokes α) : Event α → Bool
  | .key event inhibited =>
    if event.pressed then strokes.pressSafe xkb event inhibited else strokes.releaseSafe event
  | .call .grabNextKey => strokes.pressed.all Prod.snd
  | .call .cancelGrab => !strokes.manager.isGrabbingKey || strokes.pressed.all fun entry => strokes.owns entry.1
  | .forgetKeyboard keyboard =>
    strokes.pressed.all fun entry =>
      !entry.2 || (strokes.manager.isActive entry.1 && entry.1.keyboard != keyboard) ||
        strokes.isRunning entry.1 || strokes.grabSurvives keyboard
  | _ => true

section
variable {xkb : Xkb} {ks : Strokes α}

theorem balanced_iff_of_grab {next : Strokes α} (balanced : ks.Balanced) (pressed : next.pressed ⊆ ks.pressed)
    (owned : ∀ en ∈ next.pressed, next.owns en.1 = ks.owns en.1) :
    next.Balanced ↔ ∀ en ∈ next.pressed,
      ks.owns en.1 = true ∨ next.manager.isGrabbingKey = ks.manager.isGrabbingKey := by
  refine (Balanced.iff_agrees balanced pressed).trans (forall₂_congr fun en mem => ?_)
  rw [willConsume, willConsume, owned en mem]
  cases ks.owns en.1 <;> simp

variable (e : KeyEvent) (inhibited : Bool)

def fires (xkb : Xkb) (strokes : Strokes α) (event : KeyEvent) (inhibited : Bool) : Bool :=
  event.hasState && event.pressed && !strokes.manager.isGrabbingKey && !strokes.manager.isActive event.key &&
    strokes.manager.triggers xkb event inhibited

theorem key_isRunning (key : Key) : (ks.step xkb (.key e inhibited)).isRunning key =
      (ks.isRunning key || (e.key == key && ks.fires xkb e inhibited)) := by
  have recorded := (handleKey_outcome xkb ks.manager e inhibited).records_eq
  unfold isRunning step
  rw [List.any_append, Bool.or_comm]
  congr 1
  change _ = if ks.fires xkb e inhibited then _ else _ at recorded
  cases fired : ks.fires xkb e inhibited with
  | false =>
    rw [fired, if_neg (by decide), Option.map_eq_none_iff] at recorded
    simp [recorded]
  | true =>
    rw [fired, if_pos rfl, Option.map_eq_some_iff] at recorded
    obtain ⟨active, records, same⟩ := recorded
    simp [records, same]

theorem key_owns_other {key : Key} (apart : key ≠ e.key) : (ks.step xkb (.key e inhibited)).owns key = ks.owns key := by
  have active := (handleKey_outcome xkb ks.manager e inhibited).isActive_eq (.inr apart)
  unfold owns
  rw [key_isRunning, beq_eq_false_iff_ne.mpr apart.symm, Bool.false_and, Bool.or_false]
  exact congrArg (· || ks.isRunning key) active

theorem key_grabbing : (ks.step xkb (.key e inhibited)).manager.isGrabbingKey =
      (ks.manager.isGrabbingKey && !ks.manager.endsGrab e) :=
  (handleKey_outcome xkb ks.manager e inhibited).grabbing_eq

theorem press_balanced_iff (balanced : ks.Balanced) {e : KeyEvent} (down : e.pressed = true) :
    (ks.step xkb (.key e inhibited)).Balanced ↔ ks.pressSafe xkb e inhibited = true := by
  have outcome := KeyBindingManager.handleKey_outcome xkb ks.manager e inhibited
  have grabbing : (ks.step xkb (.key e inhibited)).manager.isGrabbingKey = ks.manager.isGrabbingKey := by
    rw [key_grabbing]
    simp [KeyBindingManager.endsGrab, down]
  have others : Pairing.Balanced (Pairing.others ks.pressed e.key) (ks.step xkb (.key e inhibited)).willConsume := by
    refine (Pairing.Balanced.iff_agrees balanced Pairing.others_subset).mpr ?_
    intro en mem
    rw [willConsume, willConsume, key_owns_other e inhibited (mem_others.mp mem).2, grabbing]
  have own : (ks.step xkb (.key e inhibited)).owns e.key =
      (ks.manager.isActive e.key || (ks.isRunning e.key || ks.fires xkb e inhibited)) := by
    unfold owns
    rw [key_isRunning, beq_self_eq_true, Bool.true_and]
    exact congrArg (· || _) (outcome.isActive_eq (.inl down))
  refine (balanced_note_pressed down).trans ?_
  rw [and_iff_left others, willConsume, own, grabbing, outcome.consumed_eq]
  unfold pressSafe fires owns
  cases e.hasState <;> cases ks.manager.isGrabbingKey <;> cases ks.manager.isActive e.key <;>
    cases ks.isRunning e.key <;> cases ks.manager.triggers xkb e inhibited <;> simp [down]

theorem endsGrab_grabbing {m : KeyBindingManager α} {e : KeyEvent}
    (ends : m.endsGrab e = true) : m.isGrabbingKey = true := by
  unfold endsGrab at ends
  unfold isGrabbingKey
  cases grab : m.grab with
  | off => simp [grab] at ends
  | waiting | captured => rfl

theorem release_balanced_iff (balanced : ks.Balanced) {e : KeyEvent} (up : e.pressed = false) :
    (ks.step xkb (.key e inhibited)).Balanced ↔ (!ks.manager.endsGrab e ||
        (others ks.pressed e.key).all fun en => ks.owns en.1) = true := by
  have pressed : (ks.step xkb (.key e inhibited)).pressed = others ks.pressed e.key :=
    if_neg (by simp [up])
  have fewer : (ks.step xkb (.key e inhibited)).pressed ⊆ ks.pressed := by
    rw [pressed]
    exact others_subset
  have owned : ∀ en ∈ (ks.step xkb (.key e inhibited)).pressed,
      (ks.step xkb (.key e inhibited)).owns en.1 = ks.owns en.1 := by
    rw [pressed]
    intro en mem
    exact key_owns_other e inhibited (mem_others.mp mem).2
  rw [balanced_iff_of_grab balanced fewer owned, pressed, key_grabbing]
  cases ends : ks.manager.endsGrab e with
  | false => simp
  | true => simp [endsGrab_grabbing ends]

theorem release_paired_iff (balanced : ks.Balanced) {e : KeyEvent} (up : e.pressed = false) :
    ks.Paired xkb (.key e inhibited) ↔ (!ks.pressed.contains (e.key, true) ||
        (e.hasState && (!ks.isRunning e.key || ks.manager.isActive e.key || ks.manager.isGrabbingKey))) = true := by
  have outcome := handleKey_outcome xkb ks.manager e inhibited
  have consumed : (ks.manager.handleKey xkb e inhibited).consumed =
      (e.hasState && (ks.manager.isGrabbingKey || ks.manager.isActive e.key)) := by
    rw [outcome.consumed_eq]
    simp [up]
  unfold Paired
  dsimp only
  rw [consumed]
  by_cases known : (e.key, true) ∈ ks.pressed
  · have owned : true = (ks.owns e.key || ks.manager.isGrabbingKey) := balanced _ known
    have flags : ∀ flag, (e.key, flag) ∈ ks.pressed → flag = true :=
      fun flag mem => (balanced _ mem).trans owned.symm
    have reduced : (e.pressed = false → Pairing.Paired ks.pressed e.key
        (e.hasState && (ks.manager.isGrabbingKey || ks.manager.isActive e.key))) ↔
        (e.hasState && (ks.manager.isGrabbingKey || ks.manager.isActive e.key)) = true :=
      ⟨fun paired => paired up true known, fun taken _ flag mem => (flags flag mem) ▸ taken⟩
    rw [reduced, List.contains_iff_mem.mpr known]
    unfold owns at owned
    revert owned
    cases ks.manager.isActive e.key <;> cases ks.isRunning e.key <;>
      cases ks.manager.isGrabbingKey <;> simp
  · -- The manager has nothing to do with a key whose press was passed on.
    refine iff_of_true ?_ (by simp [known])
    intro _ flag mem
    cases flag with
    | true => exact absurd mem known
    | false =>
      have unowned : false = (ks.owns e.key || ks.manager.isGrabbingKey) := balanced _ mem
      unfold owns at unowned
      revert unowned
      cases ks.manager.isActive e.key <;> cases ks.manager.isGrabbingKey <;> simp

theorem actionReturns_balanced (balanced : ks.Balanced) : (ks.step xkb .actionReturns).Balanced := by
  unfold step
  dsimp only
  split
  · exact balanced
  · rename_i last rest running
    intro en mem
    rw [balanced en mem]
    unfold willConsume owns isRunning isActive record isGrabbingKey
    simp [running, Bool.or_assoc]

theorem call_balanced_iff (balanced : ks.Balanced) (call : ManagerCall α) :
    (ks.step xkb (.call call)).Balanced ↔ ks.strokeSafe xkb (.call call) = true := by
  have owned : ∀ en ∈ ks.pressed, (ks.step xkb (.call call)).owns en.1 = ks.owns en.1 := by
    intro en _
    unfold owns isRunning isActive step
    rw [apply_activeKeys]
  have same : (ks.step xkb (.call call)).pressed ⊆ ks.pressed := List.Subset.refl _
  rw [balanced_iff_of_grab balanced same owned]
  have grab := apply_grab ks.manager call
  cases call with
  | grabNextKey =>
    rw [strokeSafe, List.all_eq_true]
    refine forall₂_congr fun en mem => ?_
    rw [balanced en mem, willConsume, Bool.or_eq_true]
    exact or_congr Iff.rfl eq_comm
  | cancelGrab =>
    have off : (ks.step xkb (.call .cancelGrab)).manager.isGrabbingKey = false := rfl
    rw [off, strokeSafe]
    cases ks.manager.isGrabbingKey with
    | false => simp
    | true =>
      rw [Bool.not_true, Bool.false_or, List.all_eq_true]
      exact forall₂_congr fun en _ => by simp
  | _ => exact iff_of_true (fun _ _ => .inr (congrArg (· != Grab.off) grab)) rfl

theorem forgetKeyboard_balanced_iff (balanced : ks.Balanced) (kb : Nat) : (ks.step xkb (.forgetKeyboard kb)).Balanced ↔
      ks.strokeSafe xkb (.forgetKeyboard kb) = true := by
  have active : ∀ key, (ks.step xkb (.forgetKeyboard kb)).manager.isActive key =
      (ks.manager.isActive key && key.keyboard != kb) := by
    intro key
    rw [Bool.eq_iff_iff, Bool.and_eq_true, isActive_iff, isActive_iff]
    constructor
    · rintro ⟨en, mem, rfl⟩
      obtain ⟨listed, elsewhere⟩ := List.mem_filter.mp mem
      exact ⟨⟨en, listed, rfl⟩, elsewhere⟩
    · rintro ⟨⟨en, listed, rfl⟩, elsewhere⟩
      exact ⟨en, List.mem_filter.mpr ⟨listed, elsewhere⟩, rfl⟩
  have grab : (ks.step xkb (.forgetKeyboard kb)).manager.isGrabbingKey =
      (ks.manager.isGrabbingKey && ks.grabSurvives kb) := by
    unfold step forgetKeyboard isGrabbingKey grabSurvives
    cases ks.manager.grab with
    | off | waiting => rfl
    | captured key => by_cases same : key.keyboard = kb <;> simp [same]
  rw [strokeSafe, List.all_eq_true]
  -- Running actions are not forgotten: their keys are recorded when they return.
  refine forall₂_congr fun en mem => ?_
  have before := balanced en mem
  have running : (ks.step xkb (.forgetKeyboard kb)).isRunning en.1 = ks.isRunning en.1 := rfl
  unfold willConsume owns at before ⊢
  rw [active, grab, running, before]
  have alive : ks.grabSurvives kb = true → ks.manager.isGrabbingKey = true := by
    unfold grabSurvives isGrabbingKey
    cases ks.manager.grab with
    | off => exact id
    | waiting | captured => exact fun _ => rfl
  revert alive
  cases ks.manager.isActive en.1 <;> cases ks.isRunning en.1 <;>
    cases ks.manager.isGrabbingKey <;> cases ks.grabSurvives kb <;>
    cases en.1.keyboard != kb <;> simp

end

/-- From a balanced state, an event is handled evenly and leads to a balanced
state exactly when it is safe. -/
theorem step_balanced_iff {ks : Strokes α} (balanced : ks.Balanced) (xkb : Xkb) (e : Event α) :
    (ks.step xkb e).Balanced ∧ ks.Paired xkb e ↔ ks.strokeSafe xkb e = true := by
  cases e with
  | key e inhibited =>
    cases direction : e.pressed with
    | true =>
      have paired : ks.Paired xkb (.key e inhibited) := by simp [Paired, direction]
      rw [and_iff_left paired, press_balanced_iff inhibited balanced direction, strokeSafe, if_pos direction]
    | false =>
      rw [release_balanced_iff inhibited balanced direction, release_paired_iff inhibited balanced direction,
        strokeSafe, if_neg (by simp [direction]), releaseSafe, and_comm, ← Bool.and_eq_true]
  | actionReturns => exact iff_of_true ⟨actionReturns_balanced balanced, trivial⟩ rfl
  | call call => exact (and_iff_left trivial).trans (call_balanced_iff balanced call)
  | forgetKeyboard kb => exact (and_iff_left trivial).trans (forgetKeyboard_balanced_iff balanced kb)

end Strokes

/-- The runs that handle every key stroke evenly are exactly the safe ones: at
every moment the keys that are down are owned or grabbed exactly if their latest
press was consumed, and their release is consumed exactly then. -/
theorem strokes_paired_iff (xkb : Xkb) (events : List (Strokes.Event α)) :
    Transition.Throughout (Strokes.step xkb) Strokes.Balanced (Strokes.initial : Strokes α) events ∧
        Transition.Along (Strokes.step xkb) (Strokes.Paired xkb) Strokes.initial events ↔
      Transition.Along (Strokes.step xkb) (fun strokes event => strokes.strokeSafe xkb event = true)
        Strokes.initial events := by
  have kept : ∀ (strokes : Strokes α) (event : Strokes.Event α), True → True := fun _ _ fixed => fixed
  have exact_ : ∀ (strokes : Strokes α) event, True → strokes.Balanced →
      ((strokes.step xkb event).Balanced ∧ strokes.Paired xkb event ↔ strokes.strokeSafe xkb event = true) :=
    fun _ event _ balanced => Strokes.step_balanced_iff balanced xkb event
  have start : (Strokes.initial : Strokes α).Balanced := Pairing.balanced_nil
  exact Transition.throughout_along_iff kept exact_ trivial start events

/-- A key that went to the client is down when the next key is asked for; its
release is taken by the grab. -/
theorem grab_takes_foreign_release :
    ¬ Transition.Along (Strokes.step plainXkb) (Strokes.Paired plainXkb) (Strokes.initial : Strokes Unit)
      [.key (plainKey 30 true Keysym.lowerA 0) false, .call .grabNextKey,
        .key (plainKey 30 false Keysym.lowerA 0) false] := by
  intro paired
  have taken := paired.2.2.1 rfl false (by decide)
  revert taken
  decide

end FlakeWM.Input
