import FlakeWM.Input.Keyboard
import FlakeWM.Lib.Transition
import Mathlib.Data.List.Nodup

/-! The active keys of the key-binding manager against the keys held down.

A run is made of presses and releases on any keyboards, of calls of the manager,
of keyboards that go, and of whatever happens to the lock and the overlays in
between; an action that opens an overlay is followed by that change. The keys
held down are written down beside the compositor's state. -/

set_option autoImplicit false

namespace FlakeWM.Input

open FlakeWM.View

variable {α : Type}

structure KeyRun (α : Type) where
  keys : KeyState α
  held : List Key

inductive KeyRun.Event (α : Type) where
  | key (event : KeyEvent) (context : KeyContext)
  | call (call : ManagerCall α)
  | forgetKeyboard (keyboard : Nat)
  | setLocked (locked : Bool)
  | setOverlays (overlays : Overlays)
  deriving DecidableEq, Repr

def holdAfter (held : List Key) (event : KeyEvent) : List Key :=
  if event.pressed then (if event.key ∈ held then held else event.key :: held)
  else held.filter fun key => key != event.key

namespace KeyRun

def initial : KeyRun α := ⟨⟨false, .initial, .initial⟩, []⟩

def withManager (run : KeyRun α) (manager : KeyBindingManager α) : KeyRun α :=
  { run with keys := { run.keys with manager := manager } }

def step (xkb : Xkb) (run : KeyRun α) : Event α → KeyRun α
  | .key event context =>
    let result := run.keys.onKey xkb event context
    { keys := { run.keys with
        overlays := result.overlays
        manager := result.handled.manager.record result.handled.records }
      held := holdAfter run.held event }
  | .call call => run.withManager (run.keys.manager.apply call)
  | .forgetKeyboard keyboard =>
    { run.withManager (run.keys.manager.forgetKeyboard keyboard) with
      held := run.held.filter fun key => key.keyboard != keyboard }
  | .setLocked locked => { run with keys := { run.keys with sessionLocked := locked } }
  | .setOverlays overlays => { run with keys := { run.keys with overlays := overlays } }

/-- Every active key is held down, so a fresh press that the manager consumes
without a grab has triggered a binding of its own. -/
structure ActiveHeld (run : KeyRun α) : Prop where
  held : ∀ active ∈ run.keys.manager.activeKeys, active.key ∈ run.held
  fresh : ∀ (xkb : Xkb) (event : KeyEvent) (inhibited : Bool), event.pressed = true → event.key ∉ run.held →
    run.keys.manager.isGrabbingKey = false →
    (run.keys.manager.handleKey xkb event inhibited).consumed = true →
    (run.keys.manager.handleKey xkb event inhibited).records.isSome = true

def releaseSeen (run : KeyRun α) : Event α → Bool
  | .key event _ =>
    event.pressed || !run.keys.manager.isActive event.key ||
      (event.hasState && !run.keys.sessionLocked && !run.keys.overlays.takesKey event)
  | _ => true

end KeyRun

namespace KeyBindingManager

def Distinct (manager : KeyBindingManager α) : Prop := (manager.activeKeys.map ActiveKey.key).Nodup

theorem mem_eraseP_key {keys : List ActiveKey} (distinct : (keys.map ActiveKey.key).Nodup) (key : Key)
    (active : ActiveKey) :
    active ∈ keys.eraseP (fun en => en.key == key) ↔ active ∈ keys ∧ active.key ≠ key := by
  induction keys with
  | nil => simp
  | cons first rest ih =>
    rw [List.map_cons, List.nodup_cons] at distinct
    by_cases same : first.key = key
    · -- The first entry goes; by distinctness no other entry has its key.
      subst same
      have others : ∀ en ∈ rest, en.key ≠ first.key := by
        intro en mem equal
        exact distinct.1 (equal ▸ List.mem_map_of_mem mem)
      rw [List.eraseP_cons_of_pos (by simp)]
      constructor
      · intro mem
        exact ⟨List.mem_cons_of_mem _ mem, others active mem⟩
      · rintro ⟨mem, apart⟩
        rcases List.mem_cons.mp mem with rfl | mem
        · exact absurd rfl apart
        · exact mem
    · rw [List.eraseP_cons_of_neg (by simpa using same), List.mem_cons, List.mem_cons, ih distinct.2]
      constructor
      · rintro (rfl | ⟨mem, apart⟩)
        · exact ⟨.inl rfl, same⟩
        · exact ⟨.inr mem, apart⟩
      · rintro ⟨rfl | mem, apart⟩
        · exact .inl rfl
        · exact .inr ⟨mem, apart⟩

section
variable {xkb : Xkb} {m : KeyBindingManager α} {e : KeyEvent} {inhibited : Bool} {handled : Handled α}

theorem not_isActive (inactive : m.isActive e.key = false) : ∀ active ∈ m.activeKeys, active.key ≠ e.key := by
  intro active mem same
  rw [isActive_iff.mpr ⟨active, mem, same⟩] at inactive
  cases inactive

section

variable (outcome : Outcome xkb m e inhibited handled)

include outcome

/-- A complete call keeps the active keys distinct: a key is recorded only when
it was not active. -/
theorem Outcome.distinct (distinct : m.Distinct) : (handled.manager.record handled.records).Distinct := by
  cases outcome with
  | released =>
    rw [answer, record_none]
    exact distinct.sublist ((List.eraseP_sublist).map ActiveKey.key)
  | triggered stated down free inactive =>
    unfold Distinct record
    simp only [Option.toList_some, List.map_append, List.map_cons, List.map_nil]
    refine List.nodup_append.mpr ⟨distinct, List.nodup_singleton _, ?_⟩
    intro key mem other last
    obtain ⟨active, isMember, rfl⟩ := List.mem_map.mp mem
    rw [List.mem_singleton.mp last]
    exact not_isActive inactive active isMember
  | stateless | passed | repeated => exact (record_none m).symm ▸ distinct
  | captured =>
    rw [record_none]
    exact distinct

theorem Outcome.pressed_held (down : e.pressed = true) {held : List Key}
    (before : ∀ active ∈ m.activeKeys, active.key ∈ held) (key : e.key ∈ held) :
    ∀ active ∈ (handled.manager.record handled.records).activeKeys, active.key ∈ held := by
  unfold record
  cases outcome with
  | released stated up =>
    rw [down] at up
    cases up
  | triggered =>
    intro active mem
    rcases List.mem_append.mp mem with old | new
    · exact before active old
    · rw [List.mem_singleton.mp new]
      exact key
  | _ => simpa [answer] using before

theorem Outcome.released_mem (up : e.pressed = false) (stated : e.hasState = true) (distinct : m.Distinct)
    (active : ActiveKey) :
    active ∈ (handled.manager.record handled.records).activeKeys ↔ active ∈ m.activeKeys ∧ active.key ≠ e.key := by
  unfold record
  have unlisted (inactive : m.isActive e.key = false) :
      active ∈ m.activeKeys ↔ active ∈ m.activeKeys ∧ active.key ≠ e.key :=
    ⟨fun mem => ⟨mem, not_isActive inactive active mem⟩, And.left⟩
  cases outcome with
  | stateless missing => simp [missing] at stated
  | released => simpa [answer, eraseActive] using mem_eraseP_key distinct e.key active
  | captured _ grabbing grab callback inactive => simpa using unlisted (inactive up)
  | repeated _ down => simp [up] at down
  | passed _ free inactive => simpa [answer] using unlisted inactive
  | triggered _ down => simp [up] at down

theorem Outcome.continues (down : e.pressed = true) (free : m.isGrabbingKey = false)
    (consumed : handled.consumed = true) (unrecorded : handled.records.isSome = false) :
    m.isActive e.key = true := by
  cases outcome with
  | released _ up => simp [down] at up
  | captured _ grabbing => simp [free] at grabbing
  | repeated _ _ _ active => exact active
  | stateless | passed => cases consumed
  | triggered => cases unrecorded

end

end

end KeyBindingManager

namespace KeyRun

open KeyBindingManager

/-- The first half of `ActiveHeld` is the whole of it. -/
theorem activeHeld_iff (run : KeyRun α) :
    run.ActiveHeld ↔ ∀ active ∈ run.keys.manager.activeKeys, active.key ∈ run.held := by
  refine ⟨ActiveHeld.held, fun held => ⟨held, ?_⟩⟩
  intro xkb e inhibited down unheld free consumed
  have outcome := handleKey_outcome xkb run.keys.manager e inhibited
  by_contra unrecorded
  have active := outcome.continues down free consumed (Bool.eq_false_iff.mpr unrecorded)
  obtain ⟨en, mem, same⟩ := isActive_iff.mp active
  exact unheld (same ▸ held en mem)

theorem mem_holdAfter_pressed {held : List Key} {e : KeyEvent} (down : e.pressed = true) :
    e.key ∈ holdAfter held e ∧ ∀ key ∈ held, key ∈ holdAfter held e := by
  unfold holdAfter
  rw [if_pos down]
  split
  · rename_i already
    exact ⟨already, fun _ mem => mem⟩
  · exact ⟨List.mem_cons_self, fun _ mem => List.mem_cons_of_mem _ mem⟩

theorem mem_holdAfter_released {held : List Key} {e : KeyEvent} (up : e.pressed = false) (key : Key) :
    key ∈ holdAfter held e ↔ key ∈ held ∧ key ≠ e.key := by
  simp [holdAfter, up]

variable {run : KeyRun α}

section

variable (distinct : run.keys.manager.Distinct)

include distinct

theorem key_distinct (xkb : Xkb) (e : KeyEvent) (context : KeyContext) :
    (run.step xkb (.key e context)).keys.manager.Distinct := by
  have handled := run.keys.onKey_handled xkb e context
  unfold step
  dsimp only
  rw [handled]
  split
  · simpa [record, answer, Distinct] using distinct
  · exact (handleKey_outcome xkb run.keys.manager e _).distinct distinct

theorem step_distinct (xkb : Xkb) (e : Event α) : (run.step xkb e).keys.manager.Distinct := by
  cases e with
  | key e context => exact key_distinct distinct xkb e context
  | call =>
    unfold Distinct step withManager
    rw [apply_activeKeys]
    exact distinct
  | forgetKeyboard => exact distinct.sublist (List.filter_sublist.map _)
  | setLocked | setOverlays => exact distinct

/-- From a good state, a key event leads to a good state exactly when it is not
the release of an active key that the manager misses. -/
theorem key_activeHeld_iff (good : run.ActiveHeld) (xkb : Xkb) (e : KeyEvent) (context : KeyContext) :
    (run.step xkb (.key e context)).ActiveHeld ↔ run.releaseSeen (.key e context) = true := by
  have handled := run.keys.onKey_handled xkb e context
  rw [activeHeld_iff]
  unfold step
  dsimp only
  rw [handled]
  have outcome := handleKey_outcome xkb run.keys.manager e context.shortcutsInhibited
  cases direction : e.pressed with
  | true =>
    have holds := @mem_holdAfter_pressed run.held e direction
    have before : ∀ active ∈ run.keys.manager.activeKeys, active.key ∈ holdAfter run.held e :=
      fun active mem => holds.2 active.key (good.held active mem)
    refine iff_of_true ?_ (by simp [releaseSeen, direction])
    split
    · simpa [answer] using before
    · exact outcome.pressed_held direction before holds.1
  | false =>
    simp only [mem_holdAfter_released direction]
    cases seen : e.hasState && !run.keys.sessionLocked && !run.keys.overlays.takesKey e with
    | true =>
      simp only [Bool.and_eq_true, Bool.not_eq_true'] at seen
      obtain ⟨⟨stated, unlocked⟩, untaken⟩ := seen
      refine iff_of_true ?_ (by simp [releaseSeen, stated, unlocked, untaken])
      simp only [unlocked, untaken, Bool.or_self, Bool.false_eq_true, if_false]
      intro active mem
      obtain ⟨listed, apart⟩ := (outcome.released_mem direction stated distinct active).mp mem
      exact ⟨good.held active listed, apart⟩
    | false =>
      -- The manager does not see the release or answers it at once.
      have kept : (if run.keys.sessionLocked || run.keys.overlays.takesKey e then
          run.keys.manager.answer false
          else run.keys.manager.handleKey xkb e context.shortcutsInhibited) =
          run.keys.manager.answer false := by
        split
        · rfl
        · rename_i reaches
          simp only [Bool.or_eq_true, not_or, Bool.not_eq_true] at reaches
          have missing : e.hasState = false := by simpa [reaches.1, reaches.2] using seen
          simp [handleKey, missing]
      rw [kept]
      simp only [answer, record_none, releaseSeen, direction, seen, Bool.false_or, Bool.or_false, Bool.not_eq_true']
      constructor
      · intro held
        by_contra active
        obtain ⟨en, mem, same⟩ := isActive_iff.mp (Bool.not_eq_false _ ▸ active)
        exact (held en mem).2 same
      · intro inactive active mem
        exact ⟨good.held active mem, not_isActive inactive active mem⟩

theorem step_activeHeld_iff (good : run.ActiveHeld) (xkb : Xkb) (e : Event α) :
    (run.step xkb e).ActiveHeld ↔ run.releaseSeen e = true := by
  cases e with
  | key e context => exact key_activeHeld_iff distinct good xkb e context
  | call =>
    refine iff_of_true ((activeHeld_iff _).mpr ?_) rfl
    unfold step withManager
    rw [apply_activeKeys]
    exact good.held
  | forgetKeyboard =>
    refine iff_of_true ((activeHeld_iff _).mpr ?_) rfl
    intro active mem
    obtain ⟨listed, elsewhere⟩ := List.mem_filter.mp mem
    exact List.mem_filter.mpr ⟨good.held active listed, elsewhere⟩
  | setLocked | setOverlays => exact iff_of_true ((activeHeld_iff _).mpr good.held) rfl

end

end KeyRun

/-- The runs in which every active key is held down are exactly those in which
the release of an active key always reaches the manager: never while the session
is locked or an overlay takes the key. -/
theorem active_keys_held_iff (xkb : Xkb) (events : List (KeyRun.Event α)) :
    Transition.Throughout (KeyRun.step xkb) KeyRun.ActiveHeld (KeyRun.initial : KeyRun α) events ↔
      Transition.Along (KeyRun.step xkb) (fun run event => run.releaseSeen event = true) KeyRun.initial events := by
  have kept : ∀ (run : KeyRun α) event, run.keys.manager.Distinct → (run.step xkb event).keys.manager.Distinct :=
    fun _ event distinct => KeyRun.step_distinct distinct xkb event
  have exact_ : ∀ (run : KeyRun α) event, run.keys.manager.Distinct → run.ActiveHeld →
      ((run.step xkb event).ActiveHeld ↔ run.releaseSeen event = true) :=
    fun _ event distinct good => KeyRun.step_activeHeld_iff distinct good xkb event
  have start : (KeyRun.initial : KeyRun α).keys.manager.Distinct := List.nodup_nil
  have none : (KeyRun.initial : KeyRun α).ActiveHeld :=
    (KeyRun.activeHeld_iff _).mpr (fun _ member => nomatch member)
  exact Transition.throughout_iff_along kept exact_ start none events

/-- Super+S opens the multitasking view; Super is let go first, so the view takes
the release of S and the key stays active. -/
theorem overview_keeps_key_active :
    ¬ (Transition.run (KeyRun.step plainXkb) KeyRun.initial
      [.call (.register (some ⟨.logo, Keysym.lowerS, true⟩) .custom (some ())),
        .key (plainKey 31 true Keysym.lowerS .logo) plainContext,
        .setOverlays overviewOpen,
        .key (plainKey 31 false Keysym.lowerS 0) plainContext]).ActiveHeld := by
  intro good
  have held := good.held ⟨⟨0, 31⟩, 1⟩ (by decide)
  revert held
  decide

end FlakeWM.Input
