import FlakeWM.Session.Lock

/-! Who may unlock the session.

The compositor listens to at most one lock object, the one whose
`SessionLockState` is alive. Every other lock object was rejected, has died or
has been replaced, and its signals no longer reach the compositor. -/

set_option autoImplicit false

namespace FlakeWM.Session

open Transition (run)

namespace ProtocolManager

def control (manager : ProtocolManager) : Option (Option Nat × Option Nat × Bool) :=
  manager.sessionLock.map fun lock => (lock.handle, lock.listening, lock.unlocked)

structure SameHolder (manager next : ProtocolManager) : Prop where
  control : next.control = manager.control
  locked : next.sessionLocked = manager.sessionLocked
  blank : next.sessionLockBlank = manager.sessionLockBlank
  nextLock : next.nextLock = manager.nextLock

theorem SameHolder.trans {first second third : ProtocolManager} (left : SameHolder first second)
    (right : SameHolder second third) : SameHolder first third where
  control := right.control.trans left.control
  locked := right.locked.trans left.locked
  blank := right.blank.trans left.blank
  nextLock := right.nextLock.trans left.nextLock

section

variable (m : ProtocolManager)

theorem maybeSendLocked_cases : m.maybeSendLocked = m ∨
      ∃ l h, m.sessionLock = some l ∧ l.handle = some h ∧ l.lockedSent = false ∧
        (∀ item ∈ l.outputs, item.presented = true) ∧
        m.maybeSendLocked = { m with
          sessionLock := some { l with lockedSent := true }
          lockedEvents := h :: m.lockedEvents } := by
  unfold maybeSendLocked
  split
  · exact .inl rfl
  · rename_i l held
    split
    · exact .inl rfl
    · rename_i h named
      split
      · exact .inl rfl
      · rename_i ready
        simp only [Bool.or_eq_true, Bool.not_eq_true', not_or, Bool.not_eq_true, Bool.not_eq_false,
          List.all_eq_true] at ready
        exact .inr ⟨l, h, held, named, ready.1, ready.2, rfl⟩

theorem maybeSendLocked_holder : SameHolder m m.maybeSendLocked := by
  rcases m.maybeSendLocked_cases with same | ⟨l, h, held, _, _, _, sent⟩
  · rw [same]; exact ⟨rfl, rfl, rfl, rfl⟩
  · rw [sent]; exact ⟨by simp [control, held], rfl, rfl, rfl⟩

theorem SameHolder.send {m next : ProtocolManager} (same : SameHolder m next) : SameHolder m next.maybeSendLocked :=
  same.trans next.maybeSendLocked_holder

theorem finishSessionLock_spec (unlocked : Bool) : m.finishSessionLock unlocked =
      { m with sessionLock := none, sessionLocked := m.sessionLocked || !unlocked } := by
  cases unlocked <;> simp [finishSessionLock]

theorem unlockSession_spec : m.unlockSession = { m with sessionLocked := false } := by
  cases m with
  | mk sessionLock sessionLocked => cases sessionLocked <;> rfl

theorem onDestroy_cases (h : Nat) : m.onDestroy h = m ∨ ∃ l, m.sessionLock = some l ∧ l.listening = some h ∧
        m.onDestroy h = { m with sessionLock := none, sessionLocked := m.sessionLocked || !l.unlocked } := by
  unfold onDestroy
  split
  · exact .inl rfl
  · rename_i l held
    split
    · rename_i connected
      exact .inr ⟨l, held, connected, finishSessionLock_spec m l.unlocked⟩
    · exact .inl rfl

theorem onUnlock_cases (h : Nat) : m.onUnlock h = m ∨ ∃ l, m.sessionLock = some l ∧ l.listening = some h ∧
        m.onUnlock h = { m with sessionLock := some { l with unlocked := true }, sessionLocked := false } := by
  unfold onUnlock
  split
  · exact .inl rfl
  · rename_i l held
    split
    · rename_i connected
      exact .inr ⟨l, held, connected, unlockSession_spec _⟩
    · exact .inl rfl

theorem onNewSurface_cases (h o : Nat) (tc : Bool) : m.onNewSurface h o tc = m ∨
      ∃ l surfaces, m.sessionLock = some l ∧ l.listening = some h ∧ m.onNewSurface h o tc = { m with
            nextSurface := m.nextSurface + 1
            sessionLock := some { l with surfaces := surfaces } } := by
  unfold onNewSurface
  split
  · exact .inl rfl
  · rename_i l held
    split
    · rename_i connected
      exact .inr ⟨l, _, held, connected, rfl⟩
    · exact .inl rfl

theorem addOutput_control (os : List Output) (l : SessionLockState) (id : Nat) :
    ((l.addOutput os id).handle, (l.addOutput os id).listening,
      (l.addOutput os id).unlocked) = (l.handle, l.listening, l.unlocked) := by
  unfold SessionLockState.addOutput
  split
  · rfl
  · split <;> rfl

theorem addOutputs_control (os : List Output) (ids : List Nat) (l : SessionLockState) :
    let tracked := ids.foldl (SessionLockState.addOutput os) l
    (tracked.handle, tracked.listening, tracked.unlocked) = (l.handle, l.listening, l.unlocked) := by
  induction ids generalizing l with
  | nil => rfl
  | cons id rest ih => exact (ih (l.addOutput os id)).trans (addOutput_control os l id)

theorem startSessionLock_holder (h : Nat) : (m.startSessionLock h).control = some (some h, some h, false) ∧
      (m.startSessionLock h).sessionLocked = m.sessionLocked ∧
      (m.startSessionLock h).sessionLockBlank = m.sessionLockBlank ∧
      (m.startSessionLock h).nextLock = m.nextLock := by
  have sent := maybeSendLocked_holder { m with sessionLock := some (.create m.outputs h) }
  refine ⟨sent.control.trans ?_, sent.locked, sent.blank, sent.nextLock⟩
  exact congrArg some (addOutputs_control m.outputs _ _)

theorem onNewSurface_holder (h o : Nat) (tc : Bool) : SameHolder m (m.onNewSurface h o tc) := by
  rcases m.onNewSurface_cases h o tc with same | ⟨l, surfaces, held, _, added⟩
  · rw [same]; exact ⟨rfl, rfl, rfl, rfl⟩
  · rw [added]; exact ⟨by simp [control, held], rfl, rfl, rfl⟩

theorem onSurfaceMap_holder (id : Nat) : SameHolder m (m.onSurfaceMap id) :=
  ⟨by simp [control, onSurfaceMap, Function.comp_def], rfl, rfl, rfl⟩

theorem onSurfaceDestroy_holder (id : Nat) : SameHolder m (m.onSurfaceDestroy id) :=
  ⟨by simp [control, onSurfaceDestroy, Function.comp_def], rfl, rfl, rfl⟩

theorem addOutput_holder (seq : Nat) : SameHolder m (m.addOutput seq) := by
  refine ⟨?_, rfl, rfl, rfl⟩
  simp only [control, addOutput, Option.map_map]
  congr 1
  funext l
  exact addOutput_control _ l _

theorem presentOutput_holder (id seq : Nat) (presented : Bool) : SameHolder m (m.presentOutput id seq presented) := by
  unfold presentOutput
  split
  · exact ⟨rfl, rfl, rfl, rfl⟩
  · rename_i l held
    split
    · exact .send ⟨by simp [control, held], rfl, rfl, rfl⟩
    · exact ⟨rfl, rfl, rfl, rfl⟩

theorem destroyOutput_holder (id : Nat) : SameHolder m (m.destroyOutput id) := by
  unfold destroyOutput
  dsimp only
  split
  · exact ⟨rfl, rfl, rfl, rfl⟩
  · rename_i l held
    split
    · exact .send ⟨by simp [control, held], rfl, rfl, rfl⟩
    · exact ⟨by simp [control, held], rfl, rfl, rfl⟩

end

/-- What every reachable state keeps: the live lock listens to the object it
holds, an object handed out before, and a locked session has its blank. -/
structure Sound (manager : ProtocolManager) : Prop where
  holder : ∀ handle listening unlocked, manager.control = some (handle, listening, unlocked) →
    ∃ id, handle = some id ∧ listening = some id ∧ id < manager.nextLock
  blank : manager.sessionLocked = true ∨ manager.control ≠ none → manager.sessionLockBlank = true

theorem Sound.initial : Sound initial where
  holder := by
    intro h listening unlocked held
    cases held
  blank := by
    intro locked
    simp [ProtocolManager.initial, control] at locked

section

variable {m : ProtocolManager}

theorem Sound.of_sameHolder {next : ProtocolManager} (sound : Sound m) (same : SameHolder m next) : Sound next where
  holder := by
    intro h listening unlocked held
    rw [same.nextLock]
    exact sound.holder h listening unlocked (same.control ▸ held)
  blank := by
    rw [same.blank, same.locked, same.control]
    exact sound.blank

section

variable (sound : Sound m)

include sound

theorem Sound.live {l : SessionLockState} (held : m.sessionLock = some l) :
    ∃ id, l.handle = some id ∧ l.listening = some id ∧ id < m.nextLock ∧ m.currentLock = some id := by
  obtain ⟨id, h, listening, old⟩ :=
    sound.holder l.handle l.listening l.unlocked (by simp [control, held])
  exact ⟨id, h, listening, old, by simp [currentLock, held, h]⟩

theorem Sound.current_old {h : Nat} (current : m.currentLock = some h) : h < m.nextLock := by
  obtain ⟨l, held, named⟩ := Option.bind_eq_some_iff.mp current
  obtain ⟨id, same, _, old, _⟩ := sound.live held
  rw [named] at same
  have := Option.some.inj same
  omega

theorem Sound.not_listening {l : SessionLockState} (held : m.sessionLock = some l) {h : Nat}
    (apart : m.currentLock ≠ some h) :
    l.listening ≠ some h := by
  obtain ⟨id, _, listening, _, current⟩ := sound.live held
  intro same
  exact apart (current.trans (listening.symm.trans same))

section

variable {h : Nat} (apart : m.currentLock ≠ some h)

include apart

theorem Sound.onDestroy_other : m.onDestroy h = m := by
  rcases m.onDestroy_cases h with same | ⟨l, held, connected, _⟩
  · exact same
  · exact absurd connected (sound.not_listening held apart)

theorem Sound.onUnlock_other : m.onUnlock h = m := by
  rcases m.onUnlock_cases h with same | ⟨l, held, connected, _⟩
  · exact same
  · exact absurd connected (sound.not_listening held apart)

theorem Sound.onNewSurface_other (o : Nat) (tc : Bool) : m.onNewSurface h o tc = m := by
  rcases m.onNewSurface_cases h o tc with same | ⟨l, _, held, connected, _⟩
  · exact same
  · exact absurd connected (sound.not_listening held apart)

end

end

theorem Sound.handOut (sound : Sound m) : Sound { m with nextLock := m.nextLock + 1 } where
  holder := by
    intro h listening unlocked held
    obtain ⟨id, named, connected, old⟩ := sound.holder h listening unlocked held
    exact ⟨id, named, connected, Nat.lt_succ_of_lt old⟩
  blank := sound.blank

theorem Sound.beginSessionLock_held (sound : Sound m) {l : SessionLockState}
    (held : m.sessionLock = some l) (bc : Bool) :
    m.beginSessionLock bc = { m with nextLock := m.nextLock + 1 } := by
  obtain ⟨id, _, _, old, current⟩ := sound.live held
  unfold ProtocolManager.beginSessionLock
  simp only [held]
  rw [← held]
  apply sound.handOut.onDestroy_other
  intro same
  have reused : some id = some m.nextLock := current.symm.trans same
  simp only [Option.some.injEq] at reused
  omega

/-- With no live lock, a request either finds no blank and leaves the session as
a never locked one, or locks it under the new object. -/
theorem beginSessionLock_free (free : m.sessionLock = none) (bc : Bool) : (m.sessionLockBlank = false ∧ bc = false ∧
      m.beginSessionLock bc = { m with nextLock := m.nextLock + 1, sessionLocked := false }) ∨
    ((m.sessionLockBlank = true ∨ bc = true) ∧ m.beginSessionLock bc = { m with
          nextLock := m.nextLock + 1, sessionLocked := true
          sessionLockBlank := true }.startSessionLock m.nextLock) := by
  simp only [beginSessionLock, free]
  by_cases missing : m.sessionLockBlank = false ∧ bc = false
  · refine .inl ⟨missing.1, missing.2, ?_⟩
    simp [missing.1, missing.2, onDestroy]
  · refine .inr ⟨?_, ?_⟩
    · cases blank : m.sessionLockBlank <;> simp_all
    · rw [if_neg]
      simpa using missing

theorem Sound.beginSessionLock (sound : Sound m) (bc : Bool) : Sound (m.beginSessionLock bc) := by
  cases held : m.sessionLock with
  | some =>
    rw [sound.beginSessionLock_held held]
    exact sound.handOut
  | none =>
    rcases beginSessionLock_free held bc with ⟨_, _, refused⟩ | ⟨_, started⟩
    · rw [refused]
      refine ⟨?_, ?_⟩
      · intro h listening unlocked live
        simp [control, held] at live
      · intro locked
        simp [control, held] at locked
    · rw [started]
      obtain ⟨live, _, blank, next⟩ := startSessionLock_holder
        { m with nextLock := m.nextLock + 1, sessionLocked := true, sessionLockBlank := true }
        m.nextLock
      refine ⟨?_, fun _ => blank⟩
      intro h listening unlocked named
      rw [live] at named
      cases named
      exact ⟨m.nextLock, rfl, rfl, by rw [next]; exact Nat.lt_succ_self _⟩

theorem Sound.onDestroy (sound : Sound m) (h : Nat) : Sound (m.onDestroy h) := by
  rcases m.onDestroy_cases h with same | ⟨l, held, _, ended⟩
  · rw [same]
    exact sound
  · rw [ended]
    refine ⟨?_, fun _ => sound.blank (.inr (by simp [control, held]))⟩
    intro h listening unlocked live
    simp [control] at live

theorem Sound.onUnlock (sound : Sound m) (h : Nat) : Sound (m.onUnlock h) := by
  rcases m.onUnlock_cases h with same | ⟨l, held, _, opened⟩
  · rw [same]
    exact sound
  · rw [opened]
    refine ⟨?_, fun _ => sound.blank (.inr (by simp [control, held]))⟩
    intro named listening unlocked live
    simp only [control, Option.map_some, Option.some.injEq, Prod.mk.injEq] at live
    obtain ⟨rfl, rfl, -⟩ := live
    obtain ⟨id, named, listening, old, _⟩ := sound.live held
    exact ⟨id, named, listening, old⟩

end

end ProtocolManager

open ProtocolManager

theorem step_holder (m : ProtocolManager) (e : Event) : (∃ bc, e = .lockRequest bc) ∨ (∃ l, e = .unlock l) ∨
      (∃ l, e = .destroy l) ∨ SameHolder m (step m e) := by
  cases e with
  | lockRequest bc => exact .inl ⟨bc, rfl⟩
  | unlock l => exact .inr (.inl ⟨l, rfl⟩)
  | destroy l => exact .inr (.inr (.inl ⟨l, rfl⟩))
  | newSurface l o tc =>
    exact .inr (.inr (.inr (onNewSurface_holder m l o tc)))
  | surfaceMap x => exact .inr (.inr (.inr (onSurfaceMap_holder m x)))
  | surfaceDestroy x => exact .inr (.inr (.inr (onSurfaceDestroy_holder m x)))
  | newOutput seq => exact .inr (.inr (.inr (addOutput_holder m seq)))
  | outputCommit => exact .inr (.inr (.inr ⟨rfl, rfl, rfl, rfl⟩))
  | outputPresent o seq presented =>
    exact .inr (.inr (.inr (presentOutput_holder m o seq presented)))
  | outputDestroy o => exact .inr (.inr (.inr (destroyOutput_holder m o)))

theorem step_sound (m : ProtocolManager) (e : Event) (sound : Sound m) : Sound (step m e) := by
  rcases step_holder m e with ⟨bc, rfl⟩ | ⟨l, rfl⟩ | ⟨l, rfl⟩ | same
  · exact sound.beginSessionLock bc
  · exact sound.onUnlock l
  · exact sound.onDestroy l
  · exact sound.of_sameHolder same

theorem run_sound (events : List Event) : Sound (run step initial events) :=
  Transition.run_invariant step_sound Sound.initial events

theorem destroy_stays_locked (m : ProtocolManager) (l : Nat) (locked : m.sessionLocked = true) :
    (step m (.destroy l)).sessionLocked = true := by
  rcases m.onDestroy_cases l with same | ⟨_, _, _, ended⟩
  · simp only [step, same, locked]
  · simp only [step, ended, locked, Bool.true_or]

theorem unlocked_by_current {m : ProtocolManager} (sound : Sound m) {e : Event}
    (locked : m.sessionLocked = true) (opened : (step m e).sessionLocked = false) :
    ∃ l, m.currentLock = some l ∧ e = .unlock l := by
  rcases step_holder m e with ⟨bc, rfl⟩ | ⟨l, rfl⟩ | ⟨l, rfl⟩ | same
  · exfalso
    simp only [step] at opened
    cases held : m.sessionLock with
    | some =>
      rw [sound.beginSessionLock_held held] at opened
      simp [locked] at opened
    | none =>
      -- a session that is locked with no live lock lost its locker, and kept its blank
      have blank := sound.blank (.inl locked)
      rcases beginSessionLock_free held bc with ⟨missing, _⟩ | ⟨_, started⟩
      · simp [blank] at missing
      · rw [started, (startSessionLock_holder _ _).2.1] at opened
        cases opened
  · by_cases current : m.currentLock = some l
    · exact ⟨l, current, rfl⟩
    · exfalso
      simp only [step, sound.onUnlock_other current, locked] at opened
      cases opened
  · rw [destroy_stays_locked m l locked] at opened
    cases opened
  · rw [same.locked, locked] at opened
    cases opened

/-- In every reachable state: a locked session is unlocked only by an unlock event
of the lock object that holds it; no destroy event unlocks it; the events of any
other lock object change nothing; and while a lock is alive a further request
only uses up a lock object. -/
theorem session_lock_exclusive (events : List Event) :
    let state := run step initial events
    (∀ event, state.sessionLocked = true → (step state event).sessionLocked = false →
      ∃ lock, state.currentLock = some lock ∧ event = .unlock lock) ∧
    (∀ lock, state.sessionLocked = true → (step state (.destroy lock)).sessionLocked = true) ∧
    (∀ lock, state.currentLock ≠ some lock → step state (.unlock lock) = state ∧
      step state (.destroy lock) = state ∧
      ∀ output treeCreated, step state (.newSurface lock output treeCreated) = state) ∧
    (∀ blankCreated, state.sessionLock ≠ none →
      step state (.lockRequest blankCreated) = { state with nextLock := state.nextLock + 1 }) := by
  intro state
  have sound : Sound state := run_sound events
  refine ⟨?_, ?_, ?_, ?_⟩
  · intro event locked opened
    exact unlocked_by_current sound locked opened
  · intro lock locked
    exact destroy_stays_locked state lock locked
  · intro lock other
    refine ⟨sound.onUnlock_other other, sound.onDestroy_other other, ?_⟩
    intro output treeCreated
    exact sound.onNewSurface_other other output treeCreated
  · intro blankCreated live
    obtain ⟨lock, held⟩ := Option.ne_none_iff_exists'.mp live
    exact sound.beginSessionLock_held held blankCreated

end FlakeWM.Session
