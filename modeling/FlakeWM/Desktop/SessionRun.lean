import FlakeWM.Desktop.FocusMoves
import FlakeWM.Session.LockSafety

/-! The session lock inside the desktop.

The desktop changes the session lock only by passing events on to it, so what
every run of the lock keeps holds in every state of the desktop. -/

set_option autoImplicit false

namespace FlakeWM.Desktop

/-- What the session lock sees of an event. -/
def Event.session : Event → Option Session.Event
  | .lockRequest blankCreated => some (.lockRequest blankCreated)
  | .unlock lock => some (.unlock lock)
  | .destroyLock lock => some (.destroy lock)
  | .newLockSurface lock output treeCreated => some (.newSurface lock output treeCreated)
  | .mapLockSurface id => some (.surfaceMap id)
  | .destroyLockSurface id => some (.surfaceDestroy id)
  | .newOutput commitSeq => some (.newOutput commitSeq)
  | .outputCommit output enabled => some (.outputCommit output enabled)
  | .outputPresent output commitSeq presented => some (.outputPresent output commitSeq presented)
  | .outputDestroy output => some (.outputDestroy output)
  | _ => none

namespace State

section

variable (s : State) (id : Nat)

omit s id in
theorem Layered.session {s next : State} (layered : Layered s next) : next.session = s.session := by
  induction layered with
  | refl => rfl
  | layers _ _ ih => exact ih
  | focusLayerSurface id _ ih => exact (focusLayerSurface_session _ id).trans ih
  | focusNextToplevel _ ih => exact (focusNextToplevel_session _ none).trans ih
  | orphan _ _ ih => exact ih

theorem destroyOutput_session : (s.destroyOutput id).session = s.session.destroyOutput id := by
  have bare : (s.destroyLayersOf id).session = s.session :=
    destroyLayersOf_induction (fun before after => after.session = before.session) (fun _ => rfl)
      (fun first second => second.trans first) id (fun s layer _ => (layered_destroyLayer s layer).session) s
  simp only [destroyOutput, orphan_session, bare]

end

theorem step_session (s : State) (e : Event) : (step s e).session = match e.session with
      | some e => Session.step s.session e
      | none => s.session := by
  cases e with
  | newLayer | removeKeyboard | beginGrab | endGrab | newLockSurface | destroyLockSurface | newOutput | outputCommit
  | outputPresent => rfl
  | mapLayer | unmapLayer | commitLayer | destroyLayer | focusLayerSurface => exact (step_layered s rfl).session
  | addKeyboard =>
    simp only [step, Event.session, addKeyboard, notifyEnter]
    split
    · split <;> rfl
    · simp
  | useKeyboard =>
    simp only [step, Event.session, useKeyboard]
    split <;> rfl
  | lockRequest =>
    simp only [step, Event.session, beginSessionLock, Session.step]
    split
    · rfl
    · split <;> simp
  | unlock =>
    simp only [step, Event.session, unlock, Session.step]
    split <;> simp
  | destroyLock =>
    simp only [step, Event.session, destroyLock, Session.step]
    split
    · split <;> rfl
    · rfl
  | mapLockSurface =>
    simp only [step, Event.session, mapLockSurface, Session.step]
    split <;> simp
  | outputDestroy o => exact destroyOutput_session s o
  | surfaceGone =>
    simp only [step, Event.session]
    split <;> rfl
  | _ => exact (step_moves s rfl).session

theorem step_sessionSound (s : State) (e : Event) (sound : s.session.Sound) : (step s e).session.Sound := by
  rw [step_session]
  split
  · exact Session.step_sound s.session _ sound
  · exact sound

end State

/-- The session lock under the desktop runs as it does alone, with the events of the
desktop that reach it. -/
theorem run_session (s : State) (events : List Event) : (Transition.run step s events).session =
      Transition.run Session.step s.session (events.filterMap Event.session) := by
  refine Transition.run_part (fun s e => ?_) s events
  rw [State.step_session]
  cases e.session <;> rfl

theorem Event.unlock_of_session {e : Event} {l : Nat} (reaches : e.session = some (.unlock l)) : e = .unlock l := by
  cases e <;> cases reaches
  rfl

/-- In every run of the desktop a locked session is opened only by the client that
holds the lock. -/
theorem opened_by_holder (events : List Event) :
    Transition.Throughout step (fun state => ∀ event, state.sessionLocked = true →
      (step state event).sessionLocked = false →
        ∃ lock, state.session.currentLock = some lock ∧ event = .unlock lock) State.initial events := by
  refine Transition.Throughout.mono ?_
    (Transition.throughout_invariant State.step_sessionSound Session.ProtocolManager.Sound.initial events)
  intro state sound event locked opened
  rw [State.sessionLocked, State.step_session] at opened
  split at opened
  · rename_i reaches
    obtain ⟨lock, current, rfl⟩ := Session.unlocked_by_current sound locked opened
    exact ⟨lock, current, Event.unlock_of_session reaches⟩
  · cases locked.symm.trans opened

end FlakeWM.Desktop
