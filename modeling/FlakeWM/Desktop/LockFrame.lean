import FlakeWM.Desktop.SessionRun

/-! Windows and layer surfaces under a session lock.

While the session is locked no window and no layer surface takes the focus, and
none of their events moves it away from a lock surface. -/

set_option autoImplicit false

namespace FlakeWM.Desktop
namespace State

def onLock (state : State) : Bool :=
  match state.focus with
  | some (.lock _) => true
  | _ => false

def lockShown (state : State) : Bool := (lockSurfaces state.session).any (·.mapped)

/-- A locked session with a keyboard and a mapped lock surface has the focus on a
mapped lock surface. -/
def LockFocused (state : State) : Prop :=
  state.sessionLocked = true → state.keyboard.isSome = true → state.lockShown = true →
    ∃ surface ∈ lockSurfaces state.session, surface.mapped = true ∧ state.focus = some (.lock surface.id)

/-- What every state keeps: lock surfaces have identifiers handed out before, and
the lock surface with the focus exists and is mapped. -/
structure LockAttached (state : State) : Prop where
  fresh : ∀ surface ∈ lockSurfaces state.session, surface.id < state.session.nextSurface
  shown : ∀ id, state.focus = some (.lock id) →
    (∃ surface ∈ lockSurfaces state.session, surface.id = id) ∧
      ∀ surface ∈ lockSurfaces state.session, surface.id = id → surface.mapped = true

theorem onLock_iff {s : State} : s.onLock = true ↔ ∃ id, s.focus = some (.lock id) := by
  unfold onLock
  split
  · rename_i id focused
    exact iff_of_true rfl ⟨id, focused⟩
  · rename_i id'
    exact iff_of_false (by simp) fun ⟨id, focused⟩ => id' id focused

/-- With the focus on a lock surface the property holds; otherwise the session
must be unlocked, without a keyboard or without a mapped lock surface. -/
theorem lockFocused_iff {s : State} (attached : s.LockAttached) : s.LockFocused ↔
      (!s.sessionLocked || s.keyboard.isNone || !s.lockShown || s.onLock) = true := by
  constructor
  · intro focused
    by_cases served : s.sessionLocked = true ∧ s.keyboard.isSome = true ∧ s.lockShown = true
    · obtain ⟨x, _, _, held⟩ := focused served.1 served.2.1 served.2.2
      simp [onLock_iff.mpr ⟨x.id, held⟩]
    · cases locked : s.sessionLocked <;> cases kb : s.keyboard <;> cases shown : s.lockShown <;>
        simp_all
  · intro served locked kb shown
    have held : s.onLock = true := by
      cases present : s.keyboard <;> simp_all
    obtain ⟨id, focused⟩ := onLock_iff.mp held
    obtain ⟨⟨x, listed, same⟩, mapped⟩ := attached.shown id focused
    exact ⟨x, listed, mapped x listed same, same ▸ focused⟩

/-- The step leaves the lock alone: the same lock surfaces, no new keyboard, and
the focus enters no lock surface and leaves none while the session is locked. -/
structure Spares (before after : State) : Prop where
  surfaces : lockSurfaces after.session = lockSurfaces before.session
  nextSurface : after.session.nextSurface = before.session.nextSurface
  locked : after.sessionLocked = before.sessionLocked
  keyboard : after.keyboard = before.keyboard
  enters : ∀ id, after.focus = some (.lock id) → before.focus = some (.lock id)
  leaves : before.sessionLocked = true → ∀ id, before.focus = some (.lock id) → after.focus = some (.lock id)

section

variable {before after : State}

theorem Spares.refl (s : State) : Spares s s :=
  ⟨rfl, rfl, rfl, rfl, fun _ focused => focused, fun _ _ focused => focused⟩

theorem Spares.trans {middle : State} (left : Spares before middle) (right : Spares middle after) :
    Spares before after where
  surfaces := right.surfaces.trans left.surfaces
  nextSurface := right.nextSurface.trans left.nextSurface
  locked := right.locked.trans left.locked
  keyboard := right.keyboard.trans left.keyboard
  enters := fun id focused => left.enters id (right.enters id focused)
  leaves := fun locked id focused => right.leaves (left.locked.trans locked) id (left.leaves locked id focused)

theorem Spares.idle (ss : after.session = before.session) (kb : after.keyboard = before.keyboard)
    (focus : after.focus = before.focus) : Spares before after where
  surfaces := by rw [ss]
  nextSurface := by rw [ss]
  locked := by rw [sessionLocked, ss]; rfl
  keyboard := kb
  enters := fun _ focused => focus ▸ focused
  leaves := fun _ _ focused => focus ▸ focused

theorem Spares.attached (spares : Spares before after) (attached : before.LockAttached) : after.LockAttached where
  fresh := by
    rw [spares.surfaces, spares.nextSurface]
    exact attached.fresh
  shown := by
    intro id focused
    rw [spares.surfaces]
    exact attached.shown id (spares.enters id focused)

theorem Spares.lockFocused_iff (spares : Spares before after) : after.LockFocused ↔ before.LockFocused := by
  unfold LockFocused lockShown
  rw [spares.surfaces, spares.locked, spares.keyboard]
  constructor
  · intro good locked kb shown
    obtain ⟨x, listed, mapped, focused⟩ := good locked kb shown
    exact ⟨x, listed, mapped, spares.enters x.id focused⟩
  · intro good locked kb shown
    obtain ⟨x, listed, mapped, focused⟩ := good locked kb shown
    exact ⟨x, listed, mapped, spares.leaves locked x.id focused⟩

end

section

variable (s : State)

theorem enter_spares {x : Surface} (unlocked : s.sessionLocked = false)
    (noLock : ∀ id, x ≠ .lock id) : Spares s (s.enter x) where
  surfaces := by rw [enter_session]
  nextSurface := by rw [enter_session]
  locked := by rw [sessionLocked, enter_session]; rfl
  keyboard := (enter_refocused s x).keyboard
  enters := by
    intro id focused
    rw [enter_eq] at focused
    split at focused
    · exact absurd (Option.some.inj focused) (noLock id)
    · exact focused
  leaves := by
    intro locked
    rw [unlocked] at locked
    cases locked

theorem clearFocus_spares (unlocked : s.sessionLocked = false) : Spares s s.clearFocus where
  surfaces := rfl
  nextSurface := rfl
  locked := rfl
  keyboard := rfl
  enters := fun _ focused => nomatch focused
  leaves := by
    intro locked
    rw [unlocked] at locked
    cases locked

theorem focusLayerSurface_spares (id : Nat) : Spares s (s.focusLayerSurface id) := by
  unfold focusLayerSurface
  split
  · exact .refl s
  · rename_i proceeds
    split
    · exact .refl s
    · exact enter_spares s (by simp_all) (by simp)

theorem focusToplevel_spares (id : Nat) : Spares s (s.focusToplevel id) := by
  unfold focusToplevel
  split
  · exact .refl s
  · rename_i accepts
    have unlocked : s.sessionLocked = false := by
      simp only [acceptsFocus] at accepts
      simp_all
    split
    · exact focusLayerSurface_spares s _
    · split
      · exact .refl s
      · have raised : Spares s { s with stack := s.restack id } := Spares.idle rfl rfl rfl
        exact raised.trans (enter_spares _ unlocked (by simp))

theorem focusNextToplevel_spares (ex : Option Nat) : Spares s (s.focusNextToplevel ex) := by
  unfold focusNextToplevel
  split
  · exact .refl s
  · rename_i unlocked
    split
    · exact focusLayerSurface_spares s _
    · split
      · exact focusToplevel_spares s _
      · exact clearFocus_spares s (by simpa using unlocked)

theorem orphan_spares {gone : Surface → Bool} (noLock : ∀ id, gone (.lock id) = false) : Spares s (s.orphan gone) where
  surfaces := rfl
  nextSurface := rfl
  locked := rfl
  keyboard := rfl
  enters := by
    intro id focused
    exact ((orphan_focus_iff s (by simp)).mp focused).1
  leaves := by
    intro _ id focused
    simp [orphan, focused, noLock id]

theorem Moves.spares {s next : State} (moves : Moves s next) : Spares s next := by
  induction moves with
  | refl => exact .refl s
  | windows ws stack _ ih => exact ih.trans (Spares.idle rfl rfl rfl)
  | focusToplevel id _ ih => exact ih.trans (focusToplevel_spares _ id)
  | focusNextToplevel ex _ ih => exact ih.trans (focusNextToplevel_spares _ ex)
  | clear unlocked _ _ ih => exact ih.trans (clearFocus_spares _ unlocked)
  | orphan id _ ih => exact ih.trans (orphan_spares _ fun _ => rfl)

theorem Layered.spares {s next : State} (layered : Layered s next) : Spares s next := by
  induction layered with
  | refl => exact .refl s
  | layers _ _ ih => exact ih.trans (Spares.idle rfl rfl rfl)
  | focusLayerSurface id _ ih => exact ih.trans (focusLayerSurface_spares _ id)
  | focusNextToplevel _ ih => exact ih.trans (focusNextToplevel_spares _ none)
  | orphan id _ ih => exact ih.trans (orphan_spares _ (by simp))

end

end State
end FlakeWM.Desktop
