import FlakeWM.Desktop.Seat

/-! What the focus functions may do.

None of them changes anything but the focus and the stacking order, and each
leaves the focus where it was unless it hands it to a surface that may have it. -/

set_option autoImplicit false

namespace FlakeWM.Desktop
namespace State

def Refocused (state next : State) : Prop :=
  next = { state with focus := next.focus, stack := next.stack }

section

variable {s next : State}

section

variable (same : Refocused s next)

include same

theorem Refocused.windows : next.windows = s.windows := by
  rw [same]

theorem Refocused.layers : next.layers = s.layers := by
  rw [same]

theorem Refocused.keyboards : next.keyboards = s.keyboards := by
  rw [same]

theorem Refocused.keyboard : next.keyboard = s.keyboard := by
  rw [same]

theorem Refocused.keyboardGrab : next.keyboardGrab = s.keyboardGrab := by
  rw [same]

theorem Refocused.session : next.session = s.session := by
  rw [same]

end

end

section

variable (s : State) (x : Surface)

/-- Entering a surface succeeds exactly when the seat has a keyboard that no
client has grabbed. -/
theorem enter_eq : s.enter x = if s.keyboard.isSome = true ∧ s.keyboardGrab = false then { s with focus := some x }
      else s := by
  unfold enter notifyEnter
  cases s.keyboard <;> cases s.keyboardGrab <;> simp

theorem enter_refocused : Refocused s (s.enter x) := by
  rw [enter_eq]
  split <;> rfl

theorem notifyEnter_focus {s : State} {x : Surface} (focused : s.focus = some x) :
    (s.notifyEnter x).focus = s.focus := by
  unfold notifyEnter
  split
  · rfl
  · exact focused.symm

theorem focusLayerSurface_refocused (id : Nat) : Refocused s (s.focusLayerSurface id) := by
  unfold focusLayerSurface
  split
  · rfl
  · split
    · rfl
    · exact enter_refocused s (.layer id)

theorem focusToplevel_refocused (id : Nat) : Refocused s (s.focusToplevel id) := by
  unfold focusToplevel
  split
  · rfl
  · split
    · exact focusLayerSurface_refocused s _
    · split
      · rfl
      · rw [enter_eq]
        split <;> rfl

theorem focusNextToplevel_refocused (ex : Option Nat) : Refocused s (s.focusNextToplevel ex) := by
  unfold focusNextToplevel
  split
  · rfl
  · split
    · exact focusLayerSurface_refocused s _
    · split
      · exact focusToplevel_refocused s _
      · rfl

@[simp] theorem enter_windows : (s.enter x).windows = s.windows :=
  (enter_refocused s x).windows

@[simp] theorem focusLayerSurface_windows (id : Nat) : (s.focusLayerSurface id).windows = s.windows :=
  (focusLayerSurface_refocused s id).windows

@[simp] theorem focusToplevel_windows (id : Nat) : (s.focusToplevel id).windows = s.windows :=
  (focusToplevel_refocused s id).windows

@[simp] theorem focusNextToplevel_windows (ex : Option Nat) : (s.focusNextToplevel ex).windows = s.windows :=
  (focusNextToplevel_refocused s ex).windows

@[simp] theorem enter_session : (s.enter x).session = s.session :=
  (enter_refocused s x).session

@[simp] theorem focusLayerSurface_session (id : Nat) : (s.focusLayerSurface id).session = s.session :=
  (focusLayerSurface_refocused s id).session

@[simp] theorem focusNextToplevel_session (ex : Option Nat) : (s.focusNextToplevel ex).session = s.session :=
  (focusNextToplevel_refocused s ex).session

@[simp] theorem orphan_session (gone : Surface → Bool) : (s.orphan gone).session = s.session := rfl

@[simp] theorem orphan_windows (gone : Surface → Bool) : (s.orphan gone).windows = s.windows := rfl

/-- A named surface has the focus after the loss exactly if it had it and is not gone. -/
theorem orphan_focus_iff {gone : Surface → Bool} {x : Surface} (named : x ≠ .other) :
    (s.orphan gone).focus = some x ↔ s.focus = some x ∧ gone x = false := by
  simp only [orphan, Option.map_eq_some_iff]
  constructor
  · rintro ⟨before, held, kept⟩
    split at kept
    · exact absurd kept.symm named
    · rename_i present
      subst kept
      exact ⟨held, by simpa using present⟩
  · rintro ⟨held, present⟩
    exact ⟨x, held, by simp [present]⟩

@[simp] theorem clearFocus_windows : s.clearFocus.windows = s.windows := rfl

theorem enter_stack : (s.enter x).stack = s.stack := by
  rw [enter_eq]
  split <;> rfl

theorem focusLayerSurface_stack (id : Nat) : (s.focusLayerSurface id).stack = s.stack := by
  unfold focusLayerSurface
  split
  · rfl
  · split
    · rfl
    · exact enter_stack s _

end

section

variable (s : State) (id : Nat)

/-- How the handler of a window event ends: with a call of one of the focus functions,
or without. -/
inductive Refocuses (state : State) : State → Prop where
  | stay : Refocuses state state
  | focusToplevel (id : Nat) : Refocuses state (state.focusToplevel id)
  | focusNextToplevel (excluding : Option Nat) : Refocuses state (state.focusNextToplevel excluding)

theorem Refocuses.windows {s next : State} (ends : Refocuses s next) : next.windows = s.windows := by
  cases ends with
  | stay => rfl
  | focusToplevel id => exact focusToplevel_windows s id
  | focusNextToplevel ex => exact focusNextToplevel_windows s ex

theorem refocuses_minimize : Refocuses { s with windows := s.windows.minimize id } (s.minimize id) := by
  unfold minimize
  split
  · split
    · exact .focusNextToplevel _
    · exact .stay
  · rename_i refused
    rw [Windows.minimize, if_neg refused]
    exact .stay

theorem refocuses_map (big : Bool) : Refocuses { s with windows := s.windows.map id big } (s.map id big) := by
  unfold map
  split
  · dsimp only
    split
    · exact .focusToplevel _
    · exact .stay
  · rename_i refused
    rw [Windows.map, if_neg refused]
    exact .stay

theorem refocuses_unmap : Refocuses { s with windows := s.windows.unmap id } (s.unmap id) := by
  unfold unmap
  split
  · dsimp only
    split
    · exact .focusNextToplevel _
    · exact .stay
  · rename_i refused
    rw [Windows.unmap, if_neg refused]
    exact .stay

theorem refocuses_tileToplevel (u captured : Bool) :
    Refocuses { s with windows := s.windows.tile id u captured } (s.tileToplevel id u captured) := by
  unfold tileToplevel
  split
  · exact .focusToplevel _
  · rename_i refused
    rw [Windows.tile, if_neg refused]
    exact .stay

theorem refocuses_xRequestRestore :
    Refocuses { s with windows := s.windows.xRequestRestore id } (s.xRequestRestore id) := by
  unfold xRequestRestore
  dsimp only
  split
  · exact .focusToplevel _
  · exact .stay

theorem refocuses_switcherActivate : Refocuses
    { s with windows := if s.mayActivate id then s.windows.switcherRestore id else s.windows }
    (s.switcherActivate id) := by
  unfold switcherActivate
  split
  · exact .focusToplevel _
  · exact .stay

theorem refocuses_moveToplevelToWorkspace (n : Int) :
    Refocuses { s with windows := s.windows.moveToWorkspace id n } (s.moveToplevelToWorkspace id n) := by
  unfold moveToplevelToWorkspace
  split
  · dsimp only
    split
    · exact .focusNextToplevel _
    · exact .stay
  · rename_i refused
    rw [Windows.moveToWorkspace, if_neg refused]
    exact .stay

theorem map_windows (big : Bool) : (s.map id big).windows = s.windows.map id big :=
  (refocuses_map s id big).windows

theorem unmap_windows : (s.unmap id).windows = s.windows.unmap id := (refocuses_unmap s id).windows

theorem dissociate_windows : (s.dissociate id).windows =
      if s.windows.test id (·.xwayland) then (s.windows.unmap id).loseSurface id else s.windows := by
  unfold dissociate
  split
  · simp [unmap_windows]
  · rfl

theorem destroyToplevel_windows : (s.destroyToplevel id).windows = (s.windows.unmap id).loseHandle id := by
  simp [destroyToplevel, unmap_windows]

theorem switchWorkspace_windows (n : Int) : (s.switchWorkspace n).windows =
      if s.maySwitch n then s.windows.switchTo n else s.windows := by
  unfold switchWorkspace
  split
  · dsimp only
    split <;> simp
  · rfl

theorem destroyLock_focus {s : State} {l : Nat} {held : Session.SessionLockState}
    (found : s.session.sessionLock = some held) (dies : held.listening = some l ∧ held.unlocked = false) :
    (s.destroyLock l).focus = none := by
  unfold destroyLock
  simp only [found, if_pos dies]
  rfl

theorem mapLockSurface_windows : (s.mapLockSurface id).windows = s.windows := by
  unfold mapLockSurface
  dsimp only
  split
  · exact enter_windows _ _
  · rfl

end

theorem mapLockSurface_focus {s : State} {id : Nat} {x : Surface}
    (focused : (s.mapLockSurface id).focus = some x) : x = .lock id ∨ s.focus = some x := by
  unfold mapLockSurface at focused
  dsimp only at focused
  split at focused
  · rw [enter_eq] at focused
    split at focused
    · cases focused
      exact .inl rfl
    · exact .inr focused
  · exact .inr focused

theorem destroyLayersOf_induction (relation : State → State → Prop) (refl : ∀ s, relation s s)
    (trans : ∀ {first second third}, relation first second → relation second third → relation first third)
    (o : Nat) (destroy : ∀ (s : State) (id : Nat),
      (s.layers[id]?.any fun layer => layer.alive && layer.output == o) = true →
        relation s (s.destroyLayer id)) (s : State) :
    relation s (s.destroyLayersOf o) := by
  refine List.foldlRecOn (motive := relation s) _ _ (refl s) fun reached held layer _ => ?_
  split
  · rename_i there
    exact trans held (destroy reached layer there)
  · exact held

end State
end FlakeWM.Desktop
