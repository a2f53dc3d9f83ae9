import FlakeWM.Desktop.LockFrame

/-! The keyboard focus under a session lock.

The focus reaches a lock surface when that is mapped and leaves it when that is
destroyed. Nothing gives it to a lock surface that was mapped before. -/

set_option autoImplicit false

namespace FlakeWM.Desktop
namespace State

open Session

open Session.ProtocolManager

def keyboardServed (state : State) : Bool := !state.sessionLocked || !state.lockShown || state.onLock

section

variable {s : State}

theorem LockAttached.of_session {after : State} (attached : s.LockAttached)
    (ss : after.session = s.session) (focus : after.focus = s.focus) : after.LockAttached where
  fresh := by
    rw [ss]
    exact attached.fresh
  shown := by
    rw [ss, focus]
    exact attached.shown

theorem keyboard_lockFocused_iff (attached : s.LockAttached) (keyboards : List Bool) (id : Nat) :
    LockFocused { s with keyboards := keyboards, keyboard := some id } ↔ s.keyboardServed = true := by
  have attached : LockAttached { s with keyboards := keyboards, keyboard := some id } :=
    attached.of_session rfl rfl
  rw [lockFocused_iff attached, keyboardServed]
  simp [sessionLocked, lockShown, onLock]

theorem addKeyboard_spares (s : State) :
    Spares { s with keyboards := s.keyboards ++ [true], keyboard := some s.keyboards.length } s.addKeyboard := by
  unfold addKeyboard notifyEnter
  dsimp only
  split
  · rename_i x held
    split
    · exact .refl _
    · exact .idle rfl rfl held.symm
  · exact focusNextToplevel_spares _ none

theorem withSession_spares {ss : ProtocolManager} (surfaces : lockSurfaces ss = lockSurfaces s.session)
    (nextSurface : ss.nextSurface = s.session.nextSurface)
    (locked : ss.sessionLocked = s.session.sessionLocked) :
    Spares s { s with session := ss } :=
  ⟨surfaces, nextSurface, locked, rfl, fun _ focused => focused, fun _ _ focused => focused⟩

variable (ss : Session.ProtocolManager)

theorem maybeSendLocked_surfaces : lockSurfaces ss.maybeSendLocked = lockSurfaces ss ∧
      ss.maybeSendLocked.nextSurface = ss.nextSurface := by
  rcases ss.maybeSendLocked_cases with same | ⟨l, _, held, _, _, _, sent⟩
  · rw [same]
    exact ⟨rfl, rfl⟩
  · rw [sent]
    simp [lockSurfaces, held]

theorem addOutput_surfaces (os : List Output) (l : SessionLockState) (id : Nat) :
    (l.addOutput os id).surfaces = l.surfaces := by
  unfold SessionLockState.addOutput
  split
  · rfl
  · split <;> rfl

theorem newOutput_spares (seq : Nat) : Spares s { s with session := s.session.addOutput seq } := by
  refine withSession_spares ?_ rfl rfl
  unfold lockSurfaces addOutput
  cases s.session.sessionLock with
  | none => rfl
  | some l => exact addOutput_surfaces _ l _

theorem presentOutput_spares (o seq : Nat) (presented : Bool) :
    Spares s { s with session := s.session.presentOutput o seq presented } := by
  have locked := (presentOutput_holder s.session o seq presented).locked
  unfold presentOutput at locked ⊢
  split
  · exact .refl s
  · rename_i l held
    simp only [held] at locked
    split
    · rename_i completed
      rw [if_pos completed] at locked
      refine withSession_spares ?_ (maybeSendLocked_surfaces _).2 locked
      rw [(maybeSendLocked_surfaces _).1]
      simp [lockSurfaces, held]
    · exact .refl s

theorem startSessionLock_surfaces (h : Nat) : lockSurfaces (ss.startSessionLock h) = [] := by
  have created : ∀ (ids : List Nat) (l : SessionLockState),
      (ids.foldl (SessionLockState.addOutput ss.outputs) l).surfaces = l.surfaces :=
    fun ids l => List.foldlRecOn (motive := fun last : SessionLockState => last.surfaces = l.surfaces) ids _ rfl
      fun last same id _ => (addOutput_surfaces _ last id).trans same
  unfold startSessionLock
  rw [(maybeSendLocked_surfaces _).1]
  exact created _ _

theorem lockFocused_of_none (none : lockSurfaces s.session = []) : s.LockFocused := by
  intro _ _ shown
  simp [lockShown, none] at shown

theorem attached_of_none (none : lockSurfaces s.session = []) (noLock : ∀ id, s.focus ≠ some (.lock id)) :
    s.LockAttached where
  fresh := by simp [none]
  shown := fun id focused => absurd focused (noLock id)

theorem beginSessionLock_spares (sound : s.session.Sound) (bc : Bool) : Spares s (s.beginSessionLock bc) ∨
      lockSurfaces (s.beginSessionLock bc).session = [] ∧ ∀ id, (s.beginSessionLock bc).focus ≠ some (.lock id) := by
  unfold beginSessionLock
  cases held : s.session.sessionLock with
  | some =>
    left
    dsimp only [Option.isSome_some]
    rw [sound.beginSessionLock_held held]
    exact withSession_spares rfl rfl rfl
  | none =>
    right
    have empty : lockSurfaces (s.session.beginSessionLock bc) = [] := by
      rcases beginSessionLock_free held bc with ⟨_, _, refused⟩ | ⟨_, started⟩
      · rw [refused]
        simp [lockSurfaces, held]
      · rw [started, startSessionLock_surfaces]
    rw [if_neg (by simp)]
    split
    · exact ⟨empty, fun _ focused => nomatch focused⟩
    · have spares := focusNextToplevel_spares
        { s with session := s.session.beginSessionLock bc, keyboardGrab := false, focus := none } none
      exact ⟨spares.surfaces.trans empty, fun id focused => nomatch spares.enters id focused⟩

theorem unlock_spares (s : State) (l : Nat) : s.unlock l = s ∨ (s.unlock l).sessionLocked = false ∧
        lockSurfaces (s.unlock l).session = lockSurfaces s.session ∧
        (s.unlock l).session.nextSurface = s.session.nextSurface ∧
        ∀ id, (s.unlock l).focus = some (.lock id) → s.focus = some (.lock id) := by
  unfold unlock
  rcases s.session.onUnlock_cases l with same | ⟨held, live, _, opened⟩
  · left
    dsimp only
    rw [same]
    cases locked : s.sessionLocked <;> simp [sessionLocked] at locked ⊢
  · right
    have surfaces : lockSurfaces (s.session.onUnlock l) = lockSurfaces s.session := by
      rw [opened]
      simp [lockSurfaces, live]
    have next : (s.session.onUnlock l).nextSurface = s.session.nextSurface := by rw [opened]
    have open_ : (s.session.onUnlock l).sessionLocked = false := by rw [opened]
    dsimp only
    split
    · have spares := focusNextToplevel_spares { s with session := s.session.onUnlock l } none
      exact ⟨spares.locked.trans open_, spares.surfaces.trans surfaces, spares.nextSurface.trans next, spares.enters⟩
    · exact ⟨open_, surfaces, next, fun _ focused => focused⟩

theorem destroyLock_spares (attached : s.LockAttached) (l : Nat) : Spares s (s.destroyLock l) ∨
      lockSurfaces (s.destroyLock l).session = [] ∧ ∀ id, (s.destroyLock l).focus ≠ some (.lock id) := by
  unfold destroyLock
  cases held : s.session.sessionLock with
  | none =>
    left
    have same : s.session.onDestroy l = s.session := by
      simp [onDestroy, held]
    dsimp only
    rw [same]
    exact orphan_spares s (by simp [lockSurfaceGone])
  | some live =>
    by_cases heard : live.listening = some l
    · -- The lock ends with its surfaces; a focus on one of them goes with it.
      right
      have ended : lockSurfaces (s.session.onDestroy l) = [] := by
        rcases s.session.onDestroy_cases l with same | ⟨_, _, _, ended⟩
        · simp [onDestroy, held, heard, finishSessionLock_spec,
            lockSurfaces]
        · rw [ended]
          rfl
      have left_ : ∀ id, (orphan { s with session := s.session.onDestroy l }
          (lockSurfaceGone s.session (s.session.onDestroy l))).focus ≠ some (.lock id) := by
        intro id focused
        obtain ⟨before, present⟩ := (orphan_focus_iff _ (by simp)).mp focused
        obtain ⟨⟨shown, listed, same⟩, _⟩ := attached.shown id before
        apply Bool.eq_false_iff.mp present
        simp only [lockSurfaceGone, ended, List.any_nil, Bool.not_false, Bool.and_true, List.any_eq_true]
        exact ⟨shown, listed, by simp [same]⟩
      dsimp only
      split
      · refine ⟨ended, ?_⟩
        intro id focused
        cases focused
      · exact ⟨ended, left_⟩
    · left
      have same : s.session.onDestroy l = s.session := by
        simp [onDestroy, held, heard]
      dsimp only
      rw [same, if_neg (fun ends => heard ends.1)]
      exact orphan_spares s (by simp [lockSurfaceGone])

theorem onNewSurface_surfaces (l o : Nat) (tc : Bool) : ss.onNewSurface l o tc = ss ∨
      (ss.onNewSurface l o tc).nextSurface = ss.nextSurface + 1 ∧
        ∃ added, lockSurfaces (ss.onNewSurface l o tc) = lockSurfaces ss ++ added ∧
          ∀ x ∈ added, x.id = ss.nextSurface ∧ x.mapped = false := by
  unfold onNewSurface
  cases held : ss.sessionLock with
  | none => exact .inl rfl
  | some =>
    dsimp only
    split
    · refine .inr ⟨rfl, ?_⟩
      cases tc with
      | false => exact ⟨[], by simp [lockSurfaces, held], by simp⟩
      | true =>
        exact ⟨[{ id := ss.nextSurface, output := o, mapped := false }], by simp [lockSurfaces, held], by simp⟩
    · exact .inl rfl

theorem newLockSurface_kept (attached : s.LockAttached) (l o : Nat) (tc : Bool) :
    let next := { s with session := s.session.onNewSurface l o tc }
    next.LockAttached ∧ (s.LockFocused → next.LockFocused) := by
  have locked := (onNewSurface_holder s.session l o tc).locked
  rcases onNewSurface_surfaces s.session l o tc with same | ⟨next, added, surfaces, fresh⟩
  · dsimp only
    rw [same]
    exact ⟨attached, id⟩
  · refine ⟨⟨?_, ?_⟩, ?_⟩
    · intro x listed
      rw [surfaces, List.mem_append] at listed
      rw [next]
      rcases listed with old | new
      · exact Nat.lt_succ_of_lt (attached.fresh x old)
      · rw [(fresh x new).1]
        exact Nat.lt_succ_self _
    · intro id focused
      obtain ⟨⟨shown, listed, same⟩, mapped⟩ := attached.shown id focused
      rw [surfaces]
      refine ⟨⟨shown, List.mem_append_left _ listed, same⟩, ?_⟩
      intro x mem named
      rcases List.mem_append.mp mem with old | new
      · exact mapped x old named
      · -- the identifier of the focused surface was handed out before
        have old := attached.fresh shown listed
        have new := (fresh x new).1
        omega
    · intro good isLocked kb shown
      have shownBefore : s.lockShown = true := by
        simp only [lockShown, surfaces, List.any_append, Bool.or_eq_true] at shown ⊢
        rcases shown with old | new
        · exact old
        · obtain ⟨x, mem, mapped⟩ := List.any_eq_true.mp new
          rw [(fresh x mem).2] at mapped
          cases mapped
      obtain ⟨x, listed, mapped, focused⟩ := good (locked.symm.trans isLocked) kb shownBefore
      exact ⟨x, by rw [surfaces]; exact List.mem_append_left _ listed, mapped, focused⟩

def mapsLock (state : State) (id : Nat) : Bool :=
  state.sessionLocked && (lockSurfaces state.session).any fun surface => surface.id == id && !surface.mapped

theorem onSurfaceMap_surfaces (id : Nat) : lockSurfaces (ss.onSurfaceMap id) = (lockSurfaces ss).map fun x =>
      if x.id = id then { x with mapped := true } else x := by
  unfold lockSurfaces onSurfaceMap
  cases ss.sessionLock <;> rfl

theorem mapped_attached (attached : s.LockAttached) (id : Nat) :
    LockAttached { s with session := s.session.onSurfaceMap id } where
  fresh := by
    intro x listed
    rw [onSurfaceMap_surfaces, List.mem_map] at listed
    obtain ⟨before, listed, rfl⟩ := listed
    have old := attached.fresh before listed
    split <;> exact old
  shown := by
    intro focusedId focused
    obtain ⟨⟨shown, listed, same⟩, mapped⟩ := attached.shown focusedId focused
    rw [onSurfaceMap_surfaces]
    constructor
    · refine ⟨_, List.mem_map.mpr ⟨shown, listed, rfl⟩, ?_⟩
      split <;> exact same
    · intro x mem named
      obtain ⟨before, listed, rfl⟩ := List.mem_map.mp mem
      split at named
      · rename_i changes
        simp [changes]
      · rename_i stays
        rw [if_neg stays]
        exact mapped before listed named

theorem mapLockSurface_eq (s : State) (id : Nat) : s.mapLockSurface id =
      if s.mapsLock id then enter { s with session := s.session.onSurfaceMap id } (.lock id)
      else { s with session := s.session.onSurfaceMap id } := by
  unfold mapLockSurface mapsLock
  rfl

theorem mapLockSurface_attached (attached : s.LockAttached) (id : Nat) : (s.mapLockSurface id).LockAttached := by
  have mapped := mapped_attached attached id
  rw [mapLockSurface_eq]
  split
  · rename_i maps
    rw [enter_eq]
    split
    · refine ⟨mapped.fresh, ?_⟩
      intro id' focused
      obtain rfl : id = id' := by simpa using focused
      rw [onSurfaceMap_surfaces]
      obtain ⟨x, listed, waits⟩ := List.any_eq_true.mp (Bool.and_eq_true_iff.mp maps).2
      have named : x.id = id := by simp_all
      constructor
      · exact ⟨_, List.mem_map.mpr ⟨x, listed, rfl⟩, by simp [named]⟩
      · intro shown mem same
        obtain ⟨before, _, rfl⟩ := List.mem_map.mp mem
        split at same
        · rename_i changes
          simp [changes]
        · rename_i stays
          exact absurd same stays
    · exact mapped
  · exact mapped

theorem mapped_same {surfaces : List LockSurface} {id : Nat} (mapped : ∀ x ∈ surfaces, x.id = id → x.mapped = true) :
    (surfaces.map fun x => if x.id = id then { x with mapped := true } else x) = surfaces := by
  refine (List.map_congr_left ?_).trans (List.map_id surfaces)
  intro x listed
  split
  · rename_i named
    have known := mapped x listed named
    cases x
    simp_all
  · rfl

/-- A lock surface that is mapped gets the focus unless a client has grabbed the
keyboard, and then another lock surface must have it. -/
theorem mapLockSurface_iff (attached : s.LockAttached) (good : s.LockFocused) (id : Nat) :
    (s.mapLockSurface id).LockFocused ↔
      (!s.mapsLock id || s.keyboard.isNone || !s.keyboardGrab || s.onLock) = true := by
  cases maps : s.mapsLock id with
  | false =>
    refine iff_of_true ?_ rfl
    rw [mapLockSurface_eq, maps]
    cases locked : s.sessionLocked with
    | false =>
      intro isLocked
      cases locked.symm.trans isLocked
    | true =>
      have same : lockSurfaces (s.session.onSurfaceMap id) = lockSurfaces s.session := by
        rw [onSurfaceMap_surfaces]
        exact mapped_same (by simpa [mapsLock, locked] using maps)
      have spares : Spares s { s with session := s.session.onSurfaceMap id } :=
        withSession_spares same rfl rfl
      exact spares.lockFocused_iff.mpr good
  | true =>
    obtain ⟨locked, waits⟩ := Bool.and_eq_true_iff.mp maps
    have shown : lockShown { s with session := s.session.onSurfaceMap id } = true := by
      obtain ⟨x, listed, waits⟩ := List.any_eq_true.mp waits
      rw [lockShown, onSurfaceMap_surfaces, List.any_map, List.any_eq_true]
      exact ⟨x, listed, by simp_all⟩
    rw [lockFocused_iff (mapLockSurface_attached attached id), mapLockSurface_eq, maps, if_pos rfl, enter_eq]
    -- `FocusSessionLockSurface` asks for a keyboard, and a grab drops the request.
    by_cases free : s.keyboard.isSome = true ∧ s.keyboardGrab = false
    · rw [if_pos free]
      simp [onLock, free.2]
    · rw [if_neg free, shown]
      have locked : sessionLocked { s with session := s.session.onSurfaceMap id } = true := locked
      rw [locked]
      cases present : s.keyboard with
      | none => simp
      | some =>
        have grabbed : s.keyboardGrab = true := by simpa [present] using free
        simp [grabbed, onLock]

/-- The lock surfaces outside `keep` may go: the focus is on none of them, or no
other mapped lock surface is left to take it. -/
def losesWell (state : State) (keep : Session.LockSurface → Bool) : Bool :=
  !state.sessionLocked || state.keyboard.isNone || !state.onLock ||
    (lockSurfaces state.session).any (fun surface => state.focus == some (.lock surface.id) && keep surface) ||
    !(lockSurfaces state.session).any fun surface => surface.mapped && keep surface

/-- The state after the lock surfaces outside `keep` are gone. -/
structure Loses (keep : Session.LockSurface → Bool) (state next : State) : Prop where
  surfaces : lockSurfaces next.session = (lockSurfaces state.session).filter keep
  nextSurface : next.session.nextSurface = state.session.nextSurface
  locked : next.sessionLocked = state.sessionLocked
  keyboard : next.keyboard = state.keyboard
  focus : next.focus = (orphan state (lockSurfaceGone state.session next.session)).focus

section

variable {next : State} {keep : Session.LockSurface → Bool}

theorem Loses.focus_iff (loses : Loses keep s next) (attached : s.LockAttached) (id : Nat) :
    next.focus = some (.lock id) ↔ s.focus = some (.lock id) ∧
      ∃ x ∈ lockSurfaces s.session, x.id = id ∧ keep x = true := by
  have remains : (∃ x ∈ lockSurfaces s.session, x.id = id) →
      (lockSurfaceGone s.session next.session (.lock id) = false ↔
        ∃ x ∈ lockSurfaces s.session, x.id = id ∧ keep x = true) := by
    rintro ⟨x, listed, named⟩
    have known : (lockSurfaces s.session).any (·.id == id) = true :=
      List.any_eq_true.mpr ⟨x, listed, by simp [named]⟩
    simp only [lockSurfaceGone, known, loses.surfaces, List.any_filter, Bool.true_and, Bool.not_eq_false',
      List.any_eq_true, Bool.and_eq_true, beq_iff_eq]
    constructor
    · rintro ⟨x, listed, kept, named⟩
      exact ⟨x, listed, named, kept⟩
    · rintro ⟨x, listed, named, kept⟩
      exact ⟨x, listed, kept, named⟩
  rw [loses.focus, orphan_focus_iff s (by simp)]
  exact and_congr_right fun held => remains (attached.shown id held).1

theorem Loses.onLock (loses : Loses keep s next) (attached : s.LockAttached) :
    next.onLock = (lockSurfaces s.session).any fun x =>
      s.focus == some (.lock x.id) && keep x := by
  rw [Bool.eq_iff_iff, onLock_iff, List.any_eq_true]
  constructor
  · rintro ⟨id, focused⟩
    obtain ⟨held, x, listed, rfl, kept⟩ := (loses.focus_iff attached id).mp focused
    exact ⟨x, listed, by simp [held, kept]⟩
  · rintro ⟨x, listed, kept⟩
    simp only [Bool.and_eq_true, beq_iff_eq] at kept
    exact ⟨x.id, (loses.focus_iff attached x.id).mpr ⟨kept.1, x, listed, rfl, kept.2⟩⟩

theorem Loses.attached (loses : Loses keep s next) (attached : s.LockAttached) : next.LockAttached where
  fresh := by
    intro x listed
    rw [loses.surfaces, List.mem_filter] at listed
    rw [loses.nextSurface]
    exact attached.fresh x listed.1
  shown := by
    intro id focused
    obtain ⟨held, x, listed, named, kept⟩ := (loses.focus_iff attached id).mp focused
    rw [loses.surfaces]
    refine ⟨⟨x, List.mem_filter.mpr ⟨listed, kept⟩, named⟩, ?_⟩
    intro other mem same
    exact (attached.shown id held).2 other (List.mem_filter.mp mem).1 same

theorem Loses.lockFocused_iff (loses : Loses keep s next) (attached : s.LockAttached)
    (good : s.LockFocused) : next.LockFocused ↔ s.losesWell keep = true := by
  have shown : next.lockShown = (lockSurfaces s.session).any fun x => x.mapped && keep x := by
    rw [lockShown, loses.surfaces, List.any_filter]
    congr 1
    funext x
    exact Bool.and_comm _ _
  have before := (State.lockFocused_iff attached).mp good
  rw [State.lockFocused_iff (loses.attached attached), loses.locked, loses.keyboard, shown, losesWell,
    loses.onLock attached]
  have visible : (lockSurfaces s.session).any (fun x => x.mapped && keep x) = true → s.lockShown = true := by
    intro some_
    obtain ⟨x, listed, shown⟩ := List.any_eq_true.mp some_
    exact List.any_eq_true.mpr ⟨x, listed, (Bool.and_eq_true_iff.mp shown).1⟩
  grind

end

theorem destroyLockSurface_loses (s : State) (id : Nat) : Loses (·.id != id) s (s.destroyLockSurface id) where
  surfaces := by
    unfold destroyLockSurface lockSurfaces onSurfaceDestroy
    cases held : s.session.sessionLock with
    | none => simp [orphan]
    | some l =>
      simp only [orphan, Option.map_some, Option.getD_some]
      congr 1
      funext x
      simp [bne, beq_eq_decide]
  nextSurface := rfl
  locked := rfl
  keyboard := rfl
  focus := rfl

theorem session_destroyOutput_surfaces (o : Nat) :
    lockSurfaces (ss.destroyOutput o) = (lockSurfaces ss).filter (·.output != o) ∧
      (ss.destroyOutput o).nextSurface = ss.nextSurface := by
  have keep : (fun x : LockSurface => decide (x.output ≠ o)) = (·.output != o) := by
    funext x
    simp [bne, beq_eq_decide]
  unfold ProtocolManager.destroyOutput
  cases held : ss.sessionLock with
  | none => simp [lockSurfaces, held]
  | some =>
    dsimp only
    rw [keep]
    split
    · have sent := maybeSendLocked_surfaces
      rw [(sent _).1, (sent _).2]
      simp [lockSurfaces, held]
    · simp [lockSurfaces, held]

theorem destroyLayersOf_spares (s : State) (o : Nat) : Spares s (s.destroyLayersOf o) :=
  destroyLayersOf_induction Spares Spares.refl Spares.trans o (fun s id _ => (layered_destroyLayer s id).spares) s

theorem destroyOutput_loses (s : State) (o : Nat) :
    Loses (·.output != o) (s.destroyLayersOf o) (s.destroyOutput o) where
  surfaces := (session_destroyOutput_surfaces _ o).1
  nextSurface := (session_destroyOutput_surfaces _ o).2
  locked := (destroyOutput_holder _ o).locked
  keyboard := rfl
  focus := rfl

theorem Spares.losesWell {bare : State} (spares : Spares s bare) (keep : LockSurface → Bool) :
    bare.losesWell keep = s.losesWell keep := by
  unfold State.losesWell
  rw [spares.surfaces, spares.locked, spares.keyboard]
  cases locked : s.sessionLocked with
  | false => rfl
  | true =>
    have same : ∀ id, bare.focus = some (.lock id) ↔ s.focus = some (.lock id) :=
      fun id => ⟨spares.enters id, spares.leaves locked id⟩
    have held : bare.onLock = s.onLock := by
      rw [Bool.eq_iff_iff, onLock_iff, onLock_iff]
      simp [same]
    have focused : ∀ id, (bare.focus == some (.lock id)) = (s.focus == some (.lock id)) := by
      intro id
      rw [Bool.eq_iff_iff]
      simpa using same id
    simp only [held, focused]

end

/-- The event leaves no mapped lock surface waiting for the focus. -/
def lockFocusSafe (state : State) : Event → Bool
  | .addKeyboard => state.keyboardServed
  | .useKeyboard id => state.keyboards[id]? != some true || state.keyboardServed
  | .mapLockSurface id => !state.mapsLock id || state.keyboard.isNone || !state.keyboardGrab || state.onLock
  | .destroyLockSurface id => state.losesWell (·.id != id)
  | .outputDestroy output => state.losesWell (·.output != output)
  | _ => true

def LockStep (state : State) (event : Event) : Prop :=
  (step state event).LockAttached ∧
    (state.LockFocused → ((step state event).LockFocused ↔ state.lockFocusSafe event = true))

section

variable {s : State}

theorem Spares.lockStep {e : Event} (spares : Spares s (step s e)) (attached : s.LockAttached)
    (free : s.lockFocusSafe e = true) : LockStep s e :=
  ⟨spares.attached attached, fun good => iff_of_true (spares.lockFocused_iff.mpr good) free⟩

theorem lockStep_of_none {e : Event} (none : lockSurfaces (step s e).session = [])
    (noLock : ∀ id, (step s e).focus ≠ some (.lock id)) (free : s.lockFocusSafe e = true) :
    LockStep s e :=
  ⟨attached_of_none none noLock, fun _ => iff_of_true (lockFocused_of_none none) free⟩

section

variable (attached : s.LockAttached)

include attached

theorem unlock_lockStep (l : Nat) : LockStep s (.unlock l) := by
  rcases unlock_spares s l with same | ⟨unlocked, surfaces, nextSurface, enters⟩
  · have spares : Spares s (step s (.unlock l)) := by
      rw [step, same]
      exact .refl s
    exact spares.lockStep attached rfl
  · refine ⟨⟨?_, ?_⟩, fun _ => iff_of_true ?_ rfl⟩
    · intro x listed
      rw [step, surfaces] at listed
      rw [step, nextSurface]
      exact attached.fresh x listed
    · intro id focused
      rw [step, surfaces]
      exact attached.shown id (enters id focused)
    · intro locked
      cases unlocked.symm.trans locked

theorem keyboards_lockStep {e : Event} (keyboards : List Bool) (id : Nat)
    (spares : Spares { s with keyboards := keyboards, keyboard := some id } (step s e))
    (safe : s.lockFocusSafe e = s.keyboardServed) : LockStep s e := by
  refine ⟨spares.attached (attached.of_session rfl rfl), fun _ => ?_⟩
  rw [spares.lockFocused_iff, safe]
  exact keyboard_lockFocused_iff attached keyboards id

theorem removeKeyboard_lockStep (id : Nat) : LockStep s (.removeKeyboard id) := by
  refine ⟨attached.of_session rfl rfl, fun good => iff_of_true ?_ rfl⟩
  intro locked kb shown
  refine good locked ?_ shown
  simp only [step, removeKeyboard] at kb
  split at kb
  · cases kb
  · exact kb

theorem step_lockStep (sound : s.session.Sound) (e : Event) : LockStep s e := by
  cases e with
  | newLayer | beginGrab | endGrab => exact Spares.lockStep (Spares.idle rfl rfl rfl) attached rfl
  | mapLayer | unmapLayer | commitLayer | destroyLayer | focusLayerSurface =>
    exact (step_layered s rfl).spares.lockStep attached rfl
  | addKeyboard => exact keyboards_lockStep attached _ _ (addKeyboard_spares s) rfl
  | useKeyboard id =>
    by_cases live : s.keyboards[id]? = some true
    · refine keyboards_lockStep attached s.keyboards id ?_ ?_
      · rw [step, useKeyboard, if_pos live]
        exact Spares.refl _
      · simp [lockFocusSafe, live]
    · refine Spares.lockStep ?_ attached ?_
      · rw [step, useKeyboard, if_neg live]
        exact Spares.refl s
      · simp [lockFocusSafe, live]
  | removeKeyboard id => exact removeKeyboard_lockStep attached id
  | lockRequest bc =>
    rcases beginSessionLock_spares sound bc with spares | ⟨none, noLock⟩
    · exact Spares.lockStep spares attached rfl
    · exact lockStep_of_none none noLock rfl
  | unlock l => exact unlock_lockStep attached l
  | destroyLock l =>
    rcases destroyLock_spares attached l with spares | ⟨none, noLock⟩
    · exact Spares.lockStep spares attached rfl
    · exact lockStep_of_none none noLock rfl
  | newLockSurface l o tc =>
    have kept := newLockSurface_kept attached l o tc
    exact ⟨kept.1, fun good => iff_of_true (kept.2 good) rfl⟩
  | mapLockSurface id =>
    exact ⟨mapLockSurface_attached attached id, fun good => mapLockSurface_iff attached good id⟩
  | destroyLockSurface id =>
    have loses := destroyLockSurface_loses s id
    exact ⟨loses.attached attached, fun good => loses.lockFocused_iff attached good⟩
  | newOutput seq => exact (newOutput_spares seq).lockStep attached rfl
  | outputCommit =>
    refine Spares.lockStep ?_ attached rfl
    exact withSession_spares rfl rfl rfl
  | outputPresent o seq presented =>
    exact (presentOutput_spares o seq presented).lockStep attached rfl
  | outputDestroy o =>
    -- The output's layer surfaces go first, its lock surfaces after them.
    have spares := destroyLayersOf_spares s o
    have loses := destroyOutput_loses s o
    refine ⟨loses.attached (spares.attached attached), fun good => ?_⟩
    have bare := loses.lockFocused_iff (spares.attached attached) (spares.lockFocused_iff.mpr good)
    rwa [spares.losesWell] at bare
  | surfaceGone =>
    refine Spares.lockStep ?_ attached rfl
    unfold step
    dsimp only
    split
    · rename_i gone
      refine ⟨rfl, rfl, rfl, rfl, ?_, ?_⟩
      · intro _ focused
        cases focused
      · intro _ id focused
        rw [gone] at focused
        cases focused
    · exact Spares.refl s
  | _ => exact (step_moves s rfl).spares.lockStep attached rfl

end

end

end State

/-- The runs in which a locked session with a keyboard and a mapped lock surface
always has its focus on a mapped lock surface are exactly those in which no
keyboard arrives, no lock surface is mapped under a grab and no focused lock
surface goes while a mapped lock surface is without the focus. -/
theorem lock_focused_iff (events : List Event) :
    Transition.Throughout step State.LockFocused State.initial events ↔
      Transition.Along step (fun state event => state.lockFocusSafe event = true) State.initial events := by
  have kept : ∀ (state : State) event, state.LockAttached ∧ state.session.Sound →
      (step state event).LockAttached ∧ (step state event).session.Sound := by
    intro state event held
    exact ⟨(State.step_lockStep held.1 held.2 event).1, State.step_sessionSound state event held.2⟩
  have exact_ : ∀ (state : State) event, state.LockAttached ∧ state.session.Sound → state.LockFocused →
      ((step state event).LockFocused ↔ state.lockFocusSafe event = true) := by
    intro state event held
    exact (State.step_lockStep held.1 held.2 event).2
  refine Transition.throughout_iff_along kept exact_ ⟨?_, Session.ProtocolManager.Sound.initial⟩ ?_ events
  · exact State.attached_of_none rfl (fun _ focused => nomatch focused)
  · exact State.lockFocused_of_none rfl

/-- A lock surface is mapped while no keyboard is plugged in; the keyboard that
arrives then has no focus. -/
theorem late_keyboard_has_no_focus :
    ¬ (Transition.run step State.initial
      [.newOutput 0, .lockRequest true, .newLockSurface 0 0 true, .mapLockSurface 0, .addKeyboard]).LockFocused := by
  intro good
  obtain ⟨surface, _, _, focused⟩ := good rfl rfl rfl
  cases focused

/-- A lock surface that has the focus is one of the current lock and is mapped. -/
theorem focused_lock_surface_mapped (events : List Event) :
    Transition.Throughout step (fun state => ∀ id, state.focus = some (.lock id) →
      ∃ surface ∈ State.lockSurfaces state.session, surface.id = id ∧ surface.mapped = true) State.initial events := by
  have kept : ∀ (state : State) event, state.LockAttached ∧ state.session.Sound →
      (step state event).LockAttached ∧ (step state event).session.Sound := by
    intro state event held
    exact ⟨(State.step_lockStep held.1 held.2 event).1, State.step_sessionSound state event held.2⟩
  have start : State.initial.LockAttached := State.attached_of_none rfl (fun _ focused => nomatch focused)
  refine (Transition.throughout_invariant kept ⟨start, Session.ProtocolManager.Sound.initial⟩ events).mono ?_
  intro state held id focused
  obtain ⟨⟨surface, mem, named⟩, mapped⟩ := held.1.shown id focused
  exact ⟨surface, mem, named, mapped surface mem named⟩

end FlakeWM.Desktop
