import FlakeWM.Session.LockSafety

/-! Idle inhibition.

An inhibitor counts while the root of its surface is mapped and, in a locked session,
is a lock surface. The flag of the idle notifier is computed anew at certain calls
only; what an event changes after or without such a call is not seen in it. -/

set_option autoImplicit false

namespace FlakeWM.Session

inductive Role where
  | toplevel
  | layer
  | lock
  deriving DecidableEq, Repr

structure RootSurface where
  role : Role
  mapped : Bool
  deriving DecidableEq, Repr

structure IdleState where
  manager : ProtocolManager
  surfaces : List RootSurface
  inhibitors : List Nat
  inhibited : Bool
  deriving DecidableEq, Repr

namespace IdleState

def initial : IdleState := ⟨.initial, [], [], false⟩

def counts (state : IdleState) (root : Nat) : Bool :=
  state.surfaces[root]?.any fun surface =>
    surface.mapped && (!state.manager.sessionLocked || surface.role == .lock)

/-- What `UpdateIdleInhibition` computes. -/
def wanted (state : IdleState) : Bool := state.inhibitors.any state.counts

def updateIdleInhibition (state : IdleState) : IdleState := { state with inhibited := state.wanted }

/-- `focused` says that the keyboard focus is moved by the handler, with
`UpdateKeyboardFocus`. `activity` is input, or a change of focus for any other reason. -/
inductive Event where
  | newSurface (role : Role)
  | map (root : Nat) (focused : Bool)
  | unmap (root : Nat) (focused : Bool)
  | newInhibitor (root : Nat)
  | destroyInhibitor (position : Nat)
  | lockRequest (blankCreated focused : Bool)
  | unlock (lock : Nat)
  | destroyLock (lock : Nat)
  | activity
  deriving DecidableEq, Repr

def setMapped (state : IdleState) (root : Nat) (mapped : Bool) : IdleState :=
  { state with surfaces := state.surfaces.modify root ({ · with mapped := mapped }) }

/-- What the event does to the surfaces, the inhibitors and the lock. -/
def change (state : IdleState) : Event → IdleState
  | .newSurface role => { state with surfaces := state.surfaces ++ [⟨role, false⟩] }
  | .map root _ => state.setMapped root true
  | .unmap root _ => state.setMapped root false
  | .newInhibitor root => { state with inhibitors := state.inhibitors ++ [root] }
  | .destroyInhibitor position => { state with inhibitors := state.inhibitors.eraseIdx position }
  | .lockRequest blankCreated _ => { state with manager := state.manager.beginSessionLock blankCreated }
  | .unlock lock => { state with manager := state.manager.onUnlock lock }
  | .destroyLock lock => { state with manager := state.manager.onDestroy lock }
  | .activity => state

def hasRole (state : IdleState) (root : Nat) (role : Role) : Bool := state.surfaces[root]?.any (·.role == role)

/-- The handler comes to `UpdateIdleInhibition`. Nothing listens to the end of an
inhibitor, and the focus of a lock surface is not announced. -/
def told (state : IdleState) : Event → Bool
  | .map root focused => focused && !state.hasRole root .lock
  | .unmap root focused => state.hasRole root .toplevel || focused && state.hasRole root .layer
  | .newInhibitor _ | .activity => true
  | .lockRequest blankCreated focused =>
    state.manager.sessionLock.isNone && (state.manager.sessionLockBlank || blankCreated || focused)
  | .unlock lock => state.manager.sessionLocked && state.manager.sessionLock.any (·.listening == some lock)
  | .newSurface _ | .destroyInhibitor _ | .destroyLock _ => false

def step (state : IdleState) (event : Event) : IdleState :=
  if state.told event then (state.change event).updateIdleInhibition else state.change event

/-- The surface counts as soon as it is mapped. -/
def mayCount (state : IdleState) (root : Nat) : Bool :=
  state.surfaces[root]?.any fun surface => !state.manager.sessionLocked || surface.role == .lock

/-- The events after which the flag is wrong. The only inhibitor that counts ends. The
surface of an inhibitor is mapped while none counts, without a move of the focus or as a
lock surface. The one surface that counts is unmapped, as a layer surface without a move of
the focus or as a lock surface. -/
def missed (state : IdleState) : Event → Bool
  | .destroyInhibitor position =>
    state.inhibitors.any state.counts && !(state.inhibitors.eraseIdx position).any state.counts
  | .map root focused =>
    (!focused || state.hasRole root .lock) && state.inhibitors.contains root && state.mayCount root &&
      !state.inhibitors.any state.counts
  | .unmap root focused =>
    (state.hasRole root .lock || !focused && state.hasRole root .layer) && state.inhibitors.contains root &&
      state.counts root && state.inhibitors.all fun other => other == root || !state.counts other
  | _ => false

/-- A lock that was not unlocked keeps the session locked. -/
structure Locking (manager : ProtocolManager) : Prop extends ProtocolManager.Sound manager where
  held : ∀ handle listening, manager.control = some (handle, listening, false) → manager.sessionLocked = true

section

variable {m : ProtocolManager} (locking : Locking m)

include locking

theorem Locking.beginSessionLock (blankCreated : Bool) : Locking (m.beginSessionLock blankCreated) := by
  refine ⟨locking.toSound.beginSessionLock blankCreated, ?_⟩
  cases live : m.sessionLock with
  | some =>
    rw [locking.toSound.beginSessionLock_held live]
    exact locking.held
  | none =>
    rcases ProtocolManager.beginSessionLock_free live blankCreated with ⟨_, _, refused⟩ | ⟨_, started⟩
    · rw [refused]
      intro handle listening named
      simp [ProtocolManager.control, live] at named
    · rw [started]
      intro _ _ _
      exact (ProtocolManager.startSessionLock_holder _ _).2.1

theorem Locking.onUnlock (lock : Nat) : Locking (m.onUnlock lock) := by
  refine ⟨locking.toSound.onUnlock lock, ?_⟩
  rcases m.onUnlock_cases lock with same | ⟨live, _, _, opened⟩
  · rw [same]
    exact locking.held
  · rw [opened]
    intro handle listening named
    simp [ProtocolManager.control] at named

theorem Locking.onDestroy (lock : Nat) : Locking (m.onDestroy lock) := by
  refine ⟨locking.toSound.onDestroy lock, ?_⟩
  rcases m.onDestroy_cases lock with same | ⟨live, _, _, ended⟩
  · rw [same]
    exact locking.held
  · rw [ended]
    intro handle listening named
    simp [ProtocolManager.control] at named

end

variable {s : IdleState}

theorem Locking.step (locking : Locking s.manager) (e : Event) : Locking (s.step e).manager := by
  have changed : (s.step e).manager = (s.change e).manager := by
    unfold IdleState.step
    split <;> rfl
  rw [changed]
  cases e with
  | lockRequest blankCreated => exact locking.beginSessionLock blankCreated
  | unlock lock => exact locking.onUnlock lock
  | destroyLock lock => exact locking.onDestroy lock
  | _ => exact locking

theorem wanted_step (e : Event) : (s.step e).wanted = (s.change e).wanted := by
  unfold step
  split <;> rfl

theorem inhibited_change (e : Event) : (s.change e).inhibited = s.inhibited := by
  cases e <;> rfl

theorem wanted_of_manager {m : ProtocolManager} (same : m.sessionLocked = s.manager.sessionLocked) :
    ({ s with manager := m } : IdleState).wanted = s.wanted := by
  unfold wanted counts
  dsimp only
  rw [same]

theorem counts_setMapped (root other : Nat) (mapped : Bool) :
    (s.setMapped root mapped).counts other = if root = other then mapped && s.mayCount other else s.counts other := by
  unfold counts setMapped mayCount
  dsimp only
  rw [List.getElem?_modify]
  by_cases here : root = other
  · rw [if_pos here]
    cases s.surfaces[other]? with
    | none => cases mapped <;> rfl
    | some surface => simp [here]
  · simp [here]

theorem mayCount_of_counts {root : Nat} (counted : s.counts root = true) : s.mayCount root = true := by
  unfold counts at counted
  unfold mayCount
  cases found : s.surfaces[root]? with
  | none => simp [found] at counted
  | some surface => simp_all

theorem unmap_told {root : Nat} {surface : RootSurface} (found : s.surfaces[root]? = some surface) (focused : Bool) :
    (s.hasRole root .lock || !focused && s.hasRole root .layer) = !s.told (.unmap root focused) := by
  simp only [told, hasRole, found, Option.any_some]
  cases surface.role <;> cases focused <;> rfl

/-- An inhibitor of another surface counts. -/
def countsBeside (state : IdleState) (root : Nat) : Bool :=
  state.inhibitors.any fun other => other != root && state.counts other

theorem wanted_split (s : IdleState) (root : Nat) :
    s.wanted = (s.countsBeside root || s.inhibitors.contains root && s.counts root) := by
  rw [Bool.eq_iff_iff]
  simp only [wanted, countsBeside, List.any_eq_true, Bool.or_eq_true, Bool.and_eq_true, bne_iff_ne,
    List.contains_iff_mem]
  constructor
  · rintro ⟨other, mem, counted⟩
    by_cases here : other = root
    · exact .inr ⟨here ▸ mem, here ▸ counted⟩
    · exact .inl ⟨other, mem, here, counted⟩
  · rintro (⟨other, mem, _, counted⟩ | ⟨mem, counted⟩)
    · exact ⟨other, mem, counted⟩
    · exact ⟨root, mem, counted⟩

theorem wanted_setMapped (root : Nat) (mapped : Bool) : (s.setMapped root mapped).wanted =
    (s.countsBeside root || s.inhibitors.contains root && (mapped && s.mayCount root)) := by
  have beside : (s.setMapped root mapped).countsBeside root = s.countsBeside root := by
    unfold countsBeside
    congr 1
    funext other
    rw [counts_setMapped]
    by_cases here : root = other <;> simp [here]
  rw [wanted_split _ root, beside, counts_setMapped, if_pos rfl]
  rfl

/-- An event that does not come to `UpdateIdleInhibition` changes what the flag should be
exactly if it is one of those that are missed. -/
theorem wanted_change (locking : Locking s.manager) {e : Event} (untold : s.told e = false) :
    (s.change e).wanted = s.wanted ↔ s.missed e = false := by
  cases e with
  | newInhibitor | activity => cases untold
  | newSurface role =>
    refine iff_of_true ?_ rfl
    unfold wanted
    congr 1
    funext root
    unfold counts change
    dsimp only
    rw [List.getElem?_append]
    split
    · rfl
    · rename_i beyond
      rw [List.getElem?_eq_none (Nat.le_of_not_lt beyond)]
      rcases root - s.surfaces.length with _ | later <;> rfl
  | map root focused =>
    have unseen : (!focused || s.hasRole root .lock) = true := by
      unfold told at untold
      cases focused <;> simp_all
    have old : s.counts root = true → s.mayCount root = true := mayCount_of_counts
    show (s.setMapped root true).wanted = s.wanted ↔
      ((!focused || s.hasRole root .lock) && s.inhibitors.contains root && s.mayCount root && !s.wanted) = false
    rw [unseen, wanted_setMapped, wanted_split s root]
    revert old
    cases s.countsBeside root <;> cases s.inhibitors.contains root <;> cases s.mayCount root <;>
      cases s.counts root <;> decide
  | unmap root focused =>
    have rest : (s.inhibitors.all fun other => other == root || !s.counts other) = !s.countsBeside root := by
      simp [countsBeside, List.not_any_eq_all_not, bne]
    show (s.setMapped root false).wanted = s.wanted ↔ _
    rw [wanted_setMapped, wanted_split s root]
    cases found : s.surfaces[root]? with
    | none =>
      have ignored : s.counts root = false := by simp [counts, found]
      simp [missed, ignored]
    | some surface =>
      have unseen := unmap_told found focused
      rw [untold] at unseen
      simp only [missed, unseen, rest]
      cases s.countsBeside root <;> cases s.inhibitors.contains root <;> cases s.counts root <;> simp
  | destroyInhibitor position =>
    have fewer : (s.inhibitors.eraseIdx position).any s.counts = true → s.inhibitors.any s.counts = true := by
      simp only [List.any_eq_true]
      rintro ⟨root, mem, counted⟩
      exact ⟨root, List.mem_of_mem_eraseIdx mem, counted⟩
    show (s.inhibitors.eraseIdx position).any s.counts = s.inhibitors.any s.counts ↔
      (s.inhibitors.any s.counts && !(s.inhibitors.eraseIdx position).any s.counts) = false
    generalize (s.inhibitors.eraseIdx position).any s.counts = left at *
    generalize s.inhibitors.any s.counts = all at *
    cases left <;> cases all <;> simp at fewer ⊢
  | lockRequest blankCreated focused =>
    refine iff_of_true (wanted_of_manager ?_) rfl
    cases live : s.manager.sessionLock with
    | some => rw [locking.toSound.beginSessionLock_held live]
    | none =>
      simp only [told, live, Option.isNone_none, Bool.true_and, Bool.or_eq_false_iff] at untold
      rcases ProtocolManager.beginSessionLock_free live blankCreated with ⟨missing, _, refused⟩ | ⟨present, _⟩
      · rw [refused]
        by_contra locked
        have blank := locking.blank (.inl (by simpa using Ne.symm locked))
        rw [missing] at blank
        cases blank
      · rw [untold.1.1, untold.1.2] at present
        simp at present
  | unlock lock =>
    refine iff_of_true (wanted_of_manager ?_) rfl
    rcases s.manager.onUnlock_cases lock with same | ⟨live, held, listening, opened⟩
    · rw [same]
    · rw [opened]
      simpa [told, held, listening] using untold.symm
  | destroyLock lock =>
    refine iff_of_true (wanted_of_manager ?_) rfl
    rcases s.manager.onDestroy_cases lock with same | ⟨live, held, listening, ended⟩
    · rw [same]
    · rw [ended]
      dsimp only
      cases opened : live.unlocked with
      | true => simp
      | false =>
        rw [locking.held live.handle live.listening (by simp [ProtocolManager.control, held, opened])]
        rfl

theorem missed_told {e : Event} (told : s.told e = true) : s.missed e = false := by
  cases e with
  | map root focused =>
    simp only [IdleState.told, Bool.and_eq_true, Bool.not_eq_true'] at told
    simp [missed, told]
  | unmap root focused =>
    cases found : s.surfaces[root]? with
    | none => simp [missed, counts, found]
    | some surface => simp [missed, unmap_told found focused, told]
  | destroyInhibitor => cases told
  | _ => rfl

/-- The flag is right in every state of a run exactly if no event of the run is missed. -/
theorem throughout_inhibited_iff (events : List Event) :
    Transition.Throughout step (fun state => state.inhibited = state.wanted) initial events ↔
      Transition.Along step (fun state event => state.missed event = false) initial events := by
  have start : Locking initial.manager := ⟨.initial, nofun⟩
  have kept : ∀ (state : IdleState) (event : Event), Locking state.manager → Locking (state.step event).manager :=
    fun _ event locking => locking.step event
  refine Transition.throughout_iff_along kept ?_ start (by rfl) events
  intro state event locking right
  rw [wanted_step]
  unfold step
  cases told : state.told event with
  | true => exact iff_of_true rfl (missed_told told)
  | false =>
    rw [if_neg Bool.false_ne_true, inhibited_change, right, eq_comm]
    exact wanted_change locking told

/-- The inhibitor of a window in view ends, or the window is mapped without being focused:
the flag stays. A locker that keeps the screen on dies: the screen stays on. -/
theorem inhibited_stale :
    let run := Transition.run step initial
    let shown : List Event := [.newSurface .toplevel, .map 0 true, .newInhibitor 0]
    let ended := run (shown ++ [.destroyInhibitor 0])
    let unfocused := run [.newSurface .toplevel, .newInhibitor 0, .map 0 false]
    let died := run [.newSurface .lock, .lockRequest true false, .map 0 false, .newInhibitor 0, .unmap 0 false,
      .destroyLock 0]
    (ended.inhibited = true ∧ ended.wanted = false) ∧ (unfocused.inhibited = false ∧ unfocused.wanted = true) ∧
      died.inhibited = true ∧ died.wanted = false := by
  decide

end IdleState

end FlakeWM.Session
