import FlakeWM.Session.LockSafety

/-! When a lock object is told `locked`.

The compositor tells it once, and not before every output that could still show
the desktop has either shown a frame committed after the lock began or gone. -/

set_option autoImplicit false

namespace FlakeWM.Session

open Transition (run)

namespace ProtocolManager

/-- Output `id`, whose last commit before the lock was `commitSeq`, no longer
shows the unlocked session: it is gone, or `seen` holds the presentation of a
later commit. -/
def Released (manager : ProtocolManager) (seen : List Event) (id commitSeq : Nat) : Prop :=
  (∃ output, manager.outputs[id]? = some output ∧ output.alive = false) ∨
    ∃ later, commitSeq < later ∧ Event.outputPresent id later true ∈ seen

def Tracked (manager : ProtocolManager) (id commitSeq : Nat) : Prop :=
  ∃ output, manager.outputs[id]? = some output ∧ output.alive = true ∧ output.enabled = true ∧
    output.commitSeq = commitSeq

section

variable (m : ProtocolManager)

@[simp] theorem maybeSendLocked_outputs : m.maybeSendLocked.outputs = m.outputs := by
  rcases m.maybeSendLocked_cases with same | ⟨_, _, _, _, _, _, sent⟩
  · rw [same]
  · rw [sent]

@[simp] theorem onDestroy_outputs (h : Nat) : (m.onDestroy h).outputs = m.outputs := by
  rcases m.onDestroy_cases h with same | ⟨_, _, _, ended⟩
  · rw [same]
  · rw [ended]

@[simp] theorem onUnlock_outputs (h : Nat) : (m.onUnlock h).outputs = m.outputs := by
  rcases m.onUnlock_cases h with same | ⟨_, _, _, opened⟩
  · rw [same]
  · rw [opened]

@[simp] theorem beginSessionLock_outputs (bc : Bool) : (m.beginSessionLock bc).outputs = m.outputs := by
  unfold beginSessionLock
  dsimp only
  split
  · simp
  · split <;> simp [startSessionLock]

@[simp] theorem onNewSurface_outputs (h o : Nat) (tc : Bool) : (m.onNewSurface h o tc).outputs = m.outputs := by
  rcases m.onNewSurface_cases h o tc with same | ⟨_, _, _, _, added⟩
  · rw [same]
  · rw [added]

@[simp] theorem presentOutput_outputs (id seq : Nat) (presented : Bool) :
    (m.presentOutput id seq presented).outputs = m.outputs := by
  unfold presentOutput
  split
  · rfl
  · split <;> simp

theorem destroyOutput_outputs (id : Nat) : (m.destroyOutput id).outputs =
      m.outputs.modify id fun o => { o with alive := false } := by
  unfold destroyOutput
  dsimp only
  split
  · rfl
  · split <;> simp

end

end ProtocolManager

open ProtocolManager

theorem step_dead (m : ProtocolManager) (e : Event) {id : Nat} {o : Output}
    (found : m.outputs[id]? = some o) (dead : o.alive = false) :
    ∃ later, (step m e).outputs[id]? = some later ∧ later.alive = false := by
  cases e with
  | newOutput =>
    refine ⟨o, ?_, dead⟩
    have bound := (List.getElem?_eq_some_iff.mp found).1
    simp only [step, addOutput, List.getElem?_append_left bound, found]
  | outputCommit id' =>
    simp only [step, commitOutput, List.getElem?_modify, found]
    by_cases same : id' = id
    · exact ⟨o, by simp [same, dead], dead⟩
    · exact ⟨o, by simp [same], dead⟩
  | outputDestroy id' =>
    simp only [step, destroyOutput_outputs, List.getElem?_modify, found]
    by_cases same : id' = id
    · exact ⟨{ o with alive := false }, by simp [same], rfl⟩
    · exact ⟨o, by simp [same], dead⟩
  | _ => exact ⟨o, by simpa [step, onSurfaceMap, onSurfaceDestroy] using found, dead⟩

theorem step_length (m : ProtocolManager) (e : Event) : m.outputs.length ≤ (step m e).outputs.length := by
  cases e with
  | newOutput => simp [step, addOutput]
  | outputCommit => simp [step, commitOutput]
  | outputDestroy => simp [step, destroyOutput_outputs]
  | _ => simp [step, onSurfaceMap, onSurfaceDestroy]

theorem step_released (m : ProtocolManager) (seen : List Event) (e : Event) (id seq : Nat)
    (released : Released m seen id seq) :
    Released (step m e) (seen ++ [e]) id seq := by
  rcases released with ⟨o, found, dead⟩ | ⟨later, newer, presented⟩
  · exact .inl (step_dead m e found dead)
  · exact .inr ⟨later, newer, List.mem_append_left _ presented⟩

/-- While `lock` holds the session, each output it has to wait for is released or
has a presentation that completes only when it is; once told, all are released. -/
structure Awaits (lock : Nat) (tracked : Nat → Nat → Prop) (seen : List Event) (manager : ProtocolManager) :
    Prop where
  handedOut : lock < manager.nextLock
  known : ∀ id commitSeq, tracked id commitSeq → id < manager.outputs.length
  told : lock ∈ manager.lockedEvents → ∀ id commitSeq, tracked id commitSeq → Released manager seen id commitSeq
  once : manager.lockedEvents.count lock ≤ 1
  sent : ∀ state, manager.sessionLock = some state → state.handle = some lock →
    lock ∈ manager.lockedEvents → state.lockedSent = true
  pending : ∀ state, manager.sessionLock = some state → state.handle = some lock →
    ∀ id commitSeq, tracked id commitSeq → Released manager seen id commitSeq ∨
      ∃ item ∈ state.outputs, item.output = some id ∧ item.minimumCommitSeq = commitSeq + 1 ∧
        (item.presented = true → Released manager seen id commitSeq)

/-- A presentation among `items` still decides about each output that had one: it
completes only if the old one was complete or the output is released. -/
def Carries (released : Nat → Nat → Prop) (old items : List OutputPresentation) : Prop :=
  ∀ item ∈ old, ∀ id, item.output = some id → ∀ commitSeq, item.minimumCommitSeq = commitSeq + 1 →
    released id commitSeq ∨ ∃ next ∈ items, next.output = some id ∧ next.minimumCommitSeq = commitSeq + 1 ∧
      (next.presented = true → item.presented = true ∨ released id commitSeq)

theorem Carries.of_subset {released : Nat → Nat → Prop} {old items : List OutputPresentation}
    (kept : ∀ item ∈ old, item ∈ items) : Carries released old items := by
  intro item mem id named seq minimum
  exact .inr ⟨item, kept item mem, named, minimum, .inl⟩

theorem addOutput_lockedSent (os : List Output) (s : SessionLockState) (id : Nat) :
    (s.addOutput os id).lockedSent = s.lockedSent := by
  unfold SessionLockState.addOutput
  split
  · rfl
  · split <;> rfl

theorem mem_addOutput (os : List Output) (s : SessionLockState) (id : Nat) {item : OutputPresentation}
    (mem : item ∈ s.outputs) : item ∈ (s.addOutput os id).outputs := by
  unfold SessionLockState.addOutput
  split
  · exact mem
  · split
    · exact mem
    · exact List.mem_append_left _ mem

section

variable {l : Nat} {tracked : Nat → Nat → Prop} {seen : List Event} {m : ProtocolManager}

theorem Awaits.of_untold (handedOut : l < m.nextLock) (known : ∀ id seq, tracked id seq → id < m.outputs.length)
    (untold : l ∉ m.lockedEvents)
    (pending : ∀ s, m.sessionLock = some s → s.handle = some l → ∀ id seq, tracked id seq → Released m seen id seq ∨
        ∃ item ∈ s.outputs, item.output = some id ∧ item.minimumCommitSeq = seq + 1 ∧
          (item.presented = true → Released m seen id seq)) :
    Awaits l tracked seen m where
  handedOut := handedOut
  known := known
  told := fun told => absurd told untold
  once := by simp [List.count_eq_zero.mpr untold]
  sent := fun _ _ _ told => absurd told untold
  pending := pending

theorem Awaits.send (awaits : Awaits l tracked seen m) : Awaits l tracked seen m.maybeSendLocked := by
  rcases m.maybeSendLocked_cases with same | ⟨s, h, held, named, unsent, ready, sent⟩
  · rw [same]
    exact awaits
  · rw [sent]
    refine ⟨awaits.handedOut, awaits.known, ?_, ?_, ?_, ?_⟩
    · intro told id seq due
      rcases List.mem_cons.mp told with same | before
      · -- It is told now, so every item it waits for has been presented.
        subst same
        rcases awaits.pending s held named id seq due with released | ⟨item, mem, _, _, completes⟩
        · exact released
        · exact completes (ready item mem)
      · exact awaits.told before id seq due
    · by_cases same : h = l
      · subst same
        have untold : h ∉ m.lockedEvents := by
          intro told
          rw [awaits.sent s held named told] at unsent
          cases unsent
        simp [List.count_eq_zero.mpr untold]
      · simpa [List.count_cons, same] using awaits.once
    · intro next live _ _
      cases live
      rfl
    · intro next live nextNamed
      cases live
      exact awaits.pending s held nextNamed

section

variable {next : ProtocolManager} {e : Event} (awaits : Awaits l tracked seen m)
  (os : next.outputs = (step m e).outputs) (counter : m.nextLock ≤ next.nextLock)
  (silent : next.lockedEvents = m.lockedEvents)

include awaits os counter silent

/-- The rule for a step up to its possible announcement: the presentations of
`lock` are carried over. -/
theorem Awaits.carry (carried : ∀ s, next.sessionLock = some s → s.handle = some l → ∃ old,
      m.sessionLock = some old ∧ old.handle = some l ∧ old.lockedSent = s.lockedSent ∧
        Carries (fun id seq => id < m.outputs.length → Released next (seen ++ [e]) id seq) old.outputs s.outputs) :
    Awaits l tracked (seen ++ [e]) next := by
  have released : ∀ id seq, Released m seen id seq → Released next (seen ++ [e]) id seq := by
    intro id seq before
    simpa only [Released, os] using step_released m seen e id seq before
  refine ⟨Nat.lt_of_lt_of_le awaits.handedOut counter, ?_, ?_, silent ▸ awaits.once, ?_, ?_⟩
  · intro id seq due
    rw [os]
    exact Nat.lt_of_lt_of_le (awaits.known id seq due) (step_length m e)
  · intro told id seq due
    rw [silent] at told
    exact released id seq (awaits.told told id seq due)
  · intro s live named told
    obtain ⟨old, held, oldNamed, same, _⟩ := carried s live named
    rw [← same]
    exact awaits.sent old held oldNamed (silent ▸ told)
  · intro s live named id seq due
    obtain ⟨old, held, oldNamed, _, carries⟩ := carried s live named
    have bound := awaits.known id seq due
    rcases awaits.pending old held oldNamed id seq due with
      free | ⟨item, mem, o, minimum, completes⟩
    · exact .inl (released id seq free)
    · rcases carries item mem id o seq minimum with free | ⟨later, inNext, same, least, done⟩
      · exact .inl (free bound)
      · refine .inr ⟨later, inNext, same, least, ?_⟩
        intro presented
        rcases done presented with before | free
        · exact released id seq (completes before)
        · exact free bound

theorem Awaits.keep (kept : ∀ s, next.sessionLock = some s → s.handle = some l → ∃ old,
      m.sessionLock = some old ∧ old.handle = s.handle ∧ old.lockedSent = s.lockedSent ∧
        ∀ item ∈ old.outputs, item ∈ s.outputs) :
    Awaits l tracked (seen ++ [e]) next := by
  refine awaits.carry os counter silent ?_
  intro s live named
  obtain ⟨old, held, same, sent, subset⟩ := kept s live named
  exact ⟨old, held, same.trans named, sent, Carries.of_subset subset⟩

end

theorem Awaits.beginSessionLock (awaits : Awaits l tracked seen m) (sound : Sound m) (bc : Bool) :
    Awaits l tracked (seen ++ [.lockRequest bc]) (step m (.lockRequest bc)) := by
  simp only [step]
  cases held : m.sessionLock with
  | some =>
    rw [sound.beginSessionLock_held held]
    refine awaits.keep (by simp [step]) (Nat.le_succ _) rfl ?_
    intro next live named
    exact ⟨next, live, rfl, rfl, fun _ mem => mem⟩
  | none =>
    rcases beginSessionLock_free held bc with ⟨_, _, refused⟩ | ⟨_, started⟩
    · rw [refused]
      refine awaits.keep (by simp [step]) (Nat.le_succ _) rfl ?_
      intro next live
      cases held.symm.trans live
    · rw [started]
      refine .send (awaits.keep (by simp [step]) (Nat.le_succ _) rfl ?_)
      -- the new lock is a different object
      intro next live named
      have created := congrArg Prod.fst (addOutputs_control m.outputs
        (List.range m.outputs.length) (SessionLockState.listen m.nextLock))
      rw [← Option.some.inj live] at named
      have same := Option.some.inj (created.symm.trans named)
      have := awaits.handedOut
      omega

theorem Awaits.idle {e : Event} (awaits : Awaits l tracked seen m)
    (same : step m e = m) : Awaits l tracked (seen ++ [e]) m := by
  refine awaits.keep (by rw [same]) (Nat.le_refl _) rfl ?_
  intro s live _
  exact ⟨s, live, rfl, rfl, fun _ mem => mem⟩

section

variable (awaits : Awaits l tracked seen m)

include awaits

theorem Awaits.onDestroy (h : Nat) : Awaits l tracked (seen ++ [.destroy h]) (step m (.destroy h)) := by
  simp only [step]
  rcases m.onDestroy_cases h with same | ⟨_, _, _, ended⟩
  · rw [same]
    exact awaits.idle same
  · rw [ended]
    refine awaits.keep (by simp [step]) (Nat.le_refl _) rfl ?_
    intro s live
    cases live

theorem Awaits.onUnlock (h : Nat) : Awaits l tracked (seen ++ [.unlock h]) (step m (.unlock h)) := by
  simp only [step]
  rcases m.onUnlock_cases h with same | ⟨old, held, _, opened⟩
  · rw [same]
    exact awaits.idle same
  · rw [opened]
    refine awaits.keep (by simp [step]) (Nat.le_refl _) rfl ?_
    intro s live _
    cases live
    exact ⟨old, held, rfl, rfl, fun _ mem => mem⟩

theorem Awaits.onNewSurface (h o : Nat) (tc : Bool) : Awaits l tracked (seen ++ [.newSurface h o tc])
      (step m (.newSurface h o tc)) := by
  simp only [step]
  rcases m.onNewSurface_cases h o tc with same | ⟨old, _, held, _, added⟩
  · rw [same]
    exact awaits.idle same
  · rw [added]
    refine awaits.keep (by simp [step]) (Nat.le_refl _) rfl ?_
    intro s live _
    cases live
    exact ⟨old, held, rfl, rfl, fun _ mem => mem⟩

theorem Awaits.addOutput (seq : Nat) : Awaits l tracked (seen ++ [.newOutput seq]) (step m (.newOutput seq)) := by
  refine awaits.keep rfl (Nat.le_refl _) rfl ?_
  intro s live _
  simp only [step, ProtocolManager.addOutput, Option.map_eq_some_iff] at live
  obtain ⟨old, held, rfl⟩ := live
  refine ⟨old, held, (congrArg Prod.fst (addOutput_control _ old _)).symm, (addOutput_lockedSent _ old _).symm, ?_⟩
  intro item mem
  exact mem_addOutput _ old _ mem

theorem Awaits.presentOutput (id seq : Nat) (presented : Bool) :
    Awaits l tracked (seen ++ [.outputPresent id seq presented]) (step m (.outputPresent id seq presented)) := by
  have os := m.presentOutput_outputs id seq presented
  simp only [step, ProtocolManager.presentOutput]
  split
  · exact awaits.idle (by simp only [step, ProtocolManager.presentOutput, *])
  · rename_i old held
    split
    · refine .send (awaits.carry os.symm (Nat.le_refl _) rfl ?_)
      intro s live named
      cases live
      refine ⟨old, held, named, rfl, ?_⟩
      intro item mem id' o least minimum
      by_cases done : OutputPresentation.completedBy item id seq presented = true
      · -- the event that completes the presentation is the release
        left
        intro _
        simp only [OutputPresentation.completedBy, Bool.and_eq_true, beq_iff_eq, decide_eq_true_eq] at done
        obtain ⟨⟨⟨same, _⟩, rfl⟩, enough⟩ := done
        have : id' = id := Option.some.inj (o.symm.trans same)
        subst this
        exact .inr ⟨seq, by omega, List.mem_append_right _ (List.mem_singleton_self _)⟩
      · right
        refine ⟨item, ?_, o, minimum, .inl⟩
        exact List.mem_map.mpr ⟨item, mem, by simp [done]⟩
    · rename_i quiet
      exact awaits.idle (by simp only [step, ProtocolManager.presentOutput, held, quiet]; rfl)

theorem Awaits.destroyOutput (id : Nat) :
    Awaits l tracked (seen ++ [.outputDestroy id]) (step m (.outputDestroy id)) := by
  have os := m.destroyOutput_outputs id
  simp only [step, ProtocolManager.destroyOutput]
  split
  · rename_i free
    refine awaits.keep os.symm (Nat.le_refl _) rfl ?_
    intro s live
    cases free.symm.trans live
  · rename_i old held
    split
    · refine .send (awaits.carry os.symm (Nat.le_refl _) rfl ?_)
      intro s live named
      cases live
      refine ⟨old, held, named, rfl, ?_⟩
      intro item mem id' o least minimum
      by_cases gone : item.output = some id
      · -- The item loses its output, which is dead from here on.
        left
        intro bound
        have : id' = id := Option.some.inj (o.symm.trans gone)
        subst this
        exact .inl ⟨{ m.outputs[id'] with alive := false }, by simp [bound], rfl⟩
      · right
        refine ⟨item, ?_, o, minimum, .inl⟩
        exact List.mem_map.mpr ⟨item, mem, by simp [gone]⟩
    · refine awaits.keep os.symm (Nat.le_refl _) rfl ?_
      intro s live _
      cases live
      exact ⟨old, held, rfl, rfl, fun _ mem => mem⟩

end

theorem Awaits.surface {e : Event} {surfaces : List LockSurface → List LockSurface} (awaits : Awaits l tracked seen m)
    (changed : step m e = { m with sessionLock := m.sessionLock.map fun s =>
      { s with surfaces := surfaces s.surfaces } }) :
    Awaits l tracked (seen ++ [e]) (step m e) := by
  rw [changed]
  refine awaits.keep (by rw [changed]) (Nat.le_refl _) rfl ?_
  intro s live _
  simp only [Option.map_eq_some_iff] at live
  obtain ⟨old, held, rfl⟩ := live
  exact ⟨old, held, rfl, rfl, fun _ mem => mem⟩

theorem step_awaits (e : Event) (sound : Sound m) (awaits : Awaits l tracked seen m) :
    Awaits l tracked (seen ++ [e]) (step m e) := by
  cases e with
  | lockRequest bc => exact awaits.beginSessionLock sound bc
  | unlock h => exact awaits.onUnlock h
  | destroy h => exact awaits.onDestroy h
  | newSurface h o tc => exact awaits.onNewSurface h o tc
  | surfaceMap | surfaceDestroy => exact awaits.surface rfl
  | newOutput seq => exact awaits.addOutput seq
  | outputCommit =>
    refine awaits.keep rfl (Nat.le_refl _) rfl ?_
    intro s live _
    exact ⟨s, live, rfl, rfl, fun _ mem => mem⟩
  | outputPresent o seq presented => exact awaits.presentOutput o seq presented
  | outputDestroy o => exact awaits.destroyOutput o

theorem run_awaits (events : List Event) (sound : Sound m) (awaits : Awaits l tracked seen m) :
    Awaits l tracked (seen ++ events) (run step m events) := by
  induction events generalizing m seen with
  | nil => simpa using awaits
  | cons e rest ih =>
    have next := ih (step_sound m e sound) (step_awaits e sound awaits)
    simpa using next

end

def Pristine (outputs : List Output) (item : OutputPresentation) : Prop :=
  ∃ id output, item.output = some id ∧ outputs[id]? = some output ∧
    item.minimumCommitSeq = output.commitSeq + 1 ∧ item.presented = false

theorem addOutput_pristine {os : List Output} {s : SessionLockState}
    (pristine : ∀ item ∈ s.outputs, Pristine os item) (id : Nat) :
    ∀ item ∈ (s.addOutput os id).outputs, Pristine os item := by
  unfold SessionLockState.addOutput
  split
  · exact pristine
  · rename_i o found
    split
    · exact pristine
    · intro item mem
      rcases List.mem_append.mp mem with old | new
      · exact pristine item old
      · rw [List.mem_singleton.mp new]
        exact ⟨id, o, rfl, found, rfl, rfl⟩

theorem addOutput_covers {os : List Output} {s : SessionLockState} {id : Nat} {o : Output}
    (silent : s.lockedSent = false) (found : os[id]? = some o) (alive : o.alive = true)
    (enabled : o.enabled = true) : ∃ item ∈ (s.addOutput os id).outputs, item.output = some id := by
  unfold SessionLockState.addOutput
  simp only [found, silent, alive, enabled, Bool.not_true, Bool.or_self, Bool.false_or]
  split
  · rename_i listed
    obtain ⟨item, mem, same⟩ := List.any_eq_true.mp listed
    exact ⟨item, mem, by simpa using same⟩
  · exact ⟨.create id o, by simp, rfl⟩

theorem addOutputs_covers {os : List Output} (ids : List Nat) {s : SessionLockState}
    (silent : s.lockedSent = false) (pristine : ∀ item ∈ s.outputs, Pristine os item) :
    let tracked := ids.foldl (SessionLockState.addOutput os) s
    (∀ item ∈ tracked.outputs, Pristine os item) ∧ (∀ item ∈ s.outputs, item ∈ tracked.outputs) ∧
      ∀ id ∈ ids, ∀ o, os[id]? = some o → o.alive = true → o.enabled = true →
        ∃ item ∈ tracked.outputs, item.output = some id := by
  induction ids generalizing s with
  | nil => exact ⟨pristine, fun _ mem => mem, by simp⟩
  | cons first rest ih =>
    obtain ⟨all, kept, covered⟩ := ih ((addOutput_lockedSent os s first).trans silent)
      (addOutput_pristine pristine first)
    refine ⟨all, fun item mem => kept item (mem_addOutput os s first mem), ?_⟩
    intro id mem o found alive enabled
    rcases List.mem_cons.mp mem with same | later
    · subst same
      obtain ⟨item, added, named⟩ := addOutput_covers silent found alive enabled
      exact ⟨item, kept item added, named⟩
    · exact covered id later o found alive enabled

section

variable (m : ProtocolManager)

theorem create_covers (h : Nat) {id seq : Nat} (due : m.Tracked id seq) :
    ∃ item ∈ (SessionLockState.create m.outputs h).outputs, item.output = some id ∧
      item.minimumCommitSeq = seq + 1 ∧ item.presented = false := by
  obtain ⟨o, found, alive, enabled, rfl⟩ := due
  have bound := (List.getElem?_eq_some_iff.mp found).1
  have untold : (SessionLockState.listen h).lockedSent = false := rfl
  obtain ⟨pristine, _, covered⟩ := addOutputs_covers (List.range m.outputs.length) untold
    (by simp [SessionLockState.listen])
  obtain ⟨item, mem, named⟩ := covered id (List.mem_range.mpr bound) o found alive enabled
  obtain ⟨id', same, named', found', minimum, fresh⟩ := pristine item mem
  have : id = id' := Option.some.inj (named.symm.trans named')
  subst this
  have : o = same := Option.some.inj (found.symm.trans found')
  subst this
  exact ⟨item, mem, named, minimum, fresh⟩

theorem maybeSendLocked_events : m.maybeSendLocked.lockedEvents = m.lockedEvents ∨
      ∃ l, m.maybeSendLocked.currentLock = some l ∧ m.maybeSendLocked.lockedEvents = l :: m.lockedEvents := by
  rcases m.maybeSendLocked_cases with same | ⟨s, l, held, named, _, _, sent⟩
  · rw [same]
    exact .inl rfl
  · rw [sent]
    exact .inr ⟨l, by simp [currentLock, named], rfl⟩

theorem step_events (e : Event) : (step m e).lockedEvents = m.lockedEvents ∨ ∃ l, (step m e).currentLock = some l ∧
        (step m e).lockedEvents = l :: m.lockedEvents := by
  cases e with
  | lockRequest bc =>
    simp only [step, beginSessionLock]
    split
    · rcases onDestroy_cases { m with nextLock := m.nextLock + 1 } m.nextLock with
        same | ⟨_, _, _, ended⟩
      · rw [same]; exact .inl rfl
      · rw [ended]; exact .inl rfl
    · rename_i free
      split
      · simp [onDestroy, free]
      · exact maybeSendLocked_events _
  | unlock l =>
    rcases m.onUnlock_cases l with same | ⟨_, _, _, opened⟩
    · exact .inl (by simp only [step, same])
    · exact .inl (by simp only [step, opened])
  | destroy l =>
    rcases m.onDestroy_cases l with same | ⟨_, _, _, ended⟩
    · exact .inl (by simp only [step, same])
    · exact .inl (by simp only [step, ended])
  | newSurface l o tc =>
    rcases m.onNewSurface_cases l o tc with same | ⟨_, _, _, _, added⟩
    · exact .inl (by simp only [step, same])
    · exact .inl (by simp only [step, added])
  | outputPresent =>
    simp only [step, presentOutput]
    split
    · exact .inl rfl
    · split
      · exact maybeSendLocked_events _
      · exact .inl rfl
  | outputDestroy =>
    simp only [step, destroyOutput]
    split
    · exact .inl rfl
    · split
      · exact maybeSendLocked_events _
      · exact .inl rfl
  | _ => exact .inl rfl

theorem step_nextLock (e : Event) (sound : Sound m) : m.nextLock ≤ (step m e).nextLock := by
  rcases step_holder m e with ⟨bc, rfl⟩ | ⟨l, rfl⟩ | ⟨l, rfl⟩ | same
  · simp only [step]
    cases held : m.sessionLock with
    | some =>
      rw [sound.beginSessionLock_held held]
      exact Nat.le_succ _
    | none =>
      rcases beginSessionLock_free held bc with ⟨_, _, refused⟩ | ⟨_, started⟩
      · rw [refused]
        exact Nat.le_succ _
      · rw [started, (startSessionLock_holder _ _).2.2.2]
        exact Nat.le_succ _
  · rcases m.onUnlock_cases l with unheard | ⟨_, _, _, opened⟩
    · simp only [step, unheard, Nat.le_refl]
    · simp only [step, opened, Nat.le_refl]
  · rcases m.onDestroy_cases l with unheard | ⟨_, _, _, ended⟩
    · simp only [step, unheard, Nat.le_refl]
    · simp only [step, ended, Nat.le_refl]
  · exact Nat.le_of_eq same.nextLock.symm

end

def ToldOld (manager : ProtocolManager) : Prop :=
  Sound manager ∧ ∀ lock ∈ manager.lockedEvents, lock < manager.nextLock

theorem step_toldOld (m : ProtocolManager) (e : Event) (told : ToldOld m) : ToldOld (step m e) := by
  have next := step_sound m e told.1
  have counter := step_nextLock m e told.1
  refine ⟨next, ?_⟩
  intro l mem
  rcases step_events m e with silent | ⟨current, holds, announced⟩
  · rw [silent] at mem
    exact Nat.lt_of_lt_of_le (told.2 l mem) counter
  · rw [announced] at mem
    rcases List.mem_cons.mp mem with same | before
    · subst same
      exact next.current_old holds
    · exact Nat.lt_of_lt_of_le (told.2 l before) counter

theorem run_toldOld (events : List Event) : ToldOld (run step initial events) :=
  Transition.run_invariant step_toldOld ⟨Sound.initial, by simp [initial]⟩ events

theorem start_awaits (before : List Event) (bc : Bool) : let start := run step initial before
    Awaits start.nextLock start.Tracked [] (step start (.lockRequest bc)) := by
  intro start
  have sound : Sound start := run_sound before
  have untold : start.nextLock ∉ start.lockedEvents := by
    intro told
    exact Nat.lt_irrefl _ ((run_toldOld before).2 start.nextLock told)
  have known : ∀ id seq, start.Tracked id seq → id < start.outputs.length := by
    rintro id seq ⟨o, found, _⟩
    exact (List.getElem?_eq_some_iff.mp found).1
  simp only [step]
  cases held : start.sessionLock with
  | some s =>
    obtain ⟨id, named, _, old, _⟩ := sound.live held
    rw [sound.beginSessionLock_held held]
    -- The request is rejected: the live lock is an older object.
    refine .of_untold (Nat.lt_succ_self _) known untold ?_
    intro other live h
    cases held.symm.trans live
    rw [named] at h
    have := Option.some.inj h
    omega
  | none =>
    rcases beginSessionLock_free held bc with ⟨_, _, refused⟩ | ⟨_, started⟩
    · rw [refused]
      refine .of_untold (Nat.lt_succ_self _) known untold ?_
      intro other live
      cases held.symm.trans live
    · rw [started]
      -- A new `SessionLockState` makes a first call of `MaybeSendLocked`; without outputs it tells at once.
      refine .send (Awaits.of_untold (Nat.lt_succ_self _) known untold ?_)
      intro s live _ id seq due
      cases live
      obtain ⟨item, mem, named, minimum, fresh⟩ := create_covers start start.nextLock due
      refine .inr ⟨item, mem, named, minimum, ?_⟩
      intro presented
      simp [fresh] at presented

/-- The lock object of a request made in any reachable state is told `locked` at
most once, and only after every output that was enabled when it began has been
destroyed or has presented a commit made since. -/
theorem locked_after_presentation (before after : List Event) (blankCreated : Bool) :
    let start := run step initial before
    let final := run step initial (before ++ .lockRequest blankCreated :: after)
    final.lockedEvents.count start.nextLock ≤ 1 ∧
    (start.nextLock ∈ final.lockedEvents → ∀ id output, start.outputs[id]? = some output →
      output.alive = true → output.enabled = true →
        (∃ later, final.outputs[id]? = some later ∧ later.alive = false) ∨
        ∃ commitSeq, output.commitSeq < commitSeq ∧ .outputPresent id commitSeq true ∈ after) := by
  intro start final
  have began : Awaits start.nextLock start.Tracked [] (step start (.lockRequest blankCreated)) :=
    start_awaits before blankCreated
  have sound := step_sound start (.lockRequest blankCreated) (run_sound before)
  have reached : final = run step (step start (.lockRequest blankCreated)) after := by
    simp only [final, start, Transition.run_append, Transition.run_cons]
  have awaits : Awaits start.nextLock start.Tracked after final := by
    rw [reached]
    exact run_awaits after sound began
  refine ⟨awaits.once, ?_⟩
  intro told id output found alive enabled
  exact awaits.told told id output.commitSeq ⟨output, found, alive, enabled, rfl⟩

-- A frame committed before the lock began does not count; the next one does.
example : (run step initial [.newOutput 1, .lockRequest true, .outputPresent 0 1 true]).lockedEvents = [] := by
  decide

example : (run step initial [.newOutput 1, .lockRequest true, .outputCommit 0 true,
    .outputPresent 0 2 true]).lockedEvents = [0] := by
  decide

end FlakeWM.Session
