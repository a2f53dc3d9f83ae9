import FlakeWM.Desktop.WindowLife
import FlakeWM.Lib.Stacking

/-! The stacking order of the windows.

The scene keeps the trees of the windows in one order. A window that owns a tree
is there once, and only such windows are mapped. -/

set_option autoImplicit false

namespace FlakeWM.Desktop

structure Toplevel.Owned (toplevel : Toplevel) : Prop where
  mapped : toplevel.mapped = true → toplevel.alive = true ∧ toplevel.sceneTree = true
  tree : toplevel.sceneTree = true → toplevel.surface = true

namespace Windows

open State Stacking

structure KeepsTrees (before after : Windows) : Prop where
  length : after.toplevels.length = before.toplevels.length
  kept : ∀ (id : Nat) next, after.toplevels[id]? = some next → ∃ toplevel, before.toplevels[id]? = some toplevel ∧
    next.sceneTree = toplevel.sceneTree ∧ (toplevel.Owned → next.Owned)

section

variable {before middle after ws : Windows} {id : Nat}

theorem KeepsTrees.refl (ws : Windows) : KeepsTrees ws ws :=
  ⟨rfl, fun _ next found => ⟨next, found, rfl, fun owned => owned⟩⟩

theorem KeepsTrees.trans (left : KeepsTrees before middle) (right : KeepsTrees middle after) :
    KeepsTrees before after := by
  refine ⟨right.length.trans left.length, fun id last found => ?_⟩
  obtain ⟨next, found, tree, owned⟩ := right.kept id last found
  obtain ⟨t, found, first, old⟩ := left.kept id next found
  exact ⟨t, found, tree.trans first, fun held => owned (old held)⟩

theorem Edits.keepsTrees {edit : Toplevel → Toplevel → Prop} (edits : Edits id edit before after)
    (kept : ∀ t next, edit t next →
      next.sceneTree = t.sceneTree ∧ (t.Owned → next.Owned)) : KeepsTrees before after := by
  refine ⟨edits.length, fun i next found => ?_⟩
  obtain ⟨t, original, f⟩ := edits.origin found
  refine ⟨t, original, ?_⟩
  rcases f with ⟨_, reshown⟩ | ⟨_, edited⟩
  · rw [reshown]
    exact ⟨rfl, fun owned => ⟨owned.mapped, owned.tree⟩⟩
  · exact kept t next edited

theorem KeepsLives.keepsTrees (kept : KeepsLives before after) : KeepsTrees before after := by
  refine ⟨kept.length, fun id next found => ?_⟩
  obtain ⟨t, original, same⟩ := kept.kept id next found
  refine ⟨t, original, same.sceneTree, fun owned => ⟨?_, ?_⟩⟩
  · rw [same.mapped, same.alive, same.sceneTree]
    exact owned.mapped
  · rw [same.sceneTree, same.surface]
    exact owned.tree

theorem keepsTrees_arranged (edits : Edits id Toplevel.Arranged before after) : KeepsTrees before after :=
  (keepsLives_arranged edits).keepsTrees

theorem keepsTrees_switchTo (ws : Windows) (n : Int) : KeepsTrees ws (ws.switchTo n) :=
  (keepsLives_switchTo ws n).keepsTrees

theorem keepsTrees_map_event (ws : Windows) (id : Nat) (big : Bool) : KeepsTrees ws (ws.map id big) :=
  (edits_map ws id big).keepsTrees fun t next edited => by
    obtain ⟨arranged, mapped⟩ := edited
    rw [arranged]
    refine ⟨rfl, fun owned => ⟨fun shown => ?_, owned.tree⟩⟩
    rcases mapped with same | ⟨alive, _, tree⟩
    · exact owned.mapped (same ▸ shown)
    · exact ⟨alive, tree⟩

theorem keepsTrees_unmap (ws : Windows) (id : Nat) : KeepsTrees ws (ws.unmap id) :=
  (edits_unmap ws id).keepsTrees fun t next edited => by
    obtain ⟨unmapped, reshown⟩ := edited
    rw [reshown]
    refine ⟨rfl, fun owned => ⟨fun shown => ?_, owned.tree⟩⟩
    cases shown

end

end Windows

namespace State

open Windows Stacking

def changesTrees : Event → Bool
  | .newToplevel _ | .associate .. | .dissociate _ | .destroy _ => true
  | _ => false

theorem windowsAfter_keepsTrees (s : State) (e : Event) (kept : changesTrees e = false) :
    KeepsTrees s.windows (s.windowsAfter e) := by
  cases lives : changesLives e with
  | false => exact (windowsAfter_keepsLives s e lives).keepsTrees
  | true =>
    -- of the events in a window's life, only these two leave its tree alone
    cases e with
    | map id big => exact keepsTrees_map_event _ id big
    | unmap id => exact keepsTrees_unmap _ id
    | newToplevel | associate | dissociate | destroy => cases kept
    | _ => cases lives

structure Staged (state : State) : Prop where
  distinct : state.stack.Nodup
  trees : ∀ id, id ∈ state.stack ↔ state.windows.test id (·.sceneTree) = true
  owned : ∀ toplevel ∈ state.windows.toplevels, toplevel.Owned

section

variable {s : State} {id : Nat}

theorem Staged.keepsTrees (staged : s.Staged) {ws : Windows} {stack : List Nat}
    (kept : KeepsTrees s.windows ws) (distinct : stack.Nodup)
    (same : ∀ id, id ∈ stack ↔ id ∈ s.stack) : Staged { s with windows := ws, stack := stack } where
  distinct := distinct
  trees := by
    intro id
    rw [same, staged.trees]
    cases found : ws.toplevels[id]? with
    | none =>
      have missing : s.windows.toplevels[id]? = none := by
        rw [List.getElem?_eq_none_iff] at found ⊢
        rwa [← kept.length]
      simp [test, found, missing]
    | some next =>
      obtain ⟨t, original, tree, _⟩ := kept.kept id next found
      simp [test, found, original, tree]
  owned := by
    intro next mem
    obtain ⟨id, found⟩ := List.mem_iff_getElem?.mp mem
    obtain ⟨t, original, _, owned⟩ := kept.kept id next found
    exact owned (staged.owned t (List.mem_of_getElem? original))

theorem Staged.windows (staged : s.Staged) {ws : Windows}
    (kept : KeepsTrees s.windows ws) : Staged { s with windows := ws } :=
  staged.keepsTrees kept staged.distinct fun _ => Iff.rfl

theorem Staged.of_same {next : State} (staged : s.Staged) (ws : next.windows = s.windows)
    (stack : next.stack = s.stack) : next.Staged :=
  ⟨stack ▸ staged.distinct, by rw [stack, ws]; exact staged.trees, ws ▸ staged.owned⟩

theorem Staged.mapped_mem (staged : s.Staged) (mapped : s.windows.test id (·.mapped) = true) :
    id ∈ s.stack ∧ s.windows.test id (·.surface) = true := by
  obtain ⟨t, found, mapped⟩ := test_iff.mp mapped
  have owned := staged.owned t (List.mem_of_getElem? found)
  have tree := (owned.mapped mapped).2
  exact ⟨(staged.trees id).mpr (test_iff.mpr ⟨t, found, tree⟩), test_iff.mpr ⟨t, found, owned.tree tree⟩⟩

/-- The windows that `FocusToplevel` raises after the one it focuses. -/
def raisedAfter (windows : Windows) (id other : Nat) : Bool :=
  other != id && windows.test other fun toplevel =>
    toplevel.keptAbove && toplevel.sceneTree && windows.isToplevelVisible toplevel

theorem restack_eq (s : State) (id : Nat) : s.restack id =
    let above := raiseAll (raisedAfter s.windows id) (toTop s.stack id) (List.range s.windows.toplevels.length)
    if s.windows.test id (·.keptAbove) then toTop above id else above := rfl

theorem raisedAfter_tree {ws : Windows} {id' : Nat} (raised : raisedAfter ws id id' = true) :
    ws.test id' (·.sceneTree) = true := by
  simp only [raisedAfter, Bool.and_eq_true] at raised
  obtain ⟨t, found, raised⟩ := test_iff.mp raised.2
  simp only [Bool.and_eq_true] at raised
  exact test_iff.mpr ⟨t, found, raised.1.2⟩

theorem Staged.restack (staged : s.Staged) (mem : id ∈ s.stack) :
    (s.restack id).Nodup ∧ ∀ id', id' ∈ s.restack id ↔ id' ∈ s.stack := by
  have distinct : (raiseAll (raisedAfter s.windows id) (toTop s.stack id)
      (List.range s.windows.toplevels.length)).Nodup :=
    nodup_raiseAll (nodup_toTop staged.distinct id)
  have members : ∀ id', id' ∈ raiseAll (raisedAfter s.windows id) (toTop s.stack id)
      (List.range s.windows.toplevels.length) ↔ id' ∈ s.stack := by
    intro id'
    rw [mem_raiseAll, mem_toTop]
    constructor
    · rintro ((rfl | held) | ⟨_, raised⟩)
      · exact mem
      · exact held
      · exact (staged.trees id').mpr (raisedAfter_tree raised)
    · exact fun held => .inl (.inr held)
  rw [restack_eq]
  split
  · refine ⟨nodup_toTop distinct id, fun id' => ?_⟩
    rw [mem_toTop, members]
    constructor
    · rintro (rfl | held)
      · exact mem
      · exact held
    · exact .inr
  · exact ⟨distinct, members⟩

theorem acceptsFocus_mapped (accepts : s.acceptsFocus id = true) : s.windows.test id (·.mapped) = true := by
  simp only [acceptsFocus, Bool.and_eq_true] at accepts
  obtain ⟨t, found, accepts⟩ := test_iff.mp accepts.2
  simp only [Bool.and_eq_true] at accepts
  exact test_iff.mpr ⟨t, found, accepts.1.1.1.1.1⟩

/-- `FocusToplevel` restacks, or leaves the order alone. -/
theorem focusToplevel_stack (s : State) (id : Nat) : (s.focusToplevel id).stack = s.stack ∨
      s.acceptsFocus id = true ∧ (s.focusToplevel id).stack = s.restack id := by
  unfold focusToplevel
  split
  · exact .inl rfl
  · rename_i accepts
    have accepts : s.acceptsFocus id = true := by simpa using accepts
    split
    · exact .inl (focusLayerSurface_stack s _)
    · split
      · exact .inl rfl
      · exact .inr ⟨accepts, enter_stack _ _⟩

theorem Staged.focusToplevel (staged : s.Staged) (id : Nat) : (s.focusToplevel id).Staged := by
  rcases focusToplevel_stack s id with same | ⟨accepts, restacked⟩
  · exact staged.of_same (focusToplevel_windows s id) same
  · have order := staged.restack (staged.mapped_mem (acceptsFocus_mapped accepts)).1
    have raised := staged.keepsTrees (KeepsTrees.refl _) order.1 order.2
    exact raised.of_same (focusToplevel_windows s id) restacked

theorem Staged.focusNextToplevel (staged : s.Staged) (ex : Option Nat) : (s.focusNextToplevel ex).Staged := by
  have ws := focusNextToplevel_windows s ex
  unfold State.focusNextToplevel at ws ⊢
  split
  · exact staged
  · split
    · exact staged.of_same (focusLayerSurface_windows s _) (focusLayerSurface_stack s _)
    · split
      · exact staged.focusToplevel _
      · exact staged.of_same rfl rfl

theorem Refocuses.staged {next : State} (ends : Refocuses s next) (staged : s.Staged) : next.Staged := by
  cases ends with
  | stay => exact staged
  | focusToplevel id => exact staged.focusToplevel id
  | focusNextToplevel ex => exact staged.focusNextToplevel ex

theorem Staged.orphan (staged : s.Staged) (gone : Surface → Bool) : (s.orphan gone).Staged :=
  staged.of_same rfl rfl

theorem Staged.append (staged : s.Staged) {ws : Windows} (fresh : id ∉ s.stack)
    (trees : ∀ id', ws.test id' (·.sceneTree) = true ↔ s.windows.test id' (·.sceneTree) = true ∨ id' = id)
    (owned : ∀ t ∈ ws.toplevels, t.Owned) :
    Staged { s with windows := ws, stack := s.stack ++ [id] } where
  distinct := by
    refine List.nodup_append.mpr ⟨staged.distinct, List.nodup_singleton id, ?_⟩
    intro id' mem last there equal
    rw [List.mem_singleton] at there
    subst equal
    subst there
    exact fresh mem
  trees := by
    intro id'
    rw [List.mem_append, List.mem_singleton, trees, staged.trees]
  owned := owned

theorem Staged.erase (staged : s.Staged) {ws : Windows} (trees : ∀ id', ws.test id' (·.sceneTree) = true ↔
      s.windows.test id' (·.sceneTree) = true ∧ id' ≠ id)
    (owned : ∀ t ∈ ws.toplevels, t.Owned) :
    Staged { s with windows := ws, stack := s.stack.erase id } where
  distinct := staged.distinct.erase id
  trees := by
    intro id'
    rw [trees, staged.distinct.mem_erase_iff, staged.trees]
    exact and_comm
  owned := owned

section

variable (staged : s.Staged) (id : Nat)

include staged

theorem Staged.finishUnmap (hadFocus : Bool) : (s.finishUnmap id hadFocus).Staged := by
  have hidden := staged.windows (keepsTrees_unmap s.windows id)
  unfold State.finishUnmap
  split
  · exact hidden.focusNextToplevel (some id)
  · exact hidden

theorem Staged.unmap : (s.unmap id).Staged := by
  rw [unmap_eq]
  split
  · exact staged.finishUnmap id _
  · exact staged

theorem Staged.map (big : Bool) : (s.map id big).Staged :=
  (refocuses_map s id big).staged (staged.windows (keepsTrees_map_event s.windows id big))

theorem Staged.addToplevel (xw : Bool) : (s.addToplevel xw).Staged := by
  have trees : ∀ id', (s.windows.add xw).test id' (·.sceneTree) = true ↔
      s.windows.test id' (·.sceneTree) = true ∨ xw = false ∧ id' = s.windows.toplevels.length := by
    intro id'
    simp only [test, add]
    rcases Nat.lt_trichotomy id' s.windows.toplevels.length with old | rfl | later
    · rw [List.getElem?_append_left old]
      simp [Nat.ne_of_lt old]
    · simp [Toplevel.create]
    · rw [List.getElem?_append_right (Nat.le_of_lt later), List.getElem?_eq_none_iff.mpr (Nat.le_of_lt later)]
      have beyond : id' - s.windows.toplevels.length ≠ 0 := by omega
      simp [beyond, Nat.ne_of_gt later]
  have owned : ∀ t ∈ (s.windows.add xw).toplevels, t.Owned := by
    intro t mem
    rcases List.mem_append.mp mem with old | new
    · exact staged.owned t old
    · rw [List.mem_singleton.mp new]
      constructor
      · intro mapped
        cases mapped
      · intro tree
        exact tree
  have fresh : s.windows.toplevels.length ∉ s.stack := by
    rw [staged.trees]
    simp [test]
  cases xw with
  | true =>
    refine ⟨staged.distinct, fun id' => ?_, owned⟩
    show id' ∈ s.stack ↔ (s.windows.add true).test id' (·.sceneTree) = true
    rw [staged.trees, trees]
    simp
  | false => exact staged.append fresh (fun id' => by rw [trees]; simp) owned

theorem Staged.associated (tc sm : Bool) (accepted : s.windows.test id (fun t =>
      t.xwayland && t.alive && !t.surface) = true) :
    Staged { s with
      windows := s.windows.associate id tc sm
      stack := if tc then s.stack ++ [id] else s.stack } := by
  obtain ⟨t, found, bare⟩ := test_iff.mp accepted
  simp only [Bool.and_eq_true, Bool.not_eq_true'] at bare
  -- without a surface the window has no tree and is not mapped
  have before := staged.owned t (List.mem_of_getElem? found)
  have noTree : t.sceneTree = false := by
    by_contra tree
    rw [before.tree (by simpa using tree)] at bare
    cases bare.2
  have unmapped : t.mapped = false := by
    by_contra mapped
    rw [(before.mapped (by simpa using mapped)).2] at noTree
    cases noTree
  have trees : ∀ id', (s.windows.associate id tc sm).test id' (·.sceneTree) = true ↔
      s.windows.test id' (·.sceneTree) = true ∨ tc = true ∧ id' = id := by
    intro id'
    simp only [Windows.associate, accepted, if_true, Windows.test_update]
    by_cases same : id = id'
    · subst same
      simp [Windows.test, found, noTree]
    · simp [same, Ne.symm same]
  have owned : ∀ t ∈ (s.windows.associate id tc sm).toplevels, t.Owned := by
    intro next mem
    obtain ⟨id', there⟩ := List.mem_iff_getElem?.mp mem
    simp only [Windows.associate, accepted, if_true, Windows.update_get, Option.map_eq_some_iff] at there
    obtain ⟨original, old, rfl⟩ := there
    split
    · rename_i same
      rw [← same, found, Option.some_inj] at old
      subst old
      refine ⟨fun mapped => ?_, fun _ => rfl⟩
      cases unmapped.symm.trans mapped
    · exact staged.owned original (List.mem_of_getElem? old)
  have fresh : id ∉ s.stack := by
    rw [staged.trees]
    simp [test, found, noTree]
  cases tc with
  | true => exact staged.append fresh (fun id' => by rw [trees]; simp) owned
  | false =>
    refine ⟨staged.distinct, fun id' => ?_, owned⟩
    show id' ∈ s.stack ↔ _
    rw [staged.trees, trees]
    simp

theorem Staged.associate (tc sm big : Bool) : (s.associate id tc sm big).Staged := by
  unfold State.associate
  split
  · rename_i accepted
    have associated := staged.associated id tc sm accepted
    dsimp only
    split
    · exact associated.map id big
    · exact associated
  · exact staged

theorem Staged.lose {after : Windows} {edit : Toplevel → Toplevel → Prop} (edits : Edits id edit s.windows after)
    (lost : ∀ t next, edit t next → next.sceneTree = false ∧ next.mapped = false) :
    Staged { s with windows := after, stack := s.stack.erase id } := by
  refine staged.erase (fun id' => ?_) ?_
  · rw [edits.loses (fun _ _ => rfl) fun t next edited => (lost t next edited).1]
    simp
  · intro next mem
    obtain ⟨i, found⟩ := List.mem_iff_getElem?.mp mem
    obtain ⟨t, original, f⟩ := edits.origin found
    rcases f with ⟨_, reshown⟩ | ⟨_, edited⟩
    · have owned := staged.owned t (List.mem_of_getElem? original)
      rw [reshown]
      exact ⟨owned.mapped, owned.tree⟩
    · obtain ⟨tree, mapped⟩ := lost t next edited
      refine ⟨fun shown => ?_, fun held => ?_⟩
      · cases mapped.symm.trans shown
      · cases tree.symm.trans held

theorem Staged.finishDissociate : (s.finishDissociate id).Staged := by
  have lost := staged.lose id (edits_loseSurface _ id) fun t next edited => by
    rw [edited]
    exact ⟨rfl, rfl⟩
  exact lost.orphan _

theorem Staged.finishDestroy : (s.finishDestroy id).Staged := by
  have lost := staged.lose id (edits_loseHandle _ id) fun t next edited => by
    rw [edited]
    exact ⟨rfl, rfl⟩
  exact lost.orphan _

theorem Staged.dissociate : (s.dissociate id).Staged := by
  rw [dissociate_eq]
  split
  · exact (staged.unmap id).finishDissociate id
  · exact staged

theorem Staged.destroyToplevel : (s.destroyToplevel id).Staged := by
  rw [destroyToplevel_eq]
  exact (staged.unmap id).finishDestroy id

theorem Staged.switchWorkspace (n : Int) : (s.switchWorkspace n).Staged := by
  unfold State.switchWorkspace
  split
  · have switched := staged.windows (keepsTrees_switchTo s.windows n)
    refine .focusNextToplevel ?_ none
    split
    · exact switched.of_same rfl rfl
    · exact switched
  · exact staged

theorem Staged.switchToOwnWorkspace : (s.switchToOwnWorkspace id).Staged := by
  unfold State.switchToOwnWorkspace
  split
  · exact staged
  · exact staged.switchWorkspace _

end

theorem step_staged (s : State) (e : Event) (staged : s.Staged) : (step s e).Staged := by
  -- the windows an event leaves, before the focus moves
  have changed : ∀ e, changesTrees e = false → Staged { s with windows := s.windowsAfter e } :=
    fun e kept => staged.windows (windowsAfter_keepsTrees s e kept)
  cases e with
  | newToplevel xw => exact staged.addToplevel xw
  | associate id => exact staged.associate id ..
  | dissociate id => exact staged.dissociate id
  | destroy id => exact staged.destroyToplevel id
  | map id big => exact staged.map id big
  | unmap id => exact staged.unmap id
  | multitaskingActivate id =>
    unfold step multitaskingActivate
    dsimp only
    split
    · refine .focusToplevel ((staged.switchToOwnWorkspace id).windows ?_) id
      exact keepsTrees_arranged (edits_multitaskingRestore _ id).arranged
    · exact staged
  | previewsActivate id =>
    unfold step previewsActivate
    dsimp only
    split
    · refine .focusToplevel (Staged.switchToOwnWorkspace (staged.windows ?_) id) id
      exact keepsTrees_arranged (edits_previewsRestore _ id).arranged
    · exact staged
  | switchWorkspace n => exact staged.switchWorkspace n
  | setKeptAbove id keptAbove =>
    have shown := windowsAfter_keepsTrees s (.setKeptAbove id keptAbove) rfl
    unfold step setKeptAbove
    dsimp only [windowsAfter] at shown ⊢
    split
    · rename_i accepted
      rw [if_pos accepted] at shown
      split
      · rename_i raised
        have mem : id ∈ s.stack := (staged.trees id).mpr (Bool.and_eq_true_iff.mp raised).2
        refine staged.keepsTrees shown (nodup_toTop staged.distinct id) fun id' => ?_
        refine mem_toTop.trans ⟨?_, .inr⟩
        rintro (rfl | held)
        · exact mem
        · exact held
      · exact staged.windows shown
    · exact staged
  | setHints | minimize | requestRestore | xRequestRestore | switcherActivate | setMaximized | tile | animationEnd
  | highlight | unhighlight | moveToWorkspace | addWorkspace | removeWorkspace | reorderWorkspace | setAllWorkspaces
  | hideMultitaskingSources | hideWindowPreviewsSources | focusToplevel | focusNextToplevel =>
    exact (step_refocuses s rfl).staged (changed _ rfl)
  | _ =>
    exact (step_steers s rfl).keeps Staged (fun ws stack held => held.of_same ws stack)
      (fun held => held.focusNextToplevel none) staged

theorem staged_initial : initial.Staged where
  distinct := List.nodup_nil
  trees := by simp [initial, Windows.initial, Windows.test]
  owned := by simp [initial, Windows.initial]

theorem run_staged (events : List Event) : (Transition.run step initial events).Staged :=
  Transition.run_invariant step_staged staged_initial events

end

end State

/-- Every scene tree is in the stack once, and nothing else is. -/
theorem stack_trees (events : List Event) :
    Transition.Throughout step (fun state => state.stack.Nodup ∧
      ∀ id, id ∈ state.stack ↔ state.windows.test id (·.sceneTree) = true) State.initial events :=
  (Transition.throughout_invariant State.step_staged State.staged_initial events).mono
    fun _ staged => ⟨staged.distinct, staged.trees⟩

end FlakeWM.Desktop
