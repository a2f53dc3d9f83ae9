import FlakeWM.Desktop.WindowEdits

/-! What the operations on windows mean for the focus.

All but a few leave every window that could hold the keyboard focus able to hold
it. Minimizing, unmapping and moving a window can disable that window only. -/

set_option autoImplicit false

namespace FlakeWM.Desktop

open State (eligible)

section

variable (t : Toplevel) (enabled : Bool)

@[simp] theorem Toplevel.setNodeEnabled_surface : (t.setNodeEnabled enabled).surface = t.surface := by
  unfold setNodeEnabled
  split <;> rfl

/-- What `eligible` asks of the window itself. -/
def Windows.serves (windows : Windows) (toplevel : Toplevel) : Bool :=
  toplevel.mapped && !toplevel.minimized && toplevel.alive && windows.onWorkspace toplevel

@[simp] theorem Windows.serves_setNodeEnabled (ws : Windows) : ws.serves (t.setNodeEnabled enabled) = ws.serves t := by
  unfold Toplevel.setNodeEnabled
  split <;> rfl

end

/-- Every window that had its surface and could hold the focus still does;
`except` may have become unable to hold it. -/
structure Windows.Keeps (except : Option Nat) (before after : Windows) : Prop where
  surface : ∀ id, before.test id (·.surface) = true → after.test id (·.surface) = true
  eligible : ∀ id, except ≠ some id → eligible before id = true → eligible after id = true

namespace Windows

open Toplevel

section

variable {ws after : Windows} {except : Option Nat}

theorem Keeps.refl (ws : Windows) : Keeps except ws ws :=
  ⟨fun _ kept => kept, fun _ _ kept => kept⟩

theorem Keeps.trans {first second third : Windows} (left : Keeps except first second)
    (right : Keeps except second third) : Keeps except first third :=
  ⟨fun id kept => right.surface id (left.surface id kept),
    fun id apart kept => right.eligible id apart (left.eligible id apart kept)⟩

theorem Keeps.pointwise (next : Nat → Toplevel → Toplevel)
    (get : ∀ id, after.toplevels[id]? = (ws.toplevels[id]?).map (next id))
    (x : ∀ id t, t.surface = true → (next id t).surface = true)
    (serves : ∀ id t, except ≠ some id → ws.serves t = true →
      after.serves (next id t) = true) : Keeps except ws after := by
  constructor
  · intro id kept
    obtain ⟨t, found, kept⟩ := test_iff.mp kept
    exact test_iff.mpr ⟨next id t, by rw [get, found, Option.map_some], x id t kept⟩
  · intro id apart kept
    obtain ⟨t, found, kept⟩ := test_iff.mp kept
    exact test_iff.mpr ⟨next id t, by rw [get, found, Option.map_some], serves id t apart kept⟩

theorem Keeps.update {id : Nat} {f : Toplevel → Toplevel} (x : ∀ t, t.surface = true → (f t).surface = true)
    (serves : ∀ t, except ≠ some id → ws.serves t = true →
      ws.serves (f t) = true) : Keeps except ws (ws.update id f) := by
  refine .pointwise _ (fun id' => ws.update_get id id' f) ?_ ?_
  · intro id' t kept
    split
    · exact x t kept
    · exact kept
  · intro id' t excluded kept
    split
    · rename_i same
      subst same
      exact serves t excluded kept
    · exact kept

end

section

variable {id : Nat} {before after : Windows}

theorem OnlyChanges.eligible (only : OnlyChanges id before after) {id' : Nat} (ne : id' ≠ id) :
    eligible after id' = eligible before id' := by
  have same : ∀ t, after.onWorkspace t = before.onWorkspace t := by
    intro t
    simp [onWorkspace, only.workspace]
  simp only [State.eligible, same]
  exact only.test ne fun _ _ => rfl

theorem Edits.keepsOthers {edit : Toplevel → Toplevel → Prop} (edits : Edits id edit before after)
    (x : ∀ t next, edit t next → next.surface = t.surface) : Keeps (some id) before after := by
  constructor
  · intro i kept
    rwa [edits.test (fun _ _ => rfl) x]
  · intro i ne kept
    rwa [edits.toOnlyChanges.eligible (by simpa [eq_comm] using ne)]

/-- A window that is not mapped could not hold the focus before. -/
theorem Edits.keepsShown {edit : Toplevel → Toplevel → Prop} (edits : Edits id edit before after)
    (x : ∀ t next, edit t next → next.surface = t.surface)
    (shown : ∀ t next, edit t next → t.mapped = true → t.Placed next) : Keeps none before after := by
  have others := edits.keepsOthers x
  refine ⟨others.surface, fun i _ able => ?_⟩
  by_cases own : i = id
  · subst own
    obtain ⟨t, found, able⟩ := test_iff.mp able
    simp only [Bool.and_eq_true, Bool.not_eq_true'] at able
    obtain ⟨next, there, edited⟩ := edits.edited t found
    obtain ⟨arranged, shown⟩ := shown t next edited able.1.1.1
    have same : next.mapped = t.mapped ∧ next.alive = t.alive ∧ before.onWorkspace next = before.onWorkspace t := by
      rw [arranged]
      exact ⟨rfl, rfl, rfl⟩
    refine test_iff.mpr ⟨next, there, ?_⟩
    simp [edits.onWorkspace, same, able, shown able.1.1.2]
  · exact others.eligible i (by simpa [eq_comm] using own) able

theorem Edits.keeps (edits : Edits id Placed before after) : Keeps none before after :=
  edits.keepsShown (fun t next shown => by rw [shown.1]) fun _ _ shown _ => shown

section

variable (ws : Windows)

theorem keeps_minimize : Keeps (some id) ws (ws.minimize id) :=
  (edits_minimize ws id).keepsOthers fun t next edited => by rw [edited.1]

theorem keeps_unmap : Keeps (some id) ws (ws.unmap id) :=
  (edits_unmap ws id).keepsOthers fun t next edited => by rw [edited.2]

theorem keeps_moveToWorkspace (n : Int) : Keeps (some id) ws (ws.moveToWorkspace id n) :=
  (edits_moveToWorkspace ws id n).keepsOthers fun t next edited => by rw [edited.1]

end

end

section

variable (ws : Windows) (id : Nat) {except : Option Nat}

theorem keeps_refreshNodes : Keeps except ws ws.refreshNodes := by
  refine .pointwise (fun _ t => t.setNodeEnabled (ws.isToplevelVisible t)) (fun _ => by simp [refreshNodes]) ?_ ?_
  · intro _ t kept
    simpa using kept
  · intro _ t _ kept
    exact (ws.serves_setNodeEnabled t _).trans kept

theorem keeps_addWorkspace : Keeps none ws ws.addWorkspace := by
  unfold Windows.addWorkspace
  split
  · exact .refl ws
  · exact ⟨fun _ kept => kept, fun _ _ kept => kept⟩

theorem keeps_renumber (remap : Int → Int) (count : Int) : Keeps none ws { ws with
    workspaceCount := count
    toplevels := ws.toplevels.map fun t => { t with workspace := remap t.workspace }
    currentWorkspace := remap ws.currentWorkspace } := by
  refine .pointwise (fun _ t => { t with workspace := remap t.workspace }) ?_ ?_ ?_
  · intro id'
    simp
  · exact fun _ _ kept => kept
  · intro id' t _ kept
    simp only [serves, onWorkspace] at kept ⊢
    grind

theorem keeps_removeWorkspace (n : Int) : Keeps none ws (ws.removeWorkspace n) := by
  unfold Windows.removeWorkspace
  split
  · exact .refl ws
  · exact (keeps_renumber ws _ _).trans (keeps_refreshNodes _)

theorem keeps_reorderWorkspace (source target : Int) : Keeps none ws (ws.reorderWorkspace source target) := by
  unfold Windows.reorderWorkspace
  split
  · exact .refl ws
  · exact keeps_renumber ws (reorderRemap source target) ws.workspaceCount

theorem keeps_setAllWorkspaces (everywhere : Bool) : Keeps none ws (ws.setAllWorkspaces id everywhere) := by
  unfold Windows.setAllWorkspaces
  split
  · rw [refreshNode_update]
    refine .update ?_ ?_
    · intro t kept
      grind [setNodeEnabled]
    · intro t _ kept
      rw [serves_setNodeEnabled]
      simp only [serves, onWorkspace] at kept ⊢
      grind
  · exact .refl ws

theorem keeps_add (xw : Bool) : Keeps none ws (ws.add xw) := by
  have found : ∀ (id' : Nat) t, ws.toplevels[id']? = some t → (ws.add xw).toplevels[id']? = some t := by
    intro id' t found
    simp only [Windows.add]
    rw [List.getElem?_append_left (List.getElem?_eq_some_iff.mp found).1]
    exact found
  constructor
  · intro id' kept
    obtain ⟨t, listed, kept⟩ := test_iff.mp kept
    exact test_iff.mpr ⟨t, found id' t listed, kept⟩
  · intro id' _ kept
    obtain ⟨t, listed, kept⟩ := test_iff.mp kept
    exact test_iff.mpr ⟨t, found id' t listed, kept⟩

theorem keeps_associate (tc sm : Bool) : Keeps none ws (ws.associate id tc sm) := by
  unfold Windows.associate
  split
  · exact .update (fun _ _ => rfl) fun _ _ kept => kept
  · exact .refl ws

theorem keeps_map (big : Bool) : Keeps none ws (ws.map id big) := by
  by_cases accepted : ws.mayMap id = true
  · refine (edits_map_accepted ws id accepted big).keepsShown (fun t next shown => by rw [shown.1]) ?_
    intro t next shown mapped
    rwa [← mapped] at shown
  · rw [Windows.map, if_neg accepted]
    exact .refl ws

end

end Windows

end FlakeWM.Desktop
