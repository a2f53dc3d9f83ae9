import FlakeWM.Desktop.FocusMoves

/-! What each operation edits.

Every operation on the windows touches the fields of one window and, beside
that, only scene nodes. Invariants over the windows are read off from which
fields those are. -/

set_option autoImplicit false

namespace FlakeWM.Desktop

namespace Toplevel

def Reshown (toplevel next : Toplevel) : Prop :=
  next = { toplevel with nodeEnabled := next.nodeEnabled }

def Arranged (toplevel next : Toplevel) : Prop :=
  next = { toplevel with
    nodeEnabled := next.nodeEnabled
    minimized := next.minimized
    maximized := next.maximized
    tiled := next.tiled }

/-- Arranged, and not minimized if it was not. -/
def Placed (toplevel next : Toplevel) : Prop :=
  toplevel.Arranged next ∧ (toplevel.minimized = false → next.minimized = false)

section

variable {t next last : Toplevel}

theorem reshown_setNodeEnabled (t : Toplevel) (enabled : Bool) : Reshown t (t.setNodeEnabled enabled) := by
  unfold Reshown setNodeEnabled
  split <;> rfl

theorem Reshown.workspace (same : Reshown t next) : next.workspace = t.workspace := by
  rw [same]

theorem Reshown.allWorkspaces (same : Reshown t next) : next.allWorkspaces = t.allWorkspaces := by
  rw [same]

theorem Reshown.arranged (same : Reshown t next) : Arranged t next := by
  rw [same]
  rfl

theorem Reshown.trans (first : Reshown t next) (second : Reshown next last) : Reshown t last := by
  unfold Reshown at first second ⊢
  rw [second, first]

theorem Arranged.workspace (arranged : Arranged t next) : next.workspace = t.workspace := by
  rw [arranged]

theorem Arranged.trans (first : Arranged t next) (second : Arranged next last) : Arranged t last := by
  unfold Arranged at first second ⊢
  rw [second, first]

theorem Reshown.shown (same : Reshown t next) : Placed t next := by
  refine ⟨same.arranged, fun shown => ?_⟩
  rw [same]
  exact shown

theorem Placed.refl (t : Toplevel) : Placed t t := ⟨rfl, fun shown => shown⟩

theorem Placed.trans (first : Placed t next) (second : Placed next last) : Placed t last :=
  ⟨first.1.trans second.1, second.2 ∘ first.2⟩

theorem Arranged.reshow (arranged : Arranged t next) (enabled : Bool) : Arranged t (next.setNodeEnabled enabled) :=
  arranged.trans (reshown_setNodeEnabled next enabled).arranged

theorem Arranged.restore (arranged : Arranged t next) :
    Arranged t { next.setNodeEnabled true with minimized := false } :=
  (arranged.reshow true).trans rfl

end

end Toplevel

namespace Windows

open Toplevel

theorem isToplevelVisible_reshown (ws : Windows) {t next : Toplevel} (same : t.Reshown next) :
    ws.isToplevelVisible next = ws.isToplevelVisible t := by
  rw [same]
  rfl

/-- Nothing but the window `id` changes, nodes apart. -/
structure OnlyChanges (id : Nat) (before after : Windows) : Prop where
  length : after.toplevels.length = before.toplevels.length
  workspace : after.currentWorkspace = before.currentWorkspace
  others : ∀ (other : Nat) toplevel, other ≠ id → before.toplevels[other]? = some toplevel →
    ∃ node, after.toplevels[other]? = some { toplevel with nodeEnabled := node }

section

variable {id : Nat} {before after : Windows}

theorem OnlyChanges.test (only : OnlyChanges id before after) {id' : Nat} (ne : id' ≠ id) {condition : Toplevel → Bool}
    (ignores : ∀ t node, condition { t with nodeEnabled := node } = condition t) :
    after.test id' condition = before.test id' condition := by
  cases found : before.toplevels[id']? with
  | none =>
    have missing : after.toplevels[id']? = none := by
      rw [List.getElem?_eq_none_iff] at found ⊢
      rwa [only.length]
    simp [Windows.test, found, missing]
  | some t =>
    obtain ⟨node, after⟩ := only.others id' t ne found
    simp [Windows.test, found, after, ignores]

theorem OnlyChanges.trans {middle : Windows} (left : OnlyChanges id before middle)
    (right : OnlyChanges id middle after) : OnlyChanges id before after where
  length := right.length.trans left.length
  workspace := right.workspace.trans left.workspace
  others := by
    intro id' t ne found
    obtain ⟨_, found⟩ := left.others id' t ne found
    obtain ⟨node, found⟩ := right.others id' _ ne found
    exact ⟨node, found⟩

theorem OnlyChanges.refl (ws : Windows) : OnlyChanges id ws ws :=
  ⟨rfl, rfl, fun _ t _ found => ⟨t.nodeEnabled, found⟩⟩

theorem onlyChanges_update (ws : Windows) (f : Toplevel → Toplevel) : OnlyChanges id ws (ws.update id f) where
  length := by simp [Windows.update]
  workspace := rfl
  others := by
    intro id' t ne found
    refine ⟨t.nodeEnabled, ?_⟩
    rw [update_get, found, Option.map_some, if_neg (Ne.symm ne)]

end

/-- Nothing but the window `id` changes, nodes apart, and it changes by `edit`. -/
structure Edits (id : Nat) (edit : Toplevel → Toplevel → Prop) (before after : Windows) : Prop
    extends OnlyChanges id before after where
  count : after.workspaceCount = before.workspaceCount
  multitasking : after.multitaskingSourcesHidden = before.multitaskingSourcesHidden
  previews : after.windowPreviewsSourcesHidden = before.windowPreviewsSourcesHidden
  edited : ∀ toplevel, before.toplevels[id]? = some toplevel →
    ∃ next, after.toplevels[id]? = some next ∧ edit toplevel next

section

variable {id : Nat} {edit other : Toplevel → Toplevel → Prop} {before middle after : Windows}

theorem Edits.mono (edits : Edits id edit before after)
    (weaker : ∀ t next, edit t next → other t next) : Edits id other before after :=
  { edits with
    edited := by
      intro t found
      obtain ⟨next, found, edited⟩ := edits.edited t found
      exact ⟨next, found, weaker t next edited⟩ }

theorem Edits.shown (edits : Edits id Reshown before after) : Edits id Placed before after :=
  edits.mono fun _ _ => Reshown.shown

theorem Edits.arranged (edits : Edits id Placed before after) : Edits id Arranged before after :=
  edits.mono fun _ _ => And.left

theorem Edits.trans {next : Toplevel → Toplevel → Prop} (left : Edits id edit before middle)
    (right : Edits id other middle after)
    (composed : ∀ first second third, edit first second → other second third → next first third) :
    Edits id next before after where
  toOnlyChanges := left.toOnlyChanges.trans right.toOnlyChanges
  count := right.count.trans left.count
  multitasking := right.multitasking.trans left.multitasking
  previews := right.previews.trans left.previews
  edited := by
    intro t found
    obtain ⟨second, found, first⟩ := left.edited t found
    obtain ⟨third, found, second⟩ := right.edited second found
    exact ⟨third, found, composed _ _ _ first second⟩

theorem Edits.refl (ws : Windows) (same : ∀ t, edit t t) : Edits id edit ws ws where
  toOnlyChanges := OnlyChanges.refl ws
  count := rfl
  multitasking := rfl
  previews := rfl
  edited := fun t found => ⟨t, found, same t⟩

theorem edits_update (ws : Windows) (id : Nat) (edit : Toplevel → Toplevel → Prop) {f : Toplevel → Toplevel}
    (edited : ∀ t, ws.toplevels[id]? = some t → edit t (f t)) :
    Edits id edit ws (ws.update id f) where
  toOnlyChanges := onlyChanges_update ws f
  count := rfl
  multitasking := rfl
  previews := rfl
  edited := by
    intro t found
    refine ⟨f t, ?_, edited t found⟩
    rw [update_get, found, Option.map_some, if_pos rfl]

section

variable (edits : Edits id edit before after)

include edits

theorem Edits.origin {i : Nat} {next : Toplevel} (found : after.toplevels[i]? = some next) :
    ∃ t, before.toplevels[i]? = some t ∧ (i ≠ id ∧ t.Reshown next ∨ i = id ∧ edit t next) := by
  cases original : before.toplevels[i]? with
  | none =>
    -- both lists have the same length
    rw [List.getElem?_eq_none_iff, ← edits.length, ← List.getElem?_eq_none_iff, found] at original
    cases original
  | some t =>
    refine ⟨t, rfl, ?_⟩
    by_cases same : i = id
    · subst same
      obtain ⟨edited, there, f⟩ := edits.edited t original
      rw [found, Option.some_inj] at there
      subst there
      exact .inr ⟨rfl, f⟩
    · obtain ⟨node, there⟩ := edits.others i t same original
      rw [found, Option.some_inj] at there
      subst there
      exact .inl ⟨same, rfl⟩

theorem Edits.own {next : Toplevel} (found : after.toplevels[id]? = some next) :
    ∃ t, before.toplevels[id]? = some t ∧ edit t next := by
  obtain ⟨t, original, ⟨apart, _⟩ | ⟨_, edited⟩⟩ := edits.origin found
  · exact absurd rfl apart
  · exact ⟨t, original, edited⟩

theorem Edits.test {condition : Toplevel → Bool}
    (ignores : ∀ t node, condition { t with nodeEnabled := node } = condition t)
    (kept : ∀ t next, edit t next → condition next = condition t) (i : Nat) :
    after.test i condition = before.test i condition := by
  by_cases own : i = id
  · subst own
    cases found : before.toplevels[i]? with
    | none =>
      have missing : after.toplevels[i]? = none := by
        rw [List.getElem?_eq_none_iff] at found ⊢
        rwa [edits.length]
      simp [Windows.test, found, missing]
    | some t =>
      obtain ⟨next, after, edited⟩ := edits.edited t found
      simp [Windows.test, found, after, kept t next edited]
  · exact edits.toOnlyChanges.test own ignores

theorem Edits.onWorkspace (t : Toplevel) : after.onWorkspace t = before.onWorkspace t := by
  simp only [Windows.onWorkspace, edits.workspace]

theorem Edits.isToplevelVisible (t : Toplevel) : after.isToplevelVisible t = before.isToplevelVisible t := by
  simp only [Windows.isToplevelVisible, edits.onWorkspace, edits.multitasking, edits.previews]

end

end

section

variable (ws : Windows) (id : Nat)

theorem edits_reshown {before after : Windows} (length : after.toplevels.length = before.toplevels.length)
    (workspace : after.currentWorkspace = before.currentWorkspace) (count : after.workspaceCount = before.workspaceCount)
    (multitasking : after.multitaskingSourcesHidden = before.multitaskingSourcesHidden)
    (previews : after.windowPreviewsSourcesHidden = before.windowPreviewsSourcesHidden)
    (get : ∀ (i : Nat) t, before.toplevels[i]? = some t → ∃ next, after.toplevels[i]? = some next ∧ t.Reshown next) :
    Edits id Reshown before after := by
  refine ⟨⟨length, workspace, fun other t _ found => ?_⟩, count, multitasking, previews, get id⟩
  obtain ⟨next, there, same⟩ := get other t found
  exact ⟨next.nodeEnabled, there.trans (congrArg some same)⟩

theorem edits_cancelAnimation : Edits id Reshown ws ws.cancelAnimation := by
  cases animated : ws.tileAnimation with
  | none =>
    rw [cancelAnimation_none animated]
    exact .refl ws fun _ => rfl
  | some source =>
    rw [cancelAnimation_some animated]
    refine edits_reshown id (by simp [update]) rfl rfl rfl rfl fun i t found => ?_
    refine ⟨_, (ws.update_get source i _).trans (by rw [found, Option.map_some]), ?_⟩
    split
    · exact t.reshown_setNodeEnabled true
    · rfl

theorem edits_sourceUnavailable (gone : Nat) : Edits id Reshown ws (ws.sourceUnavailable gone) := by
  unfold sourceUnavailable completeAnimation
  split
  · split
    · exact .refl ws fun _ => rfl
    · have same : Edits id Reshown ws ws := Edits.refl ws fun _ => rfl
      exact { same with }
  · exact .refl ws fun _ => rfl

theorem edits_setHighlight (highlight : Option Nat) : Edits id Reshown ws (ws.setHighlight highlight) := by
  refine edits_reshown id (by simp [setHighlight]) rfl rfl rfl rfl fun i t found => ?_
  simp only [setHighlight, List.getElem?_mapIdx, found, Option.map_some]
  refine ⟨_, rfl, ?_⟩
  split
  · exact t.reshown_setNodeEnabled _
  · rfl

theorem edits_startAnimation (captured : Bool) : Edits id Reshown ws (ws.startAnimation id captured) := by
  have cancelled := edits_cancelAnimation ws id
  unfold startAnimation
  dsimp only
  split
  · have hidden := cancelled.trans (edits_update ws.cancelAnimation id Reshown
      fun t _ => t.reshown_setNodeEnabled false) fun _ _ _ => Reshown.trans
    exact { hidden with }
  · exact cancelled

theorem edits_setMaximized (mx : Bool) : Edits id Placed ws (ws.setMaximized id mx) := by
  unfold setMaximized
  split
  · refine (edits_cancelAnimation ws id).shown.trans (edits_update _ id Placed ?_) fun _ _ _ => Placed.trans
    intro t _
    dsimp only
    split
    · split
      · exact ⟨rfl, fun shown => shown⟩
      · exact ⟨rfl, fun shown => shown⟩
    · split
      · exact ⟨Arranged.restore rfl, fun _ => rfl⟩
      · exact ⟨rfl, fun shown => shown⟩
  · exact .refl ws Placed.refl

theorem edits_minimize : Edits id (fun t next =>
    t.Arranged next ∧ (next.minimized = false → t.minimized = false)) ws (ws.minimize id) := by
  unfold minimize
  split
  · refine (edits_cancelAnimation ws id).trans (edits_update _ id (fun t next =>
      t.Arranged next ∧ next.minimized = true) ?_) ?_
    · intro t _
      refine ⟨Arranged.trans ?_ rfl, rfl⟩
      exact (t.reshown_setNodeEnabled false).arranged
    · intro first second third reshown hidden
      refine ⟨reshown.arranged.trans hidden.1, fun shown => ?_⟩
      rw [hidden.2] at shown
      cases shown
  · exact .refl ws fun _ => ⟨rfl, fun shown => shown⟩

theorem edits_tile (u captured : Bool) : Edits id Placed ws (ws.tile id u captured) := by
  unfold tile
  split
  · refine (edits_startAnimation ws id captured).shown.trans (edits_update _ id Placed ?_) fun _ _ _ => Placed.trans
    intro t _
    dsimp only
    split
    · exact ⟨.restore rfl, fun _ => rfl⟩
    · exact ⟨rfl, fun shown => shown⟩
  · exact .refl ws Placed.refl

theorem edits_requestRestore : Edits id Placed ws (ws.requestRestore id) := by
  unfold requestRestore
  split
  · rw [refreshNode_update]
    refine edits_update ws id _ fun t _ => ⟨Arranged.reshow ?_ _, fun _ => ?_⟩
    · rfl
    · rw [reshown_setNodeEnabled]
  · exact .refl ws Placed.refl

theorem edits_xRequestRestore : Edits id Placed ws (ws.xRequestRestore id) := by
  unfold xRequestRestore
  split
  · exact edits_update ws id _ fun _ _ => ⟨Arranged.restore rfl, fun _ => rfl⟩
  · exact .refl ws Placed.refl

theorem edits_switcherRestore : Edits id Placed ws (ws.switcherRestore id) := by
  refine edits_update ws id _ fun t _ => ?_
  dsimp only
  split
  · split
    · refine ⟨.reshow ?_ true, fun _ => ?_⟩
      · rfl
      · rw [reshown_setNodeEnabled]
    · exact ⟨rfl, fun _ => rfl⟩
  · exact .refl t

theorem edits_multitaskingRestore : Edits id Placed ws (ws.multitaskingRestore id) := by
  refine edits_update ws id _ fun t _ => ?_
  split
  · exact ⟨.restore rfl, fun _ => rfl⟩
  · exact .refl t

theorem edits_previewsRestore : Edits id Placed ws (ws.previewsRestore id) :=
  edits_update ws id _ fun _ _ => ⟨rfl, fun _ => rfl⟩

theorem edits_moveToWorkspace (n : Int) : Edits id (fun t next =>
    { t with workspace := next.workspace }.Reshown next ∧
      (next.workspace = t.workspace ∨ 0 ≤ next.workspace ∧ next.workspace < ws.workspaceCount))
    ws (ws.moveToWorkspace id n) := by
  unfold moveToWorkspace mayMove
  split
  · rename_i accepted
    rw [refreshNode_update]
    refine edits_update ws id _ fun t _ => ?_
    have kept := reshown_setNodeEnabled { t with workspace := n } (ws.isToplevelVisible { t with workspace := n })
    simp only [Bool.and_eq_true, decide_eq_true_eq] at accepted
    rw [kept.workspace]
    exact ⟨kept, .inr accepted.1⟩
  · exact .refl ws fun _ => ⟨rfl, .inl rfl⟩

theorem edits_setAllWorkspaces (everywhere : Bool) : Edits id (fun t next =>
    { t with workspace := next.workspace, allWorkspaces := next.allWorkspaces }.Reshown next ∧
      (next.workspace = t.workspace ∨ next.workspace = ws.currentWorkspace))
    ws (ws.setAllWorkspaces id everywhere) := by
  unfold setAllWorkspaces
  split
  · rw [refreshNode_update]
    refine edits_update ws id _ fun t _ => ?_
    cases everywhere
    · have kept := reshown_setNodeEnabled
        { t with allWorkspaces := false, workspace := ws.currentWorkspace }
      simp only [Bool.not_false, if_true, (kept _).workspace, (kept _).allWorkspaces]
      exact ⟨kept _, .inr trivial⟩
    · have kept := reshown_setNodeEnabled { t with allWorkspaces := true }
      simp only [Bool.not_true, Bool.false_eq_true, if_false, (kept _).workspace, (kept _).allWorkspaces]
      exact ⟨kept _, .inl trivial⟩
  · exact .refl ws fun _ => ⟨rfl, .inl rfl⟩

theorem edits_associate (tc sm : Bool) : Edits id (fun t next =>
    { t with surface := next.surface, sceneTree := next.sceneTree }.Reshown next ∧
      (next.sceneTree = t.sceneTree ∨ next.sceneTree = tc))
    ws (ws.associate id tc sm) := by
  unfold associate
  split
  · exact edits_update ws id _ fun _ _ => ⟨rfl, .inr rfl⟩
  · exact .refl ws fun _ => ⟨rfl, .inl rfl⟩

theorem edits_map_accepted (accepted : ws.mayMap id = true) (big : Bool) :
    Edits id (fun t next => { t with mapped := true }.Placed next) ws (ws.map id big) := by
  unfold map
  rw [if_pos accepted, refreshNode_update]
  have shown : Edits id (fun t next => { t with mapped := true }.Placed next) ws
      (ws.update id fun t => { t with mapped := true }.setNodeEnabled
        (ws.isToplevelVisible { t with mapped := true })) :=
    edits_update ws id _ fun t _ => (reshown_setNodeEnabled { t with mapped := true } _).shown
  dsimp only
  split
  · exact shown.trans (edits_setMaximized _ id true) fun _ _ _ => Placed.trans
  · exact shown

theorem edits_map (big : Bool) : Edits id (fun t next =>
    { t with mapped := next.mapped }.Arranged next ∧
      (next.mapped = t.mapped ∨ t.alive = true ∧ t.surface = true ∧ t.sceneTree = true))
    ws (ws.map id big) := by
  by_cases accepted : ws.mayMap id = true
  · have edits := edits_map_accepted ws id accepted big
    refine { edits with edited := fun t found => ?_ }
    obtain ⟨next, there, arranged, _⟩ := edits.edited t found
    refine ⟨next, there, ?_, .inr ?_⟩
    · unfold Arranged at arranged ⊢
      rw [arranged]
    · simp only [mayMap, test, found, Option.any_some, Bool.and_eq_true] at accepted
      exact ⟨accepted.1.1.1, accepted.1.1.2, accepted.1.2⟩
  · rw [map, if_neg accepted]
    exact .refl ws fun _ => ⟨rfl, .inl rfl⟩

theorem edits_unmap : Edits id (fun t next => next.mapped = false ∧
    { t with mapped := false }.Reshown next) ws (ws.unmap id) := by
  have hide : ∀ plain : Windows, Edits id Reshown ws plain →
      Edits id (fun t next => next.mapped = false ∧ { t with mapped := false }.Reshown next) ws
        (plain.update id fun t => { t with
          mapped := false
          nodeEnabled := t.nodeEnabled && !t.xwayland }) := by
    intro plain reshown
    refine reshown.trans (edits_update plain id (fun t next => next.mapped = false ∧
      { t with mapped := false }.Reshown next) fun _ _ => ⟨rfl, rfl⟩) ?_
    rintro first second third same ⟨unmapped, hidden⟩
    refine ⟨unmapped, ?_⟩
    unfold Reshown at same hidden ⊢
    rw [hidden, same]
  unfold unmap
  split
  · refine hide _ ?_
    split
    · exact (edits_sourceUnavailable ws id id).trans (edits_setHighlight _ id none) fun _ _ _ =>
        Reshown.trans
    · exact edits_sourceUnavailable ws id id
  · rename_i unmapped
    refine ⟨OnlyChanges.refl ws, rfl, rfl, rfl, ?_⟩
    intro t found
    have hidden : t.mapped = false := by simpa [test, found] using unmapped
    refine ⟨t, found, hidden, ?_⟩
    unfold Reshown
    rw [← hidden]

omit ws id in
/-- A condition that the edited window does not meet afterwards holds for the others as before. -/
theorem Edits.loses {id : Nat} {edit : Toplevel → Toplevel → Prop} {before after : Windows} {condition : Toplevel → Bool}
    (edits : Edits id edit before after) (read : ∀ t node, condition { t with nodeEnabled := node } = condition t)
    (lost : ∀ t next, edit t next → condition next = false) (i : Nat) :
    after.test i condition = (before.test i condition && i != id) := by
  by_cases same : i = id
  · subst same
    cases found : after.toplevels[i]? with
    | none => simp [Windows.test, found]
    | some next =>
      obtain ⟨t, _, edited⟩ := edits.own found
      simp [Windows.test, found, lost t next edited]
  · rw [edits.toOnlyChanges.test same read]
    simp [same]

theorem mapped_unmap (i : Nat) : (ws.unmap id).test i (·.mapped) = (ws.test i (·.mapped) && i != id) :=
  (edits_unmap ws id).loses (fun _ _ => rfl) (fun _ _ edited => edited.1) i

theorem edits_loseSurface : Edits id (fun t next =>
    next = { t with surface := false, sceneTree := false, mapped := false }) ws (ws.loseSurface id) :=
  edits_update ws id _ fun _ _ => rfl

theorem edits_loseHandle : Edits id (fun t next =>
    { t with alive := false, surface := false, sceneTree := false, mapped := false }.Reshown next)
    ws (ws.loseHandle id) := by
  refine (edits_sourceUnavailable ws id id).trans (edits_update _ id (fun t next =>
    next = { t with alive := false, surface := false, sceneTree := false, mapped := false }) fun _ _ => rfl) ?_
  intro first second third reshown lost
  unfold Reshown at reshown ⊢
  rw [lost, reshown]

theorem edits_setHints (overrideRedirect overrideWantsFocus transient : Bool) : Edits id (fun t next =>
    next = { t with
      overrideRedirect := next.overrideRedirect
      overrideWantsFocus := next.overrideWantsFocus
      transient := next.transient })
    ws (ws.setHints id overrideRedirect overrideWantsFocus transient) :=
  edits_update ws id _ fun _ _ => rfl

theorem edits_setKeptAbove (above : Bool) : Edits id (fun t next =>
    next = { t with keptAbove := above }) ws (ws.setKeptAbove id above) :=
  edits_update ws id _ fun _ _ => rfl

end

end Windows

namespace State

/-- The windows after `SwitchWorkspace` to the workspace of the toplevel. -/
def ownWorkspaceShown (state : State) (id : Nat) : Windows :=
  match state.windows.toplevels[id]? with
  | none => state.windows
  | some toplevel =>
    if state.maySwitch toplevel.workspace then state.windows.switchTo toplevel.workspace else state.windows

def windowsAfter (state : State) : Event → Windows
  | .newToplevel xwayland => state.windows.add xwayland
  | .associate id treeCreated surfaceMapped requestedMaximized =>
    if treeCreated && surfaceMapped &&
        state.windows.test id fun toplevel => toplevel.xwayland && toplevel.alive && !toplevel.surface then
      (state.windows.associate id treeCreated surfaceMapped).map id requestedMaximized
    else state.windows.associate id treeCreated surfaceMapped
  | .dissociate id =>
    if state.windows.test id (·.xwayland) then (state.windows.unmap id).loseSurface id else state.windows
  | .map id requestedMaximized => state.windows.map id requestedMaximized
  | .unmap id => state.windows.unmap id
  | .destroy id => (state.windows.unmap id).loseHandle id
  | .setHints id overrideRedirect overrideWantsFocus transient =>
    state.windows.setHints id overrideRedirect overrideWantsFocus transient
  | .minimize id => state.windows.minimize id
  | .requestRestore id => state.windows.requestRestore id
  | .xRequestRestore id => state.windows.xRequestRestore id
  | .switcherActivate id => if state.mayActivate id then state.windows.switcherRestore id else state.windows
  | .multitaskingActivate id =>
    if state.mayActivate id then (state.ownWorkspaceShown id).multitaskingRestore id else state.windows
  | .previewsActivate id =>
    if state.mayActivate id then
      { state with windows := state.windows.previewsRestore id }.ownWorkspaceShown id
    else state.windows
  | .setMaximized id maximized => state.windows.setMaximized id maximized
  | .tile id usable captured => state.windows.tile id usable captured
  | .animationEnd => state.windows.cancelAnimation
  | .highlight id =>
    if state.windows.test id (·.mapped) && state.windows.highlight != some id then
      state.windows.setHighlight (some id)
    else state.windows
  | .unhighlight id => if state.windows.highlight = some id then state.windows.setHighlight none else state.windows
  | .switchWorkspace workspace =>
    if state.maySwitch workspace then state.windows.switchTo workspace else state.windows
  | .moveToWorkspace id workspace => state.windows.moveToWorkspace id workspace
  | .addWorkspace => state.windows.addWorkspace
  | .removeWorkspace workspace => state.windows.removeWorkspace workspace
  | .reorderWorkspace source target => state.windows.reorderWorkspace source target
  | .setAllWorkspaces id allWorkspaces => state.windows.setAllWorkspaces id allWorkspaces
  | .setKeptAbove id keptAbove =>
    if state.windows.test id (·.keptAbove != keptAbove) then state.windows.setKeptAbove id keptAbove
    else state.windows
  | .hideMultitaskingSources hidden => state.windows.setMultitaskingSourcesHidden hidden
  | .hideWindowPreviewsSources hidden => state.windows.setWindowPreviewsSourcesHidden hidden
  | _ => state.windows

section

variable (s : State) (id : Nat)

/-- The view stays, or the window's workspace is shown. -/
theorem ownWorkspaceShown_induction {motive : Windows → Prop} (stays : motive s.windows)
    (switches : ∀ n, s.maySwitch n = true → motive (s.windows.switchTo n)) : motive (s.ownWorkspaceShown id) := by
  unfold ownWorkspaceShown
  split
  · exact stays
  · split
    · exact switches _ ‹_›
    · exact stays

theorem switchToOwnWorkspace_shown : (s.switchToOwnWorkspace id).windows = s.ownWorkspaceShown id := by
  unfold switchToOwnWorkspace ownWorkspaceShown
  cases s.windows.toplevels[id]? with
  | none => rfl
  | some t => exact switchWorkspace_windows s t.workspace

theorem associate_windows (tc sm big : Bool) : (s.associate id tc sm big).windows =
      s.windowsAfter (.associate id tc sm big) := by
  unfold associate windowsAfter
  split
  · rename_i accepted
    simp only [accepted, Bool.and_true]
    split
    · rw [map_windows]
    · rfl
  · rename_i refused
    simp [refused, Windows.associate]

theorem multitaskingActivate_windows : (s.multitaskingActivate id).windows =
    s.windowsAfter (.multitaskingActivate id) := by
  unfold multitaskingActivate windowsAfter
  dsimp only
  split
  · rw [focusToplevel_windows, ← switchToOwnWorkspace_shown]
  · rfl

theorem previewsActivate_windows : (s.previewsActivate id).windows = s.windowsAfter (.previewsActivate id) := by
  unfold previewsActivate windowsAfter
  dsimp only
  split
  · rw [focusToplevel_windows, ← switchToOwnWorkspace_shown]
  · rfl

end

/-- The events that change windows and leave the rest to the focus functions. -/
def refocuses : Event → Bool
  | .setHints .. | .minimize _ | .requestRestore _ | .xRequestRestore _ | .switcherActivate _ | .setMaximized .. |
    .tile .. | .animationEnd | .highlight _ | .unhighlight _ | .moveToWorkspace .. | .addWorkspace |
    .removeWorkspace _ | .reorderWorkspace .. | .setAllWorkspaces .. | .hideMultitaskingSources _ |
    .hideWindowPreviewsSources _ | .focusToplevel _ | .focusNextToplevel => true
  | _ => false

theorem step_refocuses (s : State) {e : Event} (ends : refocuses e = true) :
    Refocuses { s with windows := s.windowsAfter e } (step s e) := by
  cases e with
  | minimize id => exact refocuses_minimize s id
  | xRequestRestore id => exact refocuses_xRequestRestore s id
  | switcherActivate id => exact refocuses_switcherActivate s id
  | tile id u captured => exact refocuses_tileToplevel s id u captured
  | moveToWorkspace id n => exact refocuses_moveToplevelToWorkspace s id n
  | highlight | unhighlight =>
    unfold step windowsAfter
    dsimp only
    split <;> exact .stay
  | focusToplevel id => exact .focusToplevel id
  | focusNextToplevel => exact .focusNextToplevel none
  | setHints | requestRestore | setMaximized | animationEnd | addWorkspace | removeWorkspace | reorderWorkspace
  | setAllWorkspaces | hideMultitaskingSources | hideWindowPreviewsSources => exact .stay
  | _ => cases ends

theorem step_windows (s : State) (e : Event) : (step s e).windows = s.windowsAfter e := by
  cases e with
  | newToplevel => rfl
  | associate id tc sm big =>
    exact associate_windows s id tc sm big
  | dissociate id => exact dissociate_windows s id
  | map id big => exact map_windows s id big
  | unmap id => exact unmap_windows s id
  | destroy id => exact destroyToplevel_windows s id
  | multitaskingActivate id => exact multitaskingActivate_windows s id
  | previewsActivate id => exact previewsActivate_windows s id
  | switchWorkspace n => exact switchWorkspace_windows s n
  | setKeptAbove id above =>
    show (s.setKeptAbove id above).windows = _
    unfold State.setKeptAbove windowsAfter
    dsimp only
    split <;> rfl
  | setHints | minimize | requestRestore | xRequestRestore | switcherActivate | setMaximized | tile | animationEnd
  | highlight | unhighlight | moveToWorkspace | addWorkspace | removeWorkspace | reorderWorkspace | setAllWorkspaces
  | hideMultitaskingSources | hideWindowPreviewsSources | focusToplevel | focusNextToplevel =>
    exact (step_refocuses s rfl).windows
  | _ => exact (step_steers s rfl).windows

/-- The events that only arrange a window. -/
def arrangesWindow : Event → Bool
  | .minimize _ | .requestRestore _ | .xRequestRestore _ | .switcherActivate _ | .setMaximized .. | .tile .. |
    .animationEnd | .highlight _ | .unhighlight _ => true
  | _ => false

open Windows Toplevel in
theorem windowsAfter_shown (s : State) {e : Event} (arranges : arrangesWindow e = true) (shows : ∀ id, e ≠ .minimize id) :
    ∃ id, Edits id Placed s.windows (s.windowsAfter e) := by
  have kept : ∀ id, Edits id Placed s.windows s.windows := fun _ => .refl _ Placed.refl
  cases e with
  | minimize id => exact absurd rfl (shows id)
  | requestRestore id => exact ⟨id, edits_requestRestore _ id⟩
  | xRequestRestore id => exact ⟨id, edits_xRequestRestore _ id⟩
  | setMaximized id mx => exact ⟨id, edits_setMaximized _ id mx⟩
  | tile id u captured => exact ⟨id, edits_tile _ id u captured⟩
  | animationEnd => exact ⟨0, (edits_cancelAnimation _ 0).shown⟩
  | switcherActivate id =>
    refine ⟨id, ?_⟩
    dsimp only [windowsAfter]
    split
    · exact edits_switcherRestore _ id
    · exact kept id
  | highlight id | unhighlight id =>
    refine ⟨id, ?_⟩
    dsimp only [windowsAfter]
    split
    · exact (edits_setHighlight _ id _).shown
    · exact kept id
  | _ => cases arranges

open Windows Toplevel in
theorem windowsAfter_arranged (s : State) {e : Event} (arranges : arrangesWindow e = true) :
    ∃ id, Edits id Arranged s.windows (s.windowsAfter e) := by
  by_cases shows : ∀ id, e ≠ .minimize id
  · obtain ⟨id, edits⟩ := s.windowsAfter_shown arranges shows
    exact ⟨id, edits.arranged⟩
  · push Not at shows
    obtain ⟨id, rfl⟩ := shows
    exact ⟨id, (edits_minimize _ id).mono fun _ _ => And.left⟩

end State
end FlakeWM.Desktop
