import FlakeWM.Desktop.SceneNodes
import FlakeWM.Lib.Stacking

/-! What comes into view.

Each operation on the windows shows some that were hidden, or none. The windows
kept above the others stay on top exactly if those that come into view lie in
their places. -/

set_option autoImplicit false

namespace FlakeWM.Desktop
namespace Windows

open Toplevel

def InOrder (windows : Windows) (stack : List Nat) (upper lower : Nat → Toplevel → Bool) : Prop :=
  ∀ above below : Nat, windows.test above (upper above) = true → windows.test below (lower below) = true →
    Stacking.Below stack below above

def inOrder (windows : Windows) (stack : List Nat) (upper lower : Nat → Toplevel → Bool) : Bool :=
  (List.range windows.toplevels.length).all fun above => (List.range windows.toplevels.length).all fun below =>
    !windows.test above (upper above) || !windows.test below (lower below) || decide (Stacking.Below stack below above)

def keptOf (windows : Windows) (brought : Nat → Toplevel → Bool) (id : Nat) (toplevel : Toplevel) : Bool :=
  toplevel.keptAbove && (windows.isToplevelVisible toplevel || brought id toplevel)

def plainOf (windows : Windows) (brought : Nat → Toplevel → Bool) (id : Nat) (toplevel : Toplevel) : Bool :=
  !toplevel.keptAbove && toplevel.canManage && (windows.isToplevelVisible toplevel || brought id toplevel)

/-- Every visible window that is kept above lies above every visible managed window
that is not. -/
def KeptOnTop (windows : Windows) (stack : List Nat) : Prop :=
  windows.InOrder stack (fun _ toplevel => toplevel.keptAbove && windows.isToplevelVisible toplevel)
    (fun _ toplevel => !toplevel.keptAbove && toplevel.canManage && windows.isToplevelVisible toplevel)

def Reveals (brought : Nat → Toplevel → Bool) (before after : Windows) : Prop :=
  ∀ (id : Nat) next, after.toplevels[id]? = some next → after.isToplevelVisible next = true →
    ∃ toplevel, before.toplevels[id]? = some toplevel ∧ next.keptAbove = toplevel.keptAbove ∧
      next.canManage = toplevel.canManage ∧ (before.isToplevelVisible toplevel || brought id toplevel) = true

section

variable {ws before after : Windows} {stack : List Nat} {upper lower brought : Nat → Toplevel → Bool} {id : Nat}

theorem test_lt {condition : Toplevel → Bool} (holds : ws.test id condition = true) : id < ws.toplevels.length := by
  obtain ⟨t, found, _⟩ := test_iff.mp holds
  exact (List.getElem?_eq_some_iff.mp found).1

theorem inOrder_iff : ws.inOrder stack upper lower = true ↔ ws.InOrder stack upper lower := by
  simp only [inOrder, List.all_eq_true, List.mem_range, Bool.or_eq_true, Bool.not_eq_true', decide_eq_true_eq]
  constructor
  · intro all above below kept plain
    rcases all above (test_lt kept) below (test_lt plain) with (not | not) | below
    · cases not.symm.trans kept
    · cases not.symm.trans plain
    · exact below
  · intro all above _ below _
    cases kept : ws.test above (upper above) with
    | false => exact .inl (.inl rfl)
    | true =>
      cases plain : ws.test below (lower below) with
      | false => exact .inl (.inr rfl)
      | true => exact .inr (all above below kept plain)

theorem Reveals.keptOnTop (reveals : Reveals brought before after)
    (ordered : before.InOrder stack (before.keptOf brought) (before.plainOf brought)) : after.KeptOnTop stack := by
  intro above below kept plain
  refine ordered above below ?_ ?_
  · obtain ⟨next, found, kept⟩ := test_iff.mp kept
    rw [Bool.and_eq_true] at kept
    obtain ⟨t, original, same, _, shown⟩ := reveals above next found kept.2
    exact test_iff.mpr ⟨t, original, by rw [keptOf, shown, ← same, kept.1]; rfl⟩
  · obtain ⟨next, found, plain⟩ := test_iff.mp plain
    rw [Bool.and_eq_true, Bool.and_eq_true] at plain
    obtain ⟨t, original, same, managed, shown⟩ := reveals below next found plain.2
    exact test_iff.mpr ⟨t, original, by rw [plainOf, shown, ← same, ← managed, plain.1.1, plain.1.2]; rfl⟩

theorem Reveals.keptOnTop_of_none (reveals : Reveals (fun _ _ => false) before after)
    (ordered : before.KeptOnTop stack) : after.KeptOnTop stack := by
  have kept : before.keptOf (fun _ _ => false) = fun _ t => t.keptAbove && before.isToplevelVisible t := by
    funext id t
    simp [keptOf]
  have plain : before.plainOf (fun _ _ => false) =
      fun _ t => !t.keptAbove && t.canManage && before.isToplevelVisible t := by
    funext id t
    simp [plainOf]
  refine reveals.keptOnTop ?_
  rw [kept, plain]
  exact ordered

def placed (windows : Windows) (stack : List Nat) (brought : Nat → Toplevel → Bool) : Bool :=
  windows.inOrder stack (fun id toplevel => toplevel.keptAbove && brought id toplevel) (windows.plainOf brought) &&
    windows.inOrder stack (windows.keptOf brought)
      (fun id toplevel => !toplevel.keptAbove && toplevel.canManage && brought id toplevel)

theorem KeptOnTop.inOrder (ordered : ws.KeptOnTop stack) (placed : ws.placed stack brought = true) :
    ws.InOrder stack (ws.keptOf brought) (ws.plainOf brought) := by
  rw [Windows.placed, Bool.and_eq_true, inOrder_iff, inOrder_iff] at placed
  intro above below kept plain
  obtain ⟨upper, foundAbove, high⟩ := test_iff.mp kept
  obtain ⟨lower, foundBelow, low⟩ := test_iff.mp plain
  simp only [keptOf, Bool.and_eq_true, Bool.or_eq_true] at high
  simp only [plainOf, Bool.and_eq_true, Bool.or_eq_true] at low
  -- two windows that were visible before are in order already
  rcases high.2 with shown | brought
  · rcases low.2 with beside | brought
    · exact ordered above below (test_iff.mpr ⟨upper, foundAbove, Bool.and_eq_true_iff.mpr ⟨high.1, shown⟩⟩)
        (test_iff.mpr ⟨lower, foundBelow, by simp only [low.1.1, low.1.2, beside, Bool.and_self]⟩)
    · refine placed.2 above below kept (test_iff.mpr ⟨lower, foundBelow, ?_⟩)
      simp only [low.1.1, low.1.2, brought, Bool.and_self]
  · exact placed.1 above below (test_iff.mpr ⟨upper, foundAbove, Bool.and_eq_true_iff.mpr ⟨high.1, brought⟩⟩) plain

theorem Reveals.refl (ws : Windows) : Reveals brought ws ws :=
  fun _ next found shown => ⟨next, found, rfl, rfl, by rw [shown]; rfl⟩

theorem Reveals.mono {other : Nat → Toplevel → Bool} (reveals : Reveals brought before after)
    (weaker : ∀ id t, brought id t = true → other id t = true) : Reveals other before after := by
  intro id next found shown
  obtain ⟨t, original, kept, managed, either⟩ := reveals id next found shown
  refine ⟨t, original, kept, managed, ?_⟩
  rw [Bool.or_eq_true] at either ⊢
  exact either.imp_right (weaker id t)

theorem Edits.reveals {edit : Toplevel → Toplevel → Prop} (edits : Edits id edit before after)
    (kept : ∀ t next, edit t next → before.isToplevelVisible next = true →
      next.keptAbove = t.keptAbove ∧ next.canManage = t.canManage ∧
        (before.isToplevelVisible t || brought id t) = true) : Reveals brought before after := by
  intro i next found shown
  -- every window afterwards comes from one before; only one of them was edited
  obtain ⟨t, original, f⟩ := edits.origin found
  rw [edits.isToplevelVisible] at shown
  refine ⟨t, original, ?_⟩
  rcases f with ⟨_, reshown⟩ | ⟨rfl, edited⟩
  · rw [isToplevelVisible_reshown before reshown] at shown
    rw [reshown, shown]
    exact ⟨rfl, rfl, rfl⟩
  · exact kept t next edited shown

theorem reveals_reshown (edits : Edits id Reshown before after) : Reveals brought before after :=
  edits.reveals fun t next reshown shown => by
    rw [isToplevelVisible_reshown before reshown] at shown
    rw [reshown, shown]
    exact ⟨rfl, rfl, rfl⟩

variable {f : Toplevel → Toplevel} {t : Toplevel}

theorem visible_onWorkspace (shown : ws.isToplevelVisible t = true) : ws.onWorkspace t = true := by
  simp only [isToplevelVisible, Bool.and_eq_true] at shown
  exact shown.1.1.2

theorem visible_mapped (shown : ws.isToplevelVisible t = true) : t.mapped = true := by
  simp only [isToplevelVisible, Bool.and_eq_true] at shown
  exact shown.1.1.1.1

def restored (windows : Windows) (id other : Nat) (toplevel : Toplevel) : Bool :=
  other == id && toplevel.mapped && windows.onWorkspace toplevel

theorem reveals_arranged (edits : Edits id Arranged before after) : Reveals (before.restored id) before after :=
  edits.reveals fun t next arranged shown => by
    have there := visible_onWorkspace shown
    have mapped := visible_mapped shown
    rw [arranged] at there mapped ⊢
    refine ⟨rfl, rfl, ?_⟩
    simp only [restored, Bool.or_eq_true, Bool.and_eq_true, beq_iff_eq]
    exact .inr ⟨⟨trivial, mapped⟩, there⟩

theorem reveals_minimize (ws : Windows) (id : Nat) : Reveals brought ws (ws.minimize id) :=
  (edits_minimize ws id).reveals fun t next edited shown => by
    obtain ⟨arranged, hidden⟩ := edited
    have before : ws.isToplevelVisible t = true := by
      simp only [isToplevelVisible, Bool.and_eq_true, Bool.not_eq_true'] at shown ⊢
      obtain ⟨⟨⟨⟨mapped, restored⟩, there⟩, multitasking⟩, p⟩ := shown
      refine ⟨⟨⟨⟨?_, hidden restored⟩, ?_⟩, multitasking⟩, p⟩
      · rw [arranged] at mapped
        exact mapped
      · rw [arranged] at there
        exact there
    rw [arranged, before]
    exact ⟨rfl, rfl, rfl⟩

theorem reveals_unmap (ws : Windows) (id : Nat) : Reveals brought ws (ws.unmap id) :=
  (edits_unmap ws id).reveals fun t next edited shown => by
    simp [isToplevelVisible, edited.1] at shown

def justMapped (windows : Windows) (id other : Nat) (toplevel : Toplevel) : Bool :=
  other == id && windows.onWorkspace toplevel

theorem reveals_map (ws : Windows) (id : Nat) (big : Bool) : Reveals (ws.justMapped id) ws (ws.map id big) :=
  (edits_map ws id big).reveals fun t next edited shown => by
    have there := visible_onWorkspace shown
    rw [edited.1] at there ⊢
    refine ⟨rfl, rfl, ?_⟩
    rw [Bool.or_eq_true]
    exact .inr (Bool.and_eq_true_iff.mpr ⟨beq_self_eq_true id, there⟩)

section

variable (ws : Windows) (id : Nat) (tc sm : Bool)

theorem reveals_associate : Reveals brought ws (ws.associate id tc sm) :=
  (edits_associate ws id tc sm).reveals fun t next edited shown => by
    rw [isToplevelVisible_reshown ws edited.1] at shown
    have before : ws.isToplevelVisible t = true := shown
    rw [edited.1, before]
    exact ⟨rfl, rfl, rfl⟩

theorem reveals_associate_map (big : Bool) : Reveals (ws.justMapped id) ws ((ws.associate id tc sm).map id big) := by
  have edits := edits_associate ws id tc sm
  intro i next found shown
  obtain ⟨middle, there, kept, managed, either⟩ := reveals_map _ id big i next found shown
  obtain ⟨t, original, f⟩ := edits.origin there
  refine ⟨t, original, ?_⟩
  rw [kept, managed]
  rw [edits.isToplevelVisible, justMapped, edits.onWorkspace] at either
  rcases f with ⟨_, reshown⟩ | ⟨_, reshown, _⟩
  · rw [isToplevelVisible_reshown ws reshown] at either
    rw [reshown] at either ⊢
    exact ⟨rfl, rfl, either⟩
  · rw [isToplevelVisible_reshown ws reshown] at either
    rw [reshown] at either ⊢
    exact ⟨rfl, rfl, either⟩

end

theorem update_restores (there : id < ws.toplevels.length) (restored : ∀ t, (f t).minimized = false) :
    (ws.update id f).test id (!·.minimized) = true := by
  rw [test_update, test, List.getElem?_eq_getElem there]
  simp [restored]

theorem multitaskingRestore_restores (there : id < ws.toplevels.length) :
    (ws.multitaskingRestore id).test id (!·.minimized) = true := by
  refine update_restores there fun t => ?_
  split
  · rfl
  · rename_i restored
    simpa using restored

theorem multitaskingRestore_shown (found : ws.toplevels[id]? = some t) (shown : t.minimized = false) :
    ws.multitaskingRestore id = ws := by
  unfold multitaskingRestore update
  congr 1
  refine List.ext_getElem? fun id' => ?_
  rw [List.getElem?_modify]
  by_cases same : id = id'
  · subst same
    simp [found, shown]
  · simp [same]

theorem reveals_moveToWorkspace (ws : Windows) (id : Nat) (n : Int) :
    Reveals (fun id' _ => id' == id && n == ws.currentWorkspace) ws (ws.moveToWorkspace id n) := by
  unfold moveToWorkspace
  split
  · rw [refreshNode_update]
    refine (edits_update ws id (fun t next => { t with workspace := n }.Reshown next)
      fun _ _ => reshown_setNodeEnabled _ _).reveals fun t next reshown shown => ?_
    rw [isToplevelVisible_reshown ws reshown] at shown
    rw [reshown]
    refine ⟨rfl, rfl, ?_⟩
    -- a window on all workspaces was visible before
    by_cases there : n = ws.currentWorkspace
    · simp [there]
    · have before : ws.isToplevelVisible t = true := by
        simp only [isToplevelVisible, onWorkspace, Bool.and_eq_true, Bool.or_eq_true, beq_iff_eq] at shown ⊢
        obtain ⟨⟨⟨rest, everywhere | moved⟩, multitasking⟩, p⟩ := shown
        · exact ⟨⟨⟨rest, .inl everywhere⟩, multitasking⟩, p⟩
        · exact absurd moved there
      rw [before]
      rfl
  · exact .refl ws

theorem reveals_setAllWorkspaces (ws : Windows) (id : Nat) (allWorkspaces : Bool) :
    Reveals (fun id' _ => id' == id) ws (ws.setAllWorkspaces id allWorkspaces) :=
  (edits_setAllWorkspaces ws id allWorkspaces).reveals fun t next edited _ => by
    rw [edited.1]
    exact ⟨rfl, rfl, by simp⟩

theorem reveals_placed (same : after.toplevels = before.toplevels.map f)
    (kept : ∀ t, (f t).keptAbove = t.keptAbove ∧ (f t).canManage = t.canManage)
    (shown : ∀ t, after.isToplevelVisible (f t) = true →
      before.isToplevelVisible t = true ∨ ∀ id, brought id t = true) :
    Reveals brought before after := by
  intro id next found visible
  rw [same, List.getElem?_map, Option.map_eq_some_iff] at found
  obtain ⟨t, found, rfl⟩ := found
  refine ⟨t, found, (kept t).1, (kept t).2, ?_⟩
  rw [Bool.or_eq_true]
  exact (shown t visible).imp_right fun all => all id

theorem setNodeEnabled_kept (t : Toplevel) (enabled : Bool) : (t.setNodeEnabled enabled).keptAbove = t.keptAbove ∧
      (t.setNodeEnabled enabled).canManage = t.canManage := by
  rw [t.reshown_setNodeEnabled]
  exact ⟨rfl, rfl⟩

def onTarget (workspace : Int) (_ : Nat) (toplevel : Toplevel) : Bool :=
  toplevel.mapped && !toplevel.minimized && (toplevel.allWorkspaces || toplevel.workspace == workspace)

theorem reveals_switchTo (ws : Windows) (n : Int) : Reveals (onTarget n) ws (ws.switchTo n) := by
  refine reveals_placed rfl (fun t => setNodeEnabled_kept t _) fun t visible => .inr fun _ => ?_
  replace visible := (isToplevelVisible_reshown _ (reshown_setNodeEnabled _ _)).symm.trans visible
  have shown : ({ ws with currentWorkspace := n } : Windows).isToplevelVisible t = true := visible
  simp only [isToplevelVisible, onWorkspace, Bool.and_eq_true] at shown
  simp only [onTarget, Bool.and_eq_true]
  exact shown.1.1

def previewed (windows : Windows) (chosen : Nat) (workspace : Int) (switches : Bool) (id : Nat) (toplevel : Toplevel) :
    Bool :=
  windows.restored chosen id toplevel || switches && (id == chosen || onTarget workspace id toplevel)

theorem reveals_previewed (ws : Windows) (chosen : Nat) (n : Int) :
    Reveals (ws.previewed chosen n true) ws ((ws.previewsRestore chosen).switchTo n) := by
  have edits := (edits_previewsRestore ws chosen).arranged
  intro id next found shown
  obtain ⟨middle, there, kept, managed, either⟩ := reveals_switchTo _ n id next found shown
  obtain ⟨t, original, f⟩ := edits.origin there
  refine ⟨t, original, ?_⟩
  rw [kept, managed]
  rw [Bool.or_eq_true] at either
  simp only [previewed, Bool.or_eq_true, Bool.true_and, beq_iff_eq]
  rcases f with ⟨_, reshown⟩ | ⟨same, arranged⟩
  · rw [edits.isToplevelVisible, isToplevelVisible_reshown ws reshown] at either
    rw [reshown] at either ⊢
    exact ⟨rfl, rfl, either.imp_right fun target => .inr (.inr target)⟩
  · rw [arranged]
    exact ⟨rfl, rfl, .inr (.inr (.inl same))⟩

def onMerged (windows : Windows) (workspace : Int) (_ : Nat) (toplevel : Toplevel) : Bool :=
  toplevel.mapped && !toplevel.minimized &&
    removeRemap workspace (windows.workspaceCount - 1) toplevel.workspace ==
      removeRemap workspace (windows.workspaceCount - 1) windows.currentWorkspace

theorem reveals_removeWorkspace (ws : Windows) (n : Int) : Reveals (ws.onMerged n) ws (ws.removeWorkspace n) := by
  unfold removeWorkspace
  split
  · exact .refl ws
  · refine reveals_placed (by simp only [refreshNodes, List.map_map]; rfl) ?_ ?_
    · exact fun t => setNodeEnabled_kept _ _
    · intro t visible
      replace visible := (isToplevelVisible_reshown _ (reshown_setNodeEnabled _ _)).symm.trans visible
      simp only [refreshNodes, isToplevelVisible, onWorkspace, Bool.and_eq_true, Bool.or_eq_true] at visible
      obtain ⟨⟨⟨rest, everywhere | merged⟩, multitasking⟩, p⟩ := visible
      · -- a window on all workspaces was visible before
        left
        simp only [isToplevelVisible, onWorkspace, Bool.and_eq_true, Bool.or_eq_true]
        exact ⟨⟨⟨rest, .inl everywhere⟩, multitasking⟩, p⟩
      · right
        intro _
        simp only [onMerged, Bool.and_eq_true]
        exact ⟨rest, merged⟩

theorem reveals_reorderWorkspace (ws : Windows) (source target : Int) :
    Reveals brought ws (ws.reorderWorkspace source target) := by
  unfold reorderWorkspace
  split
  · exact .refl ws
  · -- the renumbering is one to one, so the current workspace is no other's
    refine reveals_placed rfl (fun _ => ⟨rfl, rfl⟩) fun t visible => .inl ?_
    simp only [isToplevelVisible, onWorkspace, Bool.and_eq_true, Bool.or_eq_true, beq_iff_eq] at visible ⊢
    obtain ⟨⟨⟨rest, there⟩, multitasking⟩, p⟩ := visible
    exact ⟨⟨⟨rest, there.imp_right (reorderRemap_injective source target)⟩, multitasking⟩, p⟩

def behindOverview (windows : Windows) (hidden : Bool) (_ : Nat) (toplevel : Toplevel) : Bool :=
  !hidden && toplevel.mapped && !toplevel.minimized && windows.onWorkspace toplevel

theorem reveals_overview {hidden multitasking p : Bool} (same : after = ({ ws with
      multitaskingSourcesHidden := multitasking, windowPreviewsSourcesHidden := p } : Windows).refreshNodes)
    (closes : multitasking = false → p = false → hidden = false) :
    Reveals (ws.behindOverview hidden) ws after := by
  subst same
  refine reveals_placed rfl (fun t => setNodeEnabled_kept t _) fun t visible => .inr fun _ => ?_
  replace visible := (isToplevelVisible_reshown _ (reshown_setNodeEnabled _ _)).symm.trans visible
  simp only [refreshNodes, isToplevelVisible, onWorkspace, Bool.and_eq_true, Bool.not_eq_true'] at visible
  obtain ⟨⟨⟨rest, there⟩, open_⟩, shut⟩ := visible
  simp only [behindOverview, closes open_ shut, onWorkspace, Bool.not_false, Bool.true_and, Bool.and_eq_true,
    Bool.not_eq_true']
  exact ⟨rest, there⟩

end

end Windows

end FlakeWM.Desktop
