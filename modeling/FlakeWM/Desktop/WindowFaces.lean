import FlakeWM.Desktop.Stacking

/-! What others can see of the windows.

Of a mapped window others are told whether it is maximized and whether it is
minimized. Most operations change that of no window, and the others of one window only. -/

set_option autoImplicit false

namespace FlakeWM.Desktop
namespace Windows

open Toplevel

def face (windows : Windows) (id : Nat) : Option (Bool × Bool) :=
  (windows.toplevels[id]?.filter (·.mapped)).map fun toplevel => (toplevel.maximized, toplevel.minimized)

def iconified (windows : Windows) (id : Nat) : Bool :=
  windows.test id fun toplevel => toplevel.mapped && toplevel.minimized

structure Alters (touched : Nat → Prop) (before after : Windows) : Prop where
  mapped : ∀ id, after.test id (·.mapped) = before.test id (·.mapped)
  same : ∀ id, ¬ touched id → after.face id = before.face id

def Alike (before after : Windows) : Prop := Alters (fun _ => False) before after

section

variable {ws before middle after : Windows} {touched : Nat → Prop} {id : Nat}

theorem face_isSome (ws : Windows) (id : Nat) : (ws.face id).isSome = ws.test id (·.mapped) := by
  cases found : ws.toplevels[id]? with
  | none => simp [face, test, found]
  | some t => cases shown : t.mapped <;> simp [face, test, found, shown]

theorem face_unmapped (hidden : ws.test id (·.mapped) = false) : ws.face id = none := by
  rw [← Option.isNone_iff_eq_none, ← Option.not_isSome, face_isSome, hidden]
  rfl

theorem face_found {t : Toplevel} (found : ws.toplevels[id]? = some t)
    (shown : t.mapped = true) : ws.face id = some (t.maximized, t.minimized) := by
  simp [face, found, shown]

theorem iconified_eq (ws : Windows) (id : Nat) : ws.iconified id = (ws.face id).any (·.2) := by
  cases found : ws.toplevels[id]? with
  | none => simp [iconified, face, test, found]
  | some t => cases shown : t.mapped <;> simp [iconified, face, test, found, shown, Option.filter_some]

theorem face_eq {t next : Toplevel} (found : before.toplevels[id]? = some t)
    (there : after.toplevels[id]? = some next) (mapped : next.mapped = t.mapped)
    (same : next.maximized = t.maximized ∧ next.minimized = t.minimized) :
    after.face id = before.face id := by
  simp only [face, found, there, Option.filter_some, mapped]
  split
  · rw [Option.map_some, Option.map_some, same.1, same.2]
  · rfl

theorem Alike.refl (ws : Windows) : Alike ws ws := ⟨fun _ => rfl, fun _ _ => rfl⟩

theorem Alters.mono {more : Nat → Prop} (alters : Alters touched before after) (weaker : ∀ id, touched id → more id) :
    Alters more before after :=
  ⟨alters.mapped, fun id fresh => alters.same id fun old => fresh (weaker id old)⟩

theorem Alike.alters (alike : Alike before after) : Alters touched before after := Alters.mono alike fun _ => False.elim

theorem Alike.iconified (alike : Alike before after) (id : Nat) : after.iconified id = before.iconified id := by
  rw [iconified_eq, iconified_eq, alike.same id not_false]

theorem Alters.trans (first : Alters touched before middle) (second : Alters touched middle after) :
    Alters touched before after := by
  constructor
  · intro id
    rw [second.mapped, first.mapped]
  · intro id fresh
    rw [second.same id fresh, first.same id fresh]

theorem OnlyChanges.missing {i : Nat} (only : OnlyChanges id before after)
    (missing : before.toplevels[i]? = none) : after.toplevels[i]? = none := by
  rw [List.getElem?_eq_none_iff] at missing ⊢
  rwa [only.length]

theorem OnlyChanges.face {i : Nat} (only : OnlyChanges id before after) (apart : i ≠ id) :
    after.face i = before.face i := by
  cases found : before.toplevels[i]? with
  | none => simp [Windows.face, found, only.missing found]
  | some t =>
    obtain ⟨node, there⟩ := only.others i t apart found
    exact face_eq found there rfl ⟨rfl, rfl⟩

theorem Edits.alters {edit : Toplevel → Toplevel → Prop} (edits : Edits id edit before after)
    (mapped : ∀ t next, before.toplevels[id]? = some t → edit t next → next.mapped = t.mapped)
    (same : ¬ touched id → ∀ t next, before.toplevels[id]? = some t → edit t next →
      next.maximized = t.maximized ∧ next.minimized = t.minimized) : Alters touched before after := by
  constructor
  · intro i
    by_cases own : i = id
    · subst own
      cases found : before.toplevels[i]? with
      | none => simp [Windows.test, found, edits.toOnlyChanges.missing found]
      | some t =>
        obtain ⟨next, there, edited⟩ := edits.edited t found
        simp [Windows.test, found, there, mapped t next found edited]
    · rw [← face_isSome, ← face_isSome, edits.toOnlyChanges.face own]
  · intro i fresh
    by_cases own : i = id
    · subst own
      cases found : before.toplevels[i]? with
      | none => simp [face, found, edits.toOnlyChanges.missing found]
      | some t =>
        obtain ⟨next, there, edited⟩ := edits.edited t found
        exact face_eq found there (mapped t next found edited) (same fresh t next found edited)
    · exact edits.toOnlyChanges.face own

theorem alters_update {f : Toplevel → Toplevel} (mapped : ∀ t, (f t).mapped = t.mapped)
    (same : ¬ touched id → ∀ t, ws.toplevels[id]? = some t →
      (f t).maximized = t.maximized ∧ (f t).minimized = t.minimized) :
    Alters touched ws (ws.update id f) := by
  apply (edits_update ws id (fun t next => next = f t) fun _ _ => rfl).alters
  · rintro t next _ rfl
    exact mapped t
  · rintro fresh t next found rfl
    exact same fresh t found

theorem alike_map {f : Toplevel → Toplevel} (listed : after.toplevels = before.toplevels.map f)
    (mapped : ∀ t, (f t).mapped = t.mapped)
    (same : ∀ t, (f t).maximized = t.maximized ∧ (f t).minimized = t.minimized) : Alike before after := by
  constructor
  · intro id
    simp only [test, listed, List.getElem?_map, Option.any_map, mapped]
  · intro id _
    cases found : before.toplevels[id]? with
    | none => simp [face, listed, found]
    | some t =>
      apply face_eq found
      · rw [listed, List.getElem?_map, found, Option.map_some]
      · exact mapped t
      · exact same t

theorem alters_arranged (edits : Edits id Arranged before after) : Alters (· = id) before after := by
  apply edits.alters
  · intro t next _ arranged
    rw [arranged]
  · intro apart
    exact absurd rfl apart

theorem alike_reshown (edits : Edits id Reshown before after) : Alike before after := by
  apply edits.alters
  · intro t next _ reshown
    rw [reshown]
  · intro _ t next _ reshown
    rw [reshown]
    exact ⟨rfl, rfl⟩

theorem alike_nodes {enabled : Toplevel → Bool}
    (listed : after.toplevels = before.toplevels.map fun t => t.setNodeEnabled (enabled t)) :
    Alike before after := by
  apply alike_map listed
  · intro t
    rw [t.reshown_setNodeEnabled]
  · intro t
    rw [t.reshown_setNodeEnabled]
    exact ⟨rfl, rfl⟩

end

section

variable (windows : Windows) (id : Nat)

def maximizes (maximized : Bool) : Bool :=
  windows.test id fun toplevel => toplevel.alive && toplevel.sceneTree && (maximized != toplevel.maximized)

theorem alters_setMaximized (mx : Bool) : Alters (fun id' => id' = id ∧ windows.maximizes id mx = true) windows
      (windows.setMaximized id mx) := by
  unfold setMaximized
  split
  · rename_i accepted
    apply (alike_reshown (edits_cancelAnimation windows id)).alters.trans
    apply alters_update
    · intro t
      grind [setNodeEnabled]
    · intro fresh t found
      -- the window is found in the list before the animation is cancelled
      obtain ⟨original, there, reshown⟩ := (edits_cancelAnimation windows id).own found
      have kept : t.maximized = original.maximized := by rw [reshown]
      have fits : mx = original.maximized := by
        simp only [true_and, maximizes, test, there, Option.any_some] at fresh
        simp only [test, there, Option.any_some] at accepted
        rw [accepted] at fresh
        simpa using fresh
      rw [if_pos (by rw [kept, fits]; exact beq_self_eq_true _)]
      split <;> exact ⟨rfl, rfl⟩
  · exact (Alike.refl windows).alters

theorem alters_minimize : Alters (· = id) windows (windows.minimize id) :=
  alters_arranged ((edits_minimize windows id).mono fun _ _ => And.left)

theorem alters_tile (u captured : Bool) : Alters (· = id) windows (windows.tile id u captured) :=
  alters_arranged (edits_tile windows id u captured).arranged

theorem alters_restore {f : Toplevel → Toplevel} (kept : ∀ t, (f t).mapped = t.mapped ∧ (f t).maximized = t.maximized ∧
      (t.minimized = false → (f t).minimized = false)) :
    Alters (fun id' => id' = id ∧ windows.iconified id = true) windows (windows.update id f) := by
  have edits := edits_update windows id (fun t next => next = f t) fun _ _ => rfl
  have alters : Alters (fun id' => id' = id) windows (windows.update id f) :=
    alters_update (fun t => (kept t).1) fun apart => absurd rfl apart
  refine ⟨alters.mapped, ?_⟩
  intro id' fresh
  by_cases own : id' = id
  · subst own
    cases shown : windows.test id' (·.mapped) with
    | false => rw [face_unmapped shown, face_unmapped ((alters.mapped id').trans shown)]
    | true =>
      obtain ⟨t, found, shown⟩ := test_iff.mp shown
      obtain ⟨next, there, rfl⟩ := edits.edited t found
      have visible : t.minimized = false := by
        simpa [iconified, test, found, shown] using fresh
      obtain ⟨mapped, mx, minimized⟩ := kept t
      exact face_eq found there mapped ⟨mx, by rw [visible, minimized visible]⟩
  · exact alters.same id' own

theorem alters_requestRestore :
    Alters (fun id' => id' = id ∧ windows.iconified id = true ∧ windows.test id (·.canMinimize) = true)
      windows (windows.requestRestore id) := by
  unfold requestRestore
  split
  · rename_i accepted
    rw [refreshNode_update]
    apply (alters_restore windows id _).mono
    · rintro id' ⟨own, hidden⟩
      exact ⟨own, hidden, accepted⟩
    · intro t
      rw [reshown_setNodeEnabled]
      exact ⟨rfl, rfl, fun _ => rfl⟩
  · exact (Alike.refl windows).alters

theorem alters_xRequestRestore : Alters (fun id' => id' = id ∧ windows.iconified id = true ∧
      windows.test id (fun t => t.xwayland && t.alive) = true)
      windows (windows.xRequestRestore id) := by
  unfold xRequestRestore
  split
  · rename_i accepted
    apply (alters_restore windows id _).mono
    · rintro id' ⟨own, hidden⟩
      exact ⟨own, hidden, accepted⟩
    · intro t
      rw [t.reshown_setNodeEnabled]
      exact ⟨rfl, rfl, fun _ => rfl⟩
  · exact (Alike.refl windows).alters

theorem alters_switcherRestore :
    Alters (fun id' => id' = id ∧ windows.iconified id = true) windows (windows.switcherRestore id) := by
  apply alters_restore
  intro t
  grind [setNodeEnabled]

theorem alters_multitaskingRestore :
    Alters (fun id' => id' = id ∧ windows.iconified id = true) windows (windows.multitaskingRestore id) := by
  apply alters_restore
  intro t
  grind [setNodeEnabled]

theorem alters_previewsRestore :
    Alters (fun id' => id' = id ∧ windows.iconified id = true) windows (windows.previewsRestore id) :=
  alters_restore windows id fun _ => ⟨rfl, rfl, fun _ => rfl⟩

theorem alike_switchTo (n : Int) : Alike windows (windows.switchTo n) := alike_nodes rfl

theorem alike_moveToWorkspace (n : Int) : Alike windows (windows.moveToWorkspace id n) := by
  apply (edits_moveToWorkspace windows id n).alters
  · intro t next _ edited
    rw [edited.1]
  · intro _ t next _ edited
    rw [edited.1]
    exact ⟨rfl, rfl⟩

theorem alike_renumber (remap : Int → Int) (count current : Int) : Alike windows { windows with
    workspaceCount := count
    currentWorkspace := current
    toplevels := windows.toplevels.map fun t => { t with workspace := remap t.workspace } } :=
  alike_map rfl (fun _ => rfl) fun _ => ⟨rfl, rfl⟩

theorem alike_removeWorkspace (n : Int) : Alike windows (windows.removeWorkspace n) := by
  unfold removeWorkspace
  split
  · exact .refl windows
  · exact (alike_renumber windows _ _ _).trans (alike_nodes rfl)

theorem alike_reorderWorkspace (source target : Int) : Alike windows (windows.reorderWorkspace source target) := by
  unfold reorderWorkspace
  split
  · exact .refl windows
  · exact alike_renumber windows _ _ _

theorem alike_setAllWorkspaces (everywhere : Bool) : Alike windows (windows.setAllWorkspaces id everywhere) := by
  apply (edits_setAllWorkspaces windows id everywhere).alters
  · intro t next _ edited
    rw [edited.1]
  · intro _ t next _ edited
    rw [edited.1]
    exact ⟨rfl, rfl⟩

theorem alike_setKeptAbove (above : Bool) : Alike windows (windows.setKeptAbove id above) :=
  alters_update (fun _ => rfl) fun _ _ _ => ⟨rfl, rfl⟩

theorem alike_setHints (overrideRedirect overrideWantsFocus transient : Bool) :
    Alike windows (windows.setHints id overrideRedirect overrideWantsFocus transient) :=
  alters_update (fun _ => rfl) fun _ _ _ => ⟨rfl, rfl⟩

theorem alike_addWorkspace : Alike windows windows.addWorkspace := by
  unfold addWorkspace
  split
  · exact .refl windows
  · exact ⟨fun _ => rfl, fun _ _ => rfl⟩

theorem alike_associate (tc sm : Bool) : Alike windows (windows.associate id tc sm) := by
  apply (edits_associate windows id tc sm).alters
  · intro t next _ edited
    rw [edited.1]
  · intro _ t next _ edited
    rw [edited.1]
    exact ⟨rfl, rfl⟩

theorem alike_add (xw : Bool) : Alike windows (windows.add xw) := by
  have found : ∀ id' : Nat, (windows.add xw).toplevels[id']?.filter (·.mapped) =
      windows.toplevels[id']?.filter (·.mapped) := by
    intro id'
    simp only [add]
    by_cases old : id' < windows.toplevels.length
    · rw [List.getElem?_append_left old]
    · have beyond : windows.toplevels.length ≤ id' := by omega
      rw [List.getElem?_append_right beyond, List.getElem?_eq_none beyond]
      cases id' - windows.toplevels.length <;> rfl
  have same : ∀ id', (windows.add xw).face id' = windows.face id' := by
    intro id'
    simp only [face, found]
  exact ⟨fun id' => by rw [← face_isSome, ← face_isSome, same], fun id' _ => same id'⟩

end

end Windows
end FlakeWM.Desktop
