import FlakeWM.Desktop.SessionRun
import FlakeWM.Desktop.WindowFocus

/-! Which windows may hold the keyboard focus.

A window that takes the focus is alive, mapped, not minimized and on the current
workspace. Nothing but hiding the focused window itself can break this, and it
does so exactly when the window chosen to follow does not get the focus. -/

set_option autoImplicit false

namespace FlakeWM.Desktop

namespace State

open Windows Session.ProtocolManager

/-- The focused toplevel, if the session is unlocked, may hold the focus. -/
def FocusEligible (state : State) : Prop :=
  state.sessionLocked = false → ∀ id, state.focus = some (.toplevel id) → eligible state.windows id = true

structure Attached (state : State) : Prop where
  focused : ∀ id, state.focus = some (.toplevel id) →
    state.sessionLocked = false ∧ state.windows.test id (·.surface) = true
  sound : state.session.Sound

structure MayHold (state : State) (id : Nat) : Prop where
  unlocked : state.sessionLocked = false
  surface : state.windows.test id (·.surface) = true
  eligible : eligible state.windows id = true

/-- A toplevel focused afterwards may hold the focus, or it was focused before and
may hold it if it could before; `except` may have been hidden. -/
def Passes (except : Option Nat) (before after : State) : Prop :=
  ∀ id, after.focus = some (.toplevel id) → after.MayHold id ∨
    before.focus = some (.toplevel id) ∧
      (before.sessionLocked = false → after.sessionLocked = false) ∧
      (before.windows.test id (·.surface) = true → after.windows.test id (·.surface) = true) ∧
      (except ≠ some id → eligible before.windows id = true → eligible after.windows id = true)

section

variable {before after : State} {except : Option Nat}

theorem Passes.refl (s : State) : Passes except s s :=
  fun _ focused => .inr ⟨focused, id, id, fun _ => id⟩

theorem Passes.attached (passes : Passes except before after) (attached : before.Attached) (id : Nat)
    (focused : after.focus = some (.toplevel id)) :
    after.sessionLocked = false ∧ after.windows.test id (·.surface) = true := by
  rcases passes id focused with may | ⟨held, unlocked, x, _⟩
  · exact ⟨may.unlocked, may.surface⟩
  · have old := attached.focused id held
    exact ⟨unlocked old.1, x old.2⟩

theorem Passes.focusEligible (passes : Passes none before after) (attached : before.Attached)
    (good : before.FocusEligible) : after.FocusEligible := by
  intro _ id focused
  rcases passes id focused with may | ⟨held, _, _, kept⟩
  · exact may.eligible
  · exact kept (by simp) (good (attached.focused id held).1 id held)

theorem Passes.trans {middle : State} (left : Passes except before middle) (right : Passes none middle after) :
    Passes except before after := by
  intro id focused
  rcases right id focused with may | ⟨held, unlocked, x, kept⟩
  · exact .inl may
  · rcases left id held with may | ⟨held, unlockedFirst, surfaceFirst, keptFirst⟩
    · exact .inl ⟨unlocked may.unlocked, x may.surface, kept (by simp) may.eligible⟩
    · exact .inr ⟨held, fun open_ => unlocked (unlockedFirst open_), fun old => x (surfaceFirst old),
        fun apart old => kept (by simp) (keptFirst apart old)⟩

/-- Changing only the windows and their order. -/
theorem Passes.windows (s : State) {ws : Windows} {stack : List Nat} (keeps : Keeps except s.windows ws) :
    Passes except s { s with windows := ws, stack := stack } :=
  fun id focused => .inr ⟨focused, fun unlocked => unlocked, keeps.surface id, keeps.eligible id⟩

/-- Changing neither the windows nor whether the session is locked, and moving
the focus at most away from the toplevels. -/
theorem Passes.frame (ws : after.windows = before.windows)
    (locked : before.sessionLocked = false → after.sessionLocked = false)
    (focus : ∀ id, after.focus = some (.toplevel id) → before.focus = some (.toplevel id)) :
    Passes except before after := by
  intro id focused
  rw [ws]
  exact .inr ⟨focus id focused, locked, fun old => old, fun _ old => old⟩

theorem Passes.idle (ws : after.windows = before.windows)
    (locked : after.sessionLocked = before.sessionLocked) (focus : after.focus = before.focus) :
    Passes except before after :=
  Passes.frame ws (fun unlocked => locked.trans unlocked) (fun _ focused => focus.symm.trans focused)

end

section

variable (s : State)

theorem enter_focus (x : Surface) : (s.enter x).focus = s.focus ∨ (s.enter x).focus = some x := by
  rw [enter_eq]
  split
  · exact .inr rfl
  · exact .inl rfl

theorem Passes.refocus {s next : State} (same : Refocused s next)
    (focus : ∀ id, next.focus = some (.toplevel id) → s.focus = some (.toplevel id) ∨ s.MayHold id) :
    Passes none s next := by
  have locked : next.sessionLocked = s.sessionLocked := by rw [sessionLocked, same.session]; rfl
  intro id focused
  rw [same.windows, locked]
  rcases focus id focused with held | may
  · exact .inr ⟨held, fun unlocked => unlocked, fun old => old, fun _ old => old⟩
  · exact .inl ⟨locked.trans may.unlocked, same.windows.symm ▸ may.surface, same.windows.symm ▸ may.eligible⟩

theorem focusLayerSurface_focus {id t : Nat} (focused : (s.focusLayerSurface id).focus = some (.toplevel t)) :
    s.focus = some (.toplevel t) := by
  unfold focusLayerSurface at focused
  split at focused
  · exact focused
  · split at focused
    · exact focused
    · rcases s.enter_focus (.layer id) with kept | entered
      · rwa [kept] at focused
      · rw [entered] at focused
        cases focused

theorem focusLayerSurface_passes (id : Nat) : Passes none s (s.focusLayerSurface id) :=
  Passes.refocus (focusLayerSurface_refocused s id) fun _ focused => .inl (s.focusLayerSurface_focus focused)

theorem acceptsFocus_mayHold {id : Nat} (accepts : s.acceptsFocus id = true) : s.MayHold id := by
  simp only [acceptsFocus, Bool.and_eq_true, Bool.not_eq_true'] at accepts
  obtain ⟨unlocked, accepts⟩ := accepts
  obtain ⟨t, found, accepts⟩ := test_iff.mp accepts
  refine ⟨unlocked, test_iff.mpr ⟨t, found, ?_⟩, test_iff.mpr ⟨t, found, ?_⟩⟩
  · simp_all
  · simp_all

theorem focusToplevel_passes (id : Nat) : Passes none s (s.focusToplevel id) := by
  refine .refocus (focusToplevel_refocused s id) ?_
  intro t focused
  unfold focusToplevel at focused
  split at focused
  · exact .inl focused
  · rename_i accepts
    split at focused
    · exact .inl (s.focusLayerSurface_focus focused)
    · split at focused
      · exact .inl focused
      · rw [enter_eq] at focused
        split at focused
        · cases focused
          exact .inr (s.acceptsFocus_mayHold (by simpa using accepts))
        · exact .inl focused

theorem focusNextToplevel_passes (ex : Option Nat) : Passes none s (s.focusNextToplevel ex) := by
  unfold focusNextToplevel
  split
  · exact .refl s
  · split
    · exact focusLayerSurface_passes s _
    · split
      · exact focusToplevel_passes s _
      · exact .frame rfl (fun unlocked => unlocked) (fun _ focused => by cases focused)

/-- The focus leaves the window `id` when `FocusNextToplevel` runs without it: an
exclusive layer surface or the eligible window created last can take it, or there
is neither. -/
def handsOver (state : State) (id : Nat) : Bool :=
  match state.exclusiveLayer, state.nextCandidate (some id) with
  | some _, _ => state.keyboard.isSome && !state.keyboardGrab
  | none, some candidate =>
    state.keyboard.isSome && !state.keyboardGrab &&
      state.windows.test candidate fun toplevel => toplevel.surface && toplevel.wantsFocus
  | none, none => true

theorem exclusiveLayer_exclusive {layer : Nat} (found : s.exclusiveLayer = some layer) :
    s.layerExclusive layer = true := by
  simpa using List.find?_some found

theorem nextCandidate_eligible {ex : Option Nat} {candidate : Nat} (found : s.nextCandidate ex = some candidate) :
    ex ≠ some candidate ∧ eligible s.windows candidate = true := by
  have chosen := List.find?_some found
  simpa using chosen

/-- Entering another surface takes the focus from the window exactly when the seat
has a keyboard that no client has grabbed. -/
theorem enter_leaves {id : Nat} {x : Surface} (focused : s.focus = some (.toplevel id)) (ne : x ≠ .toplevel id) :
    (s.enter x).focus ≠ some (.toplevel id) ↔ (s.keyboard.isSome && !s.keyboardGrab) = true := by
  rw [enter_eq]
  by_cases free : s.keyboard.isSome = true ∧ s.keyboardGrab = false
  · simp [free, ne]
  · rw [if_neg free]
    simpa [focused] using free

theorem focusLayerSurface_exclusive {layer : Nat} (unlocked : s.sessionLocked = false)
    (exclusive : s.layerExclusive layer = true) (ne : s.focus ≠ some (.layer layer)) :
    s.focusLayerSurface layer = s.enter (.layer layer) := by
  have served : (s.layers[layer]?.any fun layer =>
      layer.mapped && layer.alive && layer.interactivity != .none) = true := by
    unfold layerExclusive at exclusive
    cases found : s.layers[layer]? <;> simp_all
  simp [focusLayerSurface, unlocked, served, ne]

theorem acceptsFocus_of_eligible {id : Nat} (unlocked : s.sessionLocked = false) (able : eligible s.windows id = true) :
    s.acceptsFocus id = s.windows.test id fun t => t.surface && t.wantsFocus := by
  obtain ⟨t, found, able⟩ := test_iff.mp able
  simp only [acceptsFocus, test, found, Option.any_some]
  simp_all

/-- `FocusNextToplevel` takes the focus from a window exactly when something can
take it over. -/
theorem focusNextToplevel_leaves {id : Nat} (unlocked : s.sessionLocked = false)
    (focused : s.focus = some (.toplevel id)) :
    (s.focusNextToplevel (some id)).focus ≠ some (.toplevel id) ↔ s.handsOver id = true := by
  unfold focusNextToplevel handsOver
  rw [if_neg (by simp [unlocked])]
  cases exclusive : s.exclusiveLayer with
  | some =>
    have served := s.exclusiveLayer_exclusive exclusive
    dsimp only
    rw [s.focusLayerSurface_exclusive unlocked served (by simp [focused])]
    exact s.enter_leaves focused (by simp)
  | none =>
    cases next : s.nextCandidate (some id) with
    | none => simp [clearFocus]
    | some candidate =>
      obtain ⟨apart, able⟩ := s.nextCandidate_eligible next
      have ne : id ≠ candidate := by simpa using apart
      dsimp only
      rw [focusToplevel, s.acceptsFocus_of_eligible unlocked able, exclusive]
      cases wants : s.windows.test candidate fun t => t.surface && t.wantsFocus with
      | false => simp [focused]
      | true =>
        have elsewhere : s.focus ≠ some (.toplevel candidate) := by simpa [focused] using ne
        simp only [Bool.not_true, Bool.false_eq_true, if_false, if_neg elsewhere, Bool.and_true]
        exact enter_leaves { s with stack := s.restack candidate } focused (by simpa using ne.symm)

end

section

variable {s : State} {id : Nat}

theorem Passes.unfocused {next : State} (passes : Passes (some id) s next)
    (elsewhere : s.focus ≠ some (.toplevel id)) : Passes none s next := by
  intro id' focused
  rcases passes id' focused with may | ⟨held, unlocked, x, kept⟩
  · exact .inl may
  · have ne : some id ≠ some id' := by
      intro same
      cases same
      exact elsewhere held
    exact .inr ⟨held, unlocked, x, fun _ => kept ne⟩

theorem handsOver_only {ws : Windows} (only : OnlyChanges id s.windows ws) :
    handsOver { s with windows := ws } id = s.handsOver id := by
  have next : nextCandidate { s with windows := ws } (some id) = s.nextCandidate (some id) := by
    unfold nextCandidate
    rw [only.length]
    congr 1
    funext id'
    by_cases same : id' = id
    · simp [same]
    · rw [only.eligible same]
  have layer : exclusiveLayer { s with windows := ws } = s.exclusiveLayer := rfl
  unfold handsOver
  rw [next, layer]
  cases s.exclusiveLayer with
  | some => rfl
  | none =>
    cases found : s.nextCandidate (some id) with
    | none => rfl
    | some candidate =>
      have ne : candidate ≠ id := by
        have chosen := (s.nextCandidate_eligible found).1
        simpa [eq_comm] using chosen
      dsimp only
      rw [only.test ne fun _ _ => rfl]

theorem hide_focused_iff {ws : Windows} (only : OnlyChanges id s.windows ws)
    (keeps : Keeps (some id) s.windows ws) (hidden : eligible ws id = false) (attached : s.Attached)
    (focused : s.focus = some (.toplevel id)) :
    FocusEligible (focusNextToplevel { s with windows := ws } (some id)) ↔ s.handsOver id = true := by
  have unlocked := (attached.focused id focused).1
  have leaves := focusNextToplevel_leaves { s with windows := ws } unlocked focused
  rw [handsOver_only only] at leaves
  rw [← leaves]
  have same := focusNextToplevel_refocused { s with windows := ws } (some id)
  constructor
  · intro good still
    have able := good (by rw [sessionLocked, same.session]; exact unlocked) id still
    rw [same.windows, hidden] at able
    cases able
  · intro left _ id' after
    have passes := (Passes.windows s keeps).trans (focusNextToplevel_passes { s with windows := ws } (some id))
    rcases passes id' after with may | ⟨held, _⟩
    · exact may.eligible
    · rw [focused] at held
      cases held
      exact absurd after left

theorem minimize_hides {ws : Windows} (accepted : ws.mayMinimize id = true) : eligible (ws.minimize id) id = false := by
  simp [Windows.minimize, accepted, eligible, Windows.test_update]
  simp [Windows.test]

theorem unmap_hides {ws : Windows} (mapped : ws.test id (·.mapped) = true) : eligible (ws.unmap id) id = false := by
  simp [Windows.unmap, mapped, eligible, Windows.test_update]
  simp [Windows.test]

/-- A step that hides the window and then looks for another one is harmless
exactly when it does nothing, the window is not focused or it can hand over. -/
theorem hide_iff {next : State} {ws : Windows} {hides : Bool} (passes : Passes (some id) s next)
    (acts : hides = true → s.focus = some (.toplevel id) →
      next = focusNextToplevel { s with windows := ws } (some id) ∧ eligible ws id = false)
    (idle : hides = false → Passes none s next)
    (only : OnlyChanges id s.windows ws) (keeps : Keeps (some id) s.windows ws)
    (attached : s.Attached) (good : s.FocusEligible) :
    next.FocusEligible ↔ (!hides || s.focus != some (.toplevel id) || s.handsOver id) = true := by
  cases hides with
  | false => exact iff_of_true ((idle rfl).focusEligible attached good) rfl
  | true =>
    by_cases focused : s.focus = some (.toplevel id)
    · obtain ⟨same, hidden⟩ := acts rfl focused
      rw [same, hide_focused_iff only keeps hidden attached focused]
      simp [focused]
    · exact iff_of_true ((passes.unfocused focused).focusEligible attached good) (by simp [focused])

theorem surfaceOf_focused (attached : s.Attached) (focused : s.focus = some (.toplevel id)) :
    s.surfaceOf id = some (.toplevel id) := by
  simp [surfaceOf, (attached.focused id focused).2]

theorem Passes.refocuses {s middle next : State} {gone : Option Nat} (changed : Passes gone s middle)
    (ends : Refocuses middle next) : Passes gone s next := by
  cases ends with
  | stay => exact changed
  | focusToplevel id => exact changed.trans (focusToplevel_passes _ id)
  | focusNextToplevel ex => exact changed.trans (focusNextToplevel_passes _ ex)

theorem minimize_passes (s : State) (id : Nat) : Passes (some id) s (s.minimize id) :=
  (Passes.windows s (keeps_minimize s.windows)).refocuses (refocuses_minimize s id)

theorem minimize_iff (attached : s.Attached) (good : s.FocusEligible) : (s.minimize id).FocusEligible ↔
      (!s.windows.mayMinimize id || s.focus != some (.toplevel id) || s.handsOver id) = true := by
  refine hide_iff (minimize_passes s id) ?_ ?_ (edits_minimize s.windows id).toOnlyChanges
    (keeps_minimize s.windows) attached good
  · intro accepted focused
    refine ⟨?_, minimize_hides accepted⟩
    simp [minimize, accepted, surfaceOf_focused attached focused, focused]
  · intro refused
    simp only [minimize, refused]
    exact .refl s

theorem unmap_passes (s : State) (id : Nat) : Passes (some id) s (s.unmap id) :=
  (Passes.windows s (keeps_unmap s.windows)).refocuses (refocuses_unmap s id)

theorem unmap_iff (attached : s.Attached) (good : s.FocusEligible) : (s.unmap id).FocusEligible ↔
      (!s.windows.test id (·.mapped) || s.focus != some (.toplevel id) || s.handsOver id) = true := by
  refine hide_iff (unmap_passes s id) ?_ ?_ (edits_unmap s.windows id).toOnlyChanges
    (keeps_unmap s.windows) attached good
  · intro mapped focused
    refine ⟨?_, unmap_hides mapped⟩
    simp [unmap, mapped, surfaceOf_focused attached focused, focused]
  · intro refused
    simp only [unmap, refused]
    exact .refl s

theorem move_passes (s : State) (id : Nat) (n : Int) : Passes (some id) s (s.moveToplevelToWorkspace id n) :=
  (Passes.windows s (keeps_moveToWorkspace s.windows n)).refocuses (refocuses_moveToplevelToWorkspace s id n)

theorem move_eligible (ws : Windows) (id : Nat) (n : Int) : eligible (ws.moveToWorkspace id n) id =
      if ws.mayMove id n then
        ws.test id fun t => t.mapped && !t.minimized && t.alive && (t.allWorkspaces || n == ws.currentWorkspace)
      else eligible ws id := by
  unfold moveToWorkspace
  split
  · rw [refreshNode_update]
    simp only [eligible, test_update, if_true]
    congr 1
    funext t
    exact ws.serves_setNodeEnabled _ _
  · rfl

theorem move_everywhere (everywhere : s.windows.test id (·.allWorkspaces) = true) (n : Int) :
    Passes none s (s.moveToplevelToWorkspace id n) := by
  have keeps : Keeps (some id) s.windows (s.windows.moveToWorkspace id n) := keeps_moveToWorkspace s.windows n
  have moved : Passes none s { s with windows := s.windows.moveToWorkspace id n } := by
    refine .windows s ⟨keeps.surface, fun id' _ able => ?_⟩
    by_cases same : id' = id
    · subst same
      rw [move_eligible]
      obtain ⟨t, found, able⟩ := test_iff.mp able
      simp_all [test]
    · exact keeps.eligible id' (by simpa [eq_comm] using same) able
  exact moved.refocuses (refocuses_moveToplevelToWorkspace s id n)

theorem move_iff (attached : s.Attached) (good : s.FocusEligible) (n : Int) :
    (s.moveToplevelToWorkspace id n).FocusEligible ↔
      (!(s.windows.mayMove id n && !s.windows.test id (·.allWorkspaces)) ||
        s.focus != some (.toplevel id) || s.handsOver id) = true := by
  refine hide_iff (move_passes s id n) ?_ ?_
    (edits_moveToWorkspace s.windows id n).toOnlyChanges (keeps_moveToWorkspace s.windows n) attached good
  · intro hides focused
    obtain ⟨accepted, bound⟩ := Bool.and_eq_true_iff.mp hides
    obtain ⟨t, found, able⟩ := test_iff.mp (good (attached.focused id focused).1 id focused)
    have moves := accepted
    simp only [mayMove, test, found, Option.any_some] at moves bound
    -- the window was on the current workspace, so it leaves it
    have away : n ≠ s.windows.currentWorkspace := by
      simp only [onWorkspace] at able
      grind
    refine ⟨?_, ?_⟩
    · simp [moveToplevelToWorkspace, accepted, surfaceOf_focused attached focused, focused, away]
    · rw [move_eligible, if_pos accepted]
      simp_all [test]
  · intro idle
    rcases Bool.and_eq_false_iff.mp idle with refused | everywhere
    · simp only [moveToplevelToWorkspace, refused]
      exact .refl s
    · exact move_everywhere (by simpa using everywhere) n

theorem Passes.drop {next after : State} (passes : Passes (some id) s next) (ss : after.session = next.session)
    (others : ∀ id' condition, id' ≠ id → after.windows.test id' condition = next.windows.test id' condition)
    (n : after.windows.currentWorkspace = next.windows.currentWorkspace)
    (focus : ∀ id', after.focus = some (.toplevel id') → id' ≠ id ∧ next.focus = some (.toplevel id')) :
    Passes none s after := by
  have locked : after.sessionLocked = next.sessionLocked := by rw [sessionLocked, ss]; rfl
  intro id' focused
  obtain ⟨ne, held⟩ := focus id' focused
  have able : eligible after.windows id' = eligible next.windows id' := by
    have here : after.windows.onWorkspace = next.windows.onWorkspace := by
      funext t
      simp [onWorkspace, n]
    simp only [eligible, here]
    exact others id' _ ne
  rw [locked, able, others id' _ ne]
  rcases passes id' held with may | ⟨old, unlocked, x, kept⟩
  · exact .inl ⟨locked.trans may.unlocked, (others id' _ ne).trans may.surface, able.trans may.eligible⟩
  · exact .inr ⟨old, unlocked, x, fun _ => kept (by simpa [eq_comm] using ne)⟩

section

variable (s : State)

theorem orphan_toplevel (id : Nat) {id' : Nat}
    (focused : (s.orphan (· == Surface.toplevel id)).focus = some (.toplevel id')) :
    id' ≠ id ∧ s.focus = some (.toplevel id') := by
  obtain ⟨held, present⟩ := (orphan_focus_iff s (by simp)).mp focused
  exact ⟨by simpa using present, held⟩

theorem dissociate_passes (id : Nat) : Passes none s (s.dissociate id) := by
  unfold dissociate
  split
  · refine (unmap_passes s id).drop rfl ?_ rfl ?_
    · intro id' condition ne
      simp [loseSurface, test_update, Ne.symm ne]
    · intro id' focused
      exact orphan_toplevel _ id focused
  · exact .refl s

theorem loseHandle_test (ws : Windows) {id' : Nat} (ne : id' ≠ id) (condition : Toplevel → Bool) :
    (ws.loseHandle id).test id' condition = ws.test id' condition := by
  unfold loseHandle
  rw [test_update]
  simp only [Ne.symm ne, if_false]
  unfold sourceUnavailable completeAnimation
  split
  · split <;> rfl
  · rfl

theorem loseHandle_workspace (ws : Windows) (id : Nat) : (ws.loseHandle id).currentWorkspace = ws.currentWorkspace := by
  unfold loseHandle sourceUnavailable completeAnimation
  split
  · split <;> rfl
  · rfl

theorem destroyToplevel_passes (id : Nat) : Passes none s (s.destroyToplevel id) := by
  refine (unmap_passes s id).drop rfl ?_ ?_ ?_
  · intro id' condition ne
    exact loseHandle_test _ ne condition
  · exact loseHandle_workspace _ id
  · intro id' focused
    exact orphan_toplevel _ id focused

theorem map_passes (id : Nat) (big : Bool) : Passes none s (s.map id big) :=
  (Passes.windows s (keeps_map s.windows id big)).refocuses (refocuses_map s id big)

theorem associate_passes (id : Nat) (tc sm big : Bool) : Passes none s (s.associate id tc sm big) := by
  have associated := keeps_associate s.windows id tc sm
  unfold associate
  split
  · have first : Passes none s { s with
        windows := s.windows.associate id tc sm
        stack := if tc then s.stack ++ [id] else s.stack } :=
      Passes.windows s associated
    dsimp only
    split
    · exact first.trans (map_passes _ id big)
    · exact first
  · exact .refl s

theorem switchTo_surface {ws : Windows} (n : Int) (x : ws.test id (·.surface) = true) :
    (ws.switchTo n).test id (·.surface) = true := by
  have refreshed : Keeps none { ws with currentWorkspace := n } (ws.switchTo n) :=
    keeps_refreshNodes _
  exact refreshed.surface id x

theorem switchTo_eligible {ws : Windows} {n : Int} (able : eligible ws id = true) (stays : (ws.switchTo n).test id
      (fun t => !(ws.switchTo n).onWorkspace t) = false) :
    eligible (ws.switchTo n) id = true := by
  obtain ⟨t, found, able⟩ := test_iff.mp able
  have after : (ws.switchTo n).toplevels[id]? = some (t.setNodeEnabled
      ({ ws with currentWorkspace := n }.isToplevelVisible t)) := by
    simp [switchTo, refreshNodes, found]
  refine test_iff.mpr ⟨_, after, ?_⟩
  simp only [test, after, Option.any_some] at stays
  simp only [Toplevel.setNodeEnabled] at stays ⊢
  grind

theorem switchWorkspace_passes (n : Int) : Passes none s (s.switchWorkspace n) := by
  unfold switchWorkspace
  split
  · refine .trans ?_ (focusNextToplevel_passes _ none)
    split
    · exact fun _ focused => nomatch focused
    · rename_i stays
      intro id focused
      refine .inr ⟨focused, fun unlocked => unlocked, fun x => ?_, fun _ able => ?_⟩
      · exact switchTo_surface n x
      · refine switchTo_eligible able ?_
        simpa [focusLeftBehind, show s.focus = some (.toplevel id) from focused] using stays
  · exact .refl s

section

variable (id : Nat)

theorem switchToOwnWorkspace_passes : Passes none s (s.switchToOwnWorkspace id) := by
  unfold switchToOwnWorkspace
  split
  · exact .refl s
  · exact switchWorkspace_passes s _

theorem multitaskingActivate_passes : Passes none s (s.multitaskingActivate id) := by
  unfold multitaskingActivate
  split
  · refine (switchToOwnWorkspace_passes s id).trans (Passes.trans ?_ (focusToplevel_passes _ id))
    exact .windows _ (edits_multitaskingRestore _ id).keeps
  · exact .refl s

theorem previewsActivate_passes : Passes none s (s.previewsActivate id) := by
  unfold previewsActivate
  split
  · refine .trans (Passes.trans ?_ (switchToOwnWorkspace_passes _ id)) (focusToplevel_passes _ id)
    exact .windows s (edits_previewsRestore s.windows id).keeps
  · exact .refl s

end

theorem orphan_passes (gone : Surface → Bool) : Passes none s (s.orphan gone) := by
  refine .frame rfl (fun unlocked => unlocked) ?_
  intro id focused
  exact ((orphan_focus_iff s (by simp)).mp focused).1

omit s in
theorem Layered.passes {s next : State} (layered : Layered s next) : Passes none s next := by
  induction layered with
  | refl => exact .refl s
  | layers _ _ ih => exact ih.trans (.idle rfl rfl rfl)
  | focusLayerSurface id _ ih => exact ih.trans (focusLayerSurface_passes _ id)
  | focusNextToplevel _ ih => exact ih.trans (focusNextToplevel_passes _ none)
  | orphan _ _ ih => exact ih.trans (orphan_passes _ _)

theorem addKeyboard_passes : Passes none s s.addKeyboard := by
  unfold addKeyboard notifyEnter
  dsimp only
  split
  · rename_i x held
    refine .frame ?_ ?_ ?_
    · split <;> rfl
    · split <;> exact fun unlocked => unlocked
    · split
      · exact fun _ focused => focused
      · exact fun _ focused => held.trans focused
  · exact focusNextToplevel_passes { s with keyboards := _, keyboard := _ } none

end

theorem beginSessionLock_passes (sound : s.session.Sound) (bc : Bool) : Passes none s (s.beginSessionLock bc) := by
  unfold beginSessionLock
  dsimp only
  split
  · rename_i held
    obtain ⟨l, held⟩ := Option.isSome_iff_exists.mp held
    rw [sound.beginSessionLock_held held]
    exact .idle rfl rfl rfl
  · split
    · exact fun _ focused => nomatch focused
    · intro id focused
      rcases focusNextToplevel_passes _ none id focused with may | ⟨held, _⟩
      · exact .inl may
      · cases held

theorem unlock_passes (s : State) (l : Nat) : Passes none s (s.unlock l) := by
  have opened : Passes none s { s with session := s.session.onUnlock l } := by
    refine .frame rfl ?_ (fun _ focused => focused)
    intro unlocked
    rcases s.session.onUnlock_cases l with same | ⟨_, _, _, opened⟩
    · rw [sessionLocked, same]
      exact unlocked
    · rw [sessionLocked, opened]
  unfold unlock
  dsimp only
  split
  · exact opened.trans (focusNextToplevel_passes _ none)
  · exact opened

theorem destroyLock_passes (s : State) (l : Nat) : Passes none s (s.destroyLock l) := by
  unfold destroyLock
  split
  · rename_i held live
    split
    · exact fun _ focused => nomatch focused
    · rename_i quiet
      have same : (s.session.onDestroy l).sessionLocked = s.session.sessionLocked := by
        rcases s.session.onDestroy_cases l with same | ⟨other, live', listening, ended⟩
        · rw [same]
        · rw [live] at live'
          cases live'
          have opened : held.unlocked = true := by simpa [listening] using quiet
          simp [ended, opened]
      have ended : Passes none s { s with session := s.session.onDestroy l } :=
        Passes.idle rfl same rfl
      exact ended.trans (orphan_passes _ _)
  · rename_i free
    have same : s.session.onDestroy l = s.session := by
      simp [onDestroy, free]
    rw [same]
    exact orphan_passes s _

theorem mapLockSurface_passes (s : State) (id : Nat) : Passes none s (s.mapLockSurface id) := by
  have mapped : Passes none s { s with session := s.session.onSurfaceMap id } := Passes.idle rfl rfl rfl
  unfold mapLockSurface
  dsimp only
  split
  · refine mapped.trans (Passes.refocus (enter_refocused _ _) ?_)
    intro t focused
    rcases enter_focus { s with session := s.session.onSurfaceMap id } (.lock id) with kept | entered
    · exact .inl (kept ▸ focused)
    · rw [entered] at focused
      cases focused
  · exact mapped

theorem withSession_passes {ss : Session.ProtocolManager} (same : s.session.SameHolder ss) :
    Passes none s { s with session := ss } :=
  Passes.frame rfl (fun unlocked => same.locked.trans unlocked) (fun _ focused => focused)

theorem destroyOutput_passes (s : State) (id : Nat) : Passes none s (s.destroyOutput id) := by
  have bare : Passes none s (s.destroyLayersOf id) :=
    destroyLayersOf_induction (Passes none) Passes.refl Passes.trans id (fun s layer _ => (layered_destroyLayer s layer).passes) s
  exact (bare.trans (withSession_passes (destroyOutput_holder _ id))).trans (orphan_passes _ _)

def focusSafe (state : State) : Event → Bool
  | .minimize id =>
    !state.windows.mayMinimize id || state.focus != some (.toplevel id) || state.handsOver id
  | .unmap id => !state.windows.test id (·.mapped) || state.focus != some (.toplevel id) || state.handsOver id
  | .moveToWorkspace id workspace =>
    !(state.windows.mayMove id workspace && !state.windows.test id (·.allWorkspaces)) ||
      state.focus != some (.toplevel id) || state.handsOver id
  | _ => true

def hiddenBy : Event → Option Nat
  | .minimize id | .unmap id | .moveToWorkspace id _ => some id
  | _ => none

theorem windowsAfter_keeps (s : State) {e : Event} (arranges : arrangesWindow e = true) (shows : ∀ id, e ≠ .minimize id) :
    Keeps none s.windows (s.windowsAfter e) := by
  obtain ⟨_, edits⟩ := s.windowsAfter_shown arranges shows
  exact edits.keeps

theorem step_passes (sound : s.session.Sound) (e : Event) : Passes (hiddenBy e) s (step s e) := by
  cases e with
  | newToplevel xw => exact .windows s (keeps_add s.windows xw)
  | associate id tc sm big =>
    exact associate_passes s id tc sm big
  | dissociate id => exact dissociate_passes s id
  | map id big => exact map_passes s id big
  | unmap id => exact unmap_passes s id
  | destroy id => exact destroyToplevel_passes s id
  | setHints =>
    exact .windows s (Keeps.update (fun _ kept => kept) (fun _ _ kept => kept))
  | minimize id => exact minimize_passes s id
  | multitaskingActivate id => exact multitaskingActivate_passes s id
  | previewsActivate id => exact previewsActivate_passes s id
  | requestRestore | xRequestRestore | switcherActivate | setMaximized | tile | animationEnd | highlight | unhighlight =>
    exact (Passes.windows s (windowsAfter_keeps s rfl fun _ same => by cases same)).refocuses (step_refocuses s rfl)
  | switchWorkspace n => exact switchWorkspace_passes s n
  | moveToWorkspace id n => exact move_passes s id n
  | addWorkspace => exact .windows s (keeps_addWorkspace s.windows)
  | removeWorkspace n => exact .windows s (keeps_removeWorkspace s.windows n)
  | reorderWorkspace source target =>
    exact .windows s (keeps_reorderWorkspace s.windows source target)
  | setAllWorkspaces id allWorkspaces =>
    exact .windows s (keeps_setAllWorkspaces s.windows id allWorkspaces)
  | setKeptAbove =>
    unfold step setKeptAbove
    dsimp only
    split
    · exact .windows s (Keeps.update (fun _ kept => kept) (fun _ _ kept => kept))
    · exact .refl s
  | hideMultitaskingSources hidden =>
    have refreshed : Keeps none { s.windows with multitaskingSourcesHidden := hidden } _ :=
      keeps_refreshNodes _
    exact .windows s ⟨refreshed.surface, refreshed.eligible⟩
  | hideWindowPreviewsSources hidden =>
    have refreshed : Keeps none { s.windows with windowPreviewsSourcesHidden := hidden } _ :=
      keeps_refreshNodes _
    exact .windows s ⟨refreshed.surface, refreshed.eligible⟩
  | focusToplevel id => exact focusToplevel_passes s id
  | focusNextToplevel => exact focusNextToplevel_passes s none
  | mapLayer | unmapLayer | commitLayer | destroyLayer | focusLayerSurface => exact (step_layered s rfl).passes
  | addKeyboard => exact addKeyboard_passes s
  | useKeyboard =>
    unfold step useKeyboard
    dsimp only
    split <;> exact .idle rfl rfl rfl
  | lockRequest bc => exact beginSessionLock_passes sound bc
  | unlock l => exact unlock_passes s l
  | destroyLock l => exact destroyLock_passes s l
  | newLockSurface l o tc =>
    exact withSession_passes (onNewSurface_holder s.session l o tc)
  | mapLockSurface id => exact mapLockSurface_passes s id
  | destroyLockSurface id =>
    exact (withSession_passes (onSurfaceDestroy_holder s.session id)).trans (orphan_passes _ _)
  | newOutput seq =>
    exact withSession_passes (addOutput_holder s.session seq)
  | outputCommit => exact .idle rfl rfl rfl
  | outputPresent o seq presented =>
    exact withSession_passes (presentOutput_holder s.session o seq presented)
  | outputDestroy o => exact destroyOutput_passes s o
  | surfaceGone =>
    unfold step
    dsimp only
    split
    · exact fun _ focused => nomatch focused
    · exact .refl s
  | _ => exact .idle rfl rfl rfl

theorem step_attached (s : State) (e : Event) (attached : s.Attached) : (step s e).Attached :=
  ⟨(step_passes attached.sound e).attached attached, step_sessionSound s e attached.sound⟩

theorem step_focusEligible_iff (s : State) (e : Event) (attached : s.Attached)
    (good : s.FocusEligible) : (step s e).FocusEligible ↔ s.focusSafe e = true := by
  have passes := step_passes attached.sound e
  cases e with
  | minimize => exact minimize_iff attached good
  | unmap => exact unmap_iff attached good
  | moveToWorkspace id n => exact move_iff attached good n
  | _ => exact iff_of_true (Passes.focusEligible passes attached good) rfl

end
end State

/-- The runs in which a focused toplevel is always alive, mapped, not minimized
and on the current workspace while the session is unlocked are exactly those in
which a focused window is hidden only when it can hand the focus over. -/
theorem focus_eligible_iff (events : List Event) :
    Transition.Throughout step State.FocusEligible State.initial events ↔
      Transition.Along step (fun state event => state.focusSafe event = true) State.initial events := by
  have start : State.initial.Attached := ⟨fun _ focused => (by cases focused), Session.ProtocolManager.Sound.initial⟩
  exact Transition.throughout_iff_along State.step_attached State.step_focusEligible_iff start
    (fun _ _ focused => by cases focused) events

/-- A window is minimized while an X11 menu that wants no focus is the only other
window: the focus stays on the minimized window. -/
theorem minimized_window_keeps_focus :
    ¬ (Transition.run step State.initial
      [.addKeyboard, .newToplevel false, .map 0 false, .newToplevel true, .setHints 1 true false false,
        .associate 1 true true false, .minimize 0]).FocusEligible := by
  intro good
  have able := good rfl 0 rfl
  revert able
  decide

/-- No window has the focus under the lock, and none that has lost its surface. -/
theorem focused_window_unlocked (events : List Event) :
    Transition.Throughout step (fun state => ∀ id, state.focus = some (.toplevel id) →
      state.sessionLocked = false ∧ state.windows.test id (·.surface) = true) State.initial events := by
  have start : State.initial.Attached := ⟨fun _ focused => (by cases focused), Session.ProtocolManager.Sound.initial⟩
  exact (Transition.throughout_invariant State.step_attached start events).mono fun _ attached => attached.focused

end FlakeWM.Desktop
