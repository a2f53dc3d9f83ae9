import FlakeWM.Desktop.Focus
import Mathlib.Data.List.Induction

/-! Showing the desktop.

There are three ways to ask for it, each with its own record of the windows it has
hidden. The window management protocols hide the windows of the current workspace
and restore them. The D-Bus method hides the windows of all workspaces, and when it is
switched off it only tells X11 clients that their windows are not iconified: the
windows stay minimized. -/

set_option autoImplicit false

namespace FlakeWM.Desktop

/-- The window management protocols of KDE and UKUI treat the desktop alike. -/
inductive DesktopEntry where
  | dbus
  | kde
  | ukui
  deriving DecidableEq, Repr

/-- What one of the entry points remembers. -/
structure Shown where
  showing : Bool
  hidden : List Nat
  deriving DecidableEq, Repr

structure ShowDesktop where
  state : State
  records : DesktopEntry → Shown

namespace State

def hideEach (wanted : Toplevel → Bool) (state : State) (ids : List Nat) : State × List Nat :=
  ids.foldl (fun hidden id =>
    if hidden.1.windows.test id fun toplevel => !toplevel.minimized && wanted toplevel then
      (hidden.1.minimize id, hidden.2 ++ [id])
    else hidden) (state, [])

/-- `SetShowDesktop`, past its guard. What it tells X11 clients when it is switched
off changes no window. -/
def setShowDesktop (state : State) (enabled : Bool) : State × List Nat :=
  if enabled then
    state.hideEach (fun toplevel => toplevel.mapped && toplevel.canMinimize)
      (List.range state.windows.toplevels.length)
  else (state.focusNextToplevel none, [])

/-- `ShowDesktop` of the protocols, past its guard. Their windows are the mapped ones,
in the order given. -/
def showDesktop (state : State) (enabled : Bool) (hidden order : List Nat) : State × List Nat :=
  if enabled then
    state.hideEach (fun toplevel => toplevel.workspace == state.windows.currentWorkspace)
      (order.filter fun id => state.windows.test id (·.mapped))
  else (hidden.foldl (fun state id => state.withWindows (·.requestRestore id)) state, [])

end State

namespace ShowDesktop

def perform (desktop : ShowDesktop) (enabled : Bool) (order : List Nat) : DesktopEntry → State × List Nat
  | .dbus => desktop.state.setShowDesktop enabled
  | .kde => desktop.state.showDesktop enabled (desktop.records .kde).hidden order
  | .ukui => desktop.state.showDesktop enabled (desktop.records .ukui).hidden order

def call (desktop : ShowDesktop) (entry : DesktopEntry) (enabled : Bool) (order : List Nat) : ShowDesktop :=
  if (desktop.records entry).showing = enabled then desktop
  else
    let done := desktop.perform enabled order entry
    { state := done.1, records := Function.update desktop.records entry ⟨enabled, done.2⟩ }

end ShowDesktop

/-- What a call that hides windows makes of one: it is shown first if it was the source
of the animation that ends, and minimized if it is one of those to hide. -/
def Toplevel.cover (toplevel : Toplevel) (freed chosen : Bool) : Toplevel :=
  let shown := if freed then toplevel.setNodeEnabled true else toplevel
  if chosen then { shown.setNodeEnabled false with minimized := true } else shown

/-- The guard of `Minimize`, on the window itself. -/
def Toplevel.minimizable (toplevel : Toplevel) : Bool :=
  toplevel.canMinimize && toplevel.mapped && !toplevel.minimized && toplevel.sceneTree

variable (toplevel : Toplevel) (freed chosen : Bool) (state : State) (order : List Nat)

theorem Toplevel.minimizable_cover : (toplevel.cover freed chosen).minimizable = (toplevel.minimizable && !chosen) := by
  obtain ⟨xw, alive, x, sceneTree, node, mapped, minimized, mx, tiled, above, everywhere,
    n, overrideRedirect, overrideWantsFocus, transient⟩ := toplevel
  cases freed <;> cases chosen <;> cases sceneTree <;>
    simp [minimizable, cover, setNodeEnabled, canMinimize, canManage]

theorem Toplevel.minimized_cover : (toplevel.cover freed chosen).minimized = (toplevel.minimized || chosen) := by
  unfold cover setNodeEnabled
  cases freed <;> cases chosen <;> cases toplevel.sceneTree <;> simp

namespace Windows

open Toplevel

def hides (windows : Windows) (wanted : Toplevel → Bool) (id : Nat) : Bool :=
  windows.mayMinimize id && windows.test id wanted

structure Steady (wanted : Toplevel → Bool) : Prop where
  node : ∀ (toplevel : Toplevel) (enabled : Bool), wanted (toplevel.setNodeEnabled enabled) = wanted toplevel
  minimized : ∀ (toplevel : Toplevel) (minimized : Bool), wanted { toplevel with minimized := minimized } = wanted toplevel

theorem steady_workspace (n : Int) : Steady (·.workspace == n) := by
  refine ⟨fun toplevel enabled => ?_, fun toplevel minimized => rfl⟩
  unfold setNodeEnabled
  split <;> rfl

theorem steady_minimizable : Steady fun toplevel => toplevel.mapped && toplevel.canMinimize := by
  refine ⟨fun toplevel enabled => ?_, fun toplevel minimized => rfl⟩
  unfold setNodeEnabled
  split <;> rfl

def covered (before : Windows) (wanted : Toplevel → Bool) (ids : List Nat) (id : Nat) (toplevel : Toplevel) : Toplevel :=
  toplevel.cover (ids.any (before.hides wanted) && decide (before.tileAnimation = some id))
    (decide (id ∈ ids) && before.hides wanted id)

structure Covers (wanted : Toplevel → Bool) (before : Windows) (ids : List Nat) (after : Windows) : Prop where
  same : after = { before with toplevels := after.toplevels, tileAnimation := after.tileAnimation }
  animation : after.tileAnimation = if ids.any (before.hides wanted) then none else before.tileAnimation
  toplevels : ∀ id, after.toplevels[id]? = before.toplevels[id]?.map (before.covered wanted ids id)

variable {ws before after : Windows} {wanted : Toplevel → Bool} {ids : List Nat} {id : Nat}

theorem Steady.cover (steady : Steady wanted) (t : Toplevel) (freed chosen : Bool) :
    wanted (t.cover freed chosen) = wanted t := by
  unfold Toplevel.cover
  cases freed <;> cases chosen <;> simp [steady.minimized, steady.node]

theorem hides_of_get {t : Toplevel} (found : ws.toplevels[id]? = some t) :
    ws.hides wanted id = (t.minimizable && wanted t) := by
  simp [Windows.hides, mayMinimize, test, found, minimizable]

theorem Covers.hides (steady : Steady wanted) (covers : Covers wanted before ids after) (id : Nat) :
    after.hides wanted id = (before.hides wanted id && !decide (id ∈ ids)) := by
  have here := covers.toplevels id
  cases found : before.toplevels[id]? with
  | none => simp [Windows.hides, mayMinimize, test, here, found]
  | some toplevel =>
    rw [found, Option.map_some] at here
    rw [hides_of_get here, covered, minimizable_cover, steady.cover, hides_of_get found]
    cases toplevel.minimizable <;> cases wanted toplevel <;> cases decide (id ∈ ids) <;> rfl

theorem Covers.refl (wanted : Toplevel → Bool) (before : Windows) : Covers wanted before [] before := by
  refine ⟨rfl, by simp, fun id => ?_⟩
  cases before.toplevels[id]? <;> simp [covered, cover]

theorem minimize_get (ws : Windows) (id id' : Nat) :
    (ws.minimize id).toplevels[id']? = ws.toplevels[id']?.map fun toplevel =>
      toplevel.cover (ws.mayMinimize id && decide (ws.tileAnimation = some id'))
        (ws.mayMinimize id && decide (id = id')) := by
  unfold minimize
  cases accepted : ws.mayMinimize id with
  | false => simp [cover]
  | true =>
    rw [if_pos rfl, update_get, cancelAnimation_get, Option.map_map]
    congr 1
    funext toplevel
    by_cases source : ws.tileAnimation = some id' <;> by_cases here : id = id' <;>
      simp [cover, source, here]

theorem minimize_asked (ws : Windows) (wanted : Toplevel → Bool) (id : Nat) :
    (if ws.test id fun toplevel => !toplevel.minimized && wanted toplevel then ws.minimize id else ws) =
      if ws.hides wanted id then ws.minimize id else ws := by
  cases accepted : ws.mayMinimize id with
  | false => simp [Windows.hides, accepted, minimize]
  | true =>
    obtain ⟨toplevel, found, able⟩ := test_iff.mp accepted
    have shown : toplevel.minimized = false := by
      simp only [Bool.and_eq_true, Bool.not_eq_true'] at able
      exact able.1.2
    simp [Windows.hides, accepted, test, found, shown]

theorem minimize_same (ws : Windows) (id : Nat) : ws.minimize id = { ws with
      toplevels := (ws.minimize id).toplevels, tileAnimation := (ws.minimize id).tileAnimation } := by
  unfold minimize
  split
  · cases animated : ws.tileAnimation with
    | none => rw [cancelAnimation_none animated]; rfl
    | some => rw [cancelAnimation_some animated]; rfl
  · rfl

theorem minimize_animation (accepted : ws.mayMinimize id = true) : (ws.minimize id).tileAnimation = none := by
  unfold minimize
  rw [if_pos accepted]
  cases animated : ws.tileAnimation with
  | none => rw [cancelAnimation_none animated]; exact animated
  | some => rw [cancelAnimation_some animated]; rfl

theorem Covers.skip (covers : Covers wanted before ids after) {id : Nat}
    (listed : before.hides wanted id = true → id ∈ ids) : Covers wanted before (ids ++ [id]) after := by
  have any : (ids ++ [id]).any (before.hides wanted) = ids.any (before.hides wanted) := by
    rw [List.any_append, Bool.eq_iff_iff]
    simp only [Bool.or_eq_true, List.any_eq_true, List.mem_singleton, exists_eq_left]
    exact ⟨fun either => either.elim (fun found => found) fun hidden => ⟨id, listed hidden, hidden⟩, .inl⟩
  refine ⟨covers.same, by rw [any]; exact covers.animation, fun id' => ?_⟩
  rw [covers.toplevels id']
  congr 1
  funext toplevel
  have chosen : (decide (id' ∈ ids ++ [id]) && before.hides wanted id') =
      (decide (id' ∈ ids) && before.hides wanted id') := by
    by_cases here : id' = id
    · subst here
      cases hidden : before.hides wanted id' with
      | false => simp
      | true => simp [listed hidden]
    · simp [here]
  rw [covered, covered, any, chosen]

theorem Covers.hide (covers : Covers wanted before ids after) {id : Nat} (hidden : before.hides wanted id = true)
    (absent : id ∉ ids) (accepted : after.mayMinimize id = true) :
    Covers wanted before (ids ++ [id]) (after.minimize id) := by
  have any : (ids ++ [id]).any (before.hides wanted) = true := by simp [hidden]
  refine ⟨?_, by rw [any, if_pos rfl, minimize_animation accepted], fun id' => ?_⟩
  · rw [minimize_same after id, covers.same]
  rw [minimize_get, covers.toplevels id', Option.map_map]
  congr 1
  funext toplevel
  have animation := covers.animation
  simp only [Function.comp_apply, covered, accepted, any, Bool.true_and, animation]
  cases earlier : ids.any (before.hides wanted) with
  | true =>
    -- The animation has ended before.
    by_cases here : id = id'
    · subst here
      simp [absent, hidden, cover]
    · simp [here, Ne.symm here, cover]
  | false =>
    have none : (decide (id' ∈ ids) && before.hides wanted id') = false := by
      rw [List.any_eq_false] at earlier
      by_cases listed : id' ∈ ids
      · simpa [listed] using earlier id' listed
      · simp [listed]
    have chosen : (decide (id' ∈ ids ++ [id]) && before.hides wanted id') = decide (id = id') := by
      by_cases here : id = id'
      · subst here
        simp [hidden]
      · simpa [here, Ne.symm here] using none
    rw [none, chosen]
    simp [cover]

theorem Covers.step (steady : Steady wanted) (covers : Covers wanted before ids after) (id : Nat) :
    Covers wanted before (ids ++ [id])
      (if after.test id fun toplevel => !toplevel.minimized && wanted toplevel then after.minimize id else after) := by
  rw [minimize_asked]
  have hides := covers.hides steady id
  cases now : after.hides wanted id with
  | false =>
    rw [if_neg (by simp)]
    -- What was hidden in an earlier round is minimized now and not hidden again.
    apply covers.skip
    intro wanted
    by_contra absent
    simp [now, wanted, absent] at hides
  | true =>
    rw [if_pos rfl]
    rw [now] at hides
    obtain ⟨hidden, absent⟩ : before.hides wanted id = true ∧ id ∉ ids := by
      simpa using hides.symm
    simp only [Windows.hides, Bool.and_eq_true] at now
    exact covers.hide hidden absent now.1

end Windows

namespace State

theorem hideEach_append (wanted : Toplevel → Bool) (s : State) (ids : List Nat) (id : Nat) :
    s.hideEach wanted (ids ++ [id]) =
      if (s.hideEach wanted ids).1.windows.test id fun toplevel => !toplevel.minimized && wanted toplevel then
        ((s.hideEach wanted ids).1.minimize id, (s.hideEach wanted ids).2 ++ [id])
      else s.hideEach wanted ids := by
  rw [hideEach, List.foldl_append]
  rfl

section

variable {wanted : Toplevel → Bool} (steady : Windows.Steady wanted) (state : State) (ids : List Nat)

include steady

theorem hideEach_covers : Windows.Covers wanted state.windows ids (state.hideEach wanted ids).1.windows := by
  induction ids using List.reverseRecOn with
  | nil => exact Windows.Covers.refl wanted state.windows
  | append_singleton before id ih =>
    have next := ih.step steady id
    rw [hideEach_append]
    split
    · rename_i asked
      rw [(refocuses_minimize _ id).windows]
      rwa [if_pos asked] at next
    · rename_i refused
      rwa [if_neg refused] at next

theorem mem_hideEach (id : Nat) : id ∈ (state.hideEach wanted ids).2 ↔
      id ∈ ids ∧ (state.windows.test id fun toplevel => !toplevel.minimized && wanted toplevel) = true := by
  induction ids using List.reverseRecOn generalizing id with
  | nil => simp [hideEach]
  | append_singleton before last ih =>
    have covers := hideEach_covers steady state before
    let asked (ws : Windows) := ws.test last fun toplevel => !toplevel.minimized && wanted toplevel
    -- What is no longer asked for has been hidden, and stands in the record.
    have now : asked (state.hideEach wanted before).1.windows =
        (asked state.windows && !(decide (last ∈ before) && state.windows.hides wanted last)) := by
      have here := covers.toplevels last
      cases found : state.windows.toplevels[last]? with
      | none => simp [asked, Windows.test, here, found]
      | some toplevel =>
        simp only [asked, Windows.test, here, found, Option.map_some, Option.any_some, Windows.covered,
          Toplevel.minimized_cover, steady.cover]
        cases toplevel.minimized <;> cases wanted toplevel <;> simp
    have recorded : asked state.windows = true → asked (state.hideEach wanted before).1.windows = false →
        last ∈ (state.hideEach wanted before).2 := by
      intro first gone
      rw [now, first, Bool.true_and, Bool.not_eq_false', Bool.and_eq_true, decide_eq_true_eq] at gone
      exact (ih last).mpr ⟨gone.1, first⟩
    rw [hideEach_append]
    by_cases still : asked (state.hideEach wanted before).1.windows = true
    · have first : asked state.windows = true := by
        rw [now, Bool.and_eq_true] at still
        exact still.1
      rw [if_pos still]
      simp only [List.mem_append, List.mem_singleton, ih]
      constructor
      · rintro (⟨mem, asked⟩ | rfl)
        · exact ⟨.inl mem, asked⟩
        · exact ⟨.inr rfl, first⟩
      · rintro ⟨mem | rfl, asked⟩
        · exact .inl ⟨mem, asked⟩
        · exact .inr rfl
    · rw [if_neg still, ih]
      simp only [List.mem_append, List.mem_singleton]
      constructor
      · rintro ⟨mem, asked⟩
        exact ⟨.inl mem, asked⟩
      · rintro ⟨mem | rfl, first⟩
        · exact ⟨mem, first⟩
        · exact (ih id).mp (recorded first (Bool.eq_false_iff.mpr still))

end

end State

namespace Windows

open Toplevel

def undone (windows : Windows) (toplevel : Toplevel) : Toplevel :=
  { toplevel with minimized := false }.setNodeEnabled (windows.isToplevelVisible { toplevel with minimized := false })

theorem undone_canMinimize (ws : Windows) (t : Toplevel) : (ws.undone t).canMinimize = t.canMinimize := by
  unfold undone setNodeEnabled
  split <;> rfl

theorem undone_undone (ws : Windows) (t : Toplevel) : ws.undone (ws.undone t) = ws.undone t := by
  unfold undone setNodeEnabled
  cases tree : t.sceneTree <;> simp [isToplevelVisible, onWorkspace]

theorem requestRestore_get (ws : Windows) (id id' : Nat) :
    (ws.requestRestore id).toplevels[id']? = ws.toplevels[id']?.map fun toplevel =>
      if decide (id = id') && toplevel.canMinimize then ws.undone toplevel else toplevel := by
  unfold requestRestore
  rw [refreshNode_update]
  by_cases here : id = id'
  · subst here
    cases found : ws.toplevels[id]? with
    | none => simp [test, found]
    | some toplevel =>
      cases able : toplevel.canMinimize with
      | false => simp [test, found, able]
      | true => simp [test, found, able, update_get, undone]
  · split
    · rw [update_get]
      simp [here]
    · simp [here]

theorem restoreEach_get (ws : Windows) (ids : List Nat) (id : Nat) :
    (ids.foldl (fun ws id => ws.requestRestore id) ws).toplevels[id]? = ws.toplevels[id]?.map fun toplevel =>
        if decide (id ∈ ids) && toplevel.canMinimize then ws.undone toplevel else toplevel := by
  induction ids generalizing ws with
  | nil => simp
  | cons first rest ih =>
    have same : (ws.requestRestore first).undone = ws.undone := by
      unfold requestRestore
      split <;> rfl
    rw [List.foldl_cons, ih, requestRestore_get, Option.map_map, same]
    congr 1
    funext toplevel
    by_cases here : first = id
    · subst here
      cases able : toplevel.canMinimize with
      | false => simp [able]
      | true => simp [able, undone_canMinimize, undone_undone]
    · simp [here, Ne.symm here]

/-- Every window is minimized or not, and its node enabled or not, as it was. -/
def Restores (before after : Windows) : Prop :=
  ∀ id : Nat, (after.toplevels[id]?.map fun toplevel => (toplevel.minimized, toplevel.nodeEnabled)) =
    before.toplevels[id]?.map fun toplevel => (toplevel.minimized, toplevel.nodeEnabled)

def hidesCurrent (windows : Windows) (id : Nat) : Bool :=
  windows.hides (fun toplevel => toplevel.workspace == windows.currentWorkspace) id

/-- The nodes of the windows to hide are as their visibility has it, and the source of an
animation that ends is not hidden by it, unless it is one of those windows. -/
structure Undoable (windows : Windows) (order : List Nat) : Prop where
  nodes : ∀ id ∈ order, windows.hidesCurrent id = true → windows.test id (·.nodeEnabled == !windows.overviewHidden) = true
  source : ∀ source, windows.tileAnimation = some source → (∃ id ∈ order, windows.hidesCurrent id = true) →
    ¬ (source ∈ order ∧ windows.hidesCurrent source = true) →
    (windows.test source fun toplevel => toplevel.sceneTree && !toplevel.nodeEnabled) = false

theorem undone_cover_hidden (ws : Windows) {t : Toplevel} (freed : Bool)
    (able : t.minimizable = true) (here : t.workspace = ws.currentWorkspace) :
    (ws.undone (t.cover freed true)).minimized = t.minimized ∧
      (ws.undone (t.cover freed true)).nodeEnabled = !ws.overviewHidden := by
  simp only [minimizable, Bool.and_eq_true, Bool.not_eq_true'] at able
  obtain ⟨⟨⟨-, mapped⟩, minimized⟩, tree⟩ := able
  cases freed <;> simp [undone, cover, setNodeEnabled, tree, minimized, mapped, here,
    isToplevelVisible, onWorkspace, overviewHidden]

theorem undone_cover_treeless (ws : Windows) {t : Toplevel} (freed : Bool)
    (treeless : t.sceneTree = false) (minimized : t.minimized = false) :
    (ws.undone (t.cover freed false)).minimized = t.minimized ∧
      (ws.undone (t.cover freed false)).nodeEnabled = t.nodeEnabled := by
  cases freed <;> simp [undone, cover, setNodeEnabled, treeless, minimized]

theorem cover_other : (toplevel.cover freed false).minimized = toplevel.minimized ∧
      ((toplevel.cover freed false).nodeEnabled = toplevel.nodeEnabled ↔
        (freed = true → (toplevel.sceneTree && !toplevel.nodeEnabled) = false)) := by
  unfold cover setNodeEnabled
  cases freed <;> cases toplevel.sceneTree <;> cases node : toplevel.nodeEnabled <;> simp [node]

theorem canMinimize_cover : (toplevel.cover freed chosen).canMinimize = toplevel.canMinimize := by
  unfold cover setNodeEnabled
  cases freed <;> cases chosen <;> cases tree : toplevel.sceneTree <;>
    simp [tree, canMinimize, canManage]

end Windows

namespace State

open Windows

theorem restoreEach_windows (ids : List Nat) :
    (ids.foldl (fun state id => state.withWindows (·.requestRestore id)) state).windows =
      ids.foldl (fun ws id => ws.requestRestore id) state.windows := by
  induction ids generalizing state with
  | nil => rfl
  | cons first rest ih => exact ih _

theorem showDesktop_get (order' : List Nat) (id : Nat) : let shown := state.showDesktop true [] order
    (shown.1.showDesktop false shown.2 order').1.windows.toplevels[id]? =
      state.windows.toplevels[id]?.map fun toplevel =>
        let hidden := toplevel.cover
          (order.any state.windows.hidesCurrent && decide (state.windows.tileAnimation = some id))
          (decide (id ∈ order) && state.windows.hidesCurrent id)
        if decide (id ∈ shown.2) && toplevel.canMinimize then state.windows.undone hidden else hidden := by
  intro shown
  let wanted (toplevel : Toplevel) : Bool := toplevel.workspace == state.windows.currentWorkspace
  let ids := order.filter fun id => state.windows.test id (·.mapped)
  have steady : Steady wanted := steady_workspace _
  have covers : Covers wanted state.windows ids shown.1.windows := hideEach_covers steady state ids
  -- The windows that are hidden are mapped.
  have mapped (id : Nat) (hidden : state.windows.hidesCurrent id = true) : state.windows.test id (·.mapped) = true := by
    simp only [hidesCurrent, hides, Bool.and_eq_true] at hidden
    obtain ⟨toplevel, found, able⟩ := test_iff.mp hidden.1
    simp only [Bool.and_eq_true] at able
    exact test_iff.mpr ⟨toplevel, found, able.1.1.2⟩
  have listed (id : Nat) : (decide (id ∈ ids) && state.windows.hides wanted id) =
      (decide (id ∈ order) && state.windows.hidesCurrent id) := by
    cases hidden : state.windows.hidesCurrent id with
    | false => simp [show state.windows.hides wanted id = false from hidden]
    | true =>
      rw [show state.windows.hides wanted id = true from hidden]
      simp [ids, mapped id hidden]
  have any : ids.any (state.windows.hides wanted) = order.any state.windows.hidesCurrent := by
    rw [Bool.eq_iff_iff, List.any_eq_true, List.any_eq_true]
    apply exists_congr
    intro id
    have both := listed id
    rw [Bool.eq_iff_iff] at both
    simpa only [Bool.and_eq_true, decide_eq_true_eq] using both
  have same : shown.1.windows.undone = state.windows.undone := by
    rw [covers.same]
    rfl
  have off : (shown.1.showDesktop false shown.2 order').1.windows =
      shown.2.foldl (fun ws id => ws.requestRestore id) shown.1.windows :=
    restoreEach_windows shown.1 shown.2
  rw [off, restoreEach_get, covers.toplevels id, Option.map_map, same]
  congr 1
  funext toplevel
  simp only [Function.comp_apply, covered, any, listed, canMinimize_cover]

theorem mem_showDesktop (id : Nat) :
    id ∈ (state.showDesktop true [] order).2 ↔ id ∈ order ∧ (state.windows.test id fun toplevel =>
      toplevel.mapped && (!toplevel.minimized && toplevel.workspace == state.windows.currentWorkspace)) = true := by
  have recorded := mem_hideEach (steady_workspace state.windows.currentWorkspace) state
    (order.filter fun id => state.windows.test id (·.mapped)) id
  rw [test_and, Bool.and_eq_true, ← and_assoc]
  rwa [List.mem_filter] at recorded

/-- The flag and the node of one window come back exactly if its node was as its
visibility has it, or if it is not hidden and no animation of it ends. -/
theorem showDesktop_window_iff {id : Nat} {t : Toplevel} (found : state.windows.toplevels[id]? = some t) :
    let freed := order.any state.windows.hidesCurrent && decide (state.windows.tileAnimation = some id)
    let chosen := decide (id ∈ order) && state.windows.hidesCurrent id
    let hidden := t.cover freed chosen
    let after :=
      if decide (id ∈ (state.showDesktop true [] order).2) && t.canMinimize then state.windows.undone hidden
      else hidden
    (after.minimized, after.nodeEnabled) = (t.minimized, t.nodeEnabled) ↔
      if chosen then t.nodeEnabled = !state.windows.overviewHidden
      else freed = true → (t.sceneTree && !t.nodeEnabled) = false := by
  intro freed chosen hidden after
  have hides : state.windows.hidesCurrent id =
      (t.minimizable && t.workspace == state.windows.currentWorkspace) := hides_of_get found
  have recorded := mem_showDesktop state order id
  simp only [test, found, Option.any_some, Bool.and_eq_true, Bool.not_eq_true', beq_iff_eq] at recorded
  have able : t.minimizable = true ↔ ((t.canMinimize = true ∧ t.mapped = true) ∧
      t.minimized = false) ∧ t.sceneTree = true := by
    simp [Toplevel.minimizable]
  by_cases choice : chosen = true
  · have parts := choice
    simp only [chosen, hides, Bool.and_eq_true, decide_eq_true_eq, beq_iff_eq] at parts
    obtain ⟨listed, minimizable, here⟩ := parts
    obtain ⟨⟨⟨can, mapped⟩, shown⟩, -⟩ := able.mp minimizable
    have mem := recorded.mpr ⟨listed, mapped, shown, here⟩
    have fate : after = state.windows.undone (t.cover freed true) := by
      simp only [after, hidden, choice, mem, can, decide_true, Bool.and_true, if_true]
    obtain ⟨flag, node⟩ := undone_cover_hidden state.windows freed minimizable here
    rw [fate, flag, node, if_pos choice, Prod.mk.injEq]
    exact ⟨fun same => same.2.symm, fun same => ⟨rfl, same.symm⟩⟩
  · have unchosen : chosen = false := Bool.eq_false_iff.mpr choice
    rw [if_neg choice]
    by_cases kept : id ∈ (state.showDesktop true [] order).2 ∧ t.canMinimize = true
    · -- It was listed but could not be hidden.
      obtain ⟨listed, mapped, shown, here⟩ := recorded.mp kept.1
      have treeless : t.sceneTree = false := by
        by_contra tree
        have minimizable := able.mpr ⟨⟨⟨kept.2, mapped⟩, shown⟩, by simpa using tree⟩
        simp [chosen, hides, listed, minimizable, here] at choice
      have fate : after = state.windows.undone (t.cover freed false) := by
        simp only [after, hidden, unchosen, kept, decide_true, Bool.and_true, if_true]
      obtain ⟨flag, node⟩ := undone_cover_treeless state.windows freed treeless shown
      rw [fate, flag, node]
      simp [treeless]
    · have fate : after = t.cover freed false := by
        have skipped : ¬ (decide (id ∈ (state.showDesktop true [] order).2) && t.canMinimize) = true := by
          simpa only [Bool.and_eq_true, decide_eq_true_eq] using kept
        simp only [after, hidden, unchosen]
        rw [if_neg skipped]
      obtain ⟨flag, node⟩ := cover_other t freed
      rw [fate, flag, Prod.mk.injEq, node]
      simp

theorem showDesktop_restores_iff (order' : List Nat) : let shown := state.showDesktop true [] order
    state.windows.Restores (shown.1.showDesktop false shown.2 order').1.windows ↔ state.windows.Undoable order := by
  intro shown
  have windowwise : state.windows.Restores (shown.1.showDesktop false shown.2 order').1.windows ↔
      ∀ id toplevel, state.windows.toplevels[id]? = some toplevel →
        if decide (id ∈ order) && state.windows.hidesCurrent id then
          toplevel.nodeEnabled = !state.windows.overviewHidden
        else (order.any state.windows.hidesCurrent && decide (state.windows.tileAnimation = some id)) = true →
          (toplevel.sceneTree && !toplevel.nodeEnabled) = false := by
    apply forall_congr'
    intro id
    rw [showDesktop_get]
    cases found : state.windows.toplevels[id]? with
    | none => simp
    | some =>
      simp only [Option.map_some, Option.some.injEq, forall_eq']
      exact showDesktop_window_iff state order found
  rw [windowwise]
  constructor
  · intro each
    refine ⟨fun id listed hidden => ?_, fun source animated some alone => ?_⟩
    · have able := hidden
      simp only [hidesCurrent, hides, Bool.and_eq_true] at able
      obtain ⟨toplevel, found, -⟩ := test_iff.mp able.1
      have here := each id toplevel found
      rw [if_pos (by simp [listed, hidden])] at here
      exact test_iff.mpr ⟨toplevel, found, by simp [here]⟩
    · rw [Bool.eq_false_iff]
      intro lost
      obtain ⟨toplevel, found, dark⟩ := test_iff.mp lost
      have here := each source toplevel found
      rw [if_neg (by simpa using alone)] at here
      rw [here (by simpa [animated] using some)] at dark
      cases dark
  · intro undoable id toplevel found
    split
    · rename_i chosen
      rw [Bool.and_eq_true, decide_eq_true_eq] at chosen
      obtain ⟨same, listed, node⟩ := test_iff.mp (undoable.nodes id chosen.1 chosen.2)
      obtain rfl : toplevel = same := Option.some.inj (found.symm.trans listed)
      simpa using node
    · rename_i id'
      intro freed
      rw [Bool.and_eq_true, decide_eq_true_eq, List.any_eq_true] at freed
      have source := undoable.source id freed.2 freed.1 (by simpa using id')
      simpa [test, found] using source

theorem setShowDesktop_restores_iff :
    state.windows.Restores ((state.setShowDesktop true).1.setShowDesktop false).1.windows ↔
      ∀ id, state.windows.mayMinimize id = false := by
  let wanted (toplevel : Toplevel) : Bool := toplevel.mapped && toplevel.canMinimize
  let ids := List.range state.windows.toplevels.length
  have covers : Covers wanted state.windows ids ((state.setShowDesktop true).1.setShowDesktop false).1.windows := by
    have hidden := hideEach_covers steady_minimizable state ids
    have same : ((state.setShowDesktop true).1.setShowDesktop false).1.windows = (state.hideEach wanted ids).1.windows :=
      focusNextToplevel_windows _ none
    rw [same]
    exact hidden
  have hides (id : Nat) : state.windows.hides wanted id = state.windows.mayMinimize id := by
    cases found : state.windows.toplevels[id]? with
    | none => simp [hides, mayMinimize, test, found]
    | some toplevel =>
      simp only [hides, mayMinimize, test, found, Option.any_some, wanted]
      cases toplevel.mapped <;> cases toplevel.canMinimize <;> simp
  constructor
  · intro restores id
    rw [Bool.eq_false_iff]
    intro able
    obtain ⟨toplevel, found, minimizable⟩ := test_iff.mp able
    have listed : id ∈ ids := List.mem_range.mpr (List.getElem?_eq_some_iff.mp found).1
    have same := restores id
    rw [covers.toplevels id, found] at same
    -- The window is still minimized.
    simp only [Option.map_some, Option.some.injEq, Prod.mk.injEq, covered, Toplevel.minimized_cover, hides, able,
      listed, decide_true, Bool.and_true, Bool.or_true] at same
    simp [← same.1] at minimizable
  · intro none id
    have nothing : ids.any (state.windows.hides wanted) = false := by
      rw [List.any_eq_false]
      intro id' _
      rw [hides, none id']
      simp
    rw [covers.toplevels id]
    cases state.windows.toplevels[id]? with
    | none => rfl
    | some => simp [covered, nothing, hides, none, Toplevel.cover]

end State

namespace ShowDesktop

/-- The windows that the entry point hides can be given back: D-Bus gives back none. -/
def Recoverable (desktop : ShowDesktop) (order : List Nat) : DesktopEntry → Prop
  | .dbus => ∀ id, desktop.state.windows.mayMinimize id = false
  | _ => desktop.state.windows.Undoable order

theorem call_of_ne {desktop : ShowDesktop} {en : DesktopEntry} {enabled : Bool}
    (apart : (desktop.records en).showing ≠ enabled) (order : List Nat) :
    (desktop.call en enabled order).state = (desktop.perform enabled order en).1 ∧
      (desktop.call en enabled order).records en = ⟨enabled, (desktop.perform enabled order en).2⟩ := by
  rw [call, if_neg apart]
  exact ⟨rfl, Function.update_self _ _ _⟩

/-- Switching on and off again restores all windows: through D-Bus only if there was no
window to hide, through the protocols if the nodes of the windows to hide were in
order. -/
theorem restores_iff (desktop : ShowDesktop) (entry : DesktopEntry) (order order' : List Nat)
    (off : (desktop.records entry).showing = false) :
    desktop.state.windows.Restores ((desktop.call entry true order).call entry false order').state.windows ↔
      desktop.Recoverable order entry := by
  obtain ⟨state, record⟩ := call_of_ne (show (desktop.records entry).showing ≠ true by simp [off]) order
  have on : ((desktop.call entry true order).records entry).showing ≠ false := by simp [record]
  rw [(call_of_ne on order').1]
  cases entry with
  | dbus =>
    rw [perform, state]
    exact desktop.state.setShowDesktop_restores_iff
  | kde | ukui =>
    rw [perform, record, state]
    exact desktop.state.showDesktop_restores_iff order order'

def threeWindows : ShowDesktop where
  state := [.newToplevel false, .map 0 false, .newToplevel false, .map 1 false, .minimize 1, .newToplevel false,
    .map 2 false, .moveToWorkspace 2 1].foldl step .initial
  records := fun _ => ⟨false, []⟩

/-- The protocols restore them. -/
theorem restores_threeWindows :
    (threeWindows.state.windows.Restores
        ((threeWindows.call .kde true [0, 1, 2]).call .kde false [0, 1, 2]).state.windows) ∧
      (threeWindows.call .kde true [0, 1, 2]).state.windows.test 0 (·.minimized) = true := by
  have recoverable : threeWindows.Recoverable [0, 1, 2] .kde := by
    refine ⟨?_, ?_⟩
    · decide
    · intro source animated
      have still : threeWindows.state.windows.tileAnimation = none := by decide
      rw [still] at animated
      cases animated
  exact ⟨(restores_iff threeWindows .kde [0, 1, 2] [0, 1, 2] rfl).mpr recoverable, by decide⟩

/-- D-Bus leaves the first window minimized, and the one on the other workspace. -/
theorem dbus_keeps_minimized :
    let after := ((threeWindows.call .dbus true []).call .dbus false []).state.windows
    (threeWindows.state.windows.toplevels.map (·.minimized) = [false, true, false]) ∧
      after.toplevels.map (·.minimized) = [true, true, true] ∧
      after.toplevels.map (·.nodeEnabled) = [false, false, false] ∧ ¬ threeWindows.state.windows.Restores after := by
  intro after
  have now : after.toplevels.map (·.minimized) = [true, true, true] := by decide
  refine ⟨by decide, now, by decide, fun restores => ?_⟩
  have first := restores 0
  revert first
  decide

end ShowDesktop

end FlakeWM.Desktop
