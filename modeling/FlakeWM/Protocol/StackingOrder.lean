import FlakeWM.Desktop.Stacking

/-! The stacking order that UKUI tells its clients.

UKUI keeps its own list of the windows, in the order they were mapped, and sends that
list as the stacking order. It does so when a window is mapped or unmapped, and when
one is updated, which follows every change of the order and may happen at any time. -/

set_option autoImplicit false

namespace FlakeWM.Protocol

/-- The mapped windows in the order of the scene, from the bottom. -/
def stacked (desktop : Desktop.State) : List Nat :=
  desktop.stack.filter fun id => desktop.windows.test id (·.mapped)

/-- The desktop and the windows of UKUI, which `SendStackingOrder` sends as they are. -/
structure UkuiWindows where
  desktop : Desktop.State
  windows : List Nat

namespace UkuiWindows

def initial : UkuiWindows := ⟨.initial, []⟩

/-- What is sent now is the stacking order. -/
def Right (state : UkuiWindows) : Prop := state.windows = stacked state.desktop

/-- `MapToplevel` adds a window that is not listed. -/
def mapToplevel (windows : List Nat) (id : Nat) : List Nat := if id ∈ windows then windows else windows ++ [id]

/-- Where a window is mapped or unmapped: the desktop at the time UKUI is told, before
the focus moves, and the windows it then sends. -/
def announcement (state : UkuiWindows) : Desktop.Event → Option UkuiWindows
  | .map id requestedMaximized =>
    if state.desktop.windows.mayMap id then
      some ⟨state.desktop.withWindows (·.map id requestedMaximized), mapToplevel state.windows id⟩
    else none
  | .associate id treeCreated surfaceMapped requestedMaximized =>
    let windows := state.desktop.windows.associate id treeCreated surfaceMapped
    if treeCreated && surfaceMapped && windows.mayMap id &&
        state.desktop.windows.test id fun toplevel => toplevel.xwayland && toplevel.alive && !toplevel.surface then
      some ⟨{ state.desktop with windows := windows.map id requestedMaximized, stack := state.desktop.stack ++ [id] },
        mapToplevel state.windows id⟩
    else none
  | .dissociate id =>
    if state.desktop.windows.test id fun toplevel => toplevel.xwayland && toplevel.mapped then
      some ⟨state.desktop.withWindows (·.unmap id), state.windows.erase id⟩
    else none
  | .unmap id | .destroy id =>
    if state.desktop.windows.test id (·.mapped) then
      some ⟨state.desktop.withWindows (·.unmap id), state.windows.erase id⟩
    else none
  | _ => none

/-- The events of the desktop, and a client of UKUI that asks for its window to be kept
below, which puts it under all others. -/
inductive Event
  | compositor (event : Desktop.Event)
  | keepBelow (id : Nat)

def lowerToBottom (desktop : Desktop.State) (id : Nat) : Desktop.State :=
  if desktop.windows.test id fun toplevel => toplevel.mapped && toplevel.sceneTree then
    { desktop with stack := id :: desktop.stack.erase id }
  else desktop

def step (state : UkuiWindows) : Event → UkuiWindows
  | .compositor event =>
    ⟨Desktop.step state.desktop event, ((state.announcement event).map (·.windows)).getD state.windows⟩
  | .keepBelow id => { state with desktop := lowerToBottom state.desktop id }

def AnnouncesRight (state : UkuiWindows) : Event → Prop
  | .compositor event => ∀ announced, state.announcement event = some announced → announced.Right
  | .keepBelow _ => True

end UkuiWindows

def keepsOrder (before after : Desktop.State) : Bool :=
  stacked after ==
    (stacked before).filter (fun id => after.windows.test id (·.mapped)) ++
      (stacked after).filter fun id => !before.windows.test id (·.mapped)

/-- The order is kept until a window is announced and until the event is over. -/
def UkuiWindows.orderly (state : UkuiWindows) (event : Event) : Bool :=
  keepsOrder state.desktop (state.step event).desktop &&
    match event with
    | .compositor event => (state.announcement event).all fun announced => keepsOrder state.desktop announced.desktop
    | .keepBelow _ => true

/-- The listed windows follow the mapped ones. -/
inductive Follows (before after : Desktop.State) (windows : List Nat) : List Nat → Prop
  | same (unchanged : ∀ id, after.windows.test id (·.mapped) = before.windows.test id (·.mapped)) :
      Follows before after windows windows
  | mapped (id : Nat) (hidden : before.windows.test id (·.mapped) = false)
      (added : ∀ other, after.windows.test other (·.mapped) = (before.windows.test other (·.mapped) || other == id)) :
      Follows before after windows (windows ++ [id])
  | unmapped (id : Nat) (gone : ∀ other, after.windows.test other (·.mapped) =
        (before.windows.test other (·.mapped) && other != id)) : Follows before after windows (windows.erase id)

section

variable {before after : Desktop.State} {listed : List Nat}

theorem nodup_stacked {desktop : Desktop.State} (distinct : desktop.stack.Nodup) : (stacked desktop).Nodup :=
  distinct.filter _

section

variable (follows : Follows before after (stacked before) listed) (distinct : before.stack.Nodup)
  (staged : after.Staged)

include follows distinct staged

theorem Follows.eq_append : listed = (stacked before).filter (fun id => after.windows.test id (·.mapped)) ++
      (stacked after).filter fun id => !before.windows.test id (·.mapped) := by
  cases follows with
  | same unchanged =>
    have kept : (stacked before).filter (fun id => after.windows.test id (·.mapped)) = stacked before := by
      rw [List.filter_eq_self]
      intro id mem
      rw [unchanged]
      exact (List.mem_filter.mp mem).2
    have none : (stacked after).filter (fun id => !before.windows.test id (·.mapped)) = [] := by
      rw [List.filter_eq_nil_iff]
      intro id mem
      have shown := (List.mem_filter.mp mem).2
      rw [unchanged] at shown
      simp [shown]
    rw [kept, none, List.append_nil]
  | mapped id hidden added =>
    have kept : (stacked before).filter (fun id => after.windows.test id (·.mapped)) = stacked before := by
      rw [List.filter_eq_self]
      intro id' mem
      rw [added, (List.mem_filter.mp mem).2, Bool.true_or]
    have one : (stacked after).filter (fun id => !before.windows.test id (·.mapped)) = [id] := by
      have only : ∀ id' ∈ stacked after, (!before.windows.test id' (·.mapped)) = (id' == id) := by
        intro id' mem
        have shown := (List.mem_filter.mp mem).2
        rw [added] at shown
        by_cases same : id' = id
        · simp [same, hidden]
        · have before : before.windows.test id' (·.mapped) = true := by simpa [same] using shown
          simp [before, same]
      have shown : after.windows.test id (·.mapped) = true := by rw [added]; simp
      have mem : id ∈ stacked after := List.mem_filter.mpr ⟨(staged.mapped_mem shown).1, shown⟩
      rw [List.filter_congr only, List.filter_beq,
        List.count_eq_one_of_mem (nodup_stacked staged.distinct) mem, List.replicate_one]
    rw [kept, one]
  | unmapped id gone =>
    have kept : (stacked before).filter (fun id => after.windows.test id (·.mapped)) = (stacked before).erase id := by
      rw [(nodup_stacked distinct).erase_eq_filter]
      refine List.filter_congr fun id' mem => ?_
      rw [gone, (List.mem_filter.mp mem).2, Bool.true_and]
    have none : (stacked after).filter (fun id => !before.windows.test id (·.mapped)) = [] := by
      rw [List.filter_eq_nil_iff]
      intro id' mem
      have shown := (List.mem_filter.mp mem).2
      rw [gone, Bool.and_eq_true] at shown
      simp [shown.1]
    rw [kept, none, List.append_nil]

theorem Follows.right_iff : listed = stacked after ↔ keepsOrder before after = true := by
  rw [keepsOrder, beq_iff_eq, ← follows.eq_append distinct staged]
  exact eq_comm

end

end

open Desktop in
theorem mapped_map (ws : Windows) (id : Nat) (big : Bool) (accepted : ws.mayMap id = true)
    (id' : Nat) : (ws.map id big).test id' (·.mapped) = (ws.test id' (·.mapped) || id' == id) := by
  by_cases same : id' = id
  · subst same
    obtain ⟨t, found, _⟩ := Windows.test_iff.mp accepted
    obtain ⟨next, there, arranged, _⟩ := (Windows.edits_map_accepted ws id' accepted big).edited t found
    rw [BEq.rfl, Bool.or_true]
    exact Windows.test_iff.mpr ⟨next, there, by rw [arranged]⟩
  · rw [(Windows.edits_map ws id big).toOnlyChanges.test same fun _ _ => rfl]
    simp [same]

namespace UkuiWindows

open Desktop.Windows Desktop.State Desktop

variable {state : UkuiWindows}

theorem mapped_associate (ws : Windows) (id : Nat) (tc sm : Bool) (id' : Nat) :
    (ws.associate id tc sm).test id' (·.mapped) = ws.test id' (·.mapped) := by
  refine (edits_associate ws id tc sm).test (fun _ _ => rfl) ?_ id'
  intro t next edited
  rw [edited.1]

variable {ws : Desktop.Windows}

theorem hidden_of_mayMap {id : Nat} (accepted : ws.mayMap id = true) : ws.test id (·.mapped) = false := by
  obtain ⟨t, found, facts⟩ := test_iff.mp accepted
  simp only [Bool.and_eq_true, Bool.not_eq_true'] at facts
  simp [test, found, facts.2]

theorem mapToplevel_of_hidden {desktop : State} {id : Nat} (hidden : desktop.windows.test id (·.mapped) = false) :
    mapToplevel (stacked desktop) id = stacked desktop ++ [id] := by
  unfold mapToplevel
  rw [if_neg]
  intro mem
  rw [(List.mem_filter.mp mem).2] at hidden
  cases hidden

theorem announcement_spec {e : Desktop.Event} {announced : UkuiWindows} (right : state.Right)
    (staged : state.desktop.Staged) (found : state.announcement e = some announced) :
    Follows state.desktop announced.desktop (stacked state.desktop) announced.windows ∧ announced.desktop.Staged := by
  unfold Right at right
  cases e with
  | map id big =>
    simp only [announcement] at found
    split at found
    · rename_i accepted
      cases found
      have hidden := hidden_of_mayMap accepted
      rw [right, mapToplevel_of_hidden hidden]
      exact ⟨.mapped id hidden (mapped_map _ id big accepted),
        staged.windows (Desktop.Windows.keepsTrees_map_event _ id big)⟩
    · cases found
  | associate id tc sm big =>
    simp only [announcement] at found
    split at found
    · rename_i accepted
      cases found
      simp only [Bool.and_eq_true] at accepted
      obtain ⟨⟨⟨rfl, rfl⟩, mappable⟩, fresh⟩ := accepted
      have mapped := mapped_associate state.desktop.windows id true true
      have hidden : state.desktop.windows.test id (·.mapped) = false := by
        rw [← mapped]
        exact hidden_of_mayMap mappable
      rw [right, mapToplevel_of_hidden hidden]
      refine ⟨.mapped id hidden fun id' => ?_, ?_⟩
      · rw [← mapped]
        exact mapped_map _ id big mappable id'
      · exact (staged.associated id true true fresh).windows
          (Desktop.Windows.keepsTrees_map_event _ id big)
    · cases found
  | dissociate id | unmap id | destroy id =>
    simp only [announcement] at found
    split at found
    · cases found
      rw [right]
      exact ⟨.unmapped id (mapped_unmap state.desktop.windows id),
        staged.windows (Desktop.Windows.keepsTrees_unmap _ id)⟩
    · cases found
  | _ => cases found

theorem gone_of_hidden {id : Nat} (hidden : ws.test id (·.mapped) = false) (id' : Nat) :
    (ws.test id' (·.mapped) && id' != id) = ws.test id' (·.mapped) := by
  by_cases same : id' = id
  · simp [same, hidden]
  · simp [same]

theorem mapped_loseSurface (ws : Desktop.Windows) (id id' : Nat) :
    ((ws.unmap id).loseSurface id).test id' (·.mapped) = (ws.test id' (·.mapped) && id' != id) := by
  rw [(edits_loseSurface _ id).loses (fun _ _ => rfl) (fun _ _ edited => by rw [edited]) id', mapped_unmap, Bool.and_assoc, Bool.and_self]

theorem mapped_loseHandle (ws : Desktop.Windows) (id id' : Nat) :
    ((ws.unmap id).loseHandle id).test id' (·.mapped) = (ws.test id' (·.mapped) && id' != id) := by
  rw [(edits_loseHandle _ id).loses (fun _ _ => rfl) (fun _ _ edited => by rw [edited]) id', mapped_unmap, Bool.and_assoc, Bool.and_self]

theorem mapped_add (ws : Windows) (xw : Bool) (id' : Nat) :
    (ws.add xw).test id' (·.mapped) = ws.test id' (·.mapped) := by
  simp only [test, add, List.getElem?_append]
  split
  · rfl
  · rename_i beyond
    rw [List.getElem?_eq_none_iff.mpr (by omega : ws.toplevels.length ≤ id')]
    cases id' - ws.toplevels.length <;> rfl

theorem map_of_refused {id : Nat} (refused : ¬ ws.mayMap id = true) (big : Bool) : ws.map id big = ws := by
  rw [Desktop.Windows.map, if_neg refused]

/-- The mapped windows are those of the announcement, if there is one, also when the
event is over. -/
theorem mapped_step (s : UkuiWindows) (e : Desktop.Event) (id' : Nat) :
    (Desktop.step s.desktop e).windows.test id' (·.mapped) =
      ((s.announcement e).getD s).desktop.windows.test id' (·.mapped) := by
  rw [Desktop.State.step_windows]
  cases lives : Desktop.State.changesLives e with
  | false =>
    have none : s.announcement e = none := by
      cases e with
      | map | associate | dissociate | unmap | destroy => cases lives
      | _ => rfl
    rw [none]
    exact (windowsAfter_keepsLives s.desktop e lives).test fun _ _ same => same.mapped
  | true =>
    cases e with
    | newToplevel xw => exact mapped_add s.desktop.windows xw id'
    | map id big =>
      simp only [windowsAfter, announcement]
      split
      · rfl
      · rename_i refused
        rw [map_of_refused refused]
        rfl
    | associate id tc sm big =>
      have kept := mapped_associate s.desktop.windows id tc sm id'
      simp only [windowsAfter, announcement]
      split
      · rename_i mapping
        split
        · rfl
        · rename_i refused
          have refused : ¬ (s.desktop.windows.associate id tc sm).mayMap id = true := by
            intro accepted
            simp only [Bool.and_eq_true] at mapping refused
            exact refused ⟨⟨mapping.1, accepted⟩, mapping.2⟩
          rw [map_of_refused refused]
          exact kept
      · rename_i plain
        rw [if_neg]
        · exact kept
        · intro accepted
          simp only [Bool.and_eq_true] at accepted plain
          exact plain ⟨accepted.1.1, accepted.2⟩
    | dissociate id =>
      have both : (s.desktop.windows.test id fun t => t.xwayland && t.mapped) =
          (s.desktop.windows.test id (·.xwayland) && s.desktop.windows.test id (·.mapped)) := by
        unfold test
        cases s.desktop.windows.toplevels[id]? <;> rfl
      simp only [windowsAfter, announcement, both]
      cases s.desktop.windows.test id (·.xwayland) with
      | false => rfl
      | true =>
        simp only [if_true, Bool.true_and, mapped_loseSurface]
        split
        · exact (mapped_unmap s.desktop.windows id id').symm
        · rename_i hidden
          exact gone_of_hidden (by simpa using hidden) id'
    | unmap id =>
      simp only [windowsAfter, announcement]
      split
      · rfl
      · rename_i hidden
        rw [mapped_unmap]
        exact gone_of_hidden (by simpa using hidden) id'
    | destroy id =>
      simp only [windowsAfter, announcement]
      rw [mapped_loseHandle]
      split
      · exact (mapped_unmap s.desktop.windows id id').symm
      · rename_i hidden
        exact gone_of_hidden (by simpa using hidden) id'
    | _ => cases lives

theorem Follows.congr {before after next : State} {ws listed : List Nat} (follows : Follows before after ws listed)
    (same : ∀ id, next.windows.test id (·.mapped) = after.windows.test id (·.mapped)) :
    Follows before next ws listed := by
  cases follows with
  | same unchanged => exact .same fun id => (same id).trans (unchanged id)
  | mapped id hidden added => exact .mapped id hidden fun id' => (same id').trans (added id')
  | unmapped id gone => exact .unmapped id fun id' => (same id').trans (gone id')

theorem step_follows (e : Event) (right : state.Right) (staged : state.desktop.Staged) :
    Follows state.desktop (state.step e).desktop (stacked state.desktop) (state.step e).windows := by
  cases e with
  | keepBelow =>
    rw [← show state.windows = stacked state.desktop from right]
    refine .same fun id' => ?_
    simp only [step, lowerToBottom]
    split <;> rfl
  | compositor e =>
    have same := mapped_step state e
    simp only [step]
    cases found : state.announcement e with
    | none =>
      rw [found] at same
      rw [← show state.windows = stacked state.desktop from right]
      exact .same same
    | some =>
      rw [found] at same
      exact Follows.congr (announcement_spec right staged found).1 same

theorem step_staged (s : UkuiWindows) (e : Event) (staged : s.desktop.Staged) : (s.step e).desktop.Staged := by
  cases e with
  | compositor e => exact Desktop.State.step_staged s.desktop e staged
  | keepBelow id =>
    simp only [step, lowerToBottom]
    split
    · rename_i shown
      have mem : id ∈ s.desktop.stack := by
        apply (staged.trees id).mpr
        obtain ⟨t, found, facts⟩ := test_iff.mp shown
        simp only [Bool.and_eq_true] at facts
        exact test_iff.mpr ⟨t, found, facts.2⟩
      have order : (id :: s.desktop.stack.erase id).Perm s.desktop.stack := (List.perm_cons_erase mem).symm
      exact staged.keepsTrees (KeepsTrees.refl _) (order.nodup_iff.mpr staged.distinct) fun id' => order.mem_iff
    · exact staged

theorem right_step_iff (s : UkuiWindows) (e : Event) (staged : s.desktop.Staged) (right : s.Right) :
    (s.step e).Right ∧ s.AnnouncesRight e ↔ s.orderly e = true := by
  have finished := (step_follows e right staged).right_iff staged.distinct (step_staged s e staged)
  unfold orderly
  rw [Bool.and_eq_true, ← finished]
  refine and_congr Iff.rfl ?_
  cases e with
  | keepBelow => exact iff_of_true trivial rfl
  | compositor =>
    simp only [AnnouncesRight, Option.all_eq_true]
    refine forall₂_congr fun announced found => ?_
    have ⟨followed, restaged⟩ := announcement_spec right staged found
    exact followed.right_iff staged.distinct restaged

/-- The windows that UKUI sends are the mapped ones in the order of the scene at all
times exactly if the scene never changes the order of the windows that stay mapped,
and a window is above them when it is mapped. -/
theorem stacking_order_right_iff (events : List Event) :
    Transition.Throughout step Right initial events ∧ Transition.Along step AnnouncesRight initial events ↔
      Transition.Along step (fun state event => state.orderly event = true) initial events := by
  have start : initial.Right := rfl
  exact Transition.throughout_along_iff step_staged right_step_iff Desktop.State.staged_initial start events

/-- Of three windows the second is focused. What is sent is still the order they were
mapped in, which is that of the scene neither from below nor from above. -/
theorem focused_window_not_raised :
    let events : List Desktop.Event := [.newToplevel false, .newToplevel false, .newToplevel false,
      .map 0 false, .map 1 false, .map 2 false, .focusToplevel 1]
    let state := Transition.run step initial (events.map .compositor)
    state.windows = [0, 1, 2] ∧ stacked state.desktop = [0, 2, 1] := by
  decide

end UkuiWindows

end FlakeWM.Protocol
