import FlakeWM.Desktop.Focus

/-! The virtual-desktop objects of KDE.

A client gets an object for a workspace by the name of its place, and is told through it
whether the workspace is the current one. Each time the workspaces have changed all
objects are told anew. One whose place is no longer there is told that its desktop was
removed, and stays in the list until its client destroys it. -/

set_option autoImplicit false

namespace FlakeWM.Protocol

def kMaximumDesktopCount : Nat := 6

def desktopId (index : Nat) : String := "flakewm-desktop-" ++ toString (index + 1)

def desktopName (index : Nat) : String := "Desktop " ++ toString (index + 1)

def desktopIndex (id : String) : Option Nat :=
  (List.range kMaximumDesktopCount).find? fun index => id == desktopId index

/-- What an object is told. -/
inductive DesktopMessage
  | desktopId (id : String)
  | name (name : String)
  | activated
  | deactivated
  | done
  | removed
  deriving DecidableEq

structure VirtualDesktop where
  index : Nat
  held : Bool
  sent : List DesktopMessage
  deriving DecidableEq

/-- The objects ever created, in order, without those for which there was no workspace:
these are never told anything. -/
structure KdeDesktops where
  desktop : Desktop.State
  objects : List VirtualDesktop

/-- Whether an event reaches `UpdateWorkspaces`. -/
def updatesWorkspaces (desktop : Desktop.State) : Desktop.Event → Bool
  | .switchWorkspace workspace => desktop.maySwitch workspace
  | .addWorkspace => decide (desktop.windows.workspaceCount < Desktop.kMaximumWorkspaceCount)
  | .removeWorkspace workspace => decide (1 < desktop.windows.workspaceCount) && decide (0 ≤ workspace) &&
      decide (workspace < desktop.windows.workspaceCount)
  | .reorderWorkspace source target => decide (0 ≤ source) && decide (0 ≤ target) &&
      decide (source < desktop.windows.workspaceCount) && decide (target < desktop.windows.workspaceCount) &&
      source != target
  | .multitaskingActivate id => desktop.mayActivate id &&
      desktop.windows.toplevels[id]?.any fun toplevel => desktop.maySwitch toplevel.workspace
  | .previewsActivate id => desktop.mayActivate id &&
      (desktop.windows.previewsRestore id).toplevels[id]?.any fun toplevel => desktop.maySwitch toplevel.workspace
  | _ => false

namespace KdeDesktops

def initial : KdeDesktops := ⟨.initial, []⟩

def notice (windows : Desktop.Windows) (index : Nat) : List DesktopMessage :=
  if windows.workspaceCount ≤ index then [.removed]
  else [if (index : Int) = windows.currentWorkspace then .activated else .deactivated, .done]

def updateWorkspaces (state : KdeDesktops) : KdeDesktops :=
  { state with objects := state.objects.map fun object =>
      if object.held then { object with sent := object.sent ++ notice state.desktop.windows object.index } else object }

/-- What happens to the workspaces, with the objects told of it. -/
def change (state : KdeDesktops) (event : Desktop.Event) : KdeDesktops :=
  let changed := { state with desktop := Desktop.step state.desktop event }
  if updatesWorkspaces state.desktop event then changed.updateWorkspaces else changed

def getVirtualDesktop (state : KdeDesktops) (id : String) : KdeDesktops :=
  match desktopIndex id with
  | none => state
  | some index =>
    if state.desktop.windows.workspaceCount ≤ index then state
    else { state with objects := state.objects ++
      [⟨index, true, [.desktopId (desktopId index), .name (desktopName index)] ++ notice state.desktop.windows index⟩] }

inductive Event
  | compositor (event : Desktop.Event)
  | getVirtualDesktop (id : String)
  | requestCreateVirtualDesktop
  | requestRemoveVirtualDesktop (id : String)
  | requestActivate (object : Nat)
  | destroy (object : Nat)

def step (state : KdeDesktops) : Event → KdeDesktops
  | .compositor event => state.change event
  | .getVirtualDesktop id => state.getVirtualDesktop id
  | .requestCreateVirtualDesktop => state.change .addWorkspace
  | .requestRemoveVirtualDesktop id =>
    match desktopIndex id with
    | some index => state.change (.removeWorkspace index)
    | none => state
  | .requestActivate object =>
    match state.objects[object]? with
    | some desktop => if desktop.held then state.change (.switchWorkspace desktop.index) else state
    | none => state
  | .destroy object => { state with objects := state.objects.modify object fun desktop => { desktop with held := false } }

def removedLast : List DesktopMessage → Bool
  | [] => true
  | message :: rest => if message = .removed then rest.isEmpty else removedLast rest

def RemovedLast (state : KdeDesktops) : Prop := ∀ object ∈ state.objects, removedLast object.sent = true

/-- No client holds an object that has been told of the removal of its desktop. -/
def noneRemoved (state : KdeDesktops) : Bool :=
  state.objects.all fun object => !object.held || !object.sent.contains .removed

/-- What the event does to the workspaces, if the objects are told of it. -/
def updates (state : KdeDesktops) : Event → Bool
  | .compositor event => updatesWorkspaces state.desktop event
  | .requestCreateVirtualDesktop => updatesWorkspaces state.desktop .addWorkspace
  | .requestRemoveVirtualDesktop id =>
    (desktopIndex id).any fun index => updatesWorkspaces state.desktop (.removeWorkspace index)
  | .requestActivate object => state.objects[object]?.any fun desktop =>
    desktop.held && updatesWorkspaces state.desktop (.switchWorkspace desktop.index)
  | .getVirtualDesktop _ | .destroy _ => false

theorem removedLast_append {sent news : List DesktopMessage} (some : news ≠ []) (last : removedLast news = true) :
    removedLast (sent ++ news) = !sent.contains .removed := by
  induction sent with
  | nil => exact last
  | cons msg rest ih =>
    rw [List.cons_append, removedLast]
    by_cases removed : msg = .removed
    · simp [removed, some]
    · rw [if_neg removed, ih]
      simp [Ne.symm removed]

variable (ws : Desktop.Windows) (state : KdeDesktops)

theorem notice_ne_nil (i : Nat) : notice ws i ≠ [] := by
  unfold notice
  split <;> simp

theorem removedLast_notice (i : Nat) : removedLast (notice ws i) = true := by
  unfold notice
  split
  · rfl
  · split <;> rfl

theorem updateWorkspaces_removedLast_iff (last : state.RemovedLast) :
    state.updateWorkspaces.RemovedLast ↔ state.noneRemoved = true := by
  unfold RemovedLast updateWorkspaces noneRemoved
  rw [List.forall_mem_map, List.all_eq_true]
  refine forall₂_congr fun object mem => ?_
  cases object.held with
  | false => simp [last object mem]
  | true =>
    simp only [if_true]
    rw [removedLast_append (notice_ne_nil _ _) (removedLast_notice _ _)]
    simp

theorem change_removedLast_iff (e : Desktop.Event) (last : state.RemovedLast) :
    (state.change e).RemovedLast ↔ (!updatesWorkspaces state.desktop e || state.noneRemoved) = true := by
  unfold change
  cases updatesWorkspaces state.desktop e with
  | false => exact iff_of_true last rfl
  | true => exact updateWorkspaces_removedLast_iff { state with desktop := Desktop.step state.desktop e } last

theorem getVirtualDesktop_removedLast (id : String) (last : state.RemovedLast) :
    (state.getVirtualDesktop id).RemovedLast := by
  unfold getVirtualDesktop
  cases desktopIndex id with
  | none => exact last
  | some =>
    dsimp only
    split
    · exact last
    · intro object mem
      rcases List.mem_append.mp mem with old | new
      · exact last object old
      · rw [List.mem_singleton.mp new]
        dsimp only
        rw [removedLast_append (notice_ne_nil _ _) (removedLast_notice _ _)]
        simp

theorem step_removedLast_iff (e : Event) (last : state.RemovedLast) :
    (state.step e).RemovedLast ↔ (!state.updates e || state.noneRemoved) = true := by
  cases e with
  | compositor e => exact change_removedLast_iff state e last
  | requestCreateVirtualDesktop => exact change_removedLast_iff state .addWorkspace last
  | getVirtualDesktop id => exact iff_of_true (getVirtualDesktop_removedLast state id last) rfl
  | requestRemoveVirtualDesktop id =>
    simp only [step, updates]
    cases desktopIndex id with
    | none => exact iff_of_true last rfl
    | some => exact change_removedLast_iff state _ last
  | requestActivate object =>
    simp only [step, updates]
    cases state.objects[object]? with
    | none => exact iff_of_true last rfl
    | some desktop =>
      cases held : desktop.held with
      | false => simpa [held] using last
      | true => simpa [held] using change_removedLast_iff state (.switchWorkspace desktop.index) last
  | destroy =>
    refine iff_of_true ?_ rfl
    intro desktop mem
    obtain ⟨place, found⟩ := List.mem_iff_getElem?.mp mem
    simp only [step, List.getElem?_modify, Option.map_eq_map, Option.map_eq_some_iff] at found
    obtain ⟨before, held, rfl⟩ := found
    have kept := last before (List.mem_of_getElem? held)
    split <;> exact kept

/-- Every object hears of the removal of its desktop once at most and of nothing
afterwards exactly if the workspaces change only when no client holds an object that
has been told so. -/
theorem removed_last_iff (events : List Event) :
    Transition.Throughout step RemovedLast initial events ↔
      Transition.Along step (fun state event => (!state.updates event || state.noneRemoved) = true) initial events := by
  have kept : ∀ (state : KdeDesktops) (event : Event), True → True := fun _ _ fixed => fixed
  have start : initial.RemovedLast := by
    intro object member
    cases member
  exact Transition.throughout_iff_along kept (fun state event _ last => step_removedLast_iff state event last) trivial
    start events

/-- The last workspace is removed, and the current one is switched: the object of the
last workspace is told of its removal twice. When the workspace is added again, the
object is told that it is not the current one. -/
theorem told_removed_twice :
    let events := [.getVirtualDesktop "flakewm-desktop-4", .compositor (.removeWorkspace 3),
      .compositor (.switchWorkspace 1), .compositor .addWorkspace]
    (Transition.run step initial events).objects = [⟨3, true, [.desktopId "flakewm-desktop-4", .name "Desktop 4",
      .deactivated, .done, .removed, .removed, .deactivated, .done]⟩] := by
  decide

end KdeDesktops

end FlakeWM.Protocol
