import FlakeWM.Input.KeyBinding
import FlakeWM.Lib.Transition
import Mathlib.Algebra.BigOperators.Group.Finset.Basic

/-! The services that block shortcuts.

Each service of the settings daemon is asked twice when it appears: for the types
of key bindings to block, and for those to leave. The answers come later, and each
is applied if a service of that name is registered then. When a service goes, what
it blocks is worked out again from the lists it has sent last.

The block counts are right as long as no answer takes the place of one that blocks
something, and no list that blocks all types also names one that another service
blocks. -/

set_option autoImplicit false

namespace FlakeWM.Input

namespace KeyBindingType

def all : List KeyBindingType := [custom, windowSwitch, windowMinimize, windowMaximize, windowClose, windowMenu]

def typeName : KeyBindingType → String
  | custom => "WLCOM_CUSTOM_DEF"
  | windowSwitch => "WLCOM_WINDOW_SWITCHER"
  | windowMinimize => "WLCOM_WINDOW_ACTION_MINIMIZE"
  | windowMaximize => "WLCOM_WINDOW_ACTION_MAXIMIZE"
  | windowClose => "WLCOM_WINDOW_ACTION_CLOSE"
  | windowMenu => "WLCOM_WINDOW_ACTION_MENU"

def ofName (name : String) : Option KeyBindingType := all.find? (·.typeName == name)

def named (types : List String) : List KeyBindingType := types.filterMap ofName

def unnamed (types : List String) : List KeyBindingType := all.filter fun type => !types.contains type.typeName

end KeyBindingType

def wlcomAll : String := "WLCOM_ALL"

/-- What is kept of a service: the last lists it has sent, and whether it is among
those that have blocked all types. -/
structure ServiceTypes where
  blacklist : List String
  whitelist : List String
  blockAll : Bool
  deriving DecidableEq, Repr

def ServiceTypes.none : ServiceTypes := ⟨[], [], false⟩

/-- The D-Bus manager's part in shortcuts. `pending` holds the calls that have not
been answered, each with the service and with whether it asks for the types to
leave. -/
structure Shortcuts (α : Type) where
  manager : KeyBindingManager α
  services : Finset String
  types : String → ServiceTypes
  pending : List (String × Bool)
  shortcutsBlocked : Bool

inductive ShortcutEvent where
  | registered (name : String)
  | unregistered (name : String)
  /-- A call is answered, by a list of names or by an error. -/
  | finished (call : Nat) (reply : Option (List String))
  | blockGlobalShortcuts (block : Bool)
  deriving DecidableEq, Repr

variable {α : Type}

def KeyBindingManager.blockTypes (manager : KeyBindingManager α) (types : List KeyBindingType) (blocked : Bool) :
    KeyBindingManager α :=
  types.foldl (fun manager type => manager.blockType type blocked) manager

namespace Shortcuts

def start : Shortcuts α := ⟨.initial, ∅, fun _ => .none, [], false⟩

def addUkuiShortcutService (state : Shortcuts α) (name : String) : Shortcuts α :=
  if name ∈ state.services then state
  else { state with
    services := insert name state.services
    pending := state.pending ++ [(name, false), (name, true)] }

def applyUkuiShortcutTypes (state : Shortcuts α) (service : String) (types : List String) (whitelist : Bool) :
    Shortcuts α :=
  let kept := state.types service
  if whitelist then
    { state with
      types := Function.update state.types service { kept with whitelist := types }
      manager := if types.isEmpty then state.manager else state.manager.blockTypes (KeyBindingType.unnamed types) true }
  else if types.contains wlcomAll then
    { state with
      types := Function.update state.types service { kept with blacklist := types, blockAll := true }
      manager := state.manager.blockAll true }
  else
    { state with
      types := Function.update state.types service { kept with blacklist := types }
      manager := state.manager.blockTypes (KeyBindingType.named types) true }

def removeUkuiShortcutService (state : Shortcuts α) (name : String) : Shortcuts α :=
  if name ∈ state.services then
    let kept := state.types name
    let manager := if kept.blockAll then state.manager.blockAll false else state.manager
    let manager := manager.blockTypes (KeyBindingType.named kept.blacklist) false
    let manager :=
      if kept.whitelist.isEmpty then manager else manager.blockTypes (KeyBindingType.unnamed kept.whitelist) false
    { state with
      services := state.services.erase name
      types := Function.update state.types name .none
      manager := manager }
  else state

def finish (state : Shortcuts α) (call : Nat) (reply : Option (List String)) : Shortcuts α :=
  match state.pending[call]? with
  | none => state
  | some (name, whitelist) =>
    let state := { state with pending := state.pending.eraseIdx call }
    match reply with
    | none => state
    | some types => if name ∈ state.services then state.applyUkuiShortcutTypes name types whitelist else state

def step (state : Shortcuts α) : ShortcutEvent → Shortcuts α
  | .registered name => state.addUkuiShortcutService name
  | .unregistered name => state.removeUkuiShortcutService name
  | .finished call reply => state.finish call reply
  | .blockGlobalShortcuts block =>
    { state with
      manager := if block = state.shortcutsBlocked then state.manager else state.manager.blockAll block
      shortcutsBlocked := block }

end Shortcuts

namespace ServiceTypes

def blacklisted (types : List String) : List KeyBindingType :=
  if wlcomAll ∈ types then [] else KeyBindingType.named types

def whitelisted (types : List String) : List KeyBindingType :=
  if types = [] then [] else KeyBindingType.unnamed types

def requests (kept : ServiceTypes) (type : KeyBindingType) : Nat :=
  (blacklisted kept.blacklist).count type + (whitelisted kept.whitelist).count type

def requestsAll (kept : ServiceTypes) : Nat := if wlcomAll ∈ kept.blacklist then 1 else 0

theorem requests_none (type : KeyBindingType) : none.requests type = 0 := rfl

theorem requestsAll_none : none.requestsAll = 0 := rfl

end ServiceTypes

namespace Shortcuts

def requested (state : Shortcuts α) (type : KeyBindingType) : Nat :=
  ∑ name ∈ state.services, (state.types name).requests type

def requestedAll (state : Shortcuts α) : Nat :=
  (∑ name ∈ state.services, (state.types name).requestsAll) + if state.shortcutsBlocked then 1 else 0

/-- The block counts are the numbers of the blocks that registered services ask for. -/
structure Balanced (state : Shortcuts α) : Prop where
  types : ∀ type, state.manager.typeBlockCounts type = state.requested type
  all : state.manager.blockCount = state.requestedAll

/-- No type is blocked. -/
def Unblocked (state : Shortcuts α) : Prop := ∀ type, state.manager.isTypeBlocked type = false

theorem Balanced.unblocked {s : Shortcuts α} (balanced : s.Balanced) (gone : s.services = ∅) : s.Unblocked := by
  intro type
  have count := balanced.types type
  rw [requested, gone, Finset.sum_empty] at count
  simp [KeyBindingManager.isTypeBlocked, count]

def requestedByOthers (state : Shortcuts α) (name : String) (type : KeyBindingType) : Nat :=
  ∑ other ∈ state.services.erase name, (state.types other).requests type

/-- A list replaces only one that blocks nothing, and a service that blocks all types
goes only if no other one asks for a type that it names as well. -/
def blockSafe (state : Shortcuts α) : ShortcutEvent → Prop
  | .finished call (some _) =>
    ∀ name whitelist, state.pending[call]? = some (name, whitelist) → name ∈ state.services →
      if whitelist then ServiceTypes.whitelisted (state.types name).whitelist = []
      else wlcomAll ∉ (state.types name).blacklist ∧ KeyBindingType.named (state.types name).blacklist = []
  | .unregistered name =>
    name ∈ state.services → wlcomAll ∈ (state.types name).blacklist →
      ∀ type ∈ KeyBindingType.named (state.types name).blacklist, state.requestedByOthers name type = 0
  | _ => True

end Shortcuts

section

variable (m : KeyBindingManager α) (types : List KeyBindingType)

theorem KeyBindingManager.blockTypes_counts (blocked : Bool) (type : KeyBindingType) :
    (m.blockTypes types blocked).typeBlockCounts type = if blocked then m.typeBlockCounts type + types.count type
      else m.typeBlockCounts type - types.count type := by
  induction types generalizing m with
  | nil => simp [blockTypes]
  | cons first rest ih =>
    have next := ih (m.blockType first blocked)
    rw [blockTypes] at next ⊢
    rw [List.foldl_cons, next]
    by_cases here : first = type
    · simp only [here, blockType, List.count_cons_self]
      cases blocked <;> simp <;> omega
    · simp [here, blockType, Function.update_of_ne (Ne.symm here)]

@[simp] theorem KeyBindingManager.blockTypes_blockCount (blocked : Bool) :
    (m.blockTypes types blocked).blockCount = m.blockCount := by
  induction types generalizing m with
  | nil => rfl
  | cons first rest ih => exact ih (m.blockType first blocked)

theorem count_eq_zero_iff : (∀ type, types.count type = 0) ↔ types = [] := by
  rw [List.eq_nil_iff_forall_not_mem]
  exact forall_congr' fun type => List.count_eq_zero

end

namespace Shortcuts

open KeyBindingManager ServiceTypes KeyBindingType

variable {s : Shortcuts α} {name : String}

def requestedAllByOthers (state : Shortcuts α) (name : String) : Nat :=
  (∑ other ∈ state.services.erase name, (state.types other).requestsAll) + if state.shortcutsBlocked then 1 else 0

theorem requested_of_mem (mem : name ∈ s.services) (type : KeyBindingType) :
    s.requested type = (s.types name).requests type + s.requestedByOthers name type :=
  (Finset.add_sum_erase _ _ mem).symm

theorem requestedAll_of_mem (mem : name ∈ s.services) :
    s.requestedAll = (s.types name).requestsAll + s.requestedAllByOthers name := by
  rw [requestedAll, requestedAllByOthers, ← Finset.add_sum_erase _ _ mem, Nat.add_assoc]

/-- A change of what is kept of one service, with a change of the counts, keeps the
balance if the changes agree. -/
theorem balanced_update_iff (balanced : s.Balanced) (mem : name ∈ s.services) (kept : ServiceTypes)
    (m : KeyBindingManager α) :
    ({ s with types := Function.update s.types name kept, manager := m } : Shortcuts α).Balanced ↔
      (∀ type, m.typeBlockCounts type + (s.types name).requests type =
        s.manager.typeBlockCounts type + kept.requests type) ∧
      m.blockCount + (s.types name).requestsAll = s.manager.blockCount + kept.requestsAll := by
  let next : Shortcuts α := { s with types := Function.update s.types name kept, manager := m }
  have own : next.types name = kept := Function.update_self _ _ _
  have others {sv : String} (mem : sv ∈ s.services.erase name) :
      next.types sv = s.types sv := Function.update_of_ne (Finset.ne_of_mem_erase mem) _ _
  have stays : name ∈ next.services := mem
  have requestedNow (type : KeyBindingType) :
      next.requested type = kept.requests type + s.requestedByOthers name type := by
    rw [requested_of_mem stays, own]
    congr 1
    exact Finset.sum_congr rfl fun sv mem => by rw [others mem]
  have requestedAllNow : next.requestedAll = kept.requestsAll + s.requestedAllByOthers name := by
    rw [requestedAll_of_mem stays, own, requestedAllByOthers, requestedAllByOthers]
    congr 2
    exact Finset.sum_congr rfl fun sv mem => by rw [others mem]
  have types := balanced.types
  have all := balanced.all
  rw [requestedAll_of_mem mem] at all
  have parts : next.Balanced ↔
      (∀ type, m.typeBlockCounts type = next.requested type) ∧ m.blockCount = next.requestedAll :=
    ⟨fun balanced => ⟨balanced.types, balanced.all⟩, fun both => ⟨both.1, both.2⟩⟩
  rw [parts]
  apply and_congr
  · apply forall_congr'
    intro type
    rw [requestedNow, types type, requested_of_mem mem]
    omega
  · rw [requestedAllNow, all]
    omega

theorem applyUkuiShortcutTypes_balanced_iff (balanced : s.Balanced) (mem : name ∈ s.services)
    (types : List String) (whitelist : Bool) :
    (s.applyUkuiShortcutTypes name types whitelist).Balanced ↔
      if whitelist then whitelisted (s.types name).whitelist = []
      else wlcomAll ∉ (s.types name).blacklist ∧ named (s.types name).blacklist = [] := by
  rw [← count_eq_zero_iff, ← count_eq_zero_iff]
  cases whitelist with
  | true =>
    have m : (if types.isEmpty then s.manager else s.manager.blockTypes (unnamed types) true) =
          s.manager.blockTypes (whitelisted types) true := by
      cases types <;> rfl
    simp only [applyUkuiShortcutTypes, if_true, m]
    rw [balanced_update_iff balanced mem]
    simp only [blockTypes_counts, if_true, blockTypes_blockCount, requests, requestsAll, and_true]
    apply forall_congr'
    intro type
    omega
  | false =>
    -- Whichever way the list blocks, the counts grow by what it asks for.
    have grown (mark : Bool) (m : KeyBindingManager α) (counts : ∀ type, m.typeBlockCounts type =
          s.manager.typeBlockCounts type + (blacklisted types).count type)
        (blockCount : m.blockCount = s.manager.blockCount + if wlcomAll ∈ types then 1 else 0) :
        ({ s with
          types := Function.update s.types name ⟨types, (s.types name).whitelist, mark⟩
          manager := m } : Shortcuts α).Balanced ↔
          wlcomAll ∉ (s.types name).blacklist ∧ ∀ type, (named (s.types name).blacklist).count type = 0 := by
      rw [balanced_update_iff balanced mem]
      simp only [counts, blockCount, requests]
      by_cases old : wlcomAll ∈ (s.types name).blacklist
      · simp [requestsAll, old]
      · simp only [requestsAll, old, if_false, Nat.add_zero, and_true, not_false_eq_true, true_and]
        apply forall_congr'
        intro type
        simp only [blacklisted, old, if_false]
        omega
    by_cases everything : wlcomAll ∈ types
    · simp only [applyUkuiShortcutTypes, Bool.false_eq_true, if_false, List.contains_eq_mem, everything, decide_true,
        if_true]
      apply grown true
      · intro type
        simp [ServiceTypes.blacklisted, everything, KeyBindingManager.blockAll]
      · simp [everything, KeyBindingManager.blockAll]
    · simp only [applyUkuiShortcutTypes, Bool.false_eq_true, if_false, List.contains_eq_mem, everything, decide_false]
      apply grown (s.types name).blockAll
      · intro type
        simp [blacklisted, everything, blockTypes_counts]
      · simp [everything]

def Marked (state : Shortcuts α) : Prop :=
  ∀ name, (state.types name).blockAll = true ↔ wlcomAll ∈ (state.types name).blacklist

def Forgotten (state : Shortcuts α) : Prop := ∀ name, name ∉ state.services → state.types name = .none

section

variable (mem : name ∈ s.services)

include mem

theorem removeUkuiShortcutService_counts (type : KeyBindingType) :
    (s.removeUkuiShortcutService name).manager.typeBlockCounts type =
      s.manager.typeBlockCounts type - (named (s.types name).blacklist).count type -
        (whitelisted (s.types name).whitelist).count type := by
  have first : (if (s.types name).blockAll then s.manager.blockAll false else s.manager).typeBlockCounts =
      s.manager.typeBlockCounts := by
    split <;> rfl
  simp only [removeUkuiShortcutService, mem, if_true]
  by_cases empty : (s.types name).whitelist = []
  · simp [empty, whitelisted, blockTypes_counts, first]
  · simp [empty, whitelisted, blockTypes_counts, first]

theorem removeUkuiShortcutService_blockCount : (s.removeUkuiShortcutService name).manager.blockCount =
      s.manager.blockCount - if (s.types name).blockAll then 1 else 0 := by
  simp only [removeUkuiShortcutService, mem, if_true]
  cases (s.types name).blockAll <;> cases (s.types name).whitelist <;> simp [KeyBindingManager.blockAll]

theorem requested_removeUkuiShortcutService (type : KeyBindingType) :
    (s.removeUkuiShortcutService name).requested type = s.requestedByOthers name type := by
  simp only [removeUkuiShortcutService, mem, if_true, requested, requestedByOthers]
  apply Finset.sum_congr rfl
  intro other listed
  rw [Function.update_of_ne (Finset.ne_of_mem_erase listed)]

theorem requestedAll_removeUkuiShortcutService :
    (s.removeUkuiShortcutService name).requestedAll = s.requestedAllByOthers name := by
  simp only [removeUkuiShortcutService, mem, if_true, requestedAll, requestedAllByOthers]
  congr 1
  apply Finset.sum_congr rfl
  intro other listed
  rw [Function.update_of_ne (Finset.ne_of_mem_erase listed)]

/-- A service that goes keeps the balance exactly if no type is freed that another one
asks for. -/
theorem removeUkuiShortcutService_balanced_iff (balanced : s.Balanced) (marked : s.Marked) :
    (s.removeUkuiShortcutService name).Balanced ↔ (wlcomAll ∈ (s.types name).blacklist →
        ∀ type ∈ named (s.types name).blacklist, s.requestedByOthers name type = 0) := by
  have all : (s.removeUkuiShortcutService name).manager.blockCount =
      (s.removeUkuiShortcutService name).requestedAll := by
    rw [removeUkuiShortcutService_blockCount mem, requestedAll_removeUkuiShortcutService mem, balanced.all,
      requestedAll_of_mem mem]
    by_cases everything : wlcomAll ∈ (s.types name).blacklist
    · simp [requestsAll, everything, (marked name).mpr everything]
    · have unmarked : ¬ (s.types name).blockAll = true := fun mark => everything ((marked name).mp mark)
      simp [requestsAll, everything, unmarked]
  have parts : (s.removeUkuiShortcutService name).Balanced ↔ ∀ type, (blacklisted (s.types name).blacklist).count type +
          (whitelisted (s.types name).whitelist).count type + s.requestedByOthers name type -
            (named (s.types name).blacklist).count type -
            (whitelisted (s.types name).whitelist).count type =
        s.requestedByOthers name type := by
    have each (type : KeyBindingType) : (s.removeUkuiShortcutService name).manager.typeBlockCounts type = _ :=
      removeUkuiShortcutService_counts mem type
    simp only [balanced.types, requested_of_mem mem, requests] at each
    refine ⟨fun next type => ?_, fun types => ⟨fun type => ?_, all⟩⟩
    · rw [← each type, next.types type, requested_removeUkuiShortcutService mem]
    · rw [each type, requested_removeUkuiShortcutService mem, types type]
  rw [parts]
  by_cases everything : wlcomAll ∈ (s.types name).blacklist
  · simp only [everything, true_implies]
    apply forall_congr'
    intro type
    have listed : type ∈ named (s.types name).blacklist ↔
        0 < (named (s.types name).blacklist).count type := List.count_pos_iff.symm
    simp only [blacklisted, everything, if_true, List.count_nil, listed]
    omega
  · simp only [everything, false_implies, iff_true]
    intro type
    simp only [blacklisted, everything, if_false]
    omega

end

theorem applyUkuiShortcutTypes_services (types : List String) (whitelist : Bool) :
    (s.applyUkuiShortcutTypes name types whitelist).services = s.services := by
  unfold applyUkuiShortcutTypes
  split_ifs <;> rfl

theorem applyUkuiShortcutTypes_other {other : String} (apart : other ≠ name) (types : List String) (whitelist : Bool) :
    (s.applyUkuiShortcutTypes name types whitelist).types other = s.types other := by
  unfold applyUkuiShortcutTypes
  split_ifs <;> exact Function.update_of_ne apart _ _

theorem finish_cases (s : Shortcuts α) (call : Nat) (reply : Option (List String)) :
    (∃ pending, s.finish call reply = { s with pending := pending } ∧
        ∀ types name whitelist, reply = some types → s.pending[call]? = some (name, whitelist) → name ∉ s.services) ∨
      ∃ pending types name whitelist, reply = some types ∧ s.pending[call]? = some (name, whitelist) ∧
        name ∈ s.services ∧
        s.finish call reply =
          ({ s with pending := pending } : Shortcuts α).applyUkuiShortcutTypes name types whitelist := by
  unfold finish
  cases waiting : s.pending[call]? with
  | none => exact .inl ⟨s.pending, rfl, by simp⟩
  | some asked =>
    obtain ⟨name, whitelist⟩ := asked
    cases reply with
    | none => exact .inl ⟨_, rfl, by simp⟩
    | some types =>
      by_cases mem : name ∈ s.services
      · exact .inr ⟨s.pending.eraseIdx call, types, name, whitelist, rfl, rfl, mem, by simp [mem]⟩
      · refine .inl ⟨s.pending.eraseIdx call, by simp [mem], ?_⟩
        rintro _ _ _ _ ⟨⟩
        exact mem

theorem step_forgotten (e : ShortcutEvent) (forgotten : s.Forgotten) : (s.step e).Forgotten := by
  cases e with
  | registered =>
    simp only [step, addUkuiShortcutService]
    split
    · exact forgotten
    · intro other absent
      exact forgotten other fun mem => absent (Finset.mem_insert_of_mem mem)
  | unregistered name =>
    simp only [step, removeUkuiShortcutService]
    split
    · intro other absent
      by_cases here : other = name
      · rw [here]
        exact Function.update_self _ _ _
      · have kept := forgotten other fun mem => absent (Finset.mem_erase.mpr ⟨here, mem⟩)
        exact (Function.update_of_ne here _ _).trans kept
    · exact forgotten
  | finished call reply =>
    rw [step]
    obtain ⟨pending, same, -⟩ | ⟨pending, types, name, whitelist, -, -, mem, applied⟩ := s.finish_cases call reply
    · rw [same]
      exact forgotten
    · rw [applied]
      intro other absent
      rw [applyUkuiShortcutTypes_services] at absent
      have apart : other ≠ name := fun same => absent (same ▸ mem)
      rw [applyUkuiShortcutTypes_other apart]
      exact forgotten other absent
  | blockGlobalShortcuts => exact forgotten

theorem step_balanced_iff (e : ShortcutEvent) (forgotten : s.Forgotten) (balanced : s.Balanced)
    (marked : s.Marked) : (s.step e).Balanced ↔ s.blockSafe e := by
  cases e with
  | registered name =>
    rw [step, addUkuiShortcutService]
    split
    · exact iff_of_true balanced trivial
    · rename_i absent
      -- The new service has not asked for anything.
      have nothing := forgotten name absent
      refine iff_of_true ⟨fun type => ?_, ?_⟩ trivial
      · rw [requested, Finset.sum_insert absent, nothing, requests_none, Nat.zero_add]
        exact balanced.types type
      · rw [requestedAll, Finset.sum_insert absent, nothing, requestsAll_none, Nat.zero_add]
        exact balanced.all
  | unregistered name =>
    by_cases mem : name ∈ s.services
    · rw [step, removeUkuiShortcutService_balanced_iff mem balanced marked]
      simp [blockSafe, mem]
    · rw [step, removeUkuiShortcutService, if_neg mem]
      exact iff_of_true balanced fun registered => absurd registered mem
  | finished call reply =>
    rw [step]
    obtain ⟨pending, same, ignored⟩ | ⟨pending, types, name, whitelist, rfl, waiting, mem, applied⟩ :=
      s.finish_cases call reply
    · rw [same]
      refine iff_of_true ⟨balanced.types, balanced.all⟩ ?_
      cases reply with
      | none => trivial
      | some types => exact fun name whitelist waiting mem => absurd mem (ignored types name whitelist rfl waiting)
    · have now : ({ s with pending := pending } : Shortcuts α).Balanced := ⟨balanced.types, balanced.all⟩
      rw [applied, applyUkuiShortcutTypes_balanced_iff now mem]
      constructor
      · intro safe other list asked _
        rw [waiting] at asked
        cases asked
        exact safe
      · intro safe
        exact safe name whitelist waiting mem
  | blockGlobalShortcuts block =>
    have counts : (if block = s.shortcutsBlocked then s.manager
        else s.manager.blockAll block).typeBlockCounts = s.manager.typeBlockCounts := by
      split <;> rfl
    refine iff_of_true ⟨fun type => ?_, ?_⟩ trivial
    · rw [step, counts]
      exact balanced.types type
    · have all := balanced.all
      rw [requestedAll] at all
      cases block <;> cases before : s.shortcutsBlocked <;>
        simp [step, requestedAll, before, all, KeyBindingManager.blockAll]

theorem step_marked (e : ShortcutEvent) (marked : s.Marked) (safe : s.blockSafe e) : (s.step e).Marked := by
  cases e with
  | registered =>
    rw [step, addUkuiShortcutService]
    split <;> exact marked
  | unregistered name =>
    rw [step, removeUkuiShortcutService]
    split
    · intro other
      by_cases here : other = name
      · simp [here, ServiceTypes.none]
      · simpa [Function.update_of_ne here] using marked other
    · exact marked
  | finished call reply =>
    rw [step]
    obtain ⟨pending, same, -⟩ | ⟨pending, types, name, whitelist, rfl, waiting, mem, applied⟩ :=
      s.finish_cases call reply
    · rw [same]
      exact marked
    · rw [applied]
      intro other
      by_cases here : other = name
      · subst here
        have before := marked other
        have old := safe other whitelist waiting mem
        -- A list that does not block all types may not follow one that did.
        cases whitelist with
        | true => simpa [applyUkuiShortcutTypes] using before
        | false =>
          simp only [Bool.false_eq_true, if_false] at old
          by_cases everything : wlcomAll ∈ types
          · simp [applyUkuiShortcutTypes, everything]
          · simp [applyUkuiShortcutTypes, everything, before, old.1]
      · rw [applyUkuiShortcutTypes_other here]
        exact marked other
  | blockGlobalShortcuts => exact marked

/-- From the start, with no service, the counts are right in every state exactly as
long as every event is safe; then no type is blocked when no service is left. -/
theorem blocks_balanced_iff (events : List ShortcutEvent) :
    Transition.Throughout step (fun state : Shortcuts α => state.Balanced ∧ (state.services = ∅ → state.Unblocked))
        start events ↔
      Transition.Along step blockSafe (start : Shortcuts α) events := by
  have begin : (start : Shortcuts α).Balanced := ⟨fun _ => rfl, rfl⟩
  rw [Transition.throughout_iff_next]
  have good (state : Shortcuts α) :
      state.Balanced ∧ (state.services = ∅ → state.Unblocked) ↔ state.Balanced :=
    and_iff_left_of_imp fun balanced => balanced.unblocked
  simp only [good]
  rw [and_iff_right begin]
  have exactly (state : Shortcuts α) (event : ShortcutEvent) (forgotten : state.Forgotten)
      (both : state.Balanced ∧ state.Marked) : (state.step event).Balanced ↔ state.blockSafe event :=
    step_balanced_iff event forgotten both.1 both.2
  have next (state : Shortcuts α) (event : ShortcutEvent) (forgotten : state.Forgotten)
      (both : state.Balanced ∧ state.Marked) (safe : state.blockSafe event) :
      (state.step event).Balanced ∧ (state.step event).Marked :=
    ⟨(exactly state event forgotten both).mpr safe, step_marked event both.2 safe⟩
  have marked : (start : Shortcuts α).Marked := by
    intro name
    simp [start, ServiceTypes.none]
  exact Transition.along_iff_along (fun _ event forgotten => step_forgotten event forgotten) exactly next
    (fun _ _ => rfl) ⟨begin, marked⟩ events

/-- Of a service that is gone nothing is kept. -/
theorem gone_services_forgotten (events : List ShortcutEvent) :
    Transition.Throughout step Forgotten (start : Shortcuts α) events :=
  Transition.throughout_invariant (fun _ event forgotten => step_forgotten event forgotten) (fun _ _ => rfl) events

/-- A service that comes, goes and comes again, while its first call is still out:
both calls for the types to block are answered. -/
def lateAnswer : List ShortcutEvent :=
  [.registered "org.ukui.settingsDaemon", .unregistered "org.ukui.settingsDaemon",
    .registered "org.ukui.settingsDaemon", .finished 0 (some ["WLCOM_WINDOW_SWITCHER"]),
    .finished 1 (some ["WLCOM_WINDOW_SWITCHER"]), .unregistered "org.ukui.settingsDaemon"]

/-- A service that blocks all types and names one, beside a service that blocks that
one. -/
def namedTwice : List ShortcutEvent :=
  [.registered "org.ukui.settingsDaemon", .registered "org.ukui.settingsDaemon.keys",
    .finished 0 (some ["WLCOM_WINDOW_SWITCHER"]), .finished 1 (some ["WLCOM_ALL", "WLCOM_WINDOW_SWITCHER"]),
    .unregistered "org.ukui.settingsDaemon.keys"]

/-- The late answer leaves a type blocked with no service left; the list that names a
type beside all of them frees it for the other service. -/
theorem blocks_unbalanced :
    let late := Transition.run step (start : Shortcuts Unit) lateAnswer
    let twice := Transition.run step (start : Shortcuts Unit) namedTwice
    (late.services = ∅ ∧ late.manager.isTypeBlocked .windowSwitch = true) ∧
      twice.requested .windowSwitch = 1 ∧ twice.manager.isTypeBlocked .windowSwitch = false := by
  decide

end Shortcuts

end FlakeWM.Input
