import FlakeWM.Input.ActiveKeys

/-! The table of key bindings.

Ids are given out once, and no two bindings have both their keysym and their
modifiers in common: `Register` and `Update` refuse what would break this. -/

set_option autoImplicit false

namespace FlakeWM.Input

variable {α : Type}

/-- What `Register` and `Update` compare. -/
def ParsedShortcut.combination (parsed : ParsedShortcut) : Keysym × Modifiers := (parsed.keysym, parsed.modifiers)

namespace KeyBindingManager

structure Keyed (manager : KeyBindingManager α) : Prop where
  ids : (manager.bindings.map Binding.id).Nodup
  fresh : ∀ binding ∈ manager.bindings, binding.id < manager.nextId
  apart : (manager.bindings.map (·.parsed.combination)).Nodup

theorem keyed_initial : (initial : KeyBindingManager α).Keyed where
  ids := List.nodup_nil
  fresh := by simp [initial]
  apart := List.nodup_nil

theorem duplicate_iff {bindings : List (Binding α)} {ps : ParsedShortcut} :
    duplicate bindings ps = true ↔ ps.combination ∈ bindings.map (·.parsed.combination) := by
  simp [duplicate, ParsedShortcut.combination, List.mem_map, Prod.ext_iff]

/-- `Register` takes the shortcut, given a function to run. -/
def accepts (manager : KeyBindingManager α) (parsed : Option ParsedShortcut) : Bool :=
  parsed.any fun parsed => !duplicate manager.bindings parsed

/-- The table after `Register` has taken a shortcut. -/
def insert (manager : KeyBindingManager α) (parsed : ParsedShortcut) (type : KeyBindingType) (action : α) :
    KeyBindingManager α :=
  { manager with
    bindings := manager.bindings ++ [⟨manager.nextId, parsed, type, action⟩]
    nextId := manager.nextId + 1 }

section

variable (m : KeyBindingManager α) (ps : Option ParsedShortcut) (type : KeyBindingType)

theorem register_cases (act : α) : (m.accepts ps = false ∧ m.register ps type (some act) = (m, none)) ∨
      ∃ shortcut, ps = some shortcut ∧ m.accepts ps = true ∧ duplicate m.bindings shortcut = false ∧
        m.register ps type (some act) = (m.insert shortcut type act, some m.nextId) := by
  cases ps with
  | none => exact .inl ⟨rfl, rfl⟩
  | some shortcut =>
    cases taken : duplicate m.bindings shortcut with
    | true => exact .inl ⟨by simp [accepts, taken], by simp [register, taken]⟩
    | false => exact .inr ⟨shortcut, rfl, by simp [accepts, taken], taken, by simp [register, insert, taken]⟩

theorem register_nothing : m.register ps type none = (m, none) := by
  cases ps <;> rfl

end

theorem Keyed.insert {m : KeyBindingManager α} (keyed : m.Keyed) {ps : ParsedShortcut}
    (new : duplicate m.bindings ps = false) (type : KeyBindingType) (act : α) :
    (m.insert ps type act).Keyed where
  ids := by
    simp only [KeyBindingManager.insert, List.map_append, List.map_cons, List.map_nil]
    rw [List.nodup_append]
    refine ⟨keyed.ids, List.nodup_singleton _, ?_⟩
    intro id mem id' last
    obtain ⟨b, listed, rfl⟩ := List.mem_map.mp mem
    rw [List.mem_singleton.mp last]
    exact Nat.ne_of_lt (keyed.fresh b listed)
  fresh := by
    intro b mem
    rcases List.mem_append.mp mem with old | last
    · exact Nat.lt_succ_of_lt (keyed.fresh b old)
    · rw [List.mem_singleton.mp last]
      exact Nat.lt_succ_self _
  apart := by
    simp only [KeyBindingManager.insert, List.map_append, List.map_cons, List.map_nil]
    rw [List.nodup_append]
    refine ⟨keyed.apart, List.nodup_singleton _, ?_⟩
    intro combination mem other last same
    rw [same, List.mem_singleton.mp last] at mem
    exact absurd (duplicate_iff.mpr mem) (by simp [new])

theorem Keyed.unregister {m : KeyBindingManager α} (keyed : m.Keyed) (id : Nat) : (m.unregister id).1.Keyed where
  ids := keyed.ids.sublist (List.filter_sublist.map _)
  fresh := fun b mem => keyed.fresh b (List.mem_of_mem_filter mem)
  apart := keyed.apart.sublist (List.filter_sublist.map _)

theorem map_id_replaceParsed (id : Nat) (ps : ParsedShortcut) (bindings : List (Binding α)) :
    (replaceParsed id ps bindings).map Binding.id = bindings.map Binding.id := by
  induction bindings with
  | nil => rfl
  | cons b rest ih =>
    unfold replaceParsed
    split
    · rfl
    · rw [List.map_cons, List.map_cons, ih]

theorem mem_replaceParsed {id : Nat} {ps : ParsedShortcut} {bindings : List (Binding α)} {b : Binding α}
    (mem : b ∈ replaceParsed id ps bindings) :
    b ∈ bindings ∨ ∃ old ∈ bindings, old.id = id ∧ b = { old with parsed := ps } := by
  induction bindings with
  | nil => cases mem
  | cons first rest ih =>
    unfold replaceParsed at mem
    split at mem
    · rename_i same
      rcases List.mem_cons.mp mem with rfl | later
      · exact .inr ⟨first, .head _, same, rfl⟩
      · exact .inl (.tail _ later)
    · rcases List.mem_cons.mp mem with rfl | later
      · exact .inl (.head _)
      · rcases ih later with old | ⟨old, listed, same, changed⟩
        · exact .inl (.tail _ old)
        · exact .inr ⟨old, .tail _ listed, same, changed⟩

theorem nodup_replaceParsed {id : Nat} {ps : ParsedShortcut} {bindings : List (Binding α)}
    (ids : (bindings.map Binding.id).Nodup) (apart : (bindings.map (·.parsed.combination)).Nodup)
    (new : duplicate (bindings.filter fun b => b.id != id) ps = false) :
    ((replaceParsed id ps bindings).map (·.parsed.combination)).Nodup := by
  induction bindings with
  | nil => exact List.nodup_nil
  | cons first rest ih =>
    rw [List.map_cons, List.nodup_cons] at ids apart
    unfold replaceParsed
    split
    · -- the changed binding: the others have other ids, so the new shortcut is none of theirs
      rename_i same
      rw [List.map_cons, List.nodup_cons]
      refine ⟨?_, apart.2⟩
      intro held
      obtain ⟨b, listed, equal⟩ := List.mem_map.mp held
      have kept : b ∈ (first :: rest).filter fun b => b.id != id := by
        rw [List.mem_filter]
        refine ⟨.tail _ listed, ?_⟩
        rw [bne_iff_ne]
        intro own
        exact ids.1 (List.mem_map.mpr ⟨b, listed, own.trans same.symm⟩)
      exact absurd (duplicate_iff.mpr (List.mem_map.mpr ⟨b, kept, equal⟩)) (by simp [new])
    · rename_i id'
      rw [List.filter_cons_of_pos (by simpa using id')] at new
      have newer : duplicate (rest.filter fun b => b.id != id) ps = false := by
        simp only [duplicate, List.any_cons, Bool.or_eq_false_iff] at new
        exact new.2
      rw [List.map_cons, List.nodup_cons]
      refine ⟨?_, ih ids.2 apart.2 newer⟩
      intro held
      obtain ⟨b, listed, equal⟩ := List.mem_map.mp held
      rcases mem_replaceParsed listed with old | ⟨old, _, _, rfl⟩
      · exact apart.1 (List.mem_map.mpr ⟨b, old, equal⟩)
      · -- the changed binding would have the shortcut of the first, which is not its own
        have taken : duplicate (first :: rest.filter fun b => b.id != id) ps = true := by
          rw [duplicate_iff]
          exact List.mem_map.mpr ⟨first, .head _, equal.symm⟩
        rw [taken] at new
        cases new

theorem update_cases (m : KeyBindingManager α) (id : Nat) (ps : Option ParsedShortcut) : m.update id ps = (m, false) ∨
      ∃ shortcut, ps = some shortcut ∧ duplicate (m.bindings.filter fun b => b.id != id) shortcut = false ∧
        m.update id ps = ({ m with bindings := replaceParsed id shortcut m.bindings }, true) := by
  cases ps with
  | none => exact .inl rfl
  | some shortcut =>
    simp only [update]
    split
    · exact .inl rfl
    · split
      · exact .inl rfl
      · rename_i new
        exact .inr ⟨shortcut, rfl, by simpa using new, rfl⟩

theorem Keyed.update {m : KeyBindingManager α} (keyed : m.Keyed) (id : Nat)
    (ps : Option ParsedShortcut) : (m.update id ps).1.Keyed := by
  rcases update_cases m id ps with refused | ⟨shortcut, _, new, taken⟩
  · rw [refused]
    exact keyed
  · rw [taken]
    refine ⟨?_, ?_, nodup_replaceParsed keyed.ids keyed.apart new⟩
    · rw [map_id_replaceParsed]
      exact keyed.ids
    · intro b mem
      rcases mem_replaceParsed mem with old | ⟨old, listed, _, rfl⟩
      · exact keyed.fresh b old
      · exact keyed.fresh old listed

section

variable {m : KeyBindingManager α} (keyed : m.Keyed)

include keyed

theorem Keyed.register (ps : Option ParsedShortcut) (type : KeyBindingType) (act : Option α) :
    (m.register ps type act).1.Keyed := by
  cases act with
  | none =>
    rw [register_nothing]
    exact keyed
  | some act =>
    rcases register_cases m ps type act with ⟨_, refused⟩ | ⟨shortcut, _, _, new, taken⟩
    · rw [refused]
      exact keyed
    · rw [taken]
      exact keyed.insert new type act

theorem Keyed.apply (call : ManagerCall α) : (m.apply call).Keyed := by
  cases call with
  | register ps type act => exact keyed.register ps type act
  | update id ps => exact keyed.update id ps
  | unregister id => exact keyed.unregister id
  | blockAll | blockType | grabNextKey | cancelGrab => exact ⟨keyed.ids, keyed.fresh, keyed.apart⟩

omit keyed in
theorem Outcome.nextId_eq {xkb : Xkb} {m : KeyBindingManager α} {e : KeyEvent} {inhibited : Bool}
    {handled : Handled α} (outcome : Outcome xkb m e inhibited handled) :
    handled.manager.nextId = m.nextId := by
  cases outcome <;> rfl

theorem Keyed.handled {xkb : Xkb} {e : KeyEvent} {inhibited : Bool} {handled : Handled α}
    (outcome : Outcome xkb m e inhibited handled) :
    (handled.manager.record handled.records).Keyed := by
  obtain ⟨ids, fresh, apart⟩ := keyed
  rw [← outcome.bindings_eq] at ids fresh apart
  rw [← outcome.nextId_eq] at fresh
  exact ⟨ids, fresh, apart⟩

end

end KeyBindingManager

theorem KeyRun.step_keyed {run : KeyRun α} (keyed : run.keys.manager.Keyed) (xkb : Xkb) (e : KeyRun.Event α) :
    (run.step xkb e).keys.manager.Keyed := by
  cases e with
  | key e context =>
    simp only [KeyRun.step, run.keys.onKey_handled xkb e context]
    split
    · exact ⟨keyed.ids, keyed.fresh, keyed.apart⟩
    · exact keyed.handled (KeyBindingManager.handleKey_outcome xkb run.keys.manager e _)
  | call call => exact keyed.apply call
  | forgetKeyboard => exact ⟨keyed.ids, keyed.fresh, keyed.apart⟩
  | setLocked | setOverlays => exact keyed

/-- Whatever keys are pressed and whatever the callers register, update and remove, two
bindings have neither the same number nor the same combination, and the next number is
new. -/
theorem KeyRun.bindings_keyed (xkb : Xkb) (events : List (KeyRun.Event α)) :
    Transition.Throughout (KeyRun.step xkb) (fun run => run.keys.manager.Keyed) (KeyRun.initial : KeyRun α) events :=
  Transition.throughout_invariant (fun _ event keyed => KeyRun.step_keyed keyed xkb event)
    KeyBindingManager.keyed_initial events

end FlakeWM.Input
