import FlakeWM.Input.InputMethodRelay

/-! What holds of the relay after every event.

The pointers of the relay are followed through its functions one by one. The links
to the input method do not depend on the text inputs, and what is said of the text
inputs is kept by every change of one of them that leaves its relay focus alone. -/

set_option autoImplicit false

namespace FlakeWM.Input.Text
namespace Relay

structure Numbered (relay : Relay) : Prop where
  unique : (relay.textInputs.map (·.id)).Nodup
  fresh : ∀ input ∈ relay.textInputs, input.id < relay.created

/-- Only a present input method has an active text input, and the latest event it
was sent says whether there is one. -/
structure Linked (relay : Relay) : Prop where
  present : relay.active ≠ none → relay.inputMethod ≠ none
  last : ∀ sent, relay.inputMethod = some sent → (sent.getLast? = some .activate ↔ relay.active ≠ none)

def Served (relay : Relay) (input : TextInput) : Prop :=
  input.enabled = true ∧ input.relayFocused = relay.focusedSurface ∧ relay.focusedSurface ≠ none

structure Focused (relay : Relay) : Prop where
  focus : ∀ input ∈ relay.textInputs, input.relayFocused = none ∨ input.relayFocused = relay.focusedSurface
  served : ∀ id, relay.active = some id → ∃ input ∈ relay.textInputs, input.id = id ∧ relay.Served input

def Waiting (relay : Relay) : Prop := relay.pending ≠ none → relay.inputMethod = none

structure Settled (relay : Relay) : Prop where
  numbered : relay.Numbered
  linked : relay.Linked
  focused : relay.Focused
  waiting : relay.Waiting

section

variable {r : Relay} {id : Nat} {f : TextInput → TextInput} {input : TextInput} {x : Option Surface}

theorem deactivate_of_active (active : r.active = some id) :
    r.deactivate id = { r.sendMethod .deactivate with active := none } := if_pos active

theorem deactivate_of_not (apart : r.active ≠ some id) : r.deactivate id = r := if_neg apart

@[simp] theorem deactivate_textInputs : (r.deactivate id).textInputs = r.textInputs := by
  unfold deactivate
  split <;> rfl

@[simp] theorem deactivate_focusedSurface : (r.deactivate id).focusedSurface = r.focusedSurface := by
  unfold deactivate
  split <;> rfl

@[simp] theorem deactivate_created : (r.deactivate id).created = r.created := by
  unfold deactivate
  split <;> rfl

@[simp] theorem deactivate_pending : (r.deactivate id).pending = r.pending := by
  unfold deactivate
  split <;> rfl

@[simp] theorem deactivate_method : (r.deactivate id).inputMethod = none ↔ r.inputMethod = none := by
  unfold deactivate sendMethod
  split
  · simp
  · rfl

theorem deactivate_active_ne : (r.deactivate id).active ≠ some id := by
  by_cases active : r.active = some id
  · rw [deactivate_of_active active]
    exact nofun
  · rwa [deactivate_of_not active]

theorem deactivate_active_some {id' : Nat} (active : (r.deactivate id).active = some id') :
    r.active = some id' := by
  unfold deactivate at active
  split at active
  · cases active
  · exact active

theorem Linked.deactivate (linked : r.Linked) (id : Nat) : (r.deactivate id).Linked := by
  by_cases active : r.active = some id
  · rw [deactivate_of_active active]
    refine ⟨fun some => absurd rfl some, fun sent found => ?_⟩
    obtain ⟨before, _, rfl⟩ := Option.map_eq_some_iff.mp found
    simp
  · rwa [deactivate_of_not active]

theorem Focused.deactivate (focused : r.Focused) (id : Nat) : (r.deactivate id).Focused where
  focus := by simpa using focused.focus
  served := by
    intro id' active
    simpa [Served] using focused.served id' (deactivate_active_some active)

/-- What `Activate` does: nothing, make the input wait, or make it the active one. -/
theorem activate_cases (r : Relay) (n : TextInput) :
    r.activate n = r ∨
      r.inputMethod = none ∧ r.activate n = { r with pending := some n.id } ∨
      r.Served n ∧ r.inputMethod ≠ none ∧ ∃ sent : List MethodMessage,
        r.activate n =
          { r with inputMethod := some (sent ++ [.activate]), active := some n.id, pending := none } := by
  unfold activate
  split
  · exact .inl rfl
  · rename_i served
    have served : r.Served n := by
      rw [not_or, not_or] at served
      obtain ⟨focused, enabled, same⟩ := served
      exact ⟨by simpa using enabled, by simpa using same, focused⟩
    split
    · rename_i absent
      exact .inr (.inl ⟨absent, rfl⟩)
    · rename_i present
      obtain ⟨sent, found⟩ := Option.ne_none_iff_exists'.mp present
      refine .inr (.inr ⟨served, present, ?_⟩)
      cases active : r.active with
      | none => exact ⟨sent, by simp [sendMethod, found]⟩
      | some id' =>
        by_cases same : id' = n.id
        · exact ⟨sent, by simp [sendMethod, found, same]⟩
        · refine ⟨sent ++ [.deactivate], ?_⟩
          simp only [ne_eq, same, not_false_eq_true, if_true, deactivate_of_active active]
          simp [sendMethod, found]

theorem Linked.activate (linked : r.Linked) (n : TextInput) : (r.activate n).Linked := by
  rcases activate_cases r n with same | ⟨absent, waits⟩ | ⟨_, _, sent, serves⟩
  · rwa [same]
  · rw [waits]
    exact ⟨linked.present, linked.last⟩
  · rw [serves]
    refine ⟨fun _ => nofun, fun sent' found => ?_⟩
    obtain rfl := Option.some.inj found
    simp

theorem Focused.activate (focused : r.Focused) (mem : input ∈ r.textInputs) :
    (r.activate input).Focused := by
  rcases activate_cases r input with same | ⟨_, waits⟩ | ⟨served, _, sent, serves⟩
  · rwa [same]
  · rw [waits]
    exact ⟨focused.focus, focused.served⟩
  · rw [serves]
    refine ⟨focused.focus, fun id active => ?_⟩
    exact ⟨input, mem, Option.some.inj active, served⟩

theorem Waiting.activate (waiting : r.Waiting) (n : TextInput) : (r.activate n).Waiting := by
  rcases activate_cases r n with same | ⟨absent, waits⟩ | ⟨_, _, sent, serves⟩
  · rwa [same]
  · rw [waits]
    exact fun _ => absent
  · rw [serves]
    exact fun some => absurd rfl some

theorem activate_textInputs (r : Relay) (n : TextInput) :
    (r.activate n).textInputs = r.textInputs ∧ (r.activate n).created = r.created ∧
      (r.activate n).focusedSurface = r.focusedSurface := by
  rcases activate_cases r n with same | ⟨_, waits⟩ | ⟨_, _, sent, serves⟩
  · rw [same]
    exact ⟨rfl, rfl, rfl⟩
  · rw [waits]
    exact ⟨rfl, rfl, rfl⟩
  · rw [serves]
    exact ⟨rfl, rfl, rfl⟩

theorem numbered_of_map (numbered : r.Numbered) {after : Relay} (created : after.created = r.created)
    (sameId : ∀ input, (f input).id = input.id) (inputs : after.textInputs = r.textInputs.map f) :
    after.Numbered := by
  constructor
  · rw [inputs, List.map_map]
    have same : (fun input : TextInput => input.id) ∘ f = fun input => input.id := funext sameId
    rw [same]
    exact numbered.unique
  · intro input mem
    rw [inputs] at mem
    obtain ⟨old, listed, rfl⟩ := List.mem_map.mp mem
    rw [sameId, created]
    exact numbered.fresh old listed

theorem Numbered.modify (numbered : r.Numbered) (sameId : ∀ input, (f input).id = input.id) (id : Nat) :
    (r.modify id f).Numbered := by
  refine numbered_of_map numbered rfl (fun input => ?_) rfl
  split
  · exact sameId input
  · rfl

theorem Focused.modify (focused : r.Focused) (sameId : ∀ input, (f input).id = input.id)
    (sameFocus : ∀ input, (f input).relayFocused = input.relayFocused)
    (enabled : r.active = some id → ∀ input ∈ r.textInputs, input.id = id → input.enabled = true →
      (f input).enabled = true) : (r.modify id f).Focused := by
  constructor
  · intro input mem
    obtain ⟨old, listed, rfl⟩ := List.mem_map.mp mem
    have held := focused.focus old listed
    split
    · rw [sameFocus]
      exact held
    · exact held
  · intro id' active
    obtain ⟨old, listed, named, isEnabled, same⟩ := focused.served id' active
    refine ⟨_, List.mem_map_of_mem listed, ?_⟩
    split
    · rename_i hit
      refine ⟨by rw [sameId, named], enabled (by rw [← hit, named]; exact active) old listed hit isEnabled, ?_⟩
      rw [sameFocus]
      exact same
    · exact ⟨named, isEnabled, same⟩

theorem find_mem (found : r.find id = some input) : input ∈ r.textInputs := List.mem_of_find?_eq_some found

theorem find_id (found : r.find id = some input) : input.id = id := by
  simpa using List.find?_some found

theorem find_of_mem (numbered : r.Numbered) (mem : input ∈ r.textInputs) :
    r.find input.id = some input := by
  have unique := numbered.unique
  unfold find
  generalize r.textInputs = inputs at mem unique
  induction inputs with
  | nil => cases mem
  | cons first rest ih =>
    rw [List.map_cons, List.nodup_cons] at unique
    rcases List.mem_cons.mp mem with rfl | later
    · simp
    · have apart : first.id ≠ input.id := by
        intro same
        exact unique.1 (same ▸ List.mem_map_of_mem later)
      rw [List.find?_cons_of_neg (by simpa using apart)]
      exact ih later unique.2

theorem asked_find {version : Version} (found : r.asked id version = some input) :
    r.find id = some input ∧ input.version = version := by
  obtain ⟨found, same⟩ := Option.filter_eq_some_iff.mp found
  exact ⟨found, by simpa using same⟩

theorem leave_of_not {x : Option Surface} {input : TextInput} (stays : leaves x input = true → r.active ≠ some input.id) :
    (if leaves x input then r.deactivate input.id else r) = r := by
  split
  · exact deactivate_of_not (stays ‹_›)
  · rfl

theorem foldl_deactivate_of_inactive (inactive : r.active = none) (x : Option Surface)
    (inputs : List TextInput) :
    inputs.foldl (fun r input => if leaves x input then r.deactivate input.id else r) r = r := by
  induction inputs with
  | nil => rfl
  | cons input rest ih => rw [List.foldl_cons, leave_of_not fun _ => by simp [inactive], ih]

theorem foldl_deactivate_cases (r : Relay) (x : Option Surface) (inputs : List TextInput) :
    let left := inputs.foldl (fun r input => if leaves x input then r.deactivate input.id else r) r
    left = r ∧ (∀ input ∈ inputs, leaves x input = true → r.active ≠ some input.id) ∨
      ∃ id, r.active = some id ∧ left = r.deactivate id := by
  induction inputs with
  | nil => exact .inl ⟨rfl, fun _ mem => nomatch mem⟩
  | cons input rest ih =>
    simp only [List.foldl_cons]
    by_cases out : leaves x input = true ∧ r.active = some input.id
    · obtain ⟨leaving, active⟩ := out
      rw [if_pos leaving, foldl_deactivate_of_inactive (by rw [deactivate_of_active active])]
      exact .inr ⟨input.id, active, rfl⟩
    · rw [leave_of_not fun leaving active => out ⟨leaving, active⟩]
      refine ih.imp_left fun ⟨unchanged, others⟩ => ⟨unchanged, ?_⟩
      intro other mem leaving
      rcases List.mem_cons.mp mem with rfl | later
      · exact fun active => out ⟨leaving, active⟩
      · exact others other later leaving

theorem leaves_false (stays : leaves x input = false) :
    input.relayFocused = none ∨ input.relayFocused = x := by
  unfold leaves at stays
  by_cases empty : input.relayFocused = none
  · exact .inl empty
  · exact .inr (by simpa [empty] using stays)

/-- The first loop of `UpdateFocus` in a relay whose focus has just moved. -/
structure Left (before after : Relay) (surface : Option Surface) : Prop where
  inputs : after.textInputs = before.textInputs.map fun input => if leaves surface input then input.leave else input
  created : after.created = before.created
  focusedSurface : after.focusedSurface = surface
  pending : after.pending = before.pending
  method : after.inputMethod = none ↔ before.inputMethod = none
  linked : before.Linked → after.Linked
  active : ∀ id, after.active = some id → before.active = some id ∧
    ∀ input ∈ before.textInputs, leaves surface input = true → input.id ≠ id

theorem leaveOthers_left (r : Relay) (x : Option Surface) :
    Left r (({ r with focusedSurface := x }).leaveOthers x) x := by
  rcases foldl_deactivate_cases { r with focusedSurface := x } x r.textInputs with
    ⟨same, others⟩ | ⟨id, active, same⟩
  all_goals
    unfold leaveOthers
    rw [same]
  · refine ⟨rfl, rfl, rfl, rfl, Iff.rfl, fun linked => ⟨linked.present, linked.last⟩, fun id active => ⟨active, ?_⟩⟩
    intro input mem leaving named
    exact others input mem leaving (named ▸ active)
  · refine ⟨rfl, by simp, by simp, by simp, by simp, fun linked => ?_, fun id' still => ?_⟩
    · have linked : ({ r with focusedSurface := x } : Relay).Linked := ⟨linked.present, linked.last⟩
      exact ⟨(linked.deactivate id).present, (linked.deactivate id).last⟩
    · have left : ({ r with focusedSurface := x } : Relay).active = some id' := deactivate_active_some still
      obtain rfl : id = id' := Option.some.inj (active.symm.trans left)
      exact absurd still deactivate_active_ne

theorem Left.focused {before after : Relay} (left : Left before after x) (focused : before.Focused) :
    after.Focused := by
  constructor
  · intro input mem
    rw [left.inputs] at mem
    obtain ⟨old, _, rfl⟩ := List.mem_map.mp mem
    rw [left.focusedSurface]
    split
    · exact .inl rfl
    · rename_i stays
      exact leaves_false (by simpa using stays)
  · intro id active
    obtain ⟨wasActive, others⟩ := left.active id active
    obtain ⟨input, mem, named, enabled, same, present⟩ := focused.served id wasActive
    have stays : leaves x input = false := by
      by_contra leaving
      exact others input mem (by simpa using leaving) named
    have entered : input.relayFocused ≠ none := by rwa [same]
    have now : input.relayFocused = x := (leaves_false stays).resolve_left entered
    refine ⟨input, ?_, named, enabled, by rw [left.focusedSurface, now], by rw [left.focusedSurface, ← now]; exact entered⟩
    rw [left.inputs]
    exact List.mem_map.mpr ⟨input, mem, by simp [stays]⟩

theorem enters_some {entered : Surface} (found : r.enters x input = some entered) :
    x = some entered ∧ input.relayFocused = none ∧ r.acceptsFocus input entered = true := by
  unfold enters at found
  split at found
  · rename_i x
    split at found
    · rename_i accepted
      obtain rfl := Option.some.inj found
      exact ⟨rfl, accepted⟩
    · cases found
  · cases found

theorem Focused.enterAccepting (focused : r.Focused) (now : r.focusedSurface = x) :
    (r.enterAccepting x).Focused := by
  constructor
  · intro input mem
    obtain ⟨old, listed, rfl⟩ := List.mem_map.mp mem
    split
    · rename_i entered found
      right
      rw [TextInput.enter_relayFocused, ← (enters_some found).1]
      exact now.symm
    · exact focused.focus old listed
  · intro id active
    obtain ⟨input, mem, named, enabled, same, present⟩ := focused.served id active
    refine ⟨input, List.mem_map.mpr ⟨input, mem, ?_⟩, named, enabled, same, present⟩
    split
    · rename_i entered found
      have empty := (enters_some found).2.1
      rw [same] at empty
      exact absurd empty present
    · rfl

theorem candidate_mem (found : r.candidate x = some input) : input ∈ r.textInputs :=
  List.mem_of_find?_eq_some found

theorem activateCandidate_cases (r : Relay) (x : Option Surface) :
    r.activateCandidate x = r ∨
      ∃ input ∈ r.textInputs, r.activateCandidate x = r.activate input := by
  unfold activateCandidate
  split
  · rename_i input found
    split
    · exact .inr ⟨input, candidate_mem found, rfl⟩
    · exact .inl rfl
  · exact .inl rfl

/-- `UpdateFocus` lets inputs leave, lets inputs enter and activates one of them. -/
theorem updateFocus_cases (r : Relay) (x : Option Surface) :
    ∃ middle, Left r middle x ∧ (r.updateFocus x = middle.enterAccepting x ∨
      ∃ input ∈ (middle.enterAccepting x).textInputs,
        r.updateFocus x = (middle.enterAccepting x).activate input) :=
  ⟨_, leaveOthers_left r x, activateCandidate_cases _ x⟩

theorem Left.numbered {before after : Relay} (left : Left before after x) (numbered : before.Numbered) :
    after.Numbered := by
  refine numbered_of_map numbered left.created (fun input => ?_) left.inputs
  split
  · exact input.leave_id
  · rfl

theorem Numbered.enterAccepting (numbered : r.Numbered) (x : Option Surface) :
    (r.enterAccepting x).Numbered := by
  refine numbered_of_map numbered rfl (fun input => ?_) rfl
  split
  · exact input.enter_id _
  · rfl

theorem Numbered.activate (numbered : r.Numbered) (n : TextInput) : (r.activate n).Numbered := by
  obtain ⟨inputs, created, _⟩ := activate_textInputs r n
  constructor
  · rw [inputs]
    exact numbered.unique
  · rw [inputs, created]
    exact numbered.fresh

theorem Numbered.updateFocus (numbered : r.Numbered) (x : Option Surface) :
    (r.updateFocus x).Numbered := by
  obtain ⟨middle, left, same | ⟨input, _, same⟩⟩ := updateFocus_cases r x
  · rw [same]
    exact (left.numbered numbered).enterAccepting x
  · rw [same]
    exact ((left.numbered numbered).enterAccepting x).activate input

theorem Linked.updateFocus (linked : r.Linked) (x : Option Surface) :
    (r.updateFocus x).Linked := by
  obtain ⟨middle, left, same | ⟨input, _, same⟩⟩ := updateFocus_cases r x
  all_goals
    have moved : (middle.enterAccepting x).Linked := ⟨(left.linked linked).present, (left.linked linked).last⟩
    rw [same]
  · exact moved
  · exact moved.activate input

theorem Focused.updateFocus (focused : r.Focused) (x : Option Surface) :
    (r.updateFocus x).Focused := by
  obtain ⟨middle, left, same | ⟨input, mem, same⟩⟩ := updateFocus_cases r x
  all_goals
    have moved := (left.focused focused).enterAccepting left.focusedSurface
    rw [same]
  · exact moved
  · exact moved.activate mem

theorem Waiting.updateFocus (waiting : r.Waiting) (x : Option Surface) :
    (r.updateFocus x).Waiting := by
  obtain ⟨middle, left, same | ⟨input, _, same⟩⟩ := updateFocus_cases r x
  all_goals
    have moved : (middle.enterAccepting x).Waiting := by
      intro waits
      exact left.method.mpr (waiting (left.pending ▸ waits))
    rw [same]
  · exact moved
  · exact moved.activate input

theorem Settled.updateFocus (settled : r.Settled) (x : Option Surface) :
    (r.updateFocus x).Settled :=
  ⟨settled.numbered.updateFocus x, settled.linked.updateFocus x, settled.focused.updateFocus x,
    settled.waiting.updateFocus x⟩

theorem Settled.activate (settled : r.Settled) (mem : input ∈ r.textInputs) :
    (r.activate input).Settled :=
  ⟨settled.numbered.activate input, settled.linked.activate input, settled.focused.activate mem,
    settled.waiting.activate input⟩

theorem Settled.modify (settled : r.Settled) (sameId : ∀ input, (f input).id = input.id)
    (sameFocus : ∀ input, (f input).relayFocused = input.relayFocused)
    (enabled : r.active = some id → ∀ input ∈ r.textInputs, input.id = id → input.enabled = true →
      (f input).enabled = true) : (r.modify id f).Settled :=
  ⟨settled.numbered.modify sameId id, ⟨settled.linked.present, settled.linked.last⟩,
    settled.focused.modify sameId sameFocus enabled, settled.waiting⟩

theorem Settled.handleEnable (settled : r.Settled) (id : Nat) : (r.handleEnable id).Settled := by
  have moved := settled.updateFocus r.focusedSurface
  unfold Relay.handleEnable
  simp only
  split
  · rename_i input found
    split
    · exact moved
    · exact moved.activate (find_mem found)
  · exact moved

theorem handleDisable_active_ne : (r.handleDisable id).active ≠ some id := deactivate_active_ne

theorem handleDisable_textInputs : (r.handleDisable id).textInputs = r.textInputs := by
  unfold handleDisable
  rw [deactivate_textInputs]
  split <;> rfl

theorem Settled.handleDisable (settled : r.Settled) (id : Nat) : (r.handleDisable id).Settled := by
  have cleared : (if r.pending = some id then { r with pending := none } else r).Settled := by
    split
    · exact ⟨⟨settled.numbered.unique, settled.numbered.fresh⟩, ⟨settled.linked.present, settled.linked.last⟩,
        ⟨settled.focused.focus, settled.focused.served⟩, fun some => absurd rfl some⟩
    · exact settled
  unfold Relay.handleDisable
  generalize (if r.pending = some id then { r with pending := none } else r) = r at cleared
  refine ⟨⟨?_, ?_⟩, cleared.linked.deactivate id, cleared.focused.deactivate id, ?_⟩
  · simpa using cleared.numbered.unique
  · simpa using cleared.numbered.fresh
  · intro waits
    rw [deactivate_pending] at waits
    exact deactivate_method.mpr (cleared.waiting waits)

theorem modify_handleDisable (r : Relay) (id : Nat) (f : TextInput → TextInput) :
    (r.modify id f).handleDisable id = (r.handleDisable id).modify id f := by
  unfold Relay.handleDisable deactivate Relay.modify sendMethod
  by_cases pending : r.pending = some id
  · simp only [pending, if_true]
    split <;> rfl
  · simp only [pending, if_false]
    split <;> rfl

section

variable (settled : r.Settled) (sameId : ∀ input, (f input).id = input.id)
  (sameFocus : ∀ input, (f input).relayFocused = input.relayFocused)

include settled sameId sameFocus

theorem Settled.disable : ((r.modify id f).handleDisable id).Settled := by
  rw [modify_handleDisable]
  exact (settled.handleDisable id).modify sameId sameFocus fun active => absurd active handleDisable_active_ne

theorem Settled.forget {forget : TextInput → TextInput} (keptId : ∀ input, (forget input).id = input.id)
    (keptFocus : ∀ input, (forget input).relayFocused = input.relayFocused) :
    (((r.modify id f).handleDisable id).modify id forget).Settled := by
  apply (settled.disable sameId sameFocus).modify keptId keptFocus
  intro active
  exact absurd active handleDisable_active_ne

end

theorem Settled.handleDestroy (settled : r.Settled) (id : Nat) : (r.handleDestroy id).Settled := by
  have disabled := settled.handleDisable id
  have distinct : (r.handleDisable id).active ≠ some id := handleDisable_active_ne
  unfold Relay.handleDestroy
  generalize r.handleDisable id = r at disabled distinct
  refine ⟨⟨?_, ?_⟩, ⟨disabled.linked.present, disabled.linked.last⟩, ⟨?_, ?_⟩, disabled.waiting⟩
  · exact disabled.numbered.unique.sublist (List.filter_sublist.map _)
  · intro input mem
    exact disabled.numbered.fresh input (List.mem_of_mem_filter mem)
  · intro input mem
    exact disabled.focused.focus input (List.mem_of_mem_filter mem)
  · intro active found
    obtain ⟨input, mem, named, served⟩ := disabled.focused.served active found
    refine ⟨input, List.mem_filter.mpr ⟨mem, ?_⟩, named, served⟩
    have apart : input.id ≠ id := by
      rintro rfl
      exact distinct (named ▸ found)
    simpa using apart

theorem greet_id (r : Relay) (n : TextInput) : (r.greet n).id = n.id := by
  unfold greet
  split
  · split
    · exact n.enter_id _
    · rfl
  · rfl

theorem greet_relayFocused (r : Relay) (empty : input.relayFocused = none) :
    (r.greet input).relayFocused = none ∨ (r.greet input).relayFocused = r.focusedSurface := by
  unfold greet
  split
  · rename_i x focused
    split
    · exact .inr focused.symm
    · exact .inl empty
  · exact .inl empty

theorem Settled.addTextInput (settled : r.Settled) (older : ∀ other ∈ r.textInputs, other.id < input.id)
    (below : input.id < r.created) (empty : input.relayFocused = none) : (r.addTextInput input).Settled := by
  unfold Relay.addTextInput
  split
  · exact settled
  · refine ⟨⟨?_, ?_⟩, ⟨settled.linked.present, settled.linked.last⟩, ⟨?_, ?_⟩, settled.waiting⟩
    · rw [List.map_append, List.map_singleton, greet_id]
      refine List.nodup_append.mpr ⟨settled.numbered.unique, by simp, ?_⟩
      intro id mem id' named
      obtain ⟨old, listed, rfl⟩ := List.mem_map.mp mem
      obtain rfl := List.mem_singleton.mp named
      exact Nat.ne_of_lt (older old listed)
    · intro other mem
      rcases List.mem_append.mp mem with listed | added
      · exact settled.numbered.fresh other listed
      · obtain rfl := List.mem_singleton.mp added
        rw [greet_id]
        exact below
    · intro other mem
      rcases List.mem_append.mp mem with listed | added
      · exact settled.focused.focus other listed
      · obtain rfl := List.mem_singleton.mp added
        exact r.greet_relayFocused empty
    · intro id active
      obtain ⟨other, mem, served⟩ := settled.focused.served id active
      exact ⟨other, List.mem_append_left _ mem, served⟩

theorem Settled.create (settled : r.Settled) (version : Version) (cl seat : Nat) :
    (r.create version cl seat).Settled := by
  have counted : ({ r with created := r.created + 1 } : Relay).Settled :=
    ⟨⟨settled.numbered.unique, fun input mem => Nat.lt_succ_of_lt (settled.numbered.fresh input mem)⟩,
      ⟨settled.linked.present, settled.linked.last⟩, ⟨settled.focused.focus, settled.focused.served⟩, settled.waiting⟩
  exact counted.addTextInput settled.numbered.fresh (Nat.lt_succ_self _) rfl

theorem Settled.inputMethodDestroyed (settled : r.Settled) : r.inputMethodDestroyed.Settled := by
  unfold Relay.inputMethodDestroyed
  split
  · exact settled
  · exact ⟨⟨settled.numbered.unique, settled.numbered.fresh⟩, ⟨fun some => absurd rfl some, fun _ found => nomatch found⟩,
      ⟨settled.focused.focus, fun _ found => nomatch found⟩, fun _ => rfl⟩

/-- A new input method starts without an active input: there is none while no input
method is present. The input that was waiting for it waits no longer. -/
theorem Settled.newInputMethod (settled : r.Settled) (seat : Nat) : (r.newInputMethod seat).Settled := by
  unfold Relay.newInputMethod
  split
  · exact settled
  · rename_i taken
    have absent : r.inputMethod = none := by
      by_contra present
      exact taken (.inr present)
    have inactive : r.active = none := by
      by_contra active
      exact settled.linked.present active absent
    have linked : ({ r with inputMethod := some [] } : Relay).Linked := by
      refine ⟨fun active => absurd inactive active, fun sent found => ?_⟩
      obtain rfl := Option.some.inj found
      simp [inactive]
    have focused : ({ r with inputMethod := some [] } : Relay).Focused :=
      ⟨settled.focused.focus, settled.focused.served⟩
    have numbered : ({ r with inputMethod := some [] } : Relay).Numbered :=
      ⟨settled.numbered.unique, settled.numbered.fresh⟩
    have numbered := numbered.updateFocus r.focusedSurface
    have linked := linked.updateFocus r.focusedSurface
    have focused := focused.updateFocus r.focusedSurface
    simp only
    generalize ({ r with inputMethod := some [] } : Relay).updateFocus r.focusedSurface = moved
      at numbered linked focused
    have ready : ({ moved with pending := none } : Relay).Settled :=
      ⟨⟨numbered.unique, numbered.fresh⟩, ⟨linked.present, linked.last⟩, ⟨focused.focus, focused.served⟩,
        fun some => absurd rfl some⟩
    split
    · rename_i input found
      refine ready.activate ?_
      split at found
      · exact find_mem found
      · exact candidate_mem found
    · exact ready

end

theorem Settled.initial (seat : Nat) (focusedSurface : Option Surface) : (initial seat focusedSurface).Settled where
  numbered := ⟨List.nodup_nil, fun _ mem => nomatch mem⟩
  linked := ⟨fun some => absurd rfl some, fun _ found => nomatch found⟩
  focused := ⟨fun _ mem => (nomatch mem), fun _ found => nomatch found⟩
  waiting := fun some => absurd rfl some

section

variable {r : Relay} (settled : r.Settled) (id : Nat)

include settled

theorem Settled.activateV1 (seat : Option Nat) (x : Surface) : (r.activateV1 id seat x).Settled := by
  unfold Relay.activateV1
  split
  · split
    · exact settled
    · apply Settled.handleEnable
      exact settled.modify (fun _ => rfl) (fun _ => rfl) fun _ _ _ _ _ => rfl
  · exact settled

theorem Settled.deactivateV1 (seat : Option Nat) : (r.deactivateV1 id seat).Settled := by
  unfold Relay.deactivateV1
  split
  · split
    · exact settled
    · refine settled.forget ?_ ?_ ?_ ?_ <;> exact fun _ => rfl
  · exact settled

theorem Settled.enableV2 (x : Surface) : (r.enableV2 id x).Settled := by
  unfold Relay.enableV2
  split
  · split
    · exact settled
    · apply Settled.handleEnable
      exact settled.modify (fun _ => rfl) (fun _ => rfl) fun _ _ _ _ _ => rfl
  · exact settled

theorem Settled.disableV2 (x : Surface) : (r.disableV2 id x).Settled := by
  unfold Relay.disableV2
  split
  · split
    · exact settled
    · refine settled.forget ?_ ?_ ?_ ?_ <;> exact fun _ => rfl
  · exact settled

theorem Settled.setPendingV3 (enabled : Bool) : (r.setPendingV3 id enabled).Settled := by
  unfold Relay.setPendingV3
  split
  · exact settled.modify (fun _ => rfl) (fun _ => rfl) fun _ _ _ _ enabled => enabled
  · exact settled

theorem Settled.commitV3 : (r.commitV3 id).Settled := by
  unfold Relay.commitV3
  split
  · rename_i n found
    simp only
    by_cases disabled : n.enabled = true ∧ n.pendingEnabled = false
    · rw [if_neg (by simp [disabled.1]), if_pos disabled]
      exact settled.disable (fun _ => rfl) fun _ => rfl
    · have committed : (r.modify id fun n => { n with enabled := n.pendingEnabled }).Settled := by
        refine settled.modify (fun _ => rfl) (fun _ => rfl) fun _ other mem named enabled => ?_
        have same := find_of_mem settled.numbered mem
        rw [named, (asked_find found).1] at same
        obtain rfl := Option.some.inj same
        simpa [enabled] using disabled
      rw [if_neg disabled]
      split
      · exact committed.handleEnable id
      · exact committed
  · exact settled

theorem Settled.surfaceDestroyed : (r.surfaceDestroyed id).Settled := by
  unfold Relay.surfaceDestroyed
  split
  · split
    · exact settled
    · split
      · exact settled.handleDestroy id
      · exact settled.modify (fun _ => rfl) (fun _ => rfl) fun _ _ _ _ enabled => enabled
  · exact settled

end

theorem Settled.step (r : Relay) (e : RelayEvent) (settled : r.Settled) : (r.step e).Settled := by
  cases e with
  | create version cl seat => exact settled.create version cl seat
  | activate id seat x => exact settled.activateV1 id seat x
  | deactivate id seat => exact settled.deactivateV1 id seat
  | enable id x => exact settled.enableV2 id x
  | disable id x => exact settled.disableV2 id x
  | enableV3 id => exact settled.setPendingV3 id true
  | disableV3 id => exact settled.setPendingV3 id false
  | commitV3 id => exact settled.commitV3 id
  | commitState => exact settled
  | destroyed id => exact settled.handleDestroy id
  | surfaceDestroyed id => exact settled.surfaceDestroyed id
  | focusChange x => exact settled.updateFocus x
  | newInputMethod seat => exact settled.newInputMethod seat
  | inputMethodDestroyed => exact settled.inputMethodDestroyed

/-- What is expected of the relay after every event. -/
structure Orderly (relay : Relay) : Prop where
  /-- The relay focus is empty or the focused surface. -/
  focus : ∀ input ∈ relay.textInputs, input.relayFocused = none ∨ input.relayFocused = relay.focusedSurface
  /-- The active input is enabled and has the relay focus, and there is an input method. -/
  active : ∀ id, relay.active = some id → relay.inputMethod.isSome = true ∧ ∃ input surface,
    relay.find id = some input ∧ input.enabled = true ∧ relay.focusedSurface = some surface ∧
      input.relayFocused = some surface
  /-- The latest event the input method was sent says whether an input is active. -/
  told : ∀ sent, relay.inputMethod = some sent → (sent.getLast? = some .activate ↔ relay.active.isSome = true)
  /-- An input is pending only while there is no input method. -/
  pending : relay.pending.isSome = true → relay.inputMethod = none

theorem Settled.orderly {r : Relay} (settled : r.Settled) : r.Orderly where
  focus := settled.focused.focus
  active := by
    intro id active
    have present := settled.linked.present (by simp [active])
    obtain ⟨n, mem, named, enabled, same, focused⟩ := settled.focused.served id active
    obtain ⟨x, found⟩ := Option.ne_none_iff_exists'.mp focused
    refine ⟨Option.isSome_iff_ne_none.mpr present, n, x, ?_, enabled, found, same.trans found⟩
    rw [← named]
    exact find_of_mem settled.numbered mem
  told := by
    intro sent found
    rw [settled.linked.last sent found, Option.isSome_iff_ne_none]
  pending := fun waits => settled.waiting (Option.isSome_iff_ne_none.mp waits)

/-- From the relay's start on, whatever text inputs, input methods and the keyboard
focus do, the relay is orderly after every event. -/
theorem throughout_orderly (seat : Nat) (focusedSurface : Option Surface) (events : List RelayEvent) :
    Transition.Throughout step Orderly (initial seat focusedSurface) events := by
  have kept : Transition.Throughout step Settled (initial seat focusedSurface) events :=
    Transition.throughout_invariant Settled.step (Settled.initial seat focusedSurface) events
  exact kept.mono fun _ settled => settled.orderly

end Relay
end FlakeWM.Input.Text
