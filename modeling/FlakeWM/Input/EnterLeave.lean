import FlakeWM.Input.RelayState

/-! Enter and leave events of a text input.

The relay sends them by its own focus, and a v1 or v2 object answers by the surface
it remembers. As long as the two agree the events come in pairs. They disagree when
a client disables an input that has the relay focus, or enables it for another
surface meanwhile: the leave is then not sent, or names the other surface. -/

set_option autoImplicit false

namespace FlakeWM.Input.Text
namespace Relay

/-- The events sent to every text input come in pairs of an enter and a leave of one
surface, and the active input is on the focused surface. -/
structure Alternating (relay : Relay) : Prop where
  paired : ∀ input ∈ relay.textInputs, Brackets.Bracketed (input.sent.map FocusMessage.mark)
  own : ∀ input ∈ relay.textInputs, relay.active = some input.id → input.surface = relay.focusedSurface

instance (relay : Relay) : Decidable relay.Alternating :=
  decidable_of_iff
    ((∀ input ∈ relay.textInputs, Brackets.Bracketed (input.sent.map FocusMessage.mark)) ∧
      ∀ input ∈ relay.textInputs, relay.active = some input.id → input.surface = relay.focusedSurface)
    ⟨fun ⟨paired, own⟩ => ⟨paired, own⟩, fun ⟨paired, own⟩ => ⟨paired, own⟩⟩

/-- The relay focus is what the client was last told to have entered, and the input's
own surface. -/
structure Agrees (input : TextInput) : Prop where
  told : Brackets.scanAll none (input.sent.map FocusMessage.mark) = some input.relayFocused
  own : ∀ surface, input.relayFocused = some surface → input.surface = some surface

def Agreeing (relay : Relay) : Prop := ∀ input ∈ relay.textInputs, Agrees input

/-- Requests that leave the own surface of an input with relay focus alone. -/
def keepsOwnSurface (relay : Relay) : RelayEvent → Bool
  | .activate id seat surface => (relay.asked id .v1).all fun input =>
    seat == none || surface.client != input.client || input.relayFocused == none || input.relayFocused == some surface
  | .deactivate id seat => (relay.asked id .v1).all fun input =>
    seat == none || input.seat != seat || input.relayFocused == none
  | .enable id surface => (relay.asked id .v2).all fun input =>
    surface.client != input.client || input.relayFocused == none || input.relayFocused == some surface
  | .disable id surface => (relay.asked id .v2).all fun input =>
    input.surface != some surface || input.relayFocused == none
  | .surfaceDestroyed id => (relay.find id).all fun input =>
    input.surface == none || input.version == .v1 || input.relayFocused == none
  | _ => true

section

variable {n : TextInput} {x : Surface}

theorem Agrees.of_same {other : TextInput} (agrees : Agrees n) (sent : other.sent = n.sent)
    (focus : other.relayFocused = n.relayFocused)
    (own : ∀ x, n.relayFocused = some x → other.surface = some x) : Agrees other where
  told := by rw [sent, focus, agrees.told]
  own := by rwa [focus]

theorem mark_leave (version : Version) (x : Surface) :
    Brackets.scan (some x) (FocusMessage.leave (if version = .v1 then none else some x)).mark = some none := by
  by_cases first : version = .v1
  · rw [if_pos first]
    rfl
  · rw [if_neg first]
    simp [FocusMessage.mark, Brackets.scan]

theorem Agrees.leave (agrees : Agrees n) (focused : n.relayFocused ≠ none) : Agrees n.leave := by
  obtain ⟨x, found⟩ := Option.ne_none_iff_exists'.mp focused
  have own := agrees.own x found
  constructor
  · simp only [TextInput.leave, TextInput.sendLeave, own, TextInput.send, List.map_append, List.map_singleton]
    rw [Brackets.scanAll_concat (agrees.told.trans (congrArg some found)), mark_leave]
  · exact nofun

theorem enter_sent (own : n.matchesSurface x = true) :
    (n.enter x).sent = n.sent ++ [.enter x] ∧ (n.enter x).surface = some x := by
  unfold TextInput.matchesSurface at own
  unfold TextInput.enter TextInput.sendEnter TextInput.send
  cases version : n.version with
  | v1 | v2 =>
    rw [version] at own
    have same : n.surface = some x := by simpa using own
    simp [same]
  | v3 => simp

theorem Agrees.enter (agrees : Agrees n) (empty : n.relayFocused = none)
    (own : n.matchesSurface x = true) : Agrees (n.enter x) := by
  obtain ⟨sent, now⟩ := enter_sent own
  constructor
  · rw [sent, List.map_append, List.map_singleton, Brackets.scanAll_concat (agrees.told.trans (congrArg some empty))]
    rfl
  · intro entered focused
    obtain rfl := Option.some.inj focused
    exact now

theorem Agrees.created (id : Nat) (version : Version) (cl : Nat) (seat : Option Nat) :
    Agrees (TextInput.create id version cl seat) := ⟨rfl, nofun⟩

end

section

variable {r : Relay} {id : Nat} {f : TextInput → TextInput}

theorem Agreeing.of_textInputs {after : Relay} (agreeing : r.Agreeing) (same : after.textInputs = r.textInputs) :
    after.Agreeing := by
  unfold Agreeing
  rwa [same]

section

variable (agreeing : r.Agreeing)

include agreeing

theorem Agreeing.modify (kept : ∀ n ∈ r.textInputs, n.id = id → Agrees n → Agrees (f n)) :
    (r.modify id f).Agreeing := by
  intro n mem
  obtain ⟨old, listed, rfl⟩ := List.mem_map.mp mem
  split
  · rename_i hit
    exact kept old listed hit (agreeing old listed)
  · exact agreeing old listed

theorem Agreeing.updateFocus (x : Option Surface) : (r.updateFocus x).Agreeing := by
  have entered : ∀ middle, Left r middle x → (middle.enterAccepting x).Agreeing := by
    intro middle left n mem
    obtain ⟨between, listed, rfl⟩ := List.mem_map.mp mem
    have agrees : Agrees between := by
      rw [left.inputs] at listed
      obtain ⟨old, was, rfl⟩ := List.mem_map.mp listed
      split
      · rename_i leaving
        have focused : old.relayFocused ≠ none := by
          unfold leaves at leaving
          rw [Bool.and_eq_true, bne_iff_ne] at leaving
          exact leaving.1
        exact (agreeing old was).leave focused
      · exact agreeing old was
    split
    · rename_i found
      obtain ⟨_, empty, accepted⟩ := enters_some found
      unfold acceptsFocus at accepted
      rw [Bool.and_eq_true] at accepted
      exact agrees.enter empty accepted.2
    · exact agrees
  obtain ⟨middle, left, same | ⟨n, _, same⟩⟩ := updateFocus_cases r x
  · rw [same]
    exact entered middle left
  · rw [same]
    exact (entered middle left).of_textInputs (activate_textInputs _ n).1

theorem Agreeing.handleEnable (id : Nat) : (r.handleEnable id).Agreeing := by
  have moved := agreeing.updateFocus r.focusedSurface
  unfold Relay.handleEnable
  simp only
  split
  · split
    · exact moved
    · exact moved.of_textInputs (activate_textInputs _ _).1
  · exact moved

theorem Agreeing.handleDisable (id : Nat) : (r.handleDisable id).Agreeing :=
  agreeing.of_textInputs handleDisable_textInputs

theorem Agreeing.handleDestroy (id : Nat) : (r.handleDestroy id).Agreeing := by
  intro n mem
  exact agreeing.handleDisable id n (List.mem_of_mem_filter mem)

theorem Agreeing.addTextInput {n : TextInput} (agrees : Agrees n) (empty : n.relayFocused = none) :
    (r.addTextInput n).Agreeing := by
  unfold Relay.addTextInput
  split
  · exact agreeing
  · intro other mem
    rcases List.mem_append.mp mem with listed | added
    · exact agreeing other listed
    · obtain rfl := List.mem_singleton.mp added
      unfold greet
      split
      · split
        · rename_i own
          exact agrees.enter empty own
        · exact agrees
      · exact agrees

theorem Agreeing.newInputMethod (seat : Nat) : (r.newInputMethod seat).Agreeing := by
  unfold Relay.newInputMethod
  split
  · exact agreeing
  · have present : ({ r with inputMethod := some [] } : Relay).Agreeing := agreeing
    have moved := present.updateFocus r.focusedSurface
    simp only
    generalize ({ r with inputMethod := some [] } : Relay).updateFocus r.focusedSurface = r at moved
    split
    · exact moved.of_textInputs (activate_textInputs _ _).1
    · exact moved

theorem Agreeing.create (version : Version) (cl seat : Nat) : (r.create version cl seat).Agreeing := by
  have counted : ({ r with created := r.created + 1 } : Relay).Agreeing := agreeing
  exact counted.addTextInput (Agrees.created _ _ _ _) rfl

theorem Agreeing.inputMethodDestroyed : r.inputMethodDestroyed.Agreeing := by
  unfold Relay.inputMethodDestroyed
  split
  · exact agreeing
  · exact agreeing

theorem Agreeing.setPendingV3 (id : Nat) (enabled : Bool) : (r.setPendingV3 id enabled).Agreeing := by
  unfold Relay.setPendingV3
  split
  · exact agreeing.modify fun _ _ _ agrees => agrees.of_same rfl rfl agrees.own
  · exact agreeing

theorem Agreeing.commitV3 (id : Nat) : (r.commitV3 id).Agreeing := by
  unfold Relay.commitV3
  split
  · have committed : (r.modify id fun n => { n with enabled := n.pendingEnabled }).Agreeing :=
      agreeing.modify fun _ _ _ agrees => agrees.of_same rfl rfl agrees.own
    split
    · exact committed.handleEnable id
    · split
      · exact committed.handleDisable id
      · exact committed
  · exact agreeing

end

theorem mem_modify {n : TextInput} (found : r.find id = some n) : f n ∈ (r.modify id f).textInputs :=
  List.mem_map.mpr ⟨n, find_mem found, if_pos (find_id found)⟩

section

variable {n : TextInput} (mem : n ∈ r.textInputs) (same : n.relayFocused = r.focusedSurface)
  (focused : n.relayFocused ≠ none)

include mem same focused

/-- An input whose relay focus is the focused surface is not touched by `UpdateFocus`. -/
theorem mem_updateFocus : n ∈ (r.updateFocus r.focusedSurface).textInputs := by
  have entered : ∀ middle, Left r middle r.focusedSurface →
      n ∈ (middle.enterAccepting r.focusedSurface).textInputs := by
    intro middle left
    have stays : leaves r.focusedSurface n = false := by simp [leaves, same]
    have listed : n ∈ middle.textInputs := by
      rw [left.inputs]
      exact List.mem_map.mpr ⟨n, mem, by simp [stays]⟩
    refine List.mem_map.mpr ⟨n, listed, ?_⟩
    split
    · rename_i found
      exact absurd (enters_some found).2.1 focused
    · rfl
  obtain ⟨middle, left, moved | ⟨other, _, moved⟩⟩ := updateFocus_cases r r.focusedSurface
  · rw [moved]
    exact entered middle left
  · rw [moved, (activate_textInputs _ other).1]
    exact entered middle left

theorem mem_handleEnable : n ∈ (r.handleEnable id).textInputs := by
  have listed := mem_updateFocus mem same focused
  unfold Relay.handleEnable
  simp only
  split
  · split
    · exact listed
    · rw [(activate_textInputs _ _).1]
      exact listed
  · exact listed

end

structure Resurfaces (change : TextInput → TextInput) (own : Option Surface) : Prop where
  id : ∀ input, (change input).id = input.id
  sent : ∀ input, (change input).sent = input.sent
  focus : ∀ input, (change input).relayFocused = input.relayFocused
  surface : ∀ input, (change input).surface = own

variable {own : Option Surface}

theorem Resurfaces.agrees_iff (resurfaces : Resurfaces f own) {n : TextInput} (agrees : Agrees n) :
    Agrees (f n) ↔ n.relayFocused = none ∨ n.relayFocused = own := by
  have focus := resurfaces.focus n
  have x := resurfaces.surface n
  constructor
  · intro changed
    cases focused : n.relayFocused with
    | none => exact .inl rfl
    | some entered =>
      right
      rw [← x, changed.own entered (focus.trans focused)]
  · intro kept
    refine agrees.of_same (resurfaces.sent n) focus fun entered focused => ?_
    rw [x]
    rcases kept with empty | same
    · rw [focused] at empty
      cases empty
    · rw [← same, focused]

section

variable (settled : r.Settled) (agreeing : r.Agreeing) {n : TextInput} (found : r.find id = some n)

include settled found

theorem modified_agrees {after : TextInput} (agrees : Agrees after) (is : f n = after) :
    ∀ other ∈ r.textInputs, other.id = id → Agrees other → Agrees (f other) := by
  intro other listed named _
  have same := find_of_mem settled.numbered listed
  rw [named, found] at same
  obtain rfl := Option.some.inj same
  rwa [is]

include agreeing

theorem Resurfaces.agreeing_modify_iff (resurfaces : Resurfaces f own) :
    (r.modify id f).Agreeing ↔ n.relayFocused = none ∨ n.relayFocused = own := by
  rw [← resurfaces.agrees_iff (agreeing n (find_mem found))]
  constructor
  · intro changed
    exact changed _ (mem_modify found)
  · intro agrees
    exact agreeing.modify (modified_agrees settled found agrees rfl)

theorem Resurfaces.agreeing_enable_iff (resurfaces : Resurfaces f own) :
    ((r.modify id f).handleEnable id).Agreeing ↔ n.relayFocused = none ∨ n.relayFocused = own := by
  have agrees := resurfaces.agrees_iff (agreeing n (find_mem found))
  constructor
  · intro changed
    by_cases focused : n.relayFocused = none
    · exact .inl focused
    · -- the changed input has the relay focus, and the relay does not touch it
      have same := (settled.focused.focus n (find_mem found)).resolve_left focused
      rw [← resurfaces.focus n] at same focused
      exact agrees.mp (changed _ (mem_handleEnable (mem_modify found) same focused))
  · intro kept
    exact .handleEnable (agreeing.modify (modified_agrees settled found (agrees.mpr kept) rfl)) id

theorem Resurfaces.agreeing_disable_iff {disabled cleared : TextInput → TextInput}
    (resurfaces : Resurfaces (cleared ∘ disabled) none) (sameId : ∀ n, (disabled n).id = n.id) :
    (((r.modify id disabled).handleDisable id).modify id cleared).Agreeing ↔ n.relayFocused = none := by
  have whole : (((r.modify id disabled).handleDisable id).modify id cleared).textInputs =
      (r.modify id (cleared ∘ disabled)).textInputs := by
    simp only [Relay.modify, handleDisable_textInputs, List.map_map]
    refine List.map_congr_left fun other _ => ?_
    by_cases hit : other.id = id
    · simp [hit, sameId]
    · simp [hit]
  have modified := resurfaces.agreeing_modify_iff settled agreeing found
  rw [or_self] at modified
  rw [← modified]
  exact ⟨fun changed => changed.of_textInputs whole.symm, fun changed => changed.of_textInputs whole⟩

end

section

variable (settled : r.Settled) (agreeing : r.Agreeing)

include settled agreeing

theorem agreeing_surfaceDestroyed_iff (id : Nat) :
    (r.surfaceDestroyed id).Agreeing ↔ r.keepsOwnSurface (.surfaceDestroyed id) = true := by
  simp only [surfaceDestroyed, keepsOwnSurface]
  cases found : r.find id with
  | none => simpa using agreeing
  | some n =>
    by_cases empty : n.surface = none
    · simpa [empty] using agreeing
    by_cases first : n.version = .v1
    · simpa [empty, first] using agreeing.handleDestroy id
    have resurfaces : Resurfaces (fun n => { n with surface := none }) none :=
      ⟨fun _ => rfl, fun _ => rfl, fun _ => rfl, fun _ => rfl⟩
    simpa [empty, first] using resurfaces.agreeing_modify_iff settled agreeing found

section

variable (id : Nat) (seat : Option Nat) (x : Surface)

theorem agreeing_activateV1_iff :
    (r.activateV1 id seat x).Agreeing ↔ r.keepsOwnSurface (.activate id seat x) = true := by
  simp only [activateV1, keepsOwnSurface]
  cases found : r.asked id .v1 with
  | none => simpa using agreeing
  | some n =>
    by_cases refused : seat = none ∨ x.client ≠ n.client
    · simpa [refused] using agreeing
    dsimp only
    rw [if_neg refused]
    rw [not_or, not_not] at refused
    have resurfaces : Resurfaces (fun n => { n with seat := seat, surface := some x, enabled := true })
        (some x) := ⟨fun _ => rfl, fun _ => rfl, fun _ => rfl, fun _ => rfl⟩
    rw [resurfaces.agreeing_enable_iff settled agreeing (asked_find found).1]
    simp [refused]

theorem agreeing_deactivateV1_iff :
    (r.deactivateV1 id seat).Agreeing ↔ r.keepsOwnSurface (.deactivate id seat) = true := by
  simp only [deactivateV1, keepsOwnSurface]
  cases found : r.asked id .v1 with
  | none => simpa using agreeing
  | some n =>
    by_cases refused : seat = none ∨ n.seat ≠ seat
    · simpa [refused] using agreeing
    dsimp only
    rw [if_neg refused]
    rw [not_or, not_not] at refused
    have resurfaces : Resurfaces ((fun n => { n with seat := none, surface := none }) ∘
        fun n => { n with enabled := false }) none := ⟨fun _ => rfl, fun _ => rfl, fun _ => rfl, fun _ => rfl⟩
    rw [resurfaces.agreeing_disable_iff settled agreeing (asked_find found).1 fun _ => rfl]
    simp [refused]

theorem agreeing_enableV2_iff : (r.enableV2 id x).Agreeing ↔ r.keepsOwnSurface (.enable id x) = true := by
  simp only [enableV2, keepsOwnSurface]
  cases found : r.asked id .v2 with
  | none => simpa using agreeing
  | some n =>
    by_cases refused : x.client ≠ n.client
    · simpa [refused] using agreeing
    dsimp only
    rw [if_neg refused]
    rw [not_not] at refused
    have resurfaces : Resurfaces (fun n => { n with surface := some x, enabled := true }) (some x) :=
      ⟨fun _ => rfl, fun _ => rfl, fun _ => rfl, fun _ => rfl⟩
    rw [resurfaces.agreeing_enable_iff settled agreeing (asked_find found).1]
    simp [refused]

theorem agreeing_disableV2_iff : (r.disableV2 id x).Agreeing ↔ r.keepsOwnSurface (.disable id x) = true := by
  simp only [disableV2, keepsOwnSurface]
  cases found : r.asked id .v2 with
  | none => simpa using agreeing
  | some n =>
    by_cases refused : n.surface ≠ some x
    · simpa [refused] using agreeing
    dsimp only
    rw [if_neg refused]
    rw [not_not] at refused
    have resurfaces : Resurfaces ((fun n => { n with surface := none }) ∘
        fun n => { n with enabled := false }) none := ⟨fun _ => rfl, fun _ => rfl, fun _ => rfl, fun _ => rfl⟩
    rw [resurfaces.agreeing_disable_iff settled agreeing (asked_find found).1 fun _ => rfl]
    simp [refused]

end

/-- The two notions of a surface go on agreeing exactly if the event leaves the own
surface of every input with relay focus alone. -/
theorem agreeing_step_iff (e : RelayEvent) : (r.step e).Agreeing ↔ r.keepsOwnSurface e = true := by
  cases e with
  | create version cl seat => exact iff_of_true (agreeing.create version cl seat) rfl
  | activate id seat x => exact agreeing_activateV1_iff settled agreeing id seat x
  | deactivate id seat => exact agreeing_deactivateV1_iff settled agreeing id seat
  | enable id x => exact agreeing_enableV2_iff settled agreeing id x
  | disable id x => exact agreeing_disableV2_iff settled agreeing id x
  | enableV3 id => exact iff_of_true (agreeing.setPendingV3 id true) rfl
  | disableV3 id => exact iff_of_true (agreeing.setPendingV3 id false) rfl
  | commitV3 id => exact iff_of_true (agreeing.commitV3 id) rfl
  | commitState => exact iff_of_true agreeing rfl
  | destroyed id => exact iff_of_true (agreeing.handleDestroy id) rfl
  | surfaceDestroyed id => exact agreeing_surfaceDestroyed_iff settled agreeing id
  | focusChange x => exact iff_of_true (agreeing.updateFocus x) rfl
  | newInputMethod seat => exact iff_of_true (agreeing.newInputMethod seat) rfl
  | inputMethodDestroyed => exact iff_of_true agreeing.inputMethodDestroyed rfl

theorem Agreeing.alternating : r.Alternating where
  paired := fun n mem => Brackets.bracketed_of_scanAll (agreeing n mem).told
  own := by
    intro n mem active
    obtain ⟨other, listed, named, _, same, focused⟩ := settled.focused.served n.id active
    have found := find_of_mem settled.numbered listed
    rw [named, find_of_mem settled.numbered mem] at found
    obtain rfl := Option.some.inj found
    obtain ⟨x, now⟩ := Option.ne_none_iff_exists'.mp focused
    rw [now]
    exact (agreeing n mem).own x (same.trans now)

end

end

/-- In every run whose requests leave the own surface of the inputs with relay focus
alone, the enter and leave events of every text input alternate and name one surface,
and the active input is on the focused surface. -/
theorem throughout_alternating (seat : Nat) (focusedSurface : Option Surface) (events : List RelayEvent)
    (kept : Transition.Along step (fun relay event => relay.keepsOwnSurface event = true)
      (initial seat focusedSurface) events) :
    Transition.Throughout step Alternating (initial seat focusedSurface) events := by
  have step_kept : ∀ (relay : Relay) (event : RelayEvent), relay.Settled ∧ relay.Agreeing →
      relay.keepsOwnSurface event = true → (relay.step event).Settled ∧ (relay.step event).Agreeing := by
    intro relay event ⟨settled, agreeing⟩ met
    exact ⟨settled.step relay event, (agreeing_step_iff settled agreeing event).mpr met⟩
  have invariant := Transition.along_invariant step_kept
    ⟨Settled.initial seat focusedSurface, fun _ member => nomatch member⟩ kept
  exact invariant.mono fun relay ⟨settled, agreeing⟩ => agreeing.alternating settled

/-- A v2 client that is focused, enables its input and loses the focus again. -/
theorem throughout_alternating_once :
    let events : List RelayEvent := [.newInputMethod 0, .create .v2 7 0, .focusChange (some ⟨1, 7⟩),
      .enable 0 ⟨1, 7⟩, .focusChange none]
    Transition.Along step (fun relay event => relay.keepsOwnSurface event = true) (initial 0 none) events ∧
      Transition.Throughout step Alternating (initial 0 none) events :=
  ⟨by decide, throughout_alternating 0 none _ (by decide)⟩

/-- A v2 client disables its input while it is focused and enables it when it is
focused again: it is told twice to have entered. If it enables the input for another
of its surfaces meanwhile, the input is active on a surface without focus, and the
leave names that one. -/
theorem not_alternating_of_own_surface :
    ¬ (Transition.run step (initial 0 none) [.create .v2 7 0, .focusChange (some ⟨1, 7⟩), .enable 0 ⟨1, 7⟩,
        .disable 0 ⟨1, 7⟩, .focusChange none, .focusChange (some ⟨1, 7⟩), .enable 0 ⟨1, 7⟩]).Alternating ∧
      ¬ (Transition.run step (initial 0 none) [.newInputMethod 0, .create .v2 7 0, .focusChange (some ⟨1, 7⟩),
        .enable 0 ⟨1, 7⟩, .enable 0 ⟨2, 7⟩]).Alternating ∧
      ¬ (Transition.run step (initial 0 none) [.create .v2 7 0, .focusChange (some ⟨1, 7⟩), .enable 0 ⟨1, 7⟩,
        .enable 0 ⟨2, 7⟩, .focusChange none]).Alternating := by
  decide

end Relay
end FlakeWM.Input.Text
