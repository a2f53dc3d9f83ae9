import FlakeWM.Desktop.KeyboardFocus
import FlakeWM.Desktop.LockFocus

/-! Layer surfaces and the keyboard focus.

A mapped layer surface that asks for the keyboard exclusively should have it,
and one that asks for no keyboard should not. The focus functions look for
exclusive layer surfaces; what the handlers of layer surfaces do is proved here
one by one, each with the condition it needs. -/

set_option autoImplicit false

namespace FlakeWM.Desktop
namespace State

structure LayerFocus (state : State) : Prop where
  exclusive : (∃ id, state.layerExclusive id = true) →
    ∃ id, state.focus = some (.layer id) ∧ state.layerExclusive id = true
  interactive : ∀ (id : Nat) layer, state.focus = some (.layer id) → state.layers[id]? = some layer →
    layer.interactivity ≠ .none

def LayersServed (state : State) : Prop :=
  state.sessionLocked = false → state.keyboard.isSome = true → state.LayerFocus

/-- What every state keeps: a focused layer surface is one of the compositor's,
and none is focused while the session is locked. -/
structure LayerAttached (state : State) : Prop where
  listed : ∀ id : Nat, state.focus = some (.layer id) → id < state.layers.length
  unlocked : ∀ id : Nat, state.focus = some (.layer id) → state.sessionLocked = false

theorem layerExclusive_iff {s : State} {id : Nat} : s.layerExclusive id = true ↔
    ∃ layer, s.layers[id]? = some layer ∧ layer.mapped = true ∧ layer.alive = true ∧
      layer.interactivity = .exclusive := by
  simp [layerExclusive, Option.any_eq_true, and_assoc]

theorem layerExclusive_listed {s : State} {id : Nat} (exclusive : s.layerExclusive id = true) :
    id < s.layers.length := by
  obtain ⟨layer, found, _⟩ := layerExclusive_iff.mp exclusive
  exact (List.getElem?_eq_some_iff.mp found).1

theorem exclusiveLayer_none {s : State} : s.exclusiveLayer = none ↔ ∀ id, s.layerExclusive id = false := by
  constructor
  · intro none id
    by_contra exclusive
    have exclusive : s.layerExclusive id = true := by simpa using exclusive
    have refused := List.find?_eq_none.mp none id (by simpa using layerExclusive_listed exclusive)
    exact refused exclusive
  · intro none
    exact List.find?_eq_none.mpr fun id _ => by simp [none id]

/-- The layer surfaces, the lock and the keyboard stay; the focus enters only
exclusive layer surfaces and leaves an exclusive one only for another. -/
structure Yields (before after : State) : Prop where
  layers : after.layers = before.layers
  locked : after.sessionLocked = before.sessionLocked
  keyboard : after.keyboard = before.keyboard
  enters : ∀ id, after.focus = some (.layer id) →
    before.focus = some (.layer id) ∨ before.sessionLocked = false ∧ before.layerExclusive id = true
  leaves : ∀ id, before.focus = some (.layer id) → before.layerExclusive id = true →
    ∃ holder, after.focus = some (.layer holder) ∧ before.layerExclusive holder = true

section

variable {before after : State}

theorem Yields.refl (s : State) : Yields s s :=
  ⟨rfl, rfl, rfl, fun _ focused => .inl focused, fun id focused exclusive => ⟨id, focused, exclusive⟩⟩

theorem Yields.layerExclusive (yields : Yields before after) : after.layerExclusive = before.layerExclusive := by
  funext id
  simp only [State.layerExclusive, yields.layers]

theorem Yields.trans {middle : State} (left : Yields before middle) (right : Yields middle after) :
    Yields before after where
  layers := right.layers.trans left.layers
  locked := right.locked.trans left.locked
  keyboard := right.keyboard.trans left.keyboard
  enters := by
    intro id focused
    rcases right.enters id focused with held | ⟨unlocked, exclusive⟩
    · exact left.enters id held
    · exact .inr ⟨left.locked ▸ unlocked, left.layerExclusive ▸ exclusive⟩
  leaves := by
    intro id focused exclusive
    obtain ⟨middleHolder, held, still⟩ := left.leaves id focused exclusive
    obtain ⟨holder, held, still⟩ := right.leaves middleHolder held (by rw [left.layerExclusive]; exact still)
    exact ⟨holder, held, left.layerExclusive ▸ still⟩

theorem Yields.idle (layers : after.layers = before.layers) (locked : after.sessionLocked = before.sessionLocked)
    (kb : after.keyboard = before.keyboard)
    (focus : ∀ id, after.focus = some (.layer id) ↔ before.focus = some (.layer id)) : Yields before after :=
  ⟨layers, locked, kb, fun id focused => .inl ((focus id).mp focused),
    fun id focused exclusive => ⟨id, (focus id).mpr focused, exclusive⟩⟩

theorem Yields.attached (yields : Yields before after) (attached : before.LayerAttached) : after.LayerAttached where
  listed := by
    intro id focused
    rw [yields.layers]
    rcases yields.enters id focused with held | ⟨_, exclusive⟩
    · exact attached.listed id held
    · exact layerExclusive_listed exclusive
  unlocked := by
    intro id focused
    rw [yields.locked]
    rcases yields.enters id focused with held | ⟨unlocked, _⟩
    · exact attached.unlocked id held
    · exact unlocked

theorem Yields.layerFocus (yields : Yields before after) (good : before.LayerFocus) : after.LayerFocus where
  exclusive := by
    rw [yields.layerExclusive]
    intro asked
    obtain ⟨id, focused, exclusive⟩ := good.exclusive asked
    exact yields.leaves id focused exclusive
  interactive := by
    intro id layer focused found
    rw [yields.layers] at found
    rcases yields.enters id focused with held | ⟨_, exclusive⟩
    · exact good.interactive id layer held found
    · obtain ⟨_, there, _, _, asks⟩ := layerExclusive_iff.mp exclusive
      rw [found, Option.some_inj] at there
      subst there
      rw [asks]
      exact Interactivity.noConfusion

theorem Yields.served (yields : Yields before after) (served : before.LayersServed) : after.LayersServed := by
  intro unlocked kb
  rw [yields.locked] at unlocked
  rw [yields.keyboard] at kb
  exact yields.layerFocus (served unlocked kb)

end

section

variable {s : State}

theorem enter_yields {id : Nat} (unlocked : s.sessionLocked = false) (exclusive : s.layerExclusive id = true) :
    Yields s (s.enter (.layer id)) := by
  rw [enter_eq]
  split
  · refine ⟨rfl, rfl, rfl, ?_, fun _ _ _ => ⟨id, rfl, exclusive⟩⟩
    intro id' focused
    cases focused
    exact .inr ⟨unlocked, exclusive⟩
  · exact .refl s

theorem focusLayerSurface_yields {id : Nat} (exclusive : s.layerExclusive id = true) :
    Yields s (s.focusLayerSurface id) := by
  by_cases locked : s.sessionLocked = true
  · simp only [focusLayerSurface, locked, Bool.true_or, if_true]
    exact .refl s
  · have unlocked : s.sessionLocked = false := by simpa using locked
    by_cases focused : s.focus = some (.layer id)
    · unfold focusLayerSurface
      rw [if_pos focused]
      split <;> exact .refl s
    · rw [focusLayerSurface_exclusive s unlocked exclusive focused]
      exact enter_yields unlocked exclusive

theorem yields_of_none {next : State} (same : Refocused s next) (none : ∀ id, s.layerExclusive id = false)
    (enters : ∀ id, next.focus = some (.layer id) → s.focus = some (.layer id)) : Yields s next where
  layers := same.layers
  locked := by rw [sessionLocked, same.session]; rfl
  keyboard := same.keyboard
  enters := fun id focused => .inl (enters id focused)
  leaves := by
    intro id _ exclusive
    rw [none id] at exclusive
    cases exclusive

theorem focusToplevel_yields (s : State) (id : Nat) : Yields s (s.focusToplevel id) := by
  unfold focusToplevel
  split
  · exact .refl s
  · cases exclusive : s.exclusiveLayer with
    | some => exact focusLayerSurface_yields (exclusiveLayer_exclusive s exclusive)
    | none =>
      dsimp only
      split
      · exact .refl s
      · refine yields_of_none ?_ (exclusiveLayer_none.mp exclusive) ?_
        · rw [enter_eq]
          split <;> rfl
        · intro layer focused
          rw [enter_eq] at focused
          split at focused
          · cases focused
          · exact focused

theorem focusNextToplevel_yields (s : State) (ex : Option Nat) : Yields s (s.focusNextToplevel ex) := by
  unfold focusNextToplevel
  split
  · exact .refl s
  · cases exclusive : s.exclusiveLayer with
    | some => exact focusLayerSurface_yields (exclusiveLayer_exclusive s exclusive)
    | none =>
      dsimp only
      split
      · exact focusToplevel_yields s _
      · exact yields_of_none rfl (exclusiveLayer_none.mp exclusive) fun _ focused => nomatch focused

theorem orphan_yields {gone : Surface → Bool} (kept : ∀ id, gone (.layer id) = false) : Yields s (s.orphan gone) := by
  refine .idle rfl rfl rfl fun id => ?_
  rw [orphan_focus_iff s (by simp), and_iff_left (kept id)]

theorem Moves.yields {next : State} (moves : Moves s next) : Yields s next := by
  induction moves with
  | refl => exact .refl s
  | windows ws stack _ ih => exact ih.trans (Yields.idle rfl rfl rfl fun _ => Iff.rfl)
  | focusToplevel id _ ih => exact ih.trans (focusToplevel_yields _ id)
  | focusNextToplevel ex _ ih => exact ih.trans (focusNextToplevel_yields _ ex)
  | @clear middle _ left _ ih =>
    refine ih.trans (Yields.idle rfl rfl rfl fun id => ?_)
    -- the focus that is cleared belongs to a window
    refine iff_of_false (fun focused => nomatch focused) fun focused => ?_
    simp [focusLeftBehind, focused] at left
  | orphan id _ ih => exact ih.trans (orphan_yields fun _ => rfl)

end

/-- No layer surface but `id` asks for the keyboard exclusively. -/
def soleExclusive (state : State) (id : Nat) : Bool :=
  (List.range state.layers.length).all fun other => other == id || !state.layerExclusive other

theorem soleExclusive_iff {s : State} {id : Nat} :
    s.soleExclusive id = true ↔ ∀ id', id' ≠ id → s.layerExclusive id' = false := by
  simp only [soleExclusive, List.all_eq_true, List.mem_range, Bool.or_eq_true, beq_iff_eq, Bool.not_eq_true']
  constructor
  · intro sole id' ne
    by_cases listed : id' < s.layers.length
    · exact (sole id' listed).resolve_left ne
    · by_contra exclusive
      exact listed (layerExclusive_listed (by simpa using exclusive))
  · intro sole id' _
    by_cases same : id' = id
    · exact .inl same
    · exact .inr (sole id' same)

section

variable {s : State} {id : Nat} {f : LayerSurface → LayerSurface}

/-- One layer surface changes. -/
abbrev withLayer (state : State) (id : Nat) (change : LayerSurface → LayerSurface) : State :=
  { state with layers := state.layers.modify id change }

section

variable (s : State) {id id' : Nat} (ne : id' ≠ id) (f : LayerSurface → LayerSurface)

include ne

theorem withLayer_get : (s.withLayer id f).layers[id']? = s.layers[id']? := by
  simp [Ne.symm ne]

theorem withLayer_exclusive : (s.withLayer id f).layerExclusive id' = s.layerExclusive id' := by
  simp only [layerExclusive, withLayer_get s ne f]

end

theorem LayerAttached.withLayer (attached : s.LayerAttached) (id : Nat) (f : LayerSurface → LayerSurface) :
    (s.withLayer id f).LayerAttached where
  listed := by
    intro id' focused
    rw [List.length_modify]
    exact attached.listed id' focused
  unlocked := attached.unlocked

theorem layerFocus_of_exclusive (focused : s.focus = some (.layer id)) (exclusive : s.layerExclusive id = true) :
    s.LayerFocus where
  exclusive := fun _ => ⟨id, focused, exclusive⟩
  interactive := by
    intro id' layer held found
    obtain ⟨there, asks⟩ : ∃ there, s.layers[id]? = some there ∧ there.interactivity = .exclusive := by
      obtain ⟨there, found, _, _, asks⟩ := layerExclusive_iff.mp exclusive
      exact ⟨there, found, asks⟩
    rw [focused, Option.some_inj, Surface.layer.injEq] at held
    rw [← held, asks.1, Option.some_inj] at found
    rw [← found, asks.2]
    exact Interactivity.noConfusion

theorem LayerFocus.elsewhere (good : s.LayerFocus) (elsewhere : s.focus ≠ some (.layer id))
    (held : (s.withLayer id f).layerExclusive id = true → ∃ id', s.layerExclusive id' = true) :
    (s.withLayer id f).LayerFocus where
  exclusive := by
    rintro ⟨asking, exclusive⟩
    have asked : ∃ id', s.layerExclusive id' = true := by
      by_cases same : asking = id
      · exact held (same ▸ exclusive)
      · exact ⟨asking, withLayer_exclusive s same f ▸ exclusive⟩
    obtain ⟨holder, focused, exclusive⟩ := good.exclusive asked
    have ne : holder ≠ id := by
      rintro rfl
      exact elsewhere focused
    exact ⟨holder, focused, (withLayer_exclusive s ne f).trans exclusive⟩
  interactive := by
    intro holder layer focused found
    have ne : holder ≠ id := by
      rintro rfl
      exact elsewhere focused
    rw [withLayer_get s ne f] at found
    exact good.interactive holder layer focused found

/-- The focused layer surface changes; it must still want the keyboard, and be
exclusive if another one is. -/
theorem layerFocus_focused (focused : s.focus = some (.layer id))
    (wants : ∀ layer, (s.withLayer id f).layers[id]? = some layer → layer.interactivity ≠ .none)
    (sole : (s.withLayer id f).layerExclusive id = true ∨ s.soleExclusive id = true) :
    (s.withLayer id f).LayerFocus where
  exclusive := by
    rintro ⟨asking, exclusive⟩
    refine ⟨id, focused, ?_⟩
    rcases sole with there | sole
    · exact there
    · by_cases same : asking = id
      · exact same ▸ exclusive
      · rw [withLayer_exclusive s same f, soleExclusive_iff.mp sole asking same] at exclusive
        cases exclusive
  interactive := by
    intro holder layer held found
    rw [show s.focus = some (.layer id) from focused] at held
    cases held
    exact wants layer found

/-- A layer surface that becomes exclusive is given the focus unless a client has
grabbed the keyboard. -/
theorem focusLayerSurface_served (unlocked : s.sessionLocked = false) (kb : s.keyboard.isSome = true)
    (exclusive : s.layerExclusive id = true)
    (free : s.keyboardGrab = false ∨ s.focus = some (.layer id)) : (s.focusLayerSurface id).LayerFocus := by
  by_cases focused : s.focus = some (.layer id)
  · have same : s.focusLayerSurface id = s := by
      unfold focusLayerSurface
      rw [if_pos focused]
      split <;> rfl
    rw [same]
    exact layerFocus_of_exclusive focused exclusive
  · rw [focusLayerSurface_exclusive s unlocked exclusive focused, enter_eq,
      if_pos ⟨kb, free.resolve_right focused⟩]
    exact layerFocus_of_exclusive rfl exclusive

theorem focusNextToplevel_exclusive (unlocked : s.sessionLocked = false) (kb : s.keyboard.isSome = true)
    (free : s.keyboardGrab = false) (asked : ∃ id, s.layerExclusive id = true) (ex : Option Nat) :
    (s.focusNextToplevel ex).LayerFocus := by
  obtain ⟨id, exclusive⟩ := asked
  cases chosen : s.exclusiveLayer with
  | none =>
    rw [exclusiveLayer_none.mp chosen id] at exclusive
    cases exclusive
  | some =>
    unfold focusNextToplevel
    rw [if_neg (by simp [unlocked]), chosen]
    exact focusLayerSurface_served unlocked kb (exclusiveLayer_exclusive s chosen) (.inl free)

theorem settled_served {changed : State} (same : changed = s.withLayer id f) (good : s.LayerFocus)
    (unlocked : s.sessionLocked = false) (kb : s.keyboard.isSome = true)
    (safe : changed.layerExclusive id = true →
      s.keyboardGrab = false ∨ s.focus = some (.layer id) ∨ ∃ id', s.layerExclusive id' = true)
    (wants : s.focus = some (.layer id) → ∀ layer, changed.layers[id]? = some layer → layer.interactivity ≠ .none)
    (sole : s.focus = some (.layer id) → changed.layerExclusive id = true ∨ s.soleExclusive id = true) :
    (if changed.layerExclusive id then changed.focusLayerSurface id else changed).LayerFocus := by
  subst same
  -- as long as the focus stays where it is
  have kept : (s.withLayer id f).layerExclusive id = false ∨
      s.focus ≠ some (.layer id) ∧ (∃ id', s.layerExclusive id' = true) →
      (s.withLayer id f).LayerFocus := by
    intro either
    by_cases focused : s.focus = some (.layer id)
    · exact layerFocus_focused focused (wants focused) (sole focused)
    · refine good.elsewhere focused fun exclusive => ?_
      rcases either with not | ⟨_, held⟩
      · rw [not] at exclusive
        cases exclusive
      · exact held
  split
  · rename_i exclusive
    by_cases focused : s.focus = some (.layer id)
    · exact focusLayerSurface_served unlocked kb exclusive (.inr focused)
    · rcases safe exclusive with free | there | held
      · exact focusLayerSurface_served unlocked kb exclusive (.inl free)
      · exact absurd there focused
      · exact (focusLayerSurface_yields exclusive).layerFocus (kept (.inr ⟨focused, held⟩))
  · rename_i exclusive
    exact kept (.inl (by simpa using exclusive))

section

variable (attached : s.LayerAttached) (id : Nat)

include attached

theorem settled_attached (f : LayerSurface → LayerSurface) :
    (if (s.withLayer id f).layerExclusive id then (s.withLayer id f).focusLayerSurface id
      else s.withLayer id f).LayerAttached := by
  have changed := attached.withLayer id f
  split
  · rename_i exclusive
    exact (focusLayerSurface_yields exclusive).attached changed
  · exact changed

theorem mapLayer_attached : (s.mapLayer id).LayerAttached := by
  unfold mapLayer
  split
  · exact settled_attached attached id _
  · exact attached

theorem commitLayer_attached (interactivity : Interactivity) : (s.commitLayer id interactivity).LayerAttached := by
  unfold commitLayer
  split
  · exact settled_attached attached id _
  · exact attached

theorem unmapLayer_attached : (s.unmapLayer id).LayerAttached := by
  unfold unmapLayer
  split
  · have unmapped := attached.withLayer id fun layer => { layer with mapped := false }
    split
    · exact (focusNextToplevel_yields _ none).attached unmapped
    · exact unmapped
  · exact attached

end

theorem destroyLayer_focus {id' : Nat} : (s.destroyLayer id).focus = some (.layer id') ↔
    (s.unmapLayer id).focus = some (.layer id') ∧ id' ≠ id := by
  simp only [destroyLayer, orphan, Option.map_eq_some_iff]
  constructor
  · rintro ⟨x, held, same⟩
    split at same
    · cases same
    · rename_i kept
      subst same
      exact ⟨held, by simpa using kept⟩
  · rintro ⟨held, ne⟩
    exact ⟨.layer id', held, by simp [ne]⟩

theorem destroyLayer_attached (attached : s.LayerAttached) (id : Nat) : (s.destroyLayer id).LayerAttached := by
  have bare := (unmapLayer_attached attached id).withLayer id fun layer => { layer with alive := false, mapped := false }
  exact ⟨fun id' focused => bare.listed id' (destroyLayer_focus.mp focused).1,
    fun id' focused => bare.unlocked id' (destroyLayer_focus.mp focused).1⟩

/-- A state whose focus is not on `id` has a holder among the others. -/
theorem not_exclusive_of_unmapped (good : s.LayerFocus) (focused : s.focus = some (.layer id))
    (unmapped : s.layerExclusive id = false) : s.soleExclusive id = true := by
  refine soleExclusive_iff.mpr fun id' _ => ?_
  by_contra exclusive
  obtain ⟨holder, held, exclusive⟩ := good.exclusive ⟨id', by simpa using exclusive⟩
  rw [focused, Option.some_inj, Surface.layer.injEq] at held
  rw [← held, unmapped] at exclusive
  cases exclusive

/-- Mapping an exclusive layer surface under a grab leaves it without the focus
unless an exclusive one has it already. -/
def mapLayerSafe (state : State) (id : Nat) : Bool :=
  !state.keyboardGrab || state.focus == some (.layer id) || state.exclusiveLayer.isSome ||
    !(state.layers[id]?.any (·.interactivity == .exclusive))

theorem exclusiveLayer_some {s : State} (some_ : s.exclusiveLayer.isSome = true) :
    ∃ id', s.layerExclusive id' = true := by
  obtain ⟨id', found⟩ := Option.isSome_iff_exists.mp some_
  exact ⟨id', exclusiveLayer_exclusive s found⟩

theorem mapLayer_served (good : s.LayerFocus) (unlocked : s.sessionLocked = false)
    (kb : s.keyboard.isSome = true) (safe : s.mapLayerSafe id = true) :
    (s.mapLayer id).LayerFocus := by
  unfold mapLayer
  split
  · rename_i accepted
    obtain ⟨layer, found, accepted⟩ : ∃ layer, s.layers[id]? = some layer ∧
        (layer.alive && !layer.mapped) = true := by simpa [Option.any_eq_true] using accepted
    obtain ⟨alive, unmapped⟩ : layer.alive = true ∧ layer.mapped = false := by simpa using accepted
    have after : (s.withLayer id fun layer => { layer with mapped := true }).layers[id]? =
        some { layer with mapped := true } := by simp [found]
    have before : s.layerExclusive id = false := by simp [layerExclusive, found, unmapped]
    refine settled_served rfl good unlocked kb ?_ ?_ ?_
    · intro exclusive
      obtain ⟨_, there, _, _, asks⟩ := layerExclusive_iff.mp exclusive
      rw [after, Option.some_inj] at there
      have asks : layer.interactivity = .exclusive := by rw [← asks, ← there]
      simp only [mapLayerSafe, found, Option.any_some, asks, beq_self_eq_true, Bool.not_true, Bool.or_false,
        Bool.or_eq_true, Bool.not_eq_true', beq_iff_eq] at safe
      rcases safe with (free | focused) | held
      · exact .inl free
      · exact .inr (.inl focused)
      · exact .inr (.inr (exclusiveLayer_some held))
    · intro focused next there
      rw [after, Option.some_inj] at there
      rw [← there]
      exact good.interactive id layer focused found
    · -- a focused layer surface that was not mapped leaves no room for an exclusive one
      intro focused
      exact .inr (not_exclusive_of_unmapped good focused before)
  · exact good

/-- A commit may not silence the focused layer surface, make it give way to another
exclusive one, or make one exclusive under a grab. -/
def commitLayerSafe (state : State) (id : Nat) (interactivity : Interactivity) : Bool :=
  if state.focus = some (.layer id) then
    interactivity != .none && (interactivity == .exclusive || state.soleExclusive id)
  else
    !state.keyboardGrab || state.exclusiveLayer.isSome || interactivity != .exclusive ||
      !(state.layers[id]?.any (·.mapped))

theorem commitLayer_served {interactivity : Interactivity} (good : s.LayerFocus)
    (unlocked : s.sessionLocked = false) (kb : s.keyboard.isSome = true)
    (safe : s.commitLayerSafe id interactivity = true) : (s.commitLayer id interactivity).LayerFocus := by
  unfold commitLayer
  split
  · rename_i accepted
    obtain ⟨layer, found, alive⟩ : ∃ layer, s.layers[id]? = some layer ∧ layer.alive = true := by
      simpa [Option.any_eq_true] using accepted
    have after : (s.withLayer id fun layer => { layer with interactivity := interactivity }).layers[id]? =
        some { layer with interactivity := interactivity } := by simp [found]
    have exclusive_iff : (s.withLayer id fun layer =>
        { layer with interactivity := interactivity }).layerExclusive id = true ↔
        layer.mapped = true ∧ interactivity = .exclusive := by
      simp [layerExclusive, found, alive]
    refine settled_served rfl good unlocked kb ?_ ?_ ?_
    · intro exclusive
      obtain ⟨mapped, rfl⟩ := exclusive_iff.mp exclusive
      by_cases focused : s.focus = some (.layer id)
      · exact .inr (.inl focused)
      · simp only [commitLayerSafe, if_neg focused, found, Option.any_some, mapped, bne_self_eq_false,
          Bool.not_true, Bool.or_false, Bool.or_eq_true, Bool.not_eq_true'] at safe
        rcases safe with free | held
        · exact .inl free
        · exact .inr (.inr (exclusiveLayer_some held))
    · intro focused next there
      simp only [commitLayerSafe, if_pos focused, Bool.and_eq_true, bne_iff_ne] at safe
      rw [after, Option.some_inj] at there
      rw [← there]
      exact safe.1
    · intro focused
      simp only [commitLayerSafe, if_pos focused, Bool.and_eq_true, Bool.or_eq_true, beq_iff_eq] at safe
      rcases safe.2 with asks | sole
      · by_cases mapped : layer.mapped = true
        · exact .inl (exclusive_iff.mpr ⟨mapped, asks⟩)
        · refine .inr (not_exclusive_of_unmapped good focused ?_)
          simp [layerExclusive, found, mapped]
      · exact .inr sole
  · exact good

def unmapLayerSafe (state : State) (id : Nat) : Bool :=
  !state.keyboardGrab || state.focus != some (.layer id) || state.soleExclusive id

theorem unmapLayer_served (good : s.LayerFocus) (unlocked : s.sessionLocked = false)
    (kb : s.keyboard.isSome = true) (safe : s.unmapLayerSafe id = true) :
    (s.unmapLayer id).LayerFocus := by
  unfold unmapLayer
  split
  · rename_i accepted
    obtain ⟨layer, found, _⟩ : ∃ layer, s.layers[id]? = some layer ∧ (layer.alive && layer.mapped) = true := by
      simpa [Option.any_eq_true] using accepted
    have hidden : (s.withLayer id fun layer => { layer with mapped := false }).layerExclusive id = false := by
      simp [layerExclusive, found]
    split
    · rename_i focused
      by_cases sole : s.soleExclusive id = true
      · -- nothing is exclusive any more
        refine (focusNextToplevel_yields _ none).layerFocus (layerFocus_focused focused ?_ (.inr sole))
        intro next there
        rw [show (s.withLayer id fun layer => { layer with mapped := false }).layers[id]? =
          some { layer with mapped := false } by simp [found], Option.some_inj] at there
        rw [← there]
        exact good.interactive id layer focused found
      · have free : s.keyboardGrab = false := by simpa [unmapLayerSafe, focused, sole] using safe
        obtain ⟨id', ne, exclusive⟩ : ∃ id', id' ≠ id ∧ s.layerExclusive id' = true := by
          by_contra none
          refine sole (soleExclusive_iff.mpr fun id' ne => ?_)
          by_contra exclusive
          exact none ⟨id', ne, by simpa using exclusive⟩
        have asked := (withLayer_exclusive s ne fun layer => { layer with mapped := false }).trans exclusive
        apply focusNextToplevel_exclusive
        · exact unlocked
        · exact kb
        · exact free
        · exact ⟨id', asked⟩
    · rename_i elsewhere
      refine good.elsewhere elsewhere fun exclusive => ?_
      rw [hidden] at exclusive
      cases exclusive
  · exact good

theorem unmapLayer_exclusive (s : State) (id : Nat) : (s.unmapLayer id).layerExclusive id = false := by
  unfold unmapLayer
  split
  · have hidden : (s.withLayer id fun layer => { layer with mapped := false }).layerExclusive id = false := by
      simp only [layerExclusive, List.getElem?_modify]
      cases s.layers[id]? <;> simp
    split
    · rw [(focusNextToplevel_yields _ none).layerExclusive]
      exact hidden
    · exact hidden
  · rename_i refused
    by_contra exclusive
    obtain ⟨layer, found, mapped, alive, _⟩ := layerExclusive_iff.mp (by simpa using exclusive)
    simp [found, mapped, alive] at refused

theorem destroyLayer_served (good : s.LayerFocus) (unlocked : s.sessionLocked = false)
    (kb : s.keyboard.isSome = true) (safe : s.unmapLayerSafe id = true) :
    (s.destroyLayer id).LayerFocus := by
  have unmapped := unmapLayer_served good unlocked kb safe
  have hidden := unmapLayer_exclusive s id
  have dead : (s.destroyLayer id).layerExclusive id = false := by
    simp only [layerExclusive, destroyLayer, orphan, List.getElem?_modify]
    cases (s.unmapLayer id).layers[id]? <;> simp
  have others : ∀ id', id' ≠ id → (s.destroyLayer id).layerExclusive id' = (s.unmapLayer id).layerExclusive id' :=
    fun id' ne => withLayer_exclusive (s.unmapLayer id) ne _
  constructor
  · rintro ⟨asking, exclusive⟩
    have ne : asking ≠ id := by
      rintro rfl
      rw [dead] at exclusive
      cases exclusive
    obtain ⟨holder, held, exclusive⟩ := unmapped.exclusive ⟨asking, others asking ne ▸ exclusive⟩
    have apart : holder ≠ id := by
      rintro rfl
      rw [hidden] at exclusive
      cases exclusive
    exact ⟨holder, destroyLayer_focus.mpr ⟨held, apart⟩, (others holder apart).trans exclusive⟩
  · intro holder layer focused found
    obtain ⟨held, apart⟩ := destroyLayer_focus.mp focused
    have there : (s.unmapLayer id).layers[holder]? = some layer := by
      rw [← found]
      exact (withLayer_get (s.unmapLayer id) apart _).symm
    exact unmapped.interactive holder layer held there

theorem destroyLayer_elsewhere (elsewhere : s.focus ≠ some (.layer id)) : (s.destroyLayer id).focus = s.focus := by
  have same : (s.unmapLayer id).focus = s.focus := by
    simp only [unmapLayer, if_neg elsewhere]
    split <;> rfl
  simp only [destroyLayer, orphan, same]
  cases held : s.focus with
  | none => rfl
  | some x =>
    have kept : x ≠ .layer id := by
      rintro rfl
      exact elsewhere held
    simp [kept]

theorem destroyLayer_get (s : State) {id id' : Nat} (ne : id' ≠ id) :
    (s.destroyLayer id).layers[id']? = s.layers[id']? := by
  have bare : (s.unmapLayer id).layers[id']? = s.layers[id']? := by
    unfold unmapLayer
    split
    · have kept := withLayer_get s ne fun layer => { layer with mapped := false }
      split
      · rw [(focusNextToplevel_yields _ none).layers]
        exact kept
      · exact kept
    · rfl
  rw [← bare]
  exact withLayer_get (s.unmapLayer id) ne _

theorem destroyLayer_keyboardGrab (s : State) (id : Nat) : (s.destroyLayer id).keyboardGrab = s.keyboardGrab := by
  show (s.unmapLayer id).keyboardGrab = s.keyboardGrab
  unfold unmapLayer
  split
  · dsimp only
    split
    · exact (focusNextToplevel_refocused _ none).keyboardGrab
    · rfl
  · rfl

def focusedOn (state : State) (output : Nat) : Bool :=
  match state.focus with
  | some (.layer id) => state.layers[id]?.any (·.output == output)
  | _ => false

structure Removes (output : Nat) (state : State) : Prop where
  good : state.LayerFocus
  unlocked : state.sessionLocked = false
  keyboard : state.keyboard.isSome = true
  free : state.keyboardGrab = false ∨ state.focusedOn output = false

theorem Removes.destroyLayer {o : Nat} (removes : Removes o s)
    (there : (s.layers[id]?.any fun layer => layer.alive && layer.output == o) = true) :
    Removes o (s.destroyLayer id) := by
  have spares := (layered_destroyLayer s id).spares
  have safe : s.unmapLayerSafe id = true ∧
      (s.keyboardGrab = false ∨ s.focus ≠ some (.layer id) ∧ s.focusedOn o = false) := by
    rcases removes.free with free | away
    · exact ⟨by simp [unmapLayerSafe, free], .inl free⟩
    · have elsewhere : s.focus ≠ some (.layer id) := by
        intro focused
        simp only [focusedOn, focused] at away
        cases found : s.layers[id]? <;> simp_all
      exact ⟨by simp [unmapLayerSafe, elsewhere], .inr ⟨elsewhere, away⟩⟩
  refine ⟨destroyLayer_served removes.good removes.unlocked removes.keyboard safe.1,
    spares.locked.trans removes.unlocked, spares.keyboard ▸ removes.keyboard, ?_⟩
  rcases safe.2 with free | ⟨elsewhere, away⟩
  · exact .inl ((destroyLayer_keyboardGrab s id).trans free)
  · right
    unfold focusedOn
    rw [destroyLayer_elsewhere elsewhere]
    unfold focusedOn at away
    split
    · rename_i holder focused
      have ne : holder ≠ id := by
        rintro rfl
        exact elsewhere focused
      rw [destroyLayer_get s ne]
      rwa [focused] at away
    · rfl

theorem destroyLayersOf_removes {o : Nat} (removes : Removes o s) : Removes o (s.destroyLayersOf o) :=
  destroyLayersOf_induction (fun before after => Removes o before → Removes o after) (fun _ kept => kept)
    (fun first second held => second (first held)) o (fun _ _ there held => held.destroyLayer there) s removes

theorem destroyLayersOf_attached (attached : s.LayerAttached) (o : Nat) : (s.destroyLayersOf o).LayerAttached :=
  destroyLayersOf_induction (fun before after => before.LayerAttached → after.LayerAttached) (fun _ kept => kept)
    (fun first second held => second (first held)) o (fun _ id _ held => destroyLayer_attached held id) s
    attached

theorem addLayer_exclusive (s : State) (o id : Nat) : (s.addLayer o).layerExclusive id = s.layerExclusive id := by
  simp only [layerExclusive, addLayer]
  by_cases old : id < s.layers.length
  · rw [List.getElem?_append_left old]
  · rw [List.getElem?_append_right (by omega), List.getElem?_eq_none_iff.mpr (Nat.le_of_not_lt old)]
    cases found : [({ alive := true, mapped := false, interactivity := .none, output := o } : LayerSurface)][
      id - s.layers.length]? with
    | none => rfl
    | some =>
      have new := List.mem_of_getElem? found
      rw [List.mem_singleton] at new
      simp [new]

theorem addLayer_served (attached : s.LayerAttached) (served : s.LayersServed) (o : Nat) :
    (s.addLayer o).LayersServed := by
  intro unlocked kb
  have good := served unlocked kb
  constructor
  · simp only [addLayer_exclusive]
    exact good.exclusive
  · intro id layer focused found
    refine good.interactive id layer focused ?_
    rw [← found]
    exact (List.getElem?_append_left (attached.listed id focused)).symm

end

end State
end FlakeWM.Desktop
