import FlakeWM.Desktop.LayerSurfaces

/-! Layer surfaces served over whole runs.

The session lock, keyboards and clicks move the focus too, and not all of them
look for an exclusive layer surface. -/

set_option autoImplicit false

namespace FlakeWM.Desktop
namespace State

open Session.ProtocolManager

section

variable {s : State} {id : Nat}

/-- From a focus on no layer surface, `FocusNextToplevel` serves them. -/
theorem focusNextToplevel_serves (unlocked : s.sessionLocked = false) (kb : s.keyboard.isSome = true)
    (aside : ∀ id, s.focus ≠ some (.layer id))
    (free : s.exclusiveLayer = none ∨ s.keyboardGrab = false) (ex : Option Nat) :
    (s.focusNextToplevel ex).LayerFocus := by
  cases chosen : s.exclusiveLayer with
  | none =>
    refine (focusNextToplevel_yields s ex).layerFocus ⟨?_, fun id _ focused => absurd focused (aside id)⟩
    rintro ⟨id, exclusive⟩
    rw [exclusiveLayer_none.mp chosen id] at exclusive
    cases exclusive
  | some holder =>
    have free : s.keyboardGrab = false := free.resolve_left (by simp [chosen])
    exact focusNextToplevel_exclusive unlocked kb free ⟨holder, exclusiveLayer_exclusive s chosen⟩ ex

def layerFocused (state : State) : Bool :=
  match state.focus with
  | some (.layer id) =>
    state.layers[id]?.all (·.interactivity != .none) && (state.layerExclusive id || state.exclusiveLayer.isNone)
  | _ => state.exclusiveLayer.isNone

theorem layerFocus_of_focused (right : s.layerFocused = true) : s.LayerFocus := by
  have none : s.exclusiveLayer.isNone = true → ¬ ∃ id, s.layerExclusive id = true := by
    rintro none ⟨id, exclusive⟩
    rw [exclusiveLayer_none.mp (Option.isNone_iff_eq_none.mp none) id] at exclusive
    cases exclusive
  unfold layerFocused at right
  split at right
  · rename_i id focused
    obtain ⟨wants, held⟩ := Bool.and_eq_true_iff.mp right
    constructor
    · intro asked
      rcases Bool.or_eq_true_iff.mp held with exclusive | free
      · exact ⟨id, focused, exclusive⟩
      · exact absurd asked (none free)
    · intro holder layer held found
      rw [focused, Option.some_inj, Surface.layer.injEq] at held
      rw [held, found] at wants
      simpa using wants
  · rename_i aside
    exact ⟨fun asked => absurd asked (none right), fun id _ focused => absurd focused (aside id)⟩

theorem attached_of_unfocused (none : s.focus = none) : s.LayerAttached where
  listed := fun _ focused => nomatch none.symm.trans focused
  unlocked := fun _ focused => nomatch none.symm.trans focused

theorem LayerAttached.of_focus {next : State} (attached : s.LayerAttached) (layers : next.layers = s.layers)
    (locked : next.sessionLocked = true → s.sessionLocked = true)
    (focus : ∀ id, next.focus = some (.layer id) → s.focus = some (.layer id)) : next.LayerAttached where
  listed := fun id focused => layers ▸ attached.listed id (focus id focused)
  unlocked := by
    intro id focused
    by_contra still
    have before := attached.unlocked id (focus id focused)
    rw [locked (by simpa using still)] at before
    cases before

theorem LayerFocus.of_same {next : State} (good : s.LayerFocus) (layers : next.layers = s.layers)
    (focus : next.focus = s.focus) : next.LayerFocus := by
  obtain ⟨exclusive, interactive⟩ := good
  have same : next.layerExclusive = s.layerExclusive := by
    funext id
    simp only [layerExclusive, layers]
  exact ⟨by rw [same, focus]; exact exclusive, by rw [focus, layers]; exact interactive⟩

/-- A keyboard may arrive where the focus already serves the layer surfaces, or
where `FocusNextToplevel` can move it. -/
def addKeyboardSafe (state : State) : Bool :=
  state.sessionLocked || state.keyboard.isSome ||
    if state.focus.isSome then state.layerFocused else state.exclusiveLayer.isNone || !state.keyboardGrab

theorem addKeyboard_layers (attached : s.LayerAttached) (served : s.LayersServed)
    (safe : s.addKeyboardSafe = true) : s.addKeyboard.LayerAttached ∧ s.addKeyboard.LayersServed := by
  let added : State := { s with keyboards := s.keyboards ++ [true], keyboard := some s.keyboards.length }
  have addedAttached : added.LayerAttached := attached.of_focus rfl (fun locked => locked) (fun _ focused => focused)
  cases held : s.focus with
  | some =>
    have told : s.addKeyboard = added := by
      simp only [addKeyboard, notifyEnter, added, held]
      split <;> rfl
    rw [told]
    refine ⟨addedAttached, fun unlocked _ => ?_⟩
    by_cases kb : s.keyboard.isSome = true
    · exact (served unlocked kb).of_same rfl rfl
    · have right : s.layerFocused = true := by
        have unlocked : s.sessionLocked = false := unlocked
        simpa [addKeyboardSafe, unlocked, kb, held] using safe
      exact (layerFocus_of_focused right).of_same rfl rfl
  | none =>
    have told : s.addKeyboard = added.focusNextToplevel none := by
      simp only [addKeyboard, added, held]
    have yields := focusNextToplevel_yields added none
    rw [told]
    refine ⟨yields.attached addedAttached, fun unlocked _ => ?_⟩
    have unlocked : s.sessionLocked = false := yields.locked ▸ unlocked
    by_cases kb : s.keyboard.isSome = true
    · exact yields.layerFocus ((served unlocked kb).of_same rfl rfl)
    · have free : s.exclusiveLayer = none ∨ s.keyboardGrab = false := by
        simpa [addKeyboardSafe, unlocked, kb, held] using safe
      have aside : ∀ id, added.focus ≠ some (.layer id) := by
        intro id focused
        cases held.symm.trans focused
      exact focusNextToplevel_serves (show added.sessionLocked = false from unlocked) rfl aside free none

/-- The unlocked session's focus goes to an exclusive layer surface unless a
client has grabbed the keyboard. -/
def unlockSafe (state : State) : Bool :=
  !state.sessionLocked || state.keyboard.isNone || state.exclusiveLayer.isNone || !state.keyboardGrab

section

variable (attached : s.LayerAttached) (served : s.LayersServed)

include attached served

theorem unlock_layers (l : Nat) (safe : s.unlockSafe = true) :
    (s.unlock l).LayerAttached ∧ (s.unlock l).LayersServed := by
  have openedAttached : LayerAttached { s with session := s.session.onUnlock l } := by
    refine attached.of_focus rfl (fun locked => ?_) (fun _ focused => focused)
    rcases s.session.onUnlock_cases l with same | ⟨_, _, _, opened⟩
    · rwa [sessionLocked, same] at locked
    · rw [sessionLocked, opened] at locked
      cases locked
  unfold unlock
  dsimp only
  split
  · rename_i opened
    obtain ⟨locked, unlocked⟩ := Bool.and_eq_true_iff.mp opened
    -- under the lock no layer surface has the focus
    have aside : ∀ id, s.focus ≠ some (.layer id) := by
      intro id focused
      rw [attached.unlocked id focused] at locked
      cases locked
    have yields := focusNextToplevel_yields { s with session := s.session.onUnlock l } none
    refine ⟨yields.attached openedAttached, fun _ kb => ?_⟩
    rw [yields.keyboard] at kb
    have kb : s.keyboard.isSome = true := kb
    have free : s.exclusiveLayer = none ∨ s.keyboardGrab = false := by
      simp only [unlockSafe, locked, Bool.not_true, Bool.false_or, Bool.or_eq_true, Bool.not_eq_true',
        Option.isNone_iff_eq_none] at safe
      rcases safe with (absent | none) | free
      · simp [absent] at kb
      · exact .inl none
      · exact .inr free
    have unlocked : { s with session := s.session.onUnlock l }.sessionLocked = false := by simpa using unlocked
    exact focusNextToplevel_serves unlocked kb aside free none
  · rename_i same
    refine ⟨openedAttached, fun unlocked kb => ?_⟩
    have before : s.sessionLocked = false := by
      by_contra locked
      apply same
      simp only [Bool.and_eq_true, Bool.not_eq_true'] at locked ⊢
      exact ⟨by simpa using locked, unlocked⟩
    exact (served before kb).of_same rfl rfl

theorem beginSessionLock_layers (sound : s.session.Sound) (bc : Bool) :
    (s.beginSessionLock bc).LayerAttached ∧ (s.beginSessionLock bc).LayersServed := by
  unfold beginSessionLock
  cases held : s.session.sessionLock with
  | some =>
    dsimp only [Option.isSome_some]
    rw [sound.beginSessionLock_held held]
    exact ⟨attached.of_focus rfl (fun locked => locked) (fun _ focused => focused), fun unlocked kb =>
      (served unlocked kb).of_same rfl rfl⟩
  | none =>
    dsimp only [Option.isSome_none]
    rw [if_neg (by simp)]
    split
    · rename_i locked
      refine ⟨attached_of_unfocused rfl, fun unlocked => ?_⟩
      cases locked.symm.trans unlocked
    · rename_i refused
      -- without a blank the session stays unlocked, the grab has ended
      have yields := focusNextToplevel_yields { s with
        session := s.session.beginSessionLock bc, keyboardGrab := false, focus := none } none
      refine ⟨yields.attached (attached_of_unfocused rfl), fun _ kb => ?_⟩
      rw [yields.keyboard] at kb
      exact focusNextToplevel_serves (by simpa [sessionLocked] using refused) kb (fun _ focused => nomatch focused)
        (.inr rfl) none

theorem destroyLock_layers (l : Nat) : (s.destroyLock l).LayerAttached ∧ (s.destroyLock l).LayersServed := by
  have gone : ∀ id, lockSurfaceGone s.session (s.session.onDestroy l) (.layer id) = false := fun _ => rfl
  have ends : (s.session.onDestroy l).sessionLocked = s.session.sessionLocked →
      Yields s (orphan { s with session := s.session.onDestroy l }
        (lockSurfaceGone s.session (s.session.onDestroy l))) := by
    intro locked
    have ss : Yields s { s with session := s.session.onDestroy l } :=
      Yields.idle rfl locked rfl fun _ => Iff.rfl
    exact ss.trans (orphan_yields gone)
  unfold destroyLock
  cases held : s.session.sessionLock with
  | none =>
    have yields := ends (by simp [onDestroy, held])
    exact ⟨yields.attached attached, yields.served served⟩
  | some live =>
    dsimp only
    split
    · rename_i dies
      refine ⟨attached_of_unfocused rfl, fun unlocked => ?_⟩
      have locked : (s.session.onDestroy l).sessionLocked = true := by
        simp [onDestroy, held, dies.1, dies.2, finishSessionLock]
      cases locked.symm.trans unlocked
    · rename_i lives
      have yields := ends (by
        by_cases heard : live.listening = some l
        · have unlocked : live.unlocked = true := by
            by_contra still
            exact lives ⟨heard, by simpa using still⟩
          simp [onDestroy, held, heard, unlocked, finishSessionLock]
        · simp [onDestroy, held, heard])
      exact ⟨yields.attached attached, yields.served served⟩

end

/-- With the session unlocked and a keyboard present, the event leaves the focus
where the layer surfaces ask for it. -/
def heldLayerSafe (state : State) : Event → Bool
  | .mapLayer id => state.mapLayerSafe id
  | .commitLayer id interactivity => state.commitLayerSafe id interactivity
  | .unmapLayer id | .destroyLayer id => state.unmapLayerSafe id
  | .outputDestroy output => !state.keyboardGrab || !state.focusedOn output
  -- a click on a layer surface does not look for an exclusive one
  | .focusLayerSurface id => state.exclusiveLayer.isNone || state.layerExclusive id || state.keyboardGrab
  | _ => true

def layerSafe (state : State) : Event → Bool
  | .addKeyboard => state.addKeyboardSafe
  | .useKeyboard id =>
    state.sessionLocked || state.keyboard.isSome || state.keyboards[id]? != some true || state.layerFocused
  | .unlock _ => state.unlockSafe
  | event => state.sessionLocked || state.keyboard.isNone || state.heldLayerSafe event

theorem served_of_held {next : State} (served : s.LayersServed) {safe : Bool}
    (either : (s.sessionLocked || s.keyboard.isNone || safe) = true)
    (locked : next.sessionLocked = s.sessionLocked) (kb : next.keyboard = s.keyboard)
    (step : s.LayerFocus → s.sessionLocked = false → s.keyboard.isSome = true → safe = true →
      next.LayerFocus) : next.LayersServed := by
  intro unlocked present
  rw [locked] at unlocked
  rw [kb] at present
  refine step (served unlocked present) unlocked present ?_
  have absent : s.keyboard.isNone = false := by
    cases found : s.keyboard with
    | none => simp [found] at present
    | some => rfl
  simpa [unlocked, absent] using either

theorem click_served (good : s.LayerFocus) (safe : s.heldLayerSafe (.focusLayerSurface id) = true) :
    (s.focusLayerSurface id).LayerFocus := by
  simp only [heldLayerSafe, Bool.or_eq_true] at safe
  by_cases exclusive : s.layerExclusive id = true
  · exact (focusLayerSurface_yields exclusive).layerFocus good
  · unfold focusLayerSurface
    split
    · exact good
    · rename_i accepted
      split
      · exact good
      · rw [enter_eq]
        split
        · rename_i able
          have free : s.exclusiveLayer.isNone = true := by
            rcases safe with (free | exclusive') | grabbed
            · exact free
            · exact absurd exclusive' exclusive
            · rw [able.2] at grabbed
              cases grabbed
          constructor
          · rintro ⟨id', asks⟩
            have none := exclusiveLayer_none.mp (Option.isNone_iff_eq_none.mp free) id'
            cases none.symm.trans asks
          · intro holder layer focused found
            simp only [Option.some_inj, Surface.layer.injEq] at focused
            rw [← focused] at found
            have found : s.layers[id]? = some layer := found
            intro silent
            simp [found, silent] at accepted
        · exact good

theorem focusLayerSurface_attached (attached : s.LayerAttached) (id : Nat) :
    (s.focusLayerSurface id).LayerAttached := by
  unfold focusLayerSurface
  split
  · exact attached
  · rename_i accepted
    split
    · exact attached
    · rw [enter_eq]
      split
      · have there : id < s.layers.length := by
          by_contra missing
          rw [List.getElem?_eq_none_iff.mpr (Nat.le_of_not_lt missing)] at accepted
          simp at accepted
        refine ⟨?_, fun _ _ => ?_⟩
        · intro id' focused
          cases focused
          exact there
        · have unlocked : s.sessionLocked = false := by
            simp only [Bool.or_eq_true, not_or] at accepted
            simpa using accepted.1
          exact unlocked
      · exact attached

theorem step_layers (attached : s.LayerAttached) (served : s.LayersServed) (sound : s.session.Sound)
    {e : Event} (safe : s.layerSafe e = true) :
    (step s e).LayerAttached ∧ (step s e).LayersServed := by
  have idle : ∀ {next : State}, Yields s next → next.LayerAttached ∧ next.LayersServed :=
    fun yields => ⟨yields.attached attached, yields.served served⟩
  have held {safe : Bool} (layers : e.aboutLayers = true) (either : (s.sessionLocked || s.keyboard.isNone || safe) = true) :=
    let spares := (step_layered s layers).spares
    served_of_held served either spares.locked spares.keyboard
  cases e with
  | newLayer o =>
    refine ⟨⟨?_, attached.unlocked⟩, addLayer_served attached served o⟩
    intro id focused
    have listed := attached.listed id focused
    simp only [step, addLayer, List.length_append]
    omega
  | mapLayer id => exact ⟨mapLayer_attached attached id, held rfl safe mapLayer_served⟩
  | commitLayer id interactivity => exact ⟨commitLayer_attached attached id interactivity, held rfl safe commitLayer_served⟩
  | unmapLayer id => exact ⟨unmapLayer_attached attached id, held rfl safe unmapLayer_served⟩
  | destroyLayer id => exact ⟨destroyLayer_attached attached id, held rfl safe destroyLayer_served⟩
  | focusLayerSurface id =>
    exact ⟨focusLayerSurface_attached attached id, held rfl safe fun good _ _ => click_served good⟩
  | addKeyboard => exact addKeyboard_layers attached served safe
  | useKeyboard id =>
    unfold step useKeyboard
    dsimp only
    split
    · rename_i live
      refine ⟨attached.of_focus rfl (fun locked => locked) (fun _ focused => focused), fun unlocked _ => ?_⟩
      by_cases kb : s.keyboard.isSome = true
      · exact (served unlocked kb).of_same rfl rfl
      · have unlocked : s.sessionLocked = false := unlocked
        have right : s.layerFocused = true := by simpa [layerSafe, unlocked, kb, live] using safe
        exact (layerFocus_of_focused right).of_same rfl rfl
    · exact ⟨attached, served⟩
  | removeKeyboard =>
    -- the seat may be left without a keyboard, but not be given one
    refine ⟨attached.of_focus rfl (fun locked => locked) (fun _ focused => focused), fun unlocked kb => ?_⟩
    have present : s.keyboard.isSome = true := by
      simp only [step, removeKeyboard] at kb
      split at kb
      · cases kb
      · exact kb
    exact (served unlocked present).of_same rfl rfl
  | lockRequest bc => exact beginSessionLock_layers attached served sound bc
  | unlock l => exact unlock_layers attached served l safe
  | destroyLock l => exact destroyLock_layers attached served l
  | newLockSurface l o tc =>
    have locked : (s.session.onNewSurface l o tc).sessionLocked = s.session.sessionLocked := by
      unfold onNewSurface
      split
      · rfl
      · split <;> rfl
    exact idle (Yields.idle rfl locked rfl fun _ => Iff.rfl)
  | mapLockSurface id =>
    unfold step mapLockSurface
    dsimp only
    split
    · rename_i mapped
      rw [enter_eq]
      split
      · -- a locked session asks nothing
        refine ⟨⟨?_, ?_⟩, fun unlocked => ?_⟩
        · intro _ focused
          cases focused
        · intro _ focused
          cases focused
        · simp only [Bool.and_eq_true] at mapped
          cases mapped.1.symm.trans unlocked
      · exact idle (Yields.idle rfl rfl rfl fun _ => Iff.rfl)
    · exact idle (Yields.idle rfl rfl rfl fun _ => Iff.rfl)
  | destroyLockSurface id =>
    have ss : Yields s { s with session := s.session.onSurfaceDestroy id } :=
      Yields.idle rfl rfl rfl fun _ => Iff.rfl
    exact idle (ss.trans (orphan_yields fun _ => rfl))
  | beginGrab | endGrab | newOutput | outputCommit => exact idle (Yields.idle rfl rfl rfl fun _ => Iff.rfl)
  | outputPresent o seq presented =>
    exact idle (Yields.idle rfl (presentOutput_spares o seq presented).locked rfl fun _ => Iff.rfl)
  | outputDestroy o =>
    have bare := destroyLayersOf_spares s o
    have loses := destroyOutput_loses s o
    have rest : Yields (s.destroyLayersOf o) (s.destroyOutput o) := by
      have ss : Yields (s.destroyLayersOf o) { s.destroyLayersOf o with
          session := (s.destroyLayersOf o).session.destroyOutput o } :=
        Yields.idle rfl loses.locked rfl fun _ => Iff.rfl
      exact ss.trans (orphan_yields fun _ => rfl)
    refine ⟨rest.attached (destroyLayersOf_attached attached o), rest.served ?_⟩
    refine served_of_held served safe bare.locked bare.keyboard fun good unlocked kb safe => ?_
    have free : s.keyboardGrab = false ∨ s.focusedOn o = false := by
      simpa [heldLayerSafe] using safe
    exact (destroyLayersOf_removes ⟨good, unlocked, kb, free⟩).good
  | surfaceGone =>
    unfold step
    dsimp only
    split
    · rename_i id'
      refine idle (Yields.idle rfl rfl rfl fun id => ?_)
      apply iff_of_false
      · intro focused
        cases focused
      · intro focused
        cases id'.symm.trans focused
    · exact ⟨attached, served⟩
  | _ => exact idle (step_moves s rfl).yields

end

end State

/-- In a run whose every event is safe, an unlocked session with a keyboard has its
focus on an exclusive layer surface whenever one is mapped, and never on a layer
surface that asks for no keyboard. -/
theorem layers_served (events : List Event)
    (safe : Transition.Along step (fun state event => state.layerSafe event = true) State.initial events) :
    Transition.Throughout step State.LayersServed State.initial events := by
  have held : Transition.Throughout step (fun state => state.LayerAttached ∧ state.LayersServed ∧ state.session.Sound)
      State.initial events := by
    refine Transition.along_invariant ?_ ?_ safe
    · intro state event ⟨attached, served, sound⟩ safe
      have next := State.step_layers attached served sound safe
      exact ⟨next.1, next.2, State.step_sessionSound state event sound⟩
    · exact ⟨State.attached_of_unfocused rfl, fun _ keyboard => (nomatch keyboard), Session.ProtocolManager.Sound.initial⟩
  exact held.mono fun _ kept => kept.2.1

/-- A panel takes and gives up the keyboard, an overlay takes it over, windows and
workspaces come and go. -/
theorem layers_served_session : Transition.Throughout step State.LayersServed State.initial
    [.addKeyboard, .newToplevel false, .map 0 false, .newLayer 0, .commitLayer 0 .onDemand, .mapLayer 0,
      .focusLayerSurface 0, .newLayer 0, .mapLayer 1, .commitLayer 1 .exclusive, .focusToplevel 0, .switchWorkspace 1,
      .newToplevel false, .map 1 false, .commitLayer 0 .exclusive, .unmapLayer 0, .destroyLayer 1] :=
  layers_served _ (by decide)

/-- A layer surface that has the focus asks for no keyboard any more and keeps it. -/
theorem silenced_layer_keeps_focus :
    ¬ (Transition.run step State.initial
      [.addKeyboard, .newLayer 0, .commitLayer 0 .exclusive, .mapLayer 0, .commitLayer 0 .none]).LayersServed := by
  intro served
  exact (served rfl rfl).interactive 0 _ rfl rfl rfl

end FlakeWM.Desktop
