import FlakeWM.Desktop.ForeignToplevels

/-! The keyboard-shortcut inhibitors that are active.

The functions that move the focus switch the inhibitors for the surface they want to
have it. That is the surface with the focus only if the seat has a keyboard that no
client has grabbed. -/

set_option autoImplicit false

namespace FlakeWM.Desktop
namespace World

open State

def Switched (world : World) : Prop :=
  ∀ inhibitor ∈ world.mirror.inhibitors,
    inhibitor.active = (inhibitor.surface.isSome && decide (inhibitor.surface = world.desktop.focus))

def steady (world : World) : Bool :=
  world.mirror.inhibitors.isEmpty || world.desktop.keyboard.isSome && !world.desktop.keyboardGrab

def quiet (world : World) : Bool := world.mirror.inhibitors.all (!·.active)

/-- The inhibitors follow the focus where the seat can give it away. Fullscreen is asked
for or granted only for the window `except`. -/
structure Steered (except : Option Nat) (world after : World) : Prop where
  keyboard : after.desktop.keyboard = world.desktop.keyboard
  keyboardGrab : after.desktop.keyboardGrab = world.desktop.keyboardGrab
  requests : ∀ id, except ≠ some id → after.mirror.requested id = world.mirror.requested id ∧
    after.mirror.configured id = world.mirror.configured id
  free : world.mirror.inhibitors = [] → after.mirror.inhibitors = []
  switched : world.steady = true → world.Switched → after.Switched

def inhibitorSafe (world : World) : Event → Bool
  | .associate .. | .dissociate _ | .map .. | .unmap _ | .destroy _ | .minimize _ | .xRequestRestore _ |
    .switcherActivate _ | .multitaskingActivate _ | .previewsActivate _ | .tile .. | .moveToWorkspace .. |
    .focusToplevel _ | .focusNextToplevel | .mapLayer _ | .unmapLayer _ | .commitLayer .. | .destroyLayer _ |
    .focusLayerSurface _ | .unlock _ | .outputDestroy _ => world.steady
  | .addKeyboard =>
    world.desktop.focus.isSome || world.mirror.inhibitors.isEmpty || !world.desktop.keyboardGrab
  -- the lock takes the focus and switches nothing
  | .lockRequest blankCreated =>
    world.desktop.session.sessionLock.isSome ||
      world.quiet && ((world.desktop.session.beginSessionLock blankCreated).sessionLocked ||
        (world.mirror.inhibitors.isEmpty || world.desktop.keyboard.isSome))
  | .destroyLock lock => world.quiet || decide ((world.desktop.destroyLock lock).focus = world.desktop.focus)
  | .mapLockSurface id =>
    world.quiet && world.mirror.inhibitors.all (fun inhibitor => inhibitor.surface != some (.lock id)) ||
      decide ((world.desktop.mapLockSurface id).focus = world.desktop.focus)
  | _ => true

section

variable {except : Option Nat} {w middle after : World}

theorem switched_of_free (free : w.mirror.inhibitors = []) : w.Switched := by
  intro inh mem
  rw [free] at mem
  cases mem

theorem switched_updateKeyboardFocus {x : Option Surface} (focused : w.desktop.focus = x) :
    (w.updateKeyboardFocus x).Switched := by
  intro inh mem
  obtain ⟨original, _, rfl⟩ := List.mem_map.mp mem
  show (x.isSome && decide (original.surface = x)) =
    (original.surface.isSome && decide (original.surface = w.desktop.focus))
  rw [focused]
  by_cases own : original.surface = x
  · rw [own]
  · simp only [own, decide_false, Bool.and_false]

theorem updateKeyboardFocus_free (free : w.mirror.inhibitors = []) (x : Option Surface) :
    (w.updateKeyboardFocus x).mirror.inhibitors = [] := by
  show w.mirror.inhibitors.map _ = []
  rw [free]
  rfl

theorem Switched.of_same (switched : w.Switched) (inhibitors : after.mirror.inhibitors = w.mirror.inhibitors)
    (focus : after.desktop.focus = w.desktop.focus) : after.Switched := by
  intro inh mem
  rw [focus]
  exact switched inh (inhibitors ▸ mem)

theorem Steered.refl (w : World) : Steered except w w :=
  ⟨rfl, rfl, fun _ _ => ⟨rfl, rfl⟩, fun free => free, fun _ switched => switched⟩

theorem Steered.steady (steered : Steered except w after) (steady : w.steady = true) : after.steady = true := by
  unfold World.steady at steady ⊢
  rw [Bool.or_eq_true] at steady ⊢
  rw [steered.keyboard, steered.keyboardGrab]
  apply steady.imp_left
  rw [List.isEmpty_iff, List.isEmpty_iff]
  exact steered.free

theorem Steered.trans (first : Steered except w middle) (second : Steered except middle after) : Steered except w after where
  keyboard := second.keyboard.trans first.keyboard
  keyboardGrab := second.keyboardGrab.trans first.keyboardGrab
  requests := by
    intro id apart
    rw [(second.requests id apart).1, (second.requests id apart).2]
    exact first.requests id apart
  free := fun free => second.free (first.free free)
  switched := fun steady switched => second.switched (first.steady steady) (first.switched steady switched)

theorem Steered.idle (frame : after.mirror = { w.mirror with handles := after.mirror.handles })
    (kb : after.desktop.keyboard = w.desktop.keyboard)
    (keyboardGrab : after.desktop.keyboardGrab = w.desktop.keyboardGrab)
    (focus : after.desktop.focus = w.desktop.focus) : Steered except w after where
  keyboard := kb
  keyboardGrab := keyboardGrab
  requests := fun _ _ => by
    rw [frame]
    exact ⟨rfl, rfl⟩
  free := fun free => by
    rw [frame]
    exact free
  switched := fun _ switched => switched.of_same (by rw [frame]) focus

theorem steered_change (except : Option Nat) (w : World) (f : State → State)
    (kb : (f w.desktop).keyboard = w.desktop.keyboard)
    (keyboardGrab : (f w.desktop).keyboardGrab = w.desktop.keyboardGrab)
    (focus : (f w.desktop).focus = w.desktop.focus) : Steered except w (w.change f) :=
  Steered.idle rfl kb keyboardGrab focus

theorem Steered.change (steered : Steered except w middle) (f : State → State)
    (kb : (f middle.desktop).keyboard = middle.desktop.keyboard)
    (keyboardGrab : (f middle.desktop).keyboardGrab = middle.desktop.keyboardGrab)
    (focus : (f middle.desktop).focus = middle.desktop.focus) : Steered except w (middle.change f) :=
  steered.trans (steered_change except middle f kb keyboardGrab focus)

theorem updateToplevel_inhibitors (w : World) (x : Option Surface) :
    (w.updateToplevel x).mirror.inhibitors = w.mirror.inhibitors := by
  unfold updateToplevel
  rw [Mirror.updateToplevel_frame]

theorem updateEach_frame (w : World) (ids : List Nat) :
    (w.updateEach ids).mirror = { w.mirror with handles := (w.updateEach ids).mirror.handles } := by
  induction ids generalizing w with
  | nil => rfl
  | cons id rest ih =>
    rw [updateEach_cons, ih]
    split
    · unfold updateToplevel
      rw [Mirror.updateToplevel_frame]
    · rfl

theorem updateToplevels_inhibitors (w : World) : w.updateToplevels.mirror.inhibitors = w.mirror.inhibitors := by
  unfold updateToplevels
  rw [updateEach_frame]

theorem Steered.updateToplevel (steered : Steered except w middle) (x : Option Surface) :
    Steered except w (middle.updateToplevel x) :=
  steered.trans (Steered.idle (Mirror.updateToplevel_frame _ _ _) rfl rfl rfl)

theorem Switched.follow (switched : w.Switched) (steered : Steered none w after) (steady : w.steady = true) :
    after.Switched :=
  steered.switched steady switched

theorem steered_enter (w : World) (x : Surface) (stack : List Nat) :
    Steered except w ((w.change fun s => { s with stack := stack }.enter x).updateKeyboardFocus (some x)) where
  keyboard := (enter_refocused _ x).keyboard
  keyboardGrab := (enter_refocused _ x).keyboardGrab
  requests := fun _ _ => ⟨rfl, rfl⟩
  free := fun free => updateKeyboardFocus_free free (some x)
  switched := by
    intro steady _
    simp only [World.steady, Bool.or_eq_true, Bool.and_eq_true, Bool.not_eq_true', List.isEmpty_iff] at steady
    -- A seat that can give the focus away has given it to the surface.
    rcases steady with free | able
    · exact switched_of_free (updateKeyboardFocus_free free (some x))
    · apply switched_updateKeyboardFocus
      rw [change_desktop, enter_eq, if_pos able]

theorem steered_focusLayerSurface (w : World) (id : Nat) : Steered except w (w.focusLayerSurface id) := by
  unfold focusLayerSurface
  split
  · exact .refl w
  · split
    · exact .refl w
    · exact (steered_enter w (.layer id) w.desktop.stack).updateToplevel _

theorem steered_focusToplevel (w : World) (id : Nat) : Steered except w (w.focusToplevel id) := by
  unfold focusToplevel
  split
  · exact .refl w
  · cases w.desktop.exclusiveLayer with
    | some layer => exact steered_focusLayerSurface w layer
    | none =>
      dsimp only
      split
      · rename_i focused
        apply Steered.updateToplevel
        exact ⟨rfl, rfl, fun _ _ => ⟨rfl, rfl⟩, fun free => updateKeyboardFocus_free free _,
          fun _ _ => switched_updateKeyboardFocus focused⟩
      · exact ((steered_enter w (.toplevel id) (w.desktop.restack id)).updateToplevel _).updateToplevel _

theorem steered_focusNextToplevel (w : World) (ex : Option Nat) : Steered except w (w.focusNextToplevel ex) := by
  unfold focusNextToplevel
  split
  · exact .refl w
  · cases w.desktop.exclusiveLayer with
    | some layer => exact steered_focusLayerSurface w layer
    | none =>
      cases w.desktop.nextCandidate ex with
      | some candidate => exact steered_focusToplevel w candidate
      | none =>
        exact ⟨rfl, rfl, fun _ _ => ⟨rfl, rfl⟩, fun free => updateKeyboardFocus_free free none,
          fun _ _ => switched_updateKeyboardFocus rfl⟩

theorem Steered.focusToplevel (steered : Steered except w middle) (id : Nat) : Steered except w (middle.focusToplevel id) :=
  steered.trans (steered_focusToplevel middle id)

theorem Steered.focusNextToplevel (steered : Steered except w middle) (ex : Option Nat) :
    Steered except w (middle.focusNextToplevel ex) :=
  steered.trans (steered_focusNextToplevel middle ex)

theorem orphan_active {inh : Inhibitor} {s : State} {gone : Surface → Bool}
    (switched : inh.active = (inh.surface.isSome && decide (inh.surface = s.focus))) :
    (inh.orphan s.focus gone).active = ((inh.orphan s.focus gone).surface.isSome &&
      decide ((inh.orphan s.focus gone).surface = (s.orphan gone).focus)) := by
  unfold Inhibitor.orphan
  rw [switched]
  cases named : inh.surface with
  | none => rfl
  | some x =>
    simp only [Option.bind_some, Surface.orphan, State.orphan, Option.isSome_some, Bool.true_and]
    split
    · rename_i lost
      by_cases focused : s.focus = some x
      · -- the surface with the focus keeps a name, which the focus has too
        have orphaned : (if gone x = true then Surface.other else x) = .other := by
          rcases lost with rfl | lost
          · exact ite_self _
          · exact if_pos lost
        simp [focused, orphaned]
      · have orphaned : ¬ some x = s.focus := fun same => focused same.symm
        simp only [if_neg focused, orphaned, decide_false, Option.isSome_none, Bool.false_and]
    · rename_i kept
      rw [not_or] at kept
      cases focused : s.focus with
      | none => rfl
      | some holder =>
        by_cases own : holder = x
        · simp [own, kept.2]
        · have ne : (if gone holder = true then Surface.other else holder) ≠ x := by
            split
            · exact fun same => kept.1 same.symm
            · exact own
          simp [Ne.symm own, Ne.symm ne]

theorem steered_orphan (w : World) (gone : Surface → Bool) : Steered except w (w.orphan gone) where
  keyboard := rfl
  keyboardGrab := rfl
  requests := fun _ _ => ⟨rfl, rfl⟩
  free := by
    intro free
    show w.mirror.inhibitors.map _ = []
    rw [free]
    rfl
  switched := by
    intro _ switched inh mem
    obtain ⟨original, listed, rfl⟩ := List.mem_map.mp mem
    exact orphan_active (switched original listed)

theorem Steered.orphan (steered : Steered except w middle) (gone : Surface → Bool) : Steered except w (middle.orphan gone) :=
  steered.trans (steered_orphan middle gone)

theorem steered_setMaximized (w : World) (id : Nat) (mx : Bool) : Steered except w (w.setMaximized id mx) := by
  have changed := steered_change except w (·.withWindows (·.setMaximized id mx)) rfl rfl rfl
  unfold setMaximized
  split
  · exact changed.updateToplevel _
  · exact changed

theorem Switched.setMaximized (switched : w.Switched) (id : Nat) (mx : Bool) : (w.setMaximized id mx).Switched := by
  unfold World.setMaximized
  split
  · exact switched.of_same (updateToplevel_inhibitors _ _) rfl
  · exact switched.of_same rfl rfl

section

variable (w : World) (id : Nat)

theorem steered_minimize : Steered except w (w.minimize id) := by
  have hidden := steered_change except w (·.withWindows (·.minimize id)) rfl rfl rfl
  unfold minimize
  split
  · apply Steered.updateToplevel
    split
    · exact hidden.focusNextToplevel (some id)
    · exact hidden
  · exact .refl w

theorem steered_announce : Steered except w (w.announce id) := by
  apply Steered.idle
  · unfold announce Mirror.mapToplevel
    dsimp only
    split
    · rfl
    · exact Mirror.updateToplevel_frame _ _ _
  · rfl
  · rfl
  · rfl

theorem steered_honorFullscreen : Steered (some id) w (w.honorFullscreen id) := by
  unfold honorFullscreen
  split
  · refine ⟨rfl, rfl, ?_, fun free => free, fun _ switched => switched.of_same rfl rfl⟩
    intro id' ne
    have away : id' ≠ id := fun own => ne (congrArg some own.symm)
    simp only [Mirror.setFullscreenState, Function.update_of_ne away, and_true]
    split
    · exact Function.update_of_ne away _ _
    · rfl
  · exact .refl w

theorem steered_map (big : Bool) : Steered (some id) w (w.map id big) := by
  unfold map
  split
  · have mx : Steered (some id) w ((w.announce id).honorMaximized id big) := by
      apply (steered_announce w id).trans
      unfold honorMaximized
      split
      · exact steered_setMaximized _ id true
      · exact .refl _
    have placed := mx.trans (steered_honorFullscreen _ id)
    dsimp only
    split
    · exact placed.focusToplevel id
    · exact placed
  · exact .refl w

theorem steered_withdraw : Steered (some id) w (w.withdraw id) := by
  unfold withdraw Mirror.forgetRequests
  split
  · exact .idle rfl rfl rfl rfl
  · refine ⟨rfl, rfl, ?_, fun free => free, fun _ switched => switched.of_same rfl rfl⟩
    intro id' ne
    exact ⟨Function.update_of_ne (fun own => ne (congrArg some own.symm)) _ _, rfl⟩

theorem steered_unmap : Steered (some id) w (w.unmap id) := by
  have withdrawn := steered_withdraw w id
  unfold unmap
  split
  · split
    · exact withdrawn.focusNextToplevel (some id)
    · exact withdrawn
  · exact .refl w

theorem steered_associate (tc sm big : Bool) : Steered (some id) w (w.associate id tc sm big) := by
  unfold associate
  split
  · have associated := steered_change (some id) w (fun s => { s with
      windows := s.windows.associate id tc sm
      stack := if tc then s.stack ++ [id] else s.stack }) rfl rfl rfl
    dsimp only
    split
    · exact associated.trans (steered_map _ id big)
    · exact associated
  · exact .refl w

theorem steered_dissociate : Steered (some id) w (w.dissociate id) := by
  unfold dissociate
  split
  · exact ((steered_unmap w id).change _ rfl rfl rfl).orphan _
  · exact .refl w

theorem steered_destroyToplevel : Steered (some id) w (w.destroyToplevel id) :=
  ((steered_unmap w id).change _ rfl rfl rfl).orphan _

theorem steered_tileToplevel (u captured : Bool) : Steered except w (w.tileToplevel id u captured) := by
  unfold tileToplevel
  split
  · exact (((Steered.refl w).change _ rfl rfl rfl).focusToplevel id).updateToplevel _
  · exact .refl w

theorem steered_xRequestRestore : Steered except w (w.xRequestRestore id) := by
  have restored := steered_change except w (·.withWindows (·.xRequestRestore id)) rfl rfl rfl
  unfold xRequestRestore
  split
  · exact restored.focusToplevel id
  · exact restored

end

theorem Switched.switchWorkspace (switched : w.Switched) (n : Int) : (w.switchWorkspace n).Switched := by
  unfold World.switchWorkspace
  split
  · dsimp only
    refine .of_same ?_ (updateToplevels_inhibitors _) (by rw [updateToplevels_desktop])
    exact switched_updateKeyboardFocus rfl
  · exact switched

theorem steered_switchWorkspace (w : World) (n : Int) : Steered except w (w.switchWorkspace n) where
  keyboard := by
    rw [switchWorkspace_desktop, (moves_switchWorkspace w.desktop n).frame]
  keyboardGrab := by
    rw [switchWorkspace_desktop, (moves_switchWorkspace w.desktop n).frame]
  requests := by
    intro id apart
    unfold World.switchWorkspace
    split
    · dsimp only [World.updateToplevels]
      rw [updateEach_frame]
      have refocused := fun left : World => (steered_focusNextToplevel left none).requests id apart
      split <;> exact refocused _
    · exact ⟨rfl, rfl⟩
  free := by
    intro free
    unfold World.switchWorkspace
    split
    · dsimp only
      rw [updateToplevels_inhibitors]
      apply updateKeyboardFocus_free
      have steered : ∀ left : World, Steered none left (left.focusNextToplevel none) :=
        fun left => steered_focusNextToplevel left none
      split <;> exact (steered _).free free
    · exact free
  switched := fun _ switched => switched.switchWorkspace n

theorem steered_moveToplevelToWorkspace (w : World) (id : Nat) (n : Int) :
    Steered except w (w.moveToplevelToWorkspace id n) := by
  have moved := steered_change except w (·.withWindows (·.moveToWorkspace id n)) rfl rfl rfl
  unfold moveToplevelToWorkspace
  split
  · apply Steered.updateToplevel
    split
    · exact moved.focusNextToplevel (some id)
    · exact moved
  · exact .refl w

theorem Switched.renumber (switched : w.Switched) (f : Windows → Windows) : (w.renumber f).Switched := by
  apply switched.of_same
  · exact updateToplevels_inhibitors _
  · rw [World.renumber, updateToplevels_desktop]
    rfl

theorem Switched.setAllWorkspaces (switched : w.Switched) (id : Nat) (everywhere : Bool) :
    (w.setAllWorkspaces id everywhere).Switched := by
  unfold World.setAllWorkspaces
  split
  · exact switched.of_same (updateToplevel_inhibitors _ _) rfl
  · exact switched

theorem Switched.setKeptAbove (switched : w.Switched) (id : Nat) (above : Bool) :
    (w.setKeptAbove id above).Switched := by
  unfold World.setKeptAbove
  split
  · rename_i changes
    apply switched.of_same
    · exact updateToplevel_inhibitors _ _
    · rw [updateToplevel_desktop, change_desktop, State.setKeptAbove, if_pos changes]
  · exact switched

section

variable (w : World) (id : Nat)

theorem steered_switcherActivate : Steered except w (w.switcherActivate id) := by
  unfold switcherActivate
  split
  · exact ((Steered.refl w).change _ rfl rfl rfl).focusToplevel id
  · exact .refl w

theorem steered_switchToOwnWorkspace : Steered except w (w.switchToOwnWorkspace id) := by
  unfold switchToOwnWorkspace
  split
  · exact .refl w
  · exact steered_switchWorkspace w _

theorem steered_multitaskingActivate : Steered except w (w.multitaskingActivate id) := by
  unfold multitaskingActivate
  split
  · exact ((steered_switchToOwnWorkspace w id).change _ rfl rfl rfl).focusToplevel id
  · exact .refl w

theorem steered_previewsActivate : Steered except w (w.previewsActivate id) := by
  unfold previewsActivate
  split
  · exact (((Steered.refl w).change _ rfl rfl rfl).trans (steered_switchToOwnWorkspace _ id)).focusToplevel id
  · exact .refl w

end

section

variable (w : World) (id : Nat)

theorem steered_focusExclusive : Steered except w (w.focusExclusive id) := by
  unfold focusExclusive
  split
  · exact steered_focusLayerSurface w id
  · exact .refl w

theorem steered_mapLayer : Steered except w (w.mapLayer id) := by
  unfold mapLayer
  split
  · exact ((Steered.refl w).change _ rfl rfl rfl).trans (steered_focusExclusive _ id)
  · exact .refl w

theorem steered_commitLayer (interactivity : Interactivity) : Steered except w (w.commitLayer id interactivity) := by
  unfold commitLayer
  split
  · exact ((Steered.refl w).change _ rfl rfl rfl).trans (steered_focusExclusive _ id)
  · exact .refl w

theorem steered_unmapLayer : Steered except w (w.unmapLayer id) := by
  unfold unmapLayer
  split
  · have unmapped := steered_change except w (fun s =>
      { s with layers := s.layers.modify id fun layer => { layer with mapped := false } }) rfl rfl rfl
    split
    · exact unmapped.focusNextToplevel none
    · exact unmapped
  · exact .refl w

theorem steered_destroyLayer : Steered except w (w.destroyLayer id) :=
  ((steered_unmapLayer w id).change _ rfl rfl rfl).orphan _

theorem steered_destroyLayersOf (o : Nat) : Steered except w (w.destroyLayersOf o) := by
  refine List.foldlRecOn (motive := Steered except w) _ _ (.refl w) fun reached steered layer _ => ?_
  split
  · exact steered.trans (steered_destroyLayer reached layer)
  · exact steered

end

theorem Switched.addKeyboard (switched : w.Switched)
    (safe : w.inhibitorSafe .addKeyboard = true) : w.addKeyboard.Switched := by
  simp only [inhibitorSafe, Bool.or_eq_true, Bool.not_eq_true', List.isEmpty_iff] at safe
  unfold World.addKeyboard
  cases focused : w.desktop.focus with
  | some =>
    apply switched.of_same
    · rfl
    · exact notifyEnter_focus focused
  | none =>
    apply Switched.follow _ (steered_focusNextToplevel _ none)
    · rcases safe with (held | free) | released
      · rw [focused] at held
        cases held
      · simp [steady, free]
      · simp [steady, released]
    · exact switched.of_same rfl rfl

theorem switched_of_quiet (quiet : w.quiet = true) (unfocused : ∀ inh ∈ w.mirror.inhibitors, inh.surface.isSome = true →
      inh.surface ≠ w.desktop.focus) : w.Switched := by
  intro inh mem
  have passive := List.all_eq_true.mp quiet inh mem
  rw [Bool.not_eq_true'] at passive
  rw [passive]
  cases named : inh.surface.isSome with
  | false => rfl
  | true => simp [unfocused inh mem named]

theorem switched_unfocused (quiet : w.quiet = true) (unfocused : w.desktop.focus = none) : w.Switched := by
  apply switched_of_quiet quiet
  intro inh _ named none
  rw [none, unfocused] at named
  cases named

theorem Switched.beginSessionLock (switched : w.Switched) (bc : Bool)
    (safe : w.inhibitorSafe (.lockRequest bc) = true) : (w.beginSessionLock bc).Switched := by
  simp only [inhibitorSafe, Bool.or_eq_true, Bool.and_eq_true] at safe
  unfold World.beginSessionLock
  dsimp only
  split
  · exact switched.of_same rfl rfl
  · rename_i free
    obtain ⟨quiet, gives⟩ := safe.resolve_left free
    split
    · exact switched_unfocused quiet rfl
    · rename_i unlocked
      apply Switched.follow _ (steered_focusNextToplevel _ none)
      · simpa [steady, unlocked] using gives
      · exact switched_unfocused quiet rfl

theorem steered_changeSession (w : World) (ss : Session.ProtocolManager) : Steered except w (w.changeSession ss) :=
  ((Steered.refl w).change _ rfl rfl rfl).orphan _

theorem steered_unlock (w : World) (l : Nat) : Steered except w (w.unlock l) := by
  have unlocked := steered_change except w (fun s =>
    { s with session := s.session.onUnlock l }) rfl rfl rfl
  unfold World.unlock
  dsimp only
  split
  · exact unlocked.focusNextToplevel none
  · exact unlocked

theorem quiet_orphan (gone : Surface → Bool) : (w.orphan gone).quiet = w.quiet := by
  simp only [quiet, orphan, Mirror.orphan, List.all_map]
  rfl

section

variable (switched : w.Switched)

include switched

theorem Switched.orphan (gone : Surface → Bool) : (w.orphan gone).Switched := by
  intro inh mem
  obtain ⟨original, listed, rfl⟩ := List.mem_map.mp mem
  exact orphan_active (switched original listed)

theorem Switched.changeSession (ss : Session.ProtocolManager) : (w.changeSession ss).Switched :=
  Switched.orphan (switched.of_same rfl rfl) _

theorem Switched.destroyLock (l : Nat) (safe : w.inhibitorSafe (.destroyLock l) = true) :
    (w.destroyLock l).Switched := by
  have ended := switched.changeSession (w.desktop.session.onDestroy l)
  simp only [inhibitorSafe, Bool.or_eq_true, decide_eq_true_eq] at safe
  unfold World.destroyLock
  split
  · split
    · rename_i held found dies
      rw [destroyLock_focus found dies] at safe
      rcases safe with quiet | unfocused
      · apply switched_unfocused
        · exact (quiet_orphan _).trans quiet
        · rfl
      · -- there was no focus to take
        apply ended.of_same
        · rfl
        · show none = w.desktop.focus.map _
          rw [← unfocused]
          rfl
    · exact ended
  · exact ended

theorem Switched.mapLockSurface (id : Nat) (safe : w.inhibitorSafe (.mapLockSurface id) = true) :
    (w.change (·.mapLockSurface id)).Switched := by
  simp only [inhibitorSafe, Bool.or_eq_true, Bool.and_eq_true, decide_eq_true_eq] at safe
  rcases safe with ⟨quiet, noneThere⟩ | same
  · cases focused : (w.desktop.mapLockSurface id).focus with
    | none => exact switched_unfocused quiet focused
    | some =>
      rcases mapLockSurface_focus focused with rfl | kept
      · apply switched_of_quiet
        · exact quiet
        · intro inh mem _
          rw [change_desktop, focused]
          simpa using List.all_eq_true.mp noneThere inh mem
      · exact switched.of_same rfl (focused.trans kept.symm)
  · exact switched.of_same rfl same

theorem Switched.surfaceGone : w.surfaceGone.Switched := by
  unfold World.surfaceGone
  split
  · rename_i focused
    intro inh mem
    obtain ⟨listed, orphaned⟩ := List.mem_filter.mp mem
    rw [switched inh listed, focused]
    rw [decide_eq_true_eq] at orphaned
    cases named : inh.surface with
    | none => rfl
    | some =>
      rw [named] at orphaned
      simp [orphaned, clearFocus]
  · exact switched

end

/-- The handlers made of changes to the windows and of calls that move the focus. -/
def steersFocus : Event → Bool
  | .minimize _ | .xRequestRestore _ | .switcherActivate _ | .multitaskingActivate _ | .previewsActivate _ |
    .setMaximized .. | .tile .. | .switchWorkspace _ | .moveToWorkspace .. | .focusToplevel _ | .focusNextToplevel |
    .mapLayer _ | .unmapLayer _ | .commitLayer .. | .destroyLayer _ | .focusLayerSurface _ | .unlock _ |
    .outputDestroy _ => true
  | _ => false

theorem steered_handle (w : World) {e : Event} (steers : steersFocus e = true) : Steered except w (w.handle e) := by
  cases e with
  | minimize id => exact steered_minimize w id
  | xRequestRestore id => exact steered_xRequestRestore w id
  | switcherActivate id => exact steered_switcherActivate w id
  | multitaskingActivate id => exact steered_multitaskingActivate w id
  | previewsActivate id => exact steered_previewsActivate w id
  | setMaximized id mx => exact steered_setMaximized w id mx
  | tile id u captured => exact steered_tileToplevel w id u captured
  | switchWorkspace n => exact steered_switchWorkspace w n
  | moveToWorkspace id n => exact steered_moveToplevelToWorkspace w id n
  | focusToplevel id => exact steered_focusToplevel w id
  | focusNextToplevel => exact steered_focusNextToplevel w none
  | mapLayer id => exact steered_mapLayer w id
  | unmapLayer id => exact steered_unmapLayer w id
  | commitLayer id interactivity => exact steered_commitLayer w id interactivity
  | destroyLayer id => exact steered_destroyLayer w id
  | focusLayerSurface id => exact steered_focusLayerSurface w id
  | unlock l => exact steered_unlock w l
  | outputDestroy o => exact (steered_destroyLayersOf w o).trans (steered_changeSession _ _)
  | _ => cases steers

theorem Switched.plain (switched : w.Switched) {e : Event} (plain : w.handle e = w.change (FlakeWM.Desktop.step · e))
    (focus : (FlakeWM.Desktop.step w.desktop e).focus = w.desktop.focus) :
    (w.handle e).Switched := by
  rw [plain]
  exact switched.of_same rfl focus

theorem Switched.handle (switched : w.Switched) (e : Event) (safe : w.inhibitorSafe e = true) :
    (w.handle e).Switched := by
  cases e with
  | associate id tc sm big =>
    exact (steered_associate w id tc sm big).switched safe switched
  | dissociate id => exact (steered_dissociate w id).switched safe switched
  | map id big => exact (steered_map w id big).switched safe switched
  | unmap id => exact (steered_unmap w id).switched safe switched
  | destroy id => exact (steered_destroyToplevel w id).switched safe switched
  | setMaximized id mx => exact switched.setMaximized id mx
  | switchWorkspace n => exact switched.switchWorkspace n
  | removeWorkspace | reorderWorkspace => exact switched.renumber _
  | setAllWorkspaces id everywhere => exact switched.setAllWorkspaces id everywhere
  | setKeptAbove id above => exact switched.setKeptAbove id above
  | addKeyboard => exact switched.addKeyboard safe
  | lockRequest bc => exact switched.beginSessionLock bc safe
  | destroyLock l => exact switched.destroyLock l safe
  | mapLockSurface id => exact switched.mapLockSurface id safe
  | destroyLockSurface => exact switched.changeSession _
  | minimize | xRequestRestore | switcherActivate | multitaskingActivate | previewsActivate | tile | moveToWorkspace
  | focusToplevel | focusNextToplevel | mapLayer | unmapLayer | commitLayer | destroyLayer | focusLayerSurface | unlock
  | outputDestroy => exact switched.follow (steered_handle w rfl) safe
  | surfaceGone => exact switched.surfaceGone
  | highlight | unhighlight =>
    apply switched.plain rfl
    dsimp only [FlakeWM.Desktop.step]
    split <;> rfl
  | useKeyboard =>
    apply switched.plain rfl
    dsimp only [FlakeWM.Desktop.step, useKeyboard]
    split <;> rfl
  | _ => exact switched.plain rfl rfl

end

end World
end FlakeWM.Desktop
