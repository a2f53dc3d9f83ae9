import FlakeWM.Desktop.AdvertisedEvents
import FlakeWM.Desktop.InhibitorFocus

/-! The protocols tell what is.

Whether the handles of the mapped windows show their states and the active inhibitors
are those of the surface with the focus, over whole runs of the compositor. -/

set_option autoImplicit false

namespace FlakeWM.Desktop
namespace World

open Mirror

open Windows

/-- What was last sent of each mapped window is its state, and the active inhibitors
are those of the surface with the focus. -/
structure Mirrored (world : World) : Prop where
  states : ∀ (id : Nat) toplevel, world.desktop.windows.toplevels[id]? = some toplevel → toplevel.mapped = true →
    world.mirror.handles id = some
      { maximized := toplevel.maximized
        minimized := toplevel.minimized
        fullscreen := world.mirror.configured id
        activated := decide (world.desktop.focus = some (.toplevel id)) }
  inhibitors : world.Switched

def Granted (world : World) : Prop :=
  ∀ id, world.desktop.windows.test id (·.mapped) = true → world.mirror.configured id = world.mirror.requested id

def fullscreenSafe (world : World) : Event → Bool
  | .associate id .. | .map id _ => !world.mirror.configured id || world.mirror.requested id
  | _ => true

/-- After the event the protocols have told what is. -/
def mirrorSafe (world : World) : WorldEvent → Bool
  | .desktop event =>
    world.desktop.advertSafe event && world.inhibitorSafe event && world.fullscreenSafe event
  -- the flag of an X11 window changes before the handler sees the request
  | .requestFullscreen id fullscreen _ =>
    !world.desktop.windows.test id (fun toplevel => toplevel.mapped && toplevel.xwayland) ||
      fullscreen == world.mirror.requested id
  -- an XDG window keeps the request of its client
  | .foreignFullscreen id fullscreen =>
    !world.desktop.windows.test id (fun toplevel => toplevel.mapped && !toplevel.xwayland) ||
      fullscreen == world.mirror.requested id
  | _ => true

theorem Advertises.mirrored {w : World} (tracks : w.Advertises) (granted : w.Granted)
    (switched : w.Switched) : w.Mirrored := by
  refine ⟨?_, switched⟩
  intro id t found mapped
  rw [tracks.agrees id not_false, due, face_found found mapped, Option.map_some,
    granted id (test_iff.mpr ⟨t, found, mapped⟩)]

section

variable {w middle after : World} {id : Nat}

def SameRequests (world after : World) : Prop :=
  after.mirror.requested = world.mirror.requested ∧ after.mirror.configured = world.mirror.configured

theorem Steered.sameRequests (steered : Steered none w after) : SameRequests w after :=
  ⟨funext fun id => (steered.requests id (by simp)).1, funext fun id => (steered.requests id (by simp)).2⟩

theorem sameRequests_frame (frame : after.mirror = { w.mirror with handles := after.mirror.handles }) :
    SameRequests w after := by
  unfold SameRequests
  rw [frame]
  exact ⟨rfl, rfl⟩

theorem sameRequests_setAllWorkspaces (w : World) (id : Nat) (everywhere : Bool) :
    SameRequests w (w.setAllWorkspaces id everywhere) := by
  unfold setAllWorkspaces
  split
  · exact sameRequests_frame (updateToplevel_frame _ _ _)
  · exact ⟨rfl, rfl⟩

theorem sameRequests_setKeptAbove (w : World) (id : Nat) (above : Bool) : SameRequests w (w.setKeptAbove id above) := by
  unfold setKeptAbove
  split
  · exact sameRequests_frame (updateToplevel_frame _ _ _)
  · exact ⟨rfl, rfl⟩

theorem sameRequests_focusNext (same : middle.mirror = w.mirror) (ex : Option Nat) :
    SameRequests w (middle.focusNextToplevel ex) := by
  unfold SameRequests
  rw [← same]
  exact Steered.sameRequests (steered_focusNextToplevel middle ex)

theorem sameRequests_addKeyboard (w : World) : SameRequests w w.addKeyboard := by
  unfold addKeyboard
  split
  · exact ⟨rfl, rfl⟩
  · exact sameRequests_focusNext rfl none

theorem sameRequests_beginSessionLock (w : World) (bc : Bool) : SameRequests w (w.beginSessionLock bc) := by
  unfold beginSessionLock
  dsimp only
  split
  · exact ⟨rfl, rfl⟩
  · split
    · exact ⟨rfl, rfl⟩
    · exact sameRequests_focusNext rfl none

theorem sameRequests_destroyLock (w : World) (l : Nat) : SameRequests w (w.destroyLock l) := by
  unfold destroyLock
  split
  · split <;> exact ⟨rfl, rfl⟩
  · exact ⟨rfl, rfl⟩

theorem sameRequests_surfaceGone (w : World) : SameRequests w w.surfaceGone := by
  unfold surfaceGone
  split <;> exact ⟨rfl, rfl⟩

theorem sameRequests_handle (w : World) {e : Event} (kept : State.changesLives e = false) :
    SameRequests w (w.handle e) := by
  cases e with
  | newToplevel | associate | dissociate | destroy | map | unmap => cases kept
  | removeWorkspace | reorderWorkspace => exact sameRequests_frame (updateEach_frame _ _)
  | setAllWorkspaces id everywhere => exact sameRequests_setAllWorkspaces w id everywhere
  | setKeptAbove id above => exact sameRequests_setKeptAbove w id above
  | addKeyboard => exact sameRequests_addKeyboard w
  | lockRequest bc => exact sameRequests_beginSessionLock w bc
  | destroyLock l => exact sameRequests_destroyLock w l
  | minimize | xRequestRestore | switcherActivate | multitaskingActivate | previewsActivate | setMaximized | tile
  | switchWorkspace | moveToWorkspace | focusToplevel | focusNextToplevel | mapLayer | unmapLayer | commitLayer
  | destroyLayer | focusLayerSurface | unlock | outputDestroy => exact (steered_handle w rfl).sameRequests
  | surfaceGone => exact sameRequests_surfaceGone w
  | _ => exact ⟨rfl, rfl⟩

section

variable (granted : w.Granted)

include granted

theorem Granted.same (same : SameRequests w after)
    (mapped : ∀ id, after.desktop.windows.test id (·.mapped) = true → w.desktop.windows.test id (·.mapped) = true) :
    after.Granted := by
  intro id shown
  rw [same.1, same.2]
  exact granted id (mapped id shown)

/-- The window `id` apart, nothing is asked for or mapped. -/
theorem Granted.except (steered : Steered (some id) w after)
    (only : OnlyChanges id w.desktop.windows after.desktop.windows)
    (own : after.desktop.windows.test id (·.mapped) = true → after.mirror.configured id = after.mirror.requested id) :
    after.Granted := by
  intro id' mapped
  by_cases same : id' = id
  · subst same
    exact own mapped
  · have kept := steered.requests id' fun named => same (Option.some.inj named).symm
    rw [kept.1, kept.2]
    apply granted
    rwa [only.test same fun _ _ => rfl] at mapped

omit granted in
theorem honorFullscreen_configured (w : World) (id : Nat) :
    (w.honorFullscreen id).mirror.configured id = (w.mirror.requested id || w.mirror.configured id) := by
  unfold honorFullscreen
  split
  · rename_i requested
    simp only [setFullscreenState, Function.update_self, requested, Bool.true_or]
  · rename_i unasked
    rw [Bool.not_eq_true] at unasked
    rw [unasked, Bool.false_or]

/-- A window is granted what it asked for before it was mapped. -/
theorem Granted.map (id : Nat) (big : Bool) (safe : w.mirror.configured id = true → w.mirror.requested id = true) :
    (w.map id big).Granted := by
  apply granted.except (steered_map w id big)
  · rw [map_desktop, State.map_windows]
    exact (edits_map w.desktop.windows id big).toOnlyChanges
  · intro mapped
    unfold World.map at mapped ⊢
    split
    · have placed : SameRequests w ((w.announce id).honorMaximized id big) := by
        apply Steered.sameRequests
        apply (steered_announce w id).trans
        unfold honorMaximized
        split
        · exact steered_setMaximized _ id true
        · exact .refl _
      have own : (((w.announce id).honorMaximized id big).honorFullscreen id).mirror.configured id =
          (((w.announce id).honorMaximized id big).honorFullscreen id).mirror.requested id := by
        rw [honorFullscreen_configured, honorFullscreen_requested, placed.1, placed.2]
        -- A request is granted; without one nothing has been configured before.
        revert safe
        cases w.mirror.requested id <;> cases w.mirror.configured id <;> simp
      dsimp only
      split
      · have focused := Steered.sameRequests (steered_focusToplevel
          (((w.announce id).honorMaximized id big).honorFullscreen id) id)
        rw [focused.1, focused.2]
        exact own
      · exact own
    · rename_i refused
      rw [if_neg refused] at mapped
      exact granted id mapped

theorem Granted.associate (id : Nat) (tc sm big : Bool)
    (safe : w.mirror.configured id = true → w.mirror.requested id = true) :
    (w.associate id tc sm big).Granted := by
  unfold World.associate
  split
  · have associated : (w.change fun s => { s with
        windows := s.windows.associate id tc sm
        stack := if tc then s.stack ++ [id] else s.stack }).Granted := by
      apply granted.same
      · exact ⟨rfl, rfl⟩
      · intro id' mapped
        rw [← (alike_associate w.desktop.windows id tc sm).mapped]
        exact mapped
    dsimp only
    split
    · exact associated.map id big safe
    · exact associated
  · exact granted

theorem Granted.unmap (id : Nat) : (w.unmap id).Granted := by
  apply granted.except (steered_unmap w id)
  · rw [unmap_desktop, State.unmap_windows]
    exact (edits_unmap w.desktop.windows id).toOnlyChanges
  · intro mapped
    rw [unmap_hidden] at mapped
    cases mapped

theorem Granted.lose {edit : Toplevel → Toplevel → Prop} (f : State → State)
    (edits : Edits id edit w.desktop.windows (f w.desktop).windows)
    (hidden : ∀ t next, edit t next → next.mapped = false) (gone : Surface → Bool) :
    ((w.change f).orphan gone).Granted := by
  intro id' mapped
  apply granted
  have shown := (edits.loses (fun _ _ => rfl) hidden id').symm.trans mapped
  exact (Bool.and_eq_true_iff.mp shown).1

theorem Granted.handle (e : Event) (safe : w.fullscreenSafe e = true) : (w.handle e).Granted := by
  cases lives : State.changesLives e with
  | false =>
      -- No window is mapped here, and nothing is asked for.
      apply granted.same (sameRequests_handle w lives)
      intro id mapped
      rw [handle_desktop, State.step_windows] at mapped
      rwa [(State.windowsAfter_keepsLives w.desktop e lives).test fun _ _ same => same.mapped] at mapped
  | true =>
    cases e with
    | newToplevel xw =>
      apply granted.same
      · exact ⟨rfl, rfl⟩
      · intro id mapped
        rw [← (alike_add w.desktop.windows xw).mapped]
        exact mapped
    | associate =>
      apply granted.associate
      simpa [fullscreenSafe, imp_iff_not_or] using safe
    | map =>
      apply granted.map
      simpa [fullscreenSafe, imp_iff_not_or] using safe
    | unmap id => exact granted.unmap id
    | dissociate id =>
      show (w.dissociate id).Granted
      unfold World.dissociate
      split
      · apply (granted.unmap id).lose _ (edits_loseSurface _ id)
        rintro t next rfl
        rfl
      · exact granted
    | destroy id =>
      apply (granted.unmap id).lose _ (edits_loseHandle _ id)
      intro t next lost
      rw [lost]
    | _ => cases lives

end

theorem Advertises.asked (tracks : w.Advertises) (mirror : Mirror) (handles : mirror.handles = w.mirror.handles)
    (others : ∀ id', id' ≠ id → mirror.requested id' = w.mirror.requested id') :
    Tracks (fun id' => id' = id) ⟨w.desktop, mirror⟩ := by
  have asked : Tracks (fun id' => False ∨ id' = id) ⟨w.desktop, mirror⟩ := by
    apply Tracks.silent tracks handles
    · exact fun _ => rfl
    · intro id' ne
      simp only [due, others id' ne]
  apply asked.mono
  exact fun _ old _ => old.resolve_left not_false

theorem setFullscreenState_requested {mirror : Mirror} {id' : Nat} (ne : id' ≠ id) (xw fullscreen : Bool) :
    (mirror.setFullscreenState xw id fullscreen).requested id' = mirror.requested id' := by
  unfold setFullscreenState
  split
  · exact Function.update_of_ne ne _ _
  · rfl

section

variable (tracks : w.Advertises) (surfaced : w.desktop.windows.Surfaced) (id : Nat) (fullscreen : Bool)

include tracks surfaced

theorem Advertises.requestFullscreen (initialized : Bool)
    (safe : w.mirrorSafe (.requestFullscreen id fullscreen initialized) = true) :
    (w.requestFullscreen id fullscreen initialized).Advertises := by
  simp only [mirrorSafe, Bool.or_eq_true, Bool.not_eq_true', beq_iff_eq] at safe
  unfold World.requestFullscreen
  split
  · rename_i xw
    rcases safe with hidden | same
    · apply (tracks.asked (w.mirror.setFullscreenState true id fullscreen) rfl fun _ ne =>
        setFullscreenState_requested ne true fullscreen).mono
      rintro id' rfl mapped
      rw [test_and, mapped, xw] at hidden
      cases hidden
    · have kept : (w.mirror.setFullscreenState true id fullscreen).requested = w.mirror.requested := by
        rw [same]
        exact Function.update_eq_self id _
      refine ⟨tracks.handled, ?_⟩
      intro id' fresh
      rw [due, kept]
      exact tracks.agrees id' fresh
  · have others : ∀ id', id' ≠ id →
        Function.update w.mirror.requested id fullscreen id' = w.mirror.requested id' :=
      fun id' ne => Function.update_of_ne ne _ _
    split
    · apply Tracks.told
      · exact tracks.asked _ rfl others
      · exact surfaceOf_mapped surfaced
    · rename_i early
      apply (tracks.asked { w.mirror with requested := Function.update w.mirror.requested id fullscreen } rfl
        others).mono
      rintro id' rfl mapped
      simp only [Bool.or_eq_true, not_or] at early
      exact early.2 mapped

theorem Advertises.foreignFullscreen : (w.foreignFullscreen id fullscreen).Advertises := by
  unfold World.foreignFullscreen
  split
  · apply Tracks.told
    · exact tracks.asked _ rfl fun _ ne => setFullscreenState_requested ne _ fullscreen
    · exact surfaceOf_mapped surfaced
  · exact tracks

end

/-- Only the window `id` is asked for or granted anything. -/
theorem Granted.asked (granted : w.Granted) {mirror : Mirror}
    (others : ∀ id', id' ≠ id → mirror.requested id' = w.mirror.requested id' ∧
      mirror.configured id' = w.mirror.configured id')
    (own : w.desktop.windows.test id (·.mapped) = true → mirror.configured id = mirror.requested id) :
    Granted ⟨w.desktop, mirror⟩ := by
  intro id' mapped
  by_cases same : id' = id
  · subst same
    exact own mapped
  · rw [(others id' same).1, (others id' same).2]
    exact granted id' mapped

theorem Granted.updateToplevel (granted : w.Granted) (x : Option Surface) : (w.updateToplevel x).Granted :=
  granted.same (sameRequests_frame (updateToplevel_frame _ _ _)) fun _ mapped => mapped

theorem Granted.requestFullscreen (granted : w.Granted) (id : Nat) (fullscreen initialized : Bool) :
    (w.requestFullscreen id fullscreen initialized).Granted := by
  unfold World.requestFullscreen
  split
  -- The one flag of an X11 window is what is asked for and what is granted.
  · apply granted.asked
    · intro id' ne
      exact ⟨setFullscreenState_requested ne true fullscreen, Function.update_of_ne ne _ _⟩
    · intro _
      simp only [setFullscreenState, if_true, Function.update_self]
  · dsimp only
    split
    · apply Granted.updateToplevel
      apply granted.asked
      · intro id' ne
        exact ⟨Function.update_of_ne ne _ _, Function.update_of_ne ne _ _⟩
      · intro _
        simp only [setFullscreenState, Bool.false_eq_true, if_false, Function.update_self]
    · rename_i early
      apply granted.asked
      · intro id' ne
        exact ⟨Function.update_of_ne ne _ _, rfl⟩
      · intro mapped
        simp [mapped] at early

theorem Granted.foreignFullscreen (granted : w.Granted) (id : Nat) (fullscreen : Bool)
    (safe : w.mirrorSafe (.foreignFullscreen id fullscreen) = true) :
    (w.foreignFullscreen id fullscreen).Granted := by
  simp only [mirrorSafe, Bool.or_eq_true, Bool.not_eq_true', beq_iff_eq] at safe
  unfold World.foreignFullscreen
  split
  · apply Granted.updateToplevel
    apply granted.asked
    · intro id' ne
      exact ⟨setFullscreenState_requested ne _ fullscreen, Function.update_of_ne ne _ _⟩
    · intro mapped
      cases xw : w.desktop.windows.test id (·.xwayland) with
      | true => simp only [setFullscreenState, if_true, Function.update_self]
      | false =>
        simp only [setFullscreenState, Bool.false_eq_true, if_false, Function.update_self]
        apply safe.resolve_left
        obtain ⟨t, found, shown⟩ := test_iff.mp mapped
        simp only [test, found, Option.any_some] at xw
        simp [test, found, shown, xw]
  · exact granted

theorem Switched.requestFullscreen (switched : w.Switched) (id : Nat) (fullscreen initialized : Bool) :
    (w.requestFullscreen id fullscreen initialized).Switched := by
  unfold World.requestFullscreen
  split
  · exact switched.of_same rfl rfl
  · dsimp only
    split
    · exact switched.of_same (updateToplevel_inhibitors _ _) rfl
    · exact switched.of_same rfl rfl

theorem Switched.foreignFullscreen (switched : w.Switched) (id : Nat) (fullscreen : Bool) :
    (w.foreignFullscreen id fullscreen).Switched := by
  unfold World.foreignFullscreen
  split
  · exact switched.of_same (updateToplevel_inhibitors _ _) rfl
  · exact switched

theorem Switched.newInhibitor (switched : w.Switched) (x : Option Surface) : (w.newInhibitor x).Switched := by
  intro inh mem
  rcases List.mem_append.mp mem with old | new
  · exact switched inh old
  · rw [List.mem_singleton.mp new]
    rfl

end

structure Kept (world : World) : Prop where
  staged : world.desktop.Staged
  advertises : world.Advertises
  granted : world.Granted
  switched : world.Switched

theorem kept_initial : initial.Kept where
  staged := State.staged_initial
  advertises := ⟨fun _ => rfl, fun _ _ => rfl⟩
  granted := fun _ mapped => by cases mapped
  switched := fun _ mem => by cases mem

theorem step_desktop_staged (w : World) (e : WorldEvent) (staged : w.desktop.Staged) : (w.step e).desktop.Staged := by
  cases e with
  | desktop e =>
    show (w.handle e).desktop.Staged
    rw [handle_desktop]
    exact State.step_staged w.desktop e staged
  | requestFullscreen id fullscreen initialized =>
    have same : (w.requestFullscreen id fullscreen initialized).desktop = w.desktop := by
      unfold requestFullscreen
      split
      · rfl
      · dsimp only
        split <;> rfl
    exact same ▸ staged
  | foreignFullscreen id fullscreen =>
    have same : (w.foreignFullscreen id fullscreen).desktop = w.desktop := by
      unfold foreignFullscreen
      split <;> rfl
    exact same ▸ staged
  | refresh | newInhibitor | destroyInhibitor => exact staged

theorem step_kept (w : World) (e : WorldEvent) (kept : w.Kept) (safe : w.mirrorSafe e = true) : (w.step e).Kept := by
  have staged := step_desktop_staged w e kept.staged
  have surfaced := kept.staged.surfaced
  cases e with
  | desktop e =>
    simp only [mirrorSafe, Bool.and_eq_true] at safe
    exact ⟨staged, kept.advertises.handle kept.staged e safe.1.1, kept.granted.handle e safe.2,
      kept.switched.handle e safe.1.2⟩
  | requestFullscreen id fullscreen initialized =>
    exact ⟨staged, kept.advertises.requestFullscreen surfaced id fullscreen initialized safe,
      kept.granted.requestFullscreen id fullscreen initialized, kept.switched.requestFullscreen id fullscreen initialized⟩
  | foreignFullscreen id fullscreen =>
    exact ⟨staged, kept.advertises.foreignFullscreen surfaced id fullscreen,
      kept.granted.foreignFullscreen id fullscreen safe, kept.switched.foreignFullscreen id fullscreen⟩
  | refresh =>
    refine ⟨staged, ?_, kept.granted.updateToplevel _, kept.switched.of_same (updateToplevel_inhibitors _ _) rfl⟩
    apply (Tracks.updateToplevel kept.advertises _).mono
    exact fun _ old _ => old.1
  | newInhibitor x =>
    exact ⟨staged, ⟨kept.advertises.handled, kept.advertises.agrees⟩, kept.granted, kept.switched.newInhibitor x⟩
  | destroyInhibitor =>
    exact ⟨staged, ⟨kept.advertises.handled, kept.advertises.agrees⟩, kept.granted, fun inh mem =>
      kept.switched inh (List.mem_of_mem_eraseIdx mem)⟩

/-- What the protocols tell is right throughout a run in which no event is one of those
that change a window or the focus and tell nobody. -/
theorem mirrored_throughout (events : List WorldEvent)
    (safe : Transition.Along World.step (fun world event => world.mirrorSafe event = true) World.initial events) :
    Transition.Throughout World.step Mirrored World.initial events := by
  have kept := Transition.along_invariant step_kept kept_initial safe
  apply kept.mono
  intro world kept
  exact kept.advertises.mirrored kept.granted kept.switched

/-- Two windows, an inhibitor of the first, a minimize request and a tile. -/
def ordinary : List WorldEvent :=
  [.desktop .addKeyboard, .desktop (.newToplevel false), .desktop (.map 0 false), .newInhibitor (some (.toplevel 0)),
    .desktop (.newToplevel false), .requestFullscreen 1 true false, .desktop (.map 1 true), .desktop (.minimize 1),
    .desktop (.tile 0 true true), .desktop (.switchWorkspace 2)]

theorem mirrored_throughout_ordinary :
    Transition.Along World.step (fun world event => world.mirrorSafe event = true) World.initial ordinary ∧
      Transition.Throughout World.step Mirrored World.initial ordinary :=
  ⟨by decide +kernel, mirrored_throughout ordinary (by decide +kernel)⟩

def focusedWindow : List WorldEvent :=
  [.desktop .addKeyboard, .desktop (.newToplevel false), .desktop (.map 0 false), .newInhibitor (some (.toplevel 0))]

def taskbarRestores : List WorldEvent := focusedWindow ++ [.desktop (.minimize 0), .desktop (.requestRestore 0)]

def sessionLocks : List WorldEvent := focusedWindow ++ [.desktop (.lockRequest true)]

def taskbarFullscreens : List WorldEvent := focusedWindow ++ [.foreignFullscreen 0 true]

def shownWindow : Toplevel := { Toplevel.create false 0 with mapped := true }

/-- The restored window is still shown as minimized. The window that lost the focus to the
lock is still shown as activated, and its inhibitor is active. The fullscreen window is
not shown as one. -/
theorem protocols_left_behind :
    (¬ Transition.Throughout World.step Mirrored World.initial taskbarRestores ∧
      (Transition.run World.step World.initial taskbarRestores).mirror.handles 0 = some ⟨false, true, false, false⟩) ∧
    (¬ Transition.Throughout World.step Mirrored World.initial sessionLocks ∧
      (Transition.run World.step World.initial sessionLocks).mirror.handles 0 = some ⟨false, false, false, true⟩ ∧
      (Transition.run World.step World.initial sessionLocks).desktop.focus = none ∧
      (Transition.run World.step World.initial sessionLocks).mirror.inhibitors = [⟨some (.toplevel 0), true⟩]) ∧
    (¬ Transition.Throughout World.step Mirrored World.initial taskbarFullscreens ∧
      (Transition.run World.step World.initial taskbarFullscreens).mirror.handles 0 = some ⟨false, false, false, true⟩ ∧
      (Transition.run World.step World.initial taskbarFullscreens).mirror.configured 0 = true) := by
  refine ⟨⟨?_, by decide +kernel⟩, ⟨?_, by decide +kernel⟩, ?_, by decide +kernel⟩
  · intro mirrored
    have sent := mirrored.last.states 0 shownWindow (by decide +kernel) (by decide)
    exact absurd sent (by decide +kernel)
  · intro mirrored
    have active := mirrored.last.inhibitors ⟨some (.toplevel 0), true⟩ (by decide +kernel)
    exact absurd active (by decide +kernel)
  · intro mirrored
    have sent := mirrored.last.states 0 shownWindow (by decide +kernel) (by decide)
    exact absurd sent (by decide +kernel)

end World
end FlakeWM.Desktop
