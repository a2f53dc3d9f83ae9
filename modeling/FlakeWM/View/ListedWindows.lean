import FlakeWM.View.Multitasking

/-! The windows the multitasking view holds on to.

The view takes surfaces only from the compositor's list of mapped windows, so it
holds a window that is gone only if it listed it while the window went. -/

set_option autoImplicit false

namespace FlakeWM.View

open FlakeWM.Desktop

namespace Sources

section

variable {src : Sources} {id x : Nat}

theorem eventOf_quiet {q : Request} {e : Desktop.Event} (asked : src.eventOf q = some e) :
    State.changesLives e = false ∧ State.setsFlag e = false := by
  unfold eventOf at asked
  split at asked
  · obtain ⟨id, _, rfl⟩ := Option.map_eq_some_iff.mp asked
    exact ⟨rfl, rfl⟩
  · obtain ⟨id, _, rfl⟩ := Option.map_eq_some_iff.mp asked
    exact ⟨rfl, rfl⟩
  · obtain ⟨id, _, asked⟩ := Option.bind_eq_some_iff.mp asked
    obtain ⟨t, _, rfl⟩ := Option.map_eq_some_iff.mp asked
    exact ⟨rfl, rfl⟩
  iterate 4
    · cases asked
      exact ⟨rfl, rfl⟩
  · cases asked

theorem arranges_perform (src : Sources) (q : Request) : Arranges src (src.perform q) := by
  unfold perform
  cases asked : src.eventOf q with
  | none => exact .refl src
  | some => exact arranges_step src (eventOf_quiet asked).1

theorem arranges_hidden (src : Sources) (hidden : Bool) : Arranges src (src.setMultitaskingHidden hidden) :=
  arranges_step src rfl

def lists (sources : Sources) (id : Nat) : Bool :=
  sources.desktop.windows.test id fun toplevel =>
    toplevel.mapped && toplevel.alive && toplevel.wantsFocus && decide (0 ≤ toplevel.workspace) &&
      decide (toplevel.workspace < max 1 sources.desktop.windows.workspaceCount)

theorem mem_listedEntries : (∃ en ∈ src.listedEntries, en.surface = x) ↔
    ∃ id, src.lists id = true ∧ src.surfaceOf id = some x := by
  simp only [listedEntries, entriesProvider, List.mem_filter, List.mem_filterMap, List.mem_range]
  constructor
  · rintro ⟨en, ⟨⟨id, _, shown⟩, inside⟩, rfl⟩
    refine ⟨id, ?_⟩
    split at shown
    · rename_i t x found held
      split at shown
      · rename_i kept
        cases shown
        refine ⟨?_, held⟩
        exact Windows.test_iff.mpr ⟨t, found, by rw [kept, Bool.true_and, inside]⟩
      · cases shown
    · cases shown
  · rintro ⟨id, listed, held⟩
    obtain ⟨t, found, kept⟩ := Windows.test_iff.mp listed
    simp only [Bool.and_eq_true] at kept
    refine ⟨⟨x, t.workspace⟩, ⟨⟨id, ?_, ?_⟩, ?_⟩, rfl⟩
    · exact (List.getElem?_eq_some_iff.mp (surfaceOf_eq_some.mp held).2).1
    · simp [found, held, kept]
    · exact Bool.and_eq_true_iff.mpr ⟨kept.1.2, kept.2⟩

theorem mapped_of_listed {en : Entry} (listed : en ∈ src.listedEntries) : en.surface ∈ src.mappedSurfaces := by
  obtain ⟨id, shown, held⟩ := mem_listedEntries.mp ⟨en, listed, rfl⟩
  obtain ⟨t, found, kept⟩ := Windows.test_iff.mp shown
  simp only [Bool.and_eq_true] at kept
  exact mem_mappedSurfaces.mpr ⟨id, Windows.test_iff.mpr ⟨t, found, kept.1.1.1.1⟩, held⟩

theorem mem_visibleOn {n : Int} (visible : x ∈ src.visibleOn n) : ∃ en ∈ src.listedEntries, en.surface = x := by
  obtain ⟨en, mem, rfl⟩ := List.mem_map.mp visible
  exact ⟨en, List.mem_reverse.mp (List.mem_filter.mp mem).1, rfl⟩

end

end Sources

namespace Overview

open Sources

def heldSurfaces (overview : Overview) : List Nat :=
  overview.entries.map (·.surface) ++ overview.view.visibleEntries ++
    overview.view.pendingActivation.toList ++ overview.view.pendingClose.toList

abbrev holder (overview : Overview) : Holder := ⟨overview.sources, overview.view.isActive, overview.heldSurfaces⟩

/-- What the handlers of the view are made of. -/
inductive Moves (overview : Overview) : Overview → Prop where
  | refl : Moves overview overview
  /-- The view stays open or closed, and holds no window it did not hold. -/
  | keep {next last : Overview} (moves : Moves overview next) (sources : last.sources = next.sources)
      (active : last.view.isActive = next.view.isActive) (held : last.heldSurfaces ⊆ next.heldSurfaces) :
      Moves overview last
  | perform {next : Overview} (moves : Moves overview next) (request : Request) : Moves overview (next.perform request)
  | refresh {next : Overview} (moves : Moves overview next) (active : next.view.isActive = true) :
      Moves overview next.refresh
  | close {next last : Overview} (moves : Moves overview next) (sources : last.sources = next.sources) :
      Moves overview last.completeClose
  | opened {next last : Overview} (moves : Moves overview next)
      (sources : last.sources = next.sources.setMultitaskingHidden true) (active : last.view.isActive = true)
      (held : last.heldSurfaces ⊆ next.sources.mappedSurfaces) : Moves overview last

abbrev Browses (before after : Overview) : Prop := Holder.Browses before.holder after.holder

section

variable {before after overview : Overview} {surface : Nat} {usable : Bool}

theorem mem_heldSurfaces_refresh (mem : surface ∈ overview.refresh.heldSurfaces) :
    surface ∈ overview.sources.mappedSurfaces ∨
      overview.view.pendingActivation = some surface ∨ overview.view.pendingClose = some surface := by
  simp only [heldSurfaces, refresh, List.mem_append, List.mem_map, Option.mem_toList] at mem
  rcases mem with ((⟨en, listed, rfl⟩ | visible) | activation) | close
  · exact .inl (mapped_of_listed listed)
  · obtain ⟨en, listed, rfl⟩ := mem_visibleOn visible
    exact .inl (mapped_of_listed listed)
  · exact .inr (.inl activation)
  · exact .inr (.inr close)

theorem mem_heldSurfaces_of_pending (pending : overview.view.pendingActivation = some surface ∨
    overview.view.pendingClose = some surface) : surface ∈ overview.heldSurfaces := by
  rcases pending with pending | pending <;> simp [heldSurfaces, pending]

theorem browses_refresh (active : overview.view.isActive = true) : Browses overview overview.refresh where
  arranges := .refl _
  held := by
    intro surface mem
    rcases mem_heldSurfaces_refresh mem with mapped | pending
    · exact .inr mapped
    · exact .inl (mem_heldSurfaces_of_pending pending)
  tidy := fun _ closed => by cases active.symm.trans closed

theorem arranges_foldl (src : Sources) (requests : List Request) :
    Sources.Arranges src (requests.foldl Sources.perform src) := by
  induction requests generalizing src with
  | nil => exact .refl src
  | cons q rest ih => exact (Sources.arranges_perform src q).trans (ih _)

theorem completeClose_heldSurfaces (o : Overview) : o.completeClose.heldSurfaces = [] := by
  unfold completeClose
  rw [foldl_perform]
  rfl

theorem arranges_completeClose (o : Overview) : Sources.Arranges o.sources o.completeClose.sources := by
  unfold completeClose
  rw [foldl_perform]
  exact (arranges_hidden o.sources false).trans (arranges_foldl _ _)

theorem Moves.browses (moves : Moves before after) : Browses before after := by
  induction moves with
  | refl => exact .refl _
  | keep _ sources active held ih => exact ih.trans (Holder.browses_keep sources active fun _ mem => .inl (held mem))
  | perform _ request ih => exact ih.trans ⟨arranges_perform _ request, fun _ => .inl, id⟩
  | refresh _ active ih => exact ih.trans (browses_refresh active)
  | @close _ last _ sources ih =>
    have arranges := arranges_completeClose last
    rw [sources] at arranges
    exact ih.trans (Holder.browses_close arranges (completeClose_heldSurfaces last))
  | @opened next _ _ sources active held ih =>
    have arranges := arranges_hidden next.sources true
    rw [← sources] at arranges
    exact ih.trans (Holder.browses_open arranges active held)

theorem Moves.updateView (moves : Moves before after) (u : Bool) : Moves before (after.updateView u) := by
  unfold Overview.updateView
  split
  · exact moves.close rfl
  · exact moves

theorem Moves.startAnimation (moves : Moves before after) (closing u : Bool) :
    Moves before (after.startAnimation closing u) := by
  unfold Overview.startAnimation
  split
  · exact moves
  · rename_i started
    have active : after.view.active = true := by
      by_contra inactive
      simp [inactive] at started
    apply Moves.updateView
    exact moves.keep rfl (by simp [Multitasking.isActive, active]) fun _ => id

theorem windowAt_mem {view : Multitasking} {i : Int} (found : view.windowAt i = some surface) :
    surface ∈ view.visibleEntries := by
  unfold Multitasking.windowAt at found
  split at found
  · cases found
  · exact List.mem_of_getElem? found

theorem completeClose_view (o : Overview) : o.completeClose.view = o.view.completeClose.1 :=
  (completeClose_follows o).view

section

variable (overview : Overview)

theorem moves_toggle (u : Bool) : Moves overview (overview.toggle u) := by
  unfold toggle
  dsimp only
  split
  · split
    · exact .refl
    · exact Moves.refl.startAnimation true u
  split
  · exact .refl
  generalize opened : refresh _ = listing
  have sources : listing.sources = overview.sources := by
    subst opened
    rfl
  have active : listing.view.active = true := by
    subst opened
    rfl
  unfold updateView
  split
  · -- without a screen the view closes at once
    rw [if_pos (by rw [completeClose_view]; rfl)]
    exact Moves.refl.close sources
  · -- a closed view holds nothing, so what it lists now is all it holds
    have held : listing.heldSurfaces ⊆ overview.sources.mappedSurfaces := by
      subst opened
      intro surface mem
      rcases mem_heldSurfaces_refresh mem with mapped | pending | pending
      · exact mapped
      · cases pending
      · cases pending
    rw [active, if_neg (by simp)]
    apply Moves.startAnimation
    exact Moves.refl.opened (by rw [sources]) (by simp [Multitasking.isActive, active]) held

theorem moves_cancel (u : Bool) : Moves overview (overview.cancel u) := by
  unfold cancel
  split
  · exact Moves.refl.startAnimation true u
  · exact .refl

theorem moves_handleKey (e : Input.KeyEvent) (u : Bool) : Moves overview (overview.handleKey e u) := by
  unfold handleKey
  split
  · exact .refl
  split
  · exact .refl
  split
  · exact .refl
  split
  · exact Moves.refl.startAnimation true u
  · exact .refl

theorem moves_handleMotion (hit : Hit) (u : Bool) : Moves overview (overview.handleMotion hit u) := by
  unfold handleMotion
  dsimp only
  split
  · exact .refl
  split
  · apply Moves.updateView
    exact Moves.refl.keep rfl rfl fun _ => id
  split
  · apply Moves.updateView
    exact Moves.refl.keep rfl rfl fun _ => id
  · exact Moves.refl.keep rfl rfl fun _ => id

theorem moves_updateAnimation (finished u : Bool) : Moves overview (overview.updateAnimation finished u) := by
  unfold updateAnimation
  split
  · exact .refl
  split
  · split
    · exact Moves.refl.close rfl
    · apply Moves.updateView
      exact Moves.refl.keep rfl rfl fun _ => id
  · exact Moves.refl.updateView u

end

theorem moves_click (active : overview.view.isActive = true) (u : Bool) : Moves overview (overview.click u) := by
  have chosen : ∀ view : Multitasking, view.isActive = overview.view.isActive →
      view.visibleEntries = overview.view.visibleEntries →
      (∀ surface, view.pendingActivation = some surface →
        overview.view.pendingActivation = some surface ∨ surface ∈ overview.view.visibleEntries) →
      (∀ surface, view.pendingClose = some surface →
        overview.view.pendingClose = some surface ∨ surface ∈ overview.view.visibleEntries) →
      Moves overview (startAnimation { overview with view := view } true u) := by
    intro view same visible activation close
    apply Moves.startAnimation
    refine Moves.refl.keep rfl same fun surface mem => ?_
    simp only [heldSurfaces, visible, List.mem_append, Option.mem_toList] at mem ⊢
    rcases mem with (listed | pending) | pending
    · exact .inl (.inl listed)
    · rcases activation surface pending with old | new
      · exact .inl (.inr old)
      · exact .inl (.inl (.inr new))
    · rcases close surface pending with old | new
      · exact .inr old
      · exact .inl (.inl (.inr new))
  have asked : ∀ (q : Request) (selected : Int),
      Moves overview ((refresh { overview.perform q with selectedWorkspace := selected }).updateView u) := by
    intro q _
    refine Moves.updateView (.refresh ?_ ?_) u
    · exact (Moves.refl.perform q).keep rfl rfl fun _ => id
    · exact active
  unfold click
  dsimp only
  split
  · rename_i surface _ found
    refine chosen _ rfl rfl (fun _ => .inl) fun id' same => ?_
    cases same
    exact .inr (windowAt_mem found)
  · exact asked _ overview.selectedWorkspace
  · rename_i surface _ found
    refine chosen _ rfl rfl (fun id' same => ?_) fun _ => .inl
    cases same
    exact .inr (windowAt_mem found)
  · split
    · exact chosen _ rfl rfl (fun _ => .inl) fun _ => .inl
    · exact .refl
  · split
    · exact .refl
    · split
      · exact asked _ _
      · exact Moves.refl.perform _
  · split
    · split
      · exact asked _ overview.selectedWorkspace
      · exact Moves.refl.perform _
    · exact .refl
  · exact Moves.refl.startAnimation true u
  · exact .refl

theorem Moves.drop (moves : Moves before after) (u : Bool) : Moves before (after.drop u) := by
  apply Moves.updateView
  exact moves.keep rfl rfl fun _ => id

theorem moves_handleButton (o : Overview) (button : Button) (pressed : Bool) (under target : Int)
    (u : Bool) : Moves o (o.handleButton button pressed under target u) := by
  unfold handleButton
  split
  · exact .refl
  rename_i shown
  have active : o.view.isActive = true := by
    cases on : o.view.active
    · simp [on] at shown
    · simp [Multitasking.isActive, on]
  split
  · exact .refl
  split
  · exact Moves.refl.keep rfl rfl fun _ => id
  · unfold release
    split
    · split
      · exact ((Moves.refl.perform _).refresh active).drop u
      · exact Moves.refl.drop u
    · split
      · refine Moves.drop (.refresh ?_ ?_) u
        · exact (Moves.refl.perform (.reorderWorkspace o.view.pressedWorkspace target)).keep rfl rfl fun _ => id
        · exact active
      · exact Moves.refl.drop u
    · unfold releaseClick
      split
      · exact (moves_click active u).keep rfl rfl fun _ => id
      · exact Moves.refl.keep rfl rfl fun _ => id

theorem mem_pending_forget {gone : Nat} (pending : (overview.forget gone).view.pendingActivation = some surface ∨
    (overview.forget gone).view.pendingClose = some surface) :
    surface ≠ gone ∧ (overview.view.pendingActivation = some surface ∨ overview.view.pendingClose = some surface) := by
  simp only [forget, Option.filter_eq_some_iff, bne_iff_ne] at pending
  rcases pending with ⟨pending, apart⟩ | ⟨pending, apart⟩
  · exact ⟨apart, .inl pending⟩
  · exact ⟨apart, .inr pending⟩

theorem moves_surfaceUnavailable (o : Overview) (gone : Option Nat) (u : Bool) :
    Moves o (o.surfaceUnavailable gone u) := by
  unfold surfaceUnavailable
  split
  · exact .refl
  · rename_i gone
    split
    · rename_i active
      have forgot : Moves o (o.forget gone) := by
        refine Moves.refl.keep rfl rfl fun surface mem => ?_
        simp only [heldSurfaces, List.mem_append, Option.mem_toList, forget, Option.filter_eq_some_iff] at mem ⊢
        rcases mem with (listed | pending) | pending
        · exact .inl (.inl listed)
        · exact .inl (.inr pending.1)
        · exact .inr pending.1
      exact (forgot.refresh active).updateView u
    · exact .refl

theorem browses_surfaceUnavailable (o : Overview) (gone : Option Nat) (u : Bool) :
    Browses o (o.surfaceUnavailable gone u) :=
  (moves_surfaceUnavailable o gone u).browses

theorem step_moves (overview : Overview) {e : Event} (own : ∀ inner surface usable, e ≠ .desktop inner surface usable) :
    Moves overview (step overview e) := by
  cases e with
  | desktop inner given usable => exact absurd rfl (own inner given usable)
  | toggle usable => exact moves_toggle overview usable
  | cancel usable => exact moves_cancel overview usable
  | key e usable => exact moves_handleKey overview e usable
  | motion hit usable => exact moves_handleMotion overview hit usable
  | button button pressed under target usable => exact moves_handleButton overview button pressed under target usable
  | tick finished usable => exact moves_updateAnimation overview finished usable

/-- What the view holds after it was told that a window goes: it may still be the
window itself, if the compositor still lists it. -/
theorem mem_heldSurfaces_told {gone : Nat} (tidy : overview.view.isActive = false → overview.heldSurfaces = [])
    (mem : surface ∈ (overview.surfaceUnavailable (some gone) usable).heldSurfaces) :
    surface ∈ overview.sources.mappedSurfaces ∨ surface ≠ gone ∧
        (overview.view.pendingActivation = some surface ∨ overview.view.pendingClose = some surface) := by
  unfold surfaceUnavailable updateView at mem
  dsimp only at mem
  split at mem
  · split at mem
    · rw [completeClose_heldSurfaces] at mem
      cases mem
    · rcases mem_heldSurfaces_refresh mem with mapped | pending
      · exact .inl mapped
      · exact .inr (mem_pending_forget pending)
  · rename_i closed
    rw [tidy (Bool.eq_false_iff.mpr closed)] at mem
    cases mem

/-- The view is told of a mapped window: it holds the window afterwards exactly
if it is open, has a screen and lists the window once more. -/
theorem told_holds_iff {id : Nat} (u : Bool) (sound : overview.sources.Sound) (tidy : overview.view.isActive = false → overview.heldSurfaces = [])
    (held : overview.sources.surfaceOf id = some surface) :
    surface ∈ (overview.surfaceUnavailable (some surface) u).heldSurfaces ↔
      overview.view.isActive = true ∧ u = true ∧ overview.sources.lists id = true := by
  unfold surfaceUnavailable
  dsimp only
  split
  · rename_i active
    unfold updateView
    split
    · rename_i unusable
      rw [completeClose_heldSurfaces]
      have dark : u = false := by
        simp only [Bool.and_eq_true, Bool.not_eq_true'] at unusable
        exact unusable.2
      simp [dark]
    · rename_i shown
      have s : u = true := by
        have still : ((overview.forget surface).refresh).view.isActive = true := active
        simpa [still] using shown
      rw [iff_true_intro active, iff_true_intro s, true_and, true_and]
      constructor
      · intro mem
        have listed : ∃ en ∈ overview.sources.listedEntries, en.surface = surface := by
          simp only [heldSurfaces, refresh, List.mem_append, List.mem_map, Option.mem_toList] at mem
          rcases mem with ((listed | visible) | pending) | pending
          · exact listed
          · exact mem_visibleOn visible
          · exact absurd rfl (mem_pending_forget (.inl pending)).1
          · exact absurd rfl (mem_pending_forget (.inr pending)).1
        obtain ⟨id', lists, same⟩ := mem_listedEntries.mp listed
        rwa [sound.distinct held same]
      · intro lists
        obtain ⟨en, listed, same⟩ := mem_listedEntries.mpr ⟨id, lists, held⟩
        simp only [heldSurfaces, List.mem_append]
        exact .inl (.inl (.inl (List.mem_map.mpr ⟨en, listed, same⟩)))
  · rename_i closed
    rw [tidy (Bool.eq_false_iff.mpr closed)]
    simp [closed]

abbrev Sound (overview : Overview) : Prop := overview.holder.Sound

def HoldsMapped (overview : Overview) : Prop :=
  ∀ surface ∈ overview.heldSurfaces, surface ∈ overview.sources.mappedSurfaces

theorem sound_initial : initial.Sound := ⟨Sources.sound_initial, fun _ => rfl⟩

def relists (overview : Overview) (id : Nat) (usable : Bool) : Bool :=
  overview.view.isActive && usable && overview.sources.lists id

structure Unmapped (before : Overview) (id surface : Nat) (usable : Bool) (after : Overview) : Prop where
  sound : after.Sound
  hidden : after.sources.desktop.windows.test id (·.mapped) = false
  surfaceOf : after.sources.surfaceOf id = some surface
  mapped : ∀ other, other ∈ after.sources.mappedSurfaces ↔ other ∈ before.sources.mappedSurfaces ∧ other ≠ surface
  held : ∀ other ∈ after.heldSurfaces, other ∈ before.sources.mappedSurfaces
  stale : surface ∈ after.heldSurfaces ↔ before.relists id usable = true

theorem onUnmap_unmapped {id : Nat} (sound : overview.Sound) (good : overview.HoldsMapped)
    (mapped : overview.sources.desktop.windows.test id (·.mapped) = true)
    (own : overview.sources.surfaceOf id = some surface) (u : Bool) :
    Unmapped overview id surface u (overview.onUnmap id u) := by
  have browses := browses_surfaceUnavailable overview (some surface) u
  have told := browses.sound sound
  unfold onUnmap
  rw [if_pos mapped, own]
  generalize overview.sources.desktop.hadFocus id = hadFocus
  have drops := drops_finishUnmap (overview.surfaceUnavailable (some surface) u).sources id hadFocus
  have kept : (overview.surfaceUnavailable (some surface) u).sources.surfaceOf id = some surface :=
    browses.arranges.surfaceOf.trans own
  refine ⟨⟨drops.sound told.sources, told.tidy⟩, drops.unmapped, ?_, fun id' => ?_, fun id' mem => ?_, ?_⟩
  · rw [finishUnmap_surfaceOf, kept]
  · rw [drops.mem_mappedSurfaces told.sources, browses.arranges.mem_mappedSurfaces, kept, ne_eq, Option.some_inj,
      eq_comm]
  · rcases mem_heldSurfaces_told sound.tidy mem with shown | ⟨_, pending⟩
    · exact shown
    · exact good id' (mem_heldSurfaces_of_pending pending)
  · have holds := told_holds_iff u sound.sources sound.tidy own
    simp only [relists, Bool.and_eq_true, and_assoc]
    exact holds

theorem Unmapped.holdsMapped_iff {id : Nat} (unmapped : Unmapped before id surface usable after) :
    after.HoldsMapped ↔ surface ∉ after.heldSurfaces := by
  constructor
  · intro good mem
    exact ((unmapped.mapped surface).mp (good surface mem)).2 rfl
  · intro free id' mem
    apply (unmapped.mapped id').mpr
    refine ⟨unmapped.held id' mem, ?_⟩
    rintro rfl
    exact free mem

section

variable {id : Nat} (hidden : overview.sources.desktop.windows.test id (·.mapped) = false) (usable : Bool)

include hidden

theorem onUnmap_of_unmapped : overview.onUnmap id usable = overview := by
  unfold onUnmap
  rw [hidden]
  rfl

theorem relists_of_unmapped : overview.relists id usable = false := by
  have unlisted : overview.sources.lists id = false := by
    rw [Bool.eq_false_iff]
    intro listed
    obtain ⟨t, found, kept⟩ := Windows.test_iff.mp listed
    simp only [Bool.and_eq_true] at kept
    simp [Windows.test, found, kept] at hidden
  simp [relists, unlisted]

end

theorem HoldsMapped.not_held {id : Nat} (good : overview.HoldsMapped) (sound : overview.Sound)
    (hidden : overview.sources.desktop.windows.test id (·.mapped) = false)
    (own : overview.sources.surfaceOf id = some surface) : surface ∉ overview.heldSurfaces := by
  intro mem
  cases hidden.symm.trans (sound.sources.mapped_of_mem (good surface mem) own)

theorem holdsMapped_dropped {src : Sources} {id : Nat} (drops : Drops id overview.sources src)
    (sound : overview.Sound) (hidden : overview.sources.desktop.windows.test id (·.mapped) = false) :
    HoldsMapped { overview with sources := src } ↔ overview.HoldsMapped := by
  unfold HoldsMapped
  simp only [drops.mem_mappedSurfaces_of_unmapped sound.sources hidden]
  exact .rfl

theorem holdsMapped_told_again {id : Nat} (unmapped : Unmapped before id surface usable after) :
    (after.surfaceUnavailable (some surface) usable).HoldsMapped := by
  intro id' mem
  rw [(browses_surfaceUnavailable after (some surface) usable).arranges.mem_mappedSurfaces]
  rcases mem_heldSurfaces_told unmapped.sound.tidy mem with mapped | ⟨ne, pending⟩
  · exact mapped
  · apply (unmapped.mapped id').mpr
    exact ⟨unmapped.held id' (mem_heldSurfaces_of_pending pending), ne⟩

/-- The surface of the window an event unmaps or destroys. -/
def departing (overview : Overview) : Event → Option Nat
  | .desktop (.unmap id) _ _ =>
    if overview.sources.desktop.windows.test id (·.mapped) then overview.sources.surfaceOf id else none
  | .desktop (.dissociate id) _ _ =>
    if overview.sources.desktop.windows.test id fun toplevel => toplevel.xwayland && toplevel.mapped then
      overview.sources.surfaceOf id
    else none
  | .desktop (.destroy id) _ _ => overview.sources.surfaceOf id
  | _ => none

/-- The window that goes is not listed once more, or the view is told again when
it is gone, which it is of the windows of native clients only. -/
def departureSafe (overview : Overview) : Event → Bool
  | .desktop (.unmap id) _ usable => !overview.relists id usable
  | .desktop (.dissociate id) _ usable =>
    !(overview.sources.desktop.windows.test id (·.xwayland) && overview.relists id usable)
  | .desktop (.destroy id) _ usable =>
    !(overview.sources.desktop.windows.test id (·.xwayland) && overview.relists id usable)
  | _ => true

/-- After the handling of a window's end the view does not hold it. -/
def Releases (overview : Overview) (event : Event) : Prop :=
  ∀ surface, overview.departing event = some surface → surface ∉ (step overview event).heldSurfaces

theorem step_quiet {e : Event} (quiet : ∀ inner surface usable, e = .desktop inner surface usable →
      ends inner = false) (sound : overview.Sound) :
    (step overview e).Sound ∧ (overview.HoldsMapped → (step overview e).HoldsMapped) := by
  by_cases own : ∀ inner surface usable, e ≠ .desktop inner surface usable
  · have browses := (step_moves overview own).browses
    exact ⟨browses.sound sound, browses.mapped⟩
  · push Not at own
    obtain ⟨inner, given, usable, rfl⟩ := own
    have lasting := quiet inner given usable rfl
    have plain : step overview (.desktop inner given usable) =
        { overview with sources := overview.sources.step inner given } := by
      cases inner <;> first | rfl | cases lasting
    have extended := step_extends sound.sources inner lasting given
    rw [plain]
    exact ⟨⟨extended.sound, sound.tidy⟩, fun good surface mem => extended.mapped surface (good surface mem)⟩

theorem onUnmap_sound (sound : overview.Sound) (id : Nat) (u : Bool) : (overview.onUnmap id u).Sound := by
  unfold onUnmap
  split
  · exact ((browses_surfaceUnavailable overview _ u).sound sound).dropped (drops_finishUnmap _ id _)
  · exact sound

theorem onUnmap_hidden (o : Overview) (id : Nat) (u : Bool) :
    (o.onUnmap id u).sources.desktop.windows.test id (·.mapped) = false := by
  unfold onUnmap
  rw [apply_ite Overview.sources]
  exact unmapped_finishUnmap _ _

theorem step_sound (o : Overview) (e : Event) (sound : o.Sound) : (step o e).Sound := by
  by_cases quiet : ∀ inner surface usable, e = .desktop inner surface usable → ends inner = false
  · exact (step_quiet quiet sound).1
  · push Not at quiet
    obtain ⟨inner, given, usable, rfl, ending⟩ := quiet
    cases inner with
    | unmap id => exact onUnmap_sound sound id usable
    | dissociate id =>
      show (o.onDissociate id usable).Sound
      unfold onDissociate
      split
      · exact (onUnmap_sound sound id usable).dropped (drops_finishDissociate _ id)
      · exact sound
    | destroy id =>
      show (o.onDestroy id usable).Sound
      unfold onDestroy
      have told := (browses_surfaceUnavailable (o.onUnmap id usable)
        (if o.sources.desktop.windows.test id (·.xwayland) then none
          else (o.onUnmap id usable).sources.surfaceOf id) usable).sound (onUnmap_sound sound id usable)
      exact told.dropped (drops_finishDestroy _ id)
    | _ => exact absurd rfl ending

/-- A step that has the property and keeps the view's windows mapped exactly if it
meets the condition. -/
structure Exact (overview : Overview) (event : Event) : Prop where
  releases : overview.Releases event ↔ overview.departureSafe event = true
  next : overview.departureSafe event = true → (step overview event).HoldsMapped

section

variable (sound : overview.Sound) (good : overview.HoldsMapped) (id given : Nat) (usable : Bool)

include sound good

theorem exact_unmap : Exact overview (.desktop (.unmap id) given usable) := by
  cases mapped : overview.sources.desktop.windows.test id (·.mapped) with
  | true =>
    obtain ⟨surface, own⟩ := sound.sources.surface_of_mapped mapped
    have unmapped := onUnmap_unmapped sound good mapped own usable
    constructor
    · simp only [Releases, departing, departureSafe, mapped, own, if_true, Option.some_inj, forall_eq']
      rw [Bool.not_eq_true', ← Bool.not_eq_true, ← unmapped.stale]
      exact .rfl
    · intro safe
      apply unmapped.holdsMapped_iff.mpr
      rw [unmapped.stale]
      simpa [departureSafe] using safe
  | false =>
    have same : step overview (.desktop (.unmap id) given usable) = overview := onUnmap_of_unmapped mapped usable
    constructor
    · simp [Releases, departing, departureSafe, mapped, relists_of_unmapped mapped usable]
    · intro _
      rwa [same]

theorem exact_of_unmap {e : Event} {src : Sources} (drops : Drops id (overview.onUnmap id usable).sources src)
    (after : step overview e = { overview.onUnmap id usable with sources := src })
    (safe : overview.departureSafe e = overview.departureSafe (.desktop (.unmap id) given usable))
    (releases : overview.Releases e ↔ overview.Releases (.desktop (.unmap id) given usable)) :
    Exact overview e := by
  have unmap := exact_unmap sound good id given usable
  constructor
  · rw [safe, ← unmap.releases]
    exact releases
  · rw [safe, after, holdsMapped_dropped drops (onUnmap_sound sound id usable) (onUnmap_hidden overview id usable)]
    exact unmap.next

theorem exact_dissociate : Exact overview (.desktop (.dissociate id) given usable) := by
  cases x11 : overview.sources.desktop.windows.test id (·.xwayland) with
  | false =>
    have same : step overview (.desktop (.dissociate id) given usable) = overview := by
      show overview.onDissociate id usable = overview
      simp [onDissociate, x11]
    have nobody : overview.departing (.desktop (.dissociate id) given usable) = none := by
      apply if_neg
      simp [Windows.test_and, x11]
    exact ⟨by simp [Releases, nobody, departureSafe, x11], fun _ => by rwa [same]⟩
  | true =>
    -- the surface is lost only after the unmap, which already settles what the view holds
    have after : step overview (.desktop (.dissociate id) given usable) = { overview.onUnmap id usable with
        sources := (overview.onUnmap id usable).sources.finishDissociate id } := by
      show overview.onDissociate id usable = _
      simp [onDissociate, x11]
    have leaves : overview.departing (.desktop (.dissociate id) given usable) =
        overview.departing (.desktop (.unmap id) given usable) := by
      simp only [departing, Windows.test_and, x11, Bool.true_and]
    have safe : overview.departureSafe (.desktop (.dissociate id) given usable) =
        overview.departureSafe (.desktop (.unmap id) given usable) := by
      simp [departureSafe, x11]
    refine exact_of_unmap sound good id given usable (drops_finishDissociate _ id) after safe ?_
    unfold Releases
    rw [leaves, after]
    exact .rfl

end

theorem onUnmap_surfaceOf (o : Overview) (id : Nat) (u : Bool) :
    (o.onUnmap id u).sources.surfaceOf id = o.sources.surfaceOf id := by
  unfold onUnmap
  split
  · dsimp only
    rw [finishUnmap_surfaceOf]
    exact (browses_surfaceUnavailable o _ u).arranges.surfaceOf
  · rfl

theorem holdsMapped_destroyed (sound : overview.Sound) (good : overview.HoldsMapped) (id : Nat) (u : Bool) :
    ((overview.onUnmap id u).surfaceUnavailable (overview.sources.surfaceOf id) u).HoldsMapped := by
  cases mapped : overview.sources.desktop.windows.test id (·.mapped) with
  | true =>
    obtain ⟨surface, own⟩ := sound.sources.surface_of_mapped mapped
    rw [own]
    exact holdsMapped_told_again (onUnmap_unmapped sound good mapped own u)
  | false =>
    rw [onUnmap_of_unmapped mapped]
    exact (browses_surfaceUnavailable overview _ u).mapped good

theorem exact_destroy (sound : overview.Sound) (good : overview.HoldsMapped) (id given : Nat) (u : Bool) :
    Exact overview (.desktop (.destroy id) given u) := by
  cases x11 : overview.sources.desktop.windows.test id (·.xwayland) with
  | true =>
    have after : step overview (.desktop (.destroy id) given u) = { overview.onUnmap id u with
        sources := (overview.onUnmap id u).sources.finishDestroy id } := by
      show overview.onDestroy id u = _
      simp [onDestroy, surfaceUnavailable, x11]
    have safe : overview.departureSafe (.desktop (.destroy id) given u) =
        overview.departureSafe (.desktop (.unmap id) given u) := by
      simp [departureSafe, x11]
    refine exact_of_unmap sound good id given u (drops_finishDestroy _ id) after safe ?_
    unfold Releases
    rw [after]
    cases shown : overview.sources.desktop.windows.test id (·.mapped) with
    | true =>
      simp only [departing, shown, if_true]
      exact .rfl
    | false =>
      refine iff_of_true ?_ (by simp [departing, shown])
      intro surface own
      have free := good.not_held sound shown own
      rwa [← onUnmap_of_unmapped shown u] at free
  | false =>
    have after : step overview (.desktop (.destroy id) given u) =
        let told := (overview.onUnmap id u).surfaceUnavailable (overview.sources.surfaceOf id) u
        { told with sources := told.sources.finishDestroy id } := by
      show overview.onDestroy id u = _
      simp [onDestroy, x11, onUnmap_surfaceOf]
    have clean := holdsMapped_destroyed sound good id u
    have browses := browses_surfaceUnavailable (overview.onUnmap id u) (overview.sources.surfaceOf id) u
    have told := browses.sound (onUnmap_sound sound id u)
    have hidden := browses.arranges.mapped.trans (onUnmap_hidden overview id u)
    have safe : overview.departureSafe (.desktop (.destroy id) given u) = true := by
      simp [departureSafe, x11]
    constructor
    · refine iff_of_true ?_ safe
      intro surface own
      rw [after]
      apply clean.not_held told hidden
      rw [browses.arranges.surfaceOf, onUnmap_surfaceOf]
      exact own
    · intro _
      rw [after]
      exact (holdsMapped_dropped (drops_finishDestroy _ id) told hidden).mpr clean

theorem step_exact (o : Overview) (e : Event) (sound : o.Sound) (good : o.HoldsMapped) : Exact o e := by
  by_cases quiet : ∀ inner surface usable, e = .desktop inner surface usable → ends inner = false
  · have nobody : o.departing e = none ∧ o.departureSafe e = true := by
      cases e with
      | desktop inner given usable =>
        have lasting := quiet inner given usable rfl
        cases inner <;> first | exact ⟨rfl, rfl⟩ | cases lasting
      | _ => exact ⟨rfl, rfl⟩
    exact ⟨by simp [Releases, nobody], fun _ => (step_quiet quiet sound).2 good⟩
  · push Not at quiet
    obtain ⟨inner, given, usable, rfl, ending⟩ := quiet
    cases inner with
    | unmap id => exact exact_unmap sound good id given usable
    | dissociate id => exact exact_dissociate sound good id given usable
    | destroy id => exact exact_destroy sound good id given usable
    | _ => exact absurd rfl ending

/-- In every run, no window the view is told to be gone stays in its lists or its
pending requests, exactly if no unmapped or destroyed window is listed once more
while it goes: the view is closed or loses its screen, the window is none it
lists, or it is a native window that is destroyed. -/
theorem gone_windows_released_iff (events : List Event) :
    Transition.Along step Releases initial events ↔
      Transition.Along step (fun overview event => overview.departureSafe event = true) initial events :=
  Transition.along_iff_along step_sound (fun overview event sound good => (step_exact overview event sound good).releases)
    (fun overview event sound good => (step_exact overview event sound good).next) sound_initial
    (fun _ member => by cases member) events

/-- While the view is closed it holds no window at all: none is listed or visible, and
none waits to be activated or closed. -/
theorem closed_holds_nothing (events : List Event) :
    Transition.Throughout step (fun overview => overview.view.isActive = false → overview.heldSurfaces = [])
      initial events :=
  (Transition.throughout_invariant step_sound sound_initial events).mono fun _ sound => sound.tidy

/-- A window is mapped and the view opened; the window is unmapped and stays in
both lists. -/
theorem unmapped_window_stays_listed :
    let opened := Transition.run step initial
      [.desktop (.newToplevel false) 7 true, .desktop (.map 0 false) 0 true, .toggle true]
    opened.departing (.desktop (.unmap 0) 0 true) = some 7 ∧
      7 ∈ ((step opened (.desktop (.unmap 0) 0 true)).entries.map (·.surface)) ∧
      7 ∈ (step opened (.desktop (.unmap 0) 0 true)).view.visibleEntries ∧
      (step opened (.desktop (.unmap 0) 0 true)).sources.mappedSurfaces = [] := by
  decide +kernel

end

end Overview
end FlakeWM.View
