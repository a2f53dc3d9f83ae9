import FlakeWM.Desktop.ForeignToplevels
import FlakeWM.Desktop.WindowFaces
import FlakeWM.Lib.Staleness

/-! The states last sent on the handles of the windows.

The handles are a copy of the windows' states that is refreshed window by window. A
change of a window or of the focus makes entries stale, and the compositor has
to send them again before the operation ends. -/

set_option autoImplicit false

namespace FlakeWM.Desktop

open Windows (Alters Alike)

def Windows.Surfaced (windows : Windows) : Prop :=
  ∀ id, windows.test id (·.mapped) = true → windows.test id (·.surface) = true

variable {s : State}

theorem State.Staged.surfaced (staged : s.Staged) : s.windows.Surfaced :=
  fun _ mapped => (staged.mapped_mem mapped).2

theorem Windows.Surfaced.keepsLives {before after : Windows} (surfaced : before.Surfaced)
    (kept : before.KeepsLives after) : after.Surfaced := by
  intro id mapped
  rw [kept.test fun _ _ same => same.mapped] at mapped
  rw [kept.test fun _ _ same => same.surface]
  exact surfaced id mapped

namespace State

def tells (state : State) (id : Nat) : Bool := state.acceptsFocus id && state.exclusiveLayer.isNone

/-- `FocusNextToplevel` finds nothing that could have the focus. -/
def drops (state : State) (excluding : Option Nat) : Bool :=
  !state.sessionLocked && state.exclusiveLayer.isNone && (state.nextCandidate excluding).isNone

def focusShown (state : State) : Bool :=
  match state.focus with
  | some (.toplevel id) => state.windows.test id (·.mapped)
  | _ => false

theorem focusShown_of_mapped {id : Nat} (focused : s.focus = some (.toplevel id))
    (mapped : s.windows.test id (·.mapped) = true) : s.focusShown = true := by
  simp only [focusShown, focused, mapped]

end State

namespace World

/-- What `UpdateToplevel` would send of a mapped window now. -/
def due (world : World) (id : Nat) : Option Advert :=
  (world.desktop.windows.face id).map fun face =>
    ⟨face.1, face.2, world.mirror.requested id, decide (world.desktop.focus = some (.toplevel id))⟩

structure Tracks (stale : Nat → Prop) (world : World) : Prop where
  handled : ∀ id, (world.mirror.handles id).isSome = world.desktop.windows.test id (·.mapped)
  agrees : Staleness.AgreesOff stale world.mirror.handles world.due

def Advertises (world : World) : Prop := Tracks (fun _ => False) world

section

variable {stale touched : Nat → Prop} {w after : World} {id : Nat}

theorem due_unmapped (hidden : w.desktop.windows.test id (·.mapped) = false) : w.due id = none := by
  rw [due, Windows.face_unmapped hidden, Option.map_none]

section

variable (tracks : w.Tracks stale)

include tracks

theorem Tracks.unmapped (hidden : w.desktop.windows.test id (·.mapped) = false) : w.mirror.handles id = none := by
  rw [← Option.isNone_iff_eq_none, ← Option.not_isSome, tracks.handled, hidden]
  rfl

theorem Tracks.mono (more : ∀ id, stale id → w.desktop.windows.test id (·.mapped) = true → touched id) :
    w.Tracks touched := by
  refine ⟨tracks.handled, ?_⟩
  intro id fresh
  cases mapped : w.desktop.windows.test id (·.mapped) with
  | false => rw [tracks.unmapped mapped, due_unmapped mapped]
  | true =>
    apply tracks.agrees
    exact fun old => fresh (more id old mapped)

theorem Tracks.silent (handles : after.mirror.handles = w.mirror.handles)
    (mapped : ∀ id, after.desktop.windows.test id (·.mapped) = w.desktop.windows.test id (·.mapped))
    (same : ∀ id, ¬ touched id → after.due id = w.due id) :
    after.Tracks fun id => stale id ∨ touched id := by
  constructor
  · intro id
    rw [handles, mapped, tracks.handled]
  · rw [handles]
    exact tracks.agrees.change same

theorem Tracks.updateKeyboardFocus (x : Option Surface) : (w.updateKeyboardFocus x).Tracks stale :=
  ⟨tracks.handled, tracks.agrees⟩

theorem Tracks.change (f : State → State) (alters : Alters touched w.desktop.windows (f w.desktop).windows)
    (focus : (f w.desktop).focus = w.desktop.focus) :
    (w.change f).Tracks fun id => stale id ∨ touched id := by
  apply tracks.silent
  · rfl
  · exact alters.mapped
  · intro id fresh
    simp only [due, change_desktop, change_mirror, alters.same id fresh, focus]

theorem Tracks.alike (f : State → State) (alike : Alike w.desktop.windows (f w.desktop).windows)
    (focus : (f w.desktop).focus = w.desktop.focus) : (w.change f).Tracks stale := by
  apply (tracks.change f alike focus).mono
  intro id old _
  exact old.resolve_right not_false

theorem Tracks.refocus (f : State → State) (ws : (f w.desktop).windows = w.desktop.windows) :
    (w.change f).Tracks fun id => stale id ∨ (w.desktop.focus = some (.toplevel id) ∨
      (f w.desktop).focus = some (.toplevel id)) := by
  apply tracks.silent
  · rfl
  · intro id
    rw [change_desktop, ws]
  · intro id unfocused
    rw [not_or] at unfocused
    simp only [due, change_desktop, change_mirror, ws, unfocused, decide_false]

end

theorem orphan_focus_toplevel {gone : Surface → Bool} (there : ¬ gone (.toplevel id) = true) :
    (s.orphan gone).focus = some (.toplevel id) ↔ s.focus = some (.toplevel id) := by
  rw [State.orphan_focus_iff s (by simp), and_iff_left (by simpa using there)]

theorem Tracks.orphan (tracks : w.Tracks stale) (gone : Surface → Bool) :
    (w.orphan gone).Tracks fun id => stale id ∨ gone (.toplevel id) = true := by
  apply tracks.silent
  · rfl
  · exact fun _ => rfl
  · intro id there
    simp only [due, World.orphan, Mirror.orphan, State.orphan_windows, orphan_focus_toplevel there]

theorem updateToplevel_handles (tracks : w.Tracks stale) (id : Nat) :
    (w.updateToplevel (some (.toplevel id))).mirror.handles = Function.update w.mirror.handles id (w.due id) := by
  cases mapped : w.desktop.windows.test id (·.mapped) with
  | false =>
    have none := tracks.unmapped mapped
    rw [due_unmapped mapped, ← none, Function.update_eq_self]
    simp [World.updateToplevel, Mirror.updateToplevel, none]
  | true =>
    have some := tracks.handled id
    rw [mapped, Option.isSome_iff_exists] at some
    obtain ⟨advert, some⟩ := some
    obtain ⟨t, found, shown⟩ := Windows.test_iff.mp mapped
    simp [World.updateToplevel, Mirror.updateToplevel, Mirror.advert, due, some, found, Windows.face_found found shown]

theorem Tracks.updateToplevel (tracks : w.Tracks stale) (x : Option Surface) :
    (w.updateToplevel x).Tracks fun id => stale id ∧ x ≠ some (.toplevel id) := by
  match x with
  | some (.toplevel id) =>
    have same : (w.updateToplevel (some (.toplevel id))).due = w.due := by
      funext id'
      unfold due World.updateToplevel
      rw [Mirror.updateToplevel_frame]
    have handles := updateToplevel_handles tracks id
    constructor
    · intro id'
      rw [handles, updateToplevel_desktop]
      by_cases own : id' = id
      · rw [own, Function.update_self, due, Option.isSome_map, Windows.face_isSome]
      · rw [Function.update_of_ne own, tracks.handled]
    · rw [handles, same]
      apply (tracks.agrees.refresh id).mono
      rintro id' ⟨old, ne⟩
      refine ⟨old, ?_⟩
      rintro ⟨⟩
      exact ne rfl
  | none | some (.layer _) | some (.lock _) | some .other =>
    apply tracks.mono
    intro id' old _
    exact ⟨old, by simp⟩

theorem Tracks.told {x : Option Surface} (tracks : w.Tracks fun id' => id' = id)
    (sent : w.desktop.windows.test id (·.mapped) = true → x = some (.toplevel id)) :
    (w.updateToplevel x).Advertises := by
  apply (tracks.updateToplevel x).mono
  rintro id' ⟨rfl, unsent⟩ mapped
  exact unsent (sent mapped)

theorem surfaceOf_mapped (surfaced : s.windows.Surfaced) (mapped : s.windows.test id (·.mapped) = true) :
    s.surfaceOf id = some (.toplevel id) :=
  if_pos (surfaced id mapped)

theorem Tracks.updateEach (tracks : w.Tracks stale) (surfaced : w.desktop.windows.Surfaced) (ids : List Nat) :
    (w.updateEach ids).Tracks fun id => stale id ∧ id ∉ ids := by
  induction ids generalizing w stale with
  | nil =>
    apply tracks.mono
    intro id old _
    exact ⟨old, List.not_mem_nil⟩
  | cons first rest ih =>
    rw [updateEach_cons]
    split
    · rename_i mapped
      have sent := tracks.updateToplevel (w.desktop.surfaceOf first)
      rw [surfaceOf_mapped surfaced mapped] at sent ⊢
      apply (ih sent surfaced).mono
      rintro id ⟨⟨old, apart⟩, later⟩ _
      refine ⟨old, ?_⟩
      rw [List.mem_cons, not_or]
      exact ⟨fun own => apart (by rw [own]), later⟩
    · rename_i hidden
      apply (ih tracks surfaced).mono
      rintro id ⟨old, later⟩ mapped
      refine ⟨old, ?_⟩
      rw [List.mem_cons, not_or]
      refine ⟨?_, later⟩
      rintro rfl
      rw [updateEach_desktop] at mapped
      exact hidden mapped

theorem Tracks.updateToplevels (tracks : w.Tracks stale) (surfaced : w.desktop.windows.Surfaced) :
    w.updateToplevels.Advertises := by
  apply (tracks.updateEach surfaced _).mono
  rintro id ⟨_, beyond⟩ mapped
  rw [updateEach_desktop] at mapped
  obtain ⟨t, found, _⟩ := Windows.test_iff.mp mapped
  rw [List.mem_range] at beyond
  exact beyond (List.getElem?_eq_some_iff.mp found).1

end

section

variable {stale : Nat → Prop} {w : World}

theorem Tracks.focusLayerSurface (tracks : w.Tracks stale) (id : Nat) : (w.focusLayerSurface id).Tracks stale := by
  unfold World.focusLayerSurface
  split
  · exact tracks
  · split
    · exact tracks
    · have entered := tracks.refocus (·.enter (.layer id)) (State.enter_windows _ _)
      apply ((entered.updateKeyboardFocus (some (.layer id))).updateToplevel w.desktop.focus).mono
      rintro id' ⟨old | focused | focused, ne⟩ _
      · exact old
      · exact absurd focused ne
      · rw [State.enter_eq] at focused
        split at focused
        · cases focused
        · exact absurd focused ne

theorem Tracks.focusToplevel (tracks : w.Tracks stale) (id : Nat) :
    (w.focusToplevel id).Tracks fun id' => stale id' ∧ ¬ (w.desktop.tells id = true ∧ id' = id) := by
  unfold World.focusToplevel State.tells
  split
  · rename_i refused
    apply tracks.mono
    rw [Bool.not_eq_true'] at refused
    simp only [refused, Bool.false_and, Bool.false_eq_true, false_and, not_false_eq_true, and_true]
    exact fun _ old _ => old
  · cases w.desktop.exclusiveLayer with
    | some layer =>
      apply (tracks.focusLayerSurface layer).mono
      simp only [Option.isNone_some, Bool.and_false, Bool.false_eq_true, false_and, not_false_eq_true, and_true]
      exact fun _ old _ => old
    | none =>
      dsimp only
      split
      · apply ((tracks.updateKeyboardFocus _).updateToplevel _).mono
        rintro id' ⟨old, ne⟩ _
        exact ⟨old, fun told => ne (by rw [told.2])⟩
      · have entered := tracks.refocus (fun s => { s with stack := s.restack id }.enter (.toplevel id))
          (State.enter_windows _ _)
        apply (((entered.updateKeyboardFocus (some (.toplevel id))).updateToplevel w.desktop.focus).updateToplevel
          (some (.toplevel id))).mono
        rintro id' ⟨⟨old | focused | focused, ne⟩, unsent⟩ _
        · exact ⟨old, fun told => unsent (by rw [told.2])⟩
        · exact absurd focused ne
        · rw [State.enter_eq] at focused
          split at focused
          · exact absurd focused unsent
          · exact absurd focused ne

theorem Tracks.focusNextToplevel (tracks : w.Tracks stale) (ex : Option Nat) : (w.focusNextToplevel ex).Tracks fun id =>
      stale id ∨ w.desktop.drops ex = true ∧ w.desktop.focus = some (.toplevel id) := by
  unfold World.focusNextToplevel State.drops
  split
  · apply tracks.mono
    exact fun _ old _ => .inl old
  · rename_i unlocked
    cases w.desktop.exclusiveLayer with
    | some layer =>
      apply (tracks.focusLayerSurface layer).mono
      exact fun _ old _ => .inl old
    | none =>
      cases w.desktop.nextCandidate ex with
      | some candidate =>
        apply (tracks.focusToplevel candidate).mono
        exact fun _ old _ => .inl old.1
      | none =>
        apply ((tracks.refocus (·.clearFocus) rfl).updateKeyboardFocus none).mono
        rintro id (old | focused | focused) _
        · exact .inl old
        · rw [Bool.not_eq_true] at unlocked
          exact .inr ⟨by simp [unlocked], focused⟩
        · cases focused

end

end World
end FlakeWM.Desktop
