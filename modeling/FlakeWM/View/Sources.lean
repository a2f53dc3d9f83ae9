import FlakeWM.Desktop.Stacking

/-! The windows behind an overview, known by their surfaces.

An overview keeps surfaces and asks the compositor for the window of a surface
when it acts on one. A client may give the surface of a destroyed window to a new
one, and an X11 window gets another surface each time it is associated. -/

set_option autoImplicit false

namespace FlakeWM.View

open FlakeWM.Desktop

structure Sources where
  desktop : State
  /-- The surface each toplevel has, or had last. -/
  surfaces : List Nat
  deriving DecidableEq, Repr

namespace Sources

open Windows State

def initial : Sources := ⟨.initial, []⟩

/-- `Toplevel::Surface`. -/
def surfaceOf (sources : Sources) (id : Nat) : Option Nat :=
  if sources.desktop.windows.test id (·.surface) then sources.surfaces[id]? else none

def toplevelForSurface (sources : Sources) (surface : Nat) : Option Nat :=
  (List.range sources.surfaces.length).find? fun id => sources.surfaceOf id == some surface

def mappedSurfaces (sources : Sources) : List Nat :=
  (List.range sources.surfaces.length).filterMap fun id =>
    if sources.desktop.windows.test id (·.mapped) then sources.surfaceOf id else none

/-- An event of the desktop. Where a window gets a surface, it is the given one,
which no other window has. -/
def step (sources : Sources) (event : Desktop.Event) (surface : Nat) : Sources :=
  match event with
  | .newToplevel _ =>
    if (sources.toplevelForSurface surface).isSome then sources
    else ⟨Desktop.step sources.desktop event, sources.surfaces ++ [surface]⟩
  | .associate id .. =>
    if (sources.toplevelForSurface surface).isSome then sources
    else if sources.desktop.windows.test id fun toplevel =>
        toplevel.xwayland && toplevel.alive && !toplevel.surface then
      ⟨Desktop.step sources.desktop event, sources.surfaces.set id surface⟩
    else sources
  | _ => { sources with desktop := Desktop.step sources.desktop event }

section

variable {src before middle after : Sources} {id surface : Nat}

theorem surfaceOf_eq_some : src.surfaceOf id = some surface ↔
    src.desktop.windows.test id (·.surface) = true ∧ src.surfaces[id]? = some surface := by
  unfold surfaceOf
  split <;> simp [*]

theorem mem_mappedSurfaces : surface ∈ src.mappedSurfaces ↔
    ∃ id, src.desktop.windows.test id (·.mapped) = true ∧ src.surfaceOf id = some surface := by
  simp only [mappedSurfaces, List.mem_filterMap, List.mem_range, Option.ite_none_right_eq_some]
  constructor
  · rintro ⟨id, _, mapped, held⟩
    exact ⟨id, mapped, held⟩
  · rintro ⟨id, mapped, held⟩
    exact ⟨id, (List.getElem?_eq_some_iff.mp (surfaceOf_eq_some.mp held).2).1, mapped, held⟩

theorem surfaceOf_ne_of_free (free : src.toplevelForSurface surface = none) : src.surfaceOf id ≠ some surface := by
  intro held
  have inside := (List.getElem?_eq_some_iff.mp (surfaceOf_eq_some.mp held).2).1
  have refused := List.find?_eq_none.mp free id (List.mem_range.mpr inside)
  simp [held] at refused

structure Sound (sources : Sources) : Prop where
  length : sources.surfaces.length = sources.desktop.windows.toplevels.length
  staged : sources.desktop.Staged
  distinct : ∀ {first second surface : Nat}, sources.surfaceOf first = some surface →
    sources.surfaceOf second = some surface → first = second

theorem sound_initial : initial.Sound where
  length := rfl
  staged := staged_initial
  distinct := fun held _ => by cases held

theorem Sound.surface_of_mapped (sound : src.Sound) (mapped : src.desktop.windows.test id (·.mapped) = true) :
    ∃ surface, src.surfaceOf id = some surface := by
  have held := (sound.staged.mapped_mem mapped).2
  obtain ⟨t, found, _⟩ := test_iff.mp mapped
  have inside : id < src.surfaces.length := by
    rw [sound.length]
    exact (List.getElem?_eq_some_iff.mp found).1
  exact ⟨src.surfaces[id], surfaceOf_eq_some.mpr ⟨held, List.getElem?_eq_getElem inside⟩⟩

theorem Sound.mapped_of_mem (sound : src.Sound) (mapped : surface ∈ src.mappedSurfaces)
    (held : src.surfaceOf id = some surface) : src.desktop.windows.test id (·.mapped) = true := by
  obtain ⟨id', mapped, same⟩ := mem_mappedSurfaces.mp mapped
  rwa [sound.distinct held same]

structure Arranges (before after : Sources) : Prop where
  surfaces : after.surfaces = before.surfaces
  lives : Windows.KeepsLives before.desktop.windows after.desktop.windows
  staged : before.desktop.Staged → after.desktop.Staged

theorem Arranges.refl (src : Sources) : Arranges src src := ⟨rfl, .refl _, id⟩

theorem Arranges.trans (first : Arranges before middle) (second : Arranges middle after) : Arranges before after :=
  ⟨second.surfaces.trans first.surfaces, first.lives.trans second.lives, second.staged ∘ first.staged⟩

theorem arranges_step (src : Sources) {e : Desktop.Event} (kept : changesLives e = false) :
    Arranges src { src with desktop := Desktop.step src.desktop e } where
  surfaces := rfl
  lives := by
    rw [step_windows]
    exact windowsAfter_keepsLives src.desktop e kept
  staged := step_staged src.desktop e

theorem Arranges.mapped (arranges : Arranges before after) :
    after.desktop.windows.test id (·.mapped) = before.desktop.windows.test id (·.mapped) :=
  arranges.lives.test fun _ _ same => same.mapped

theorem Arranges.surfaceOf (arranges : Arranges before after) : after.surfaceOf id = before.surfaceOf id := by
  unfold Sources.surfaceOf
  rw [arranges.lives.test fun _ _ same => same.surface, arranges.surfaces]

theorem Arranges.mem_mappedSurfaces (arranges : Arranges before after) :
    surface ∈ after.mappedSurfaces ↔ surface ∈ before.mappedSurfaces := by
  simp only [Sources.mem_mappedSurfaces, arranges.mapped, arranges.surfaceOf]

theorem Arranges.sound (arranges : Arranges before after) (sound : before.Sound) : after.Sound where
  length := by rw [arranges.surfaces, sound.length, arranges.lives.length]
  staged := arranges.staged sound.staged
  distinct := by
    intro first second surface
    rw [arranges.surfaceOf, arranges.surfaceOf]
    exact sound.distinct

def finishUnmap (sources : Sources) (id : Nat) (hadFocus : Bool) : Sources :=
  { sources with desktop := sources.desktop.finishUnmap id hadFocus }

def finishDissociate (sources : Sources) (id : Nat) : Sources :=
  { sources with desktop := sources.desktop.finishDissociate id }

def finishDestroy (sources : Sources) (id : Nat) : Sources :=
  { sources with desktop := sources.desktop.finishDestroy id }

structure Drops (id : Nat) (before after : Sources) : Prop where
  surfaces : after.surfaces = before.surfaces
  edits : Windows.Edits id (fun toplevel next => next.mapped = false ∧ (next.surface = true → toplevel.surface = true))
    before.desktop.windows after.desktop.windows
  staged : before.desktop.Staged → after.desktop.Staged

theorem drops_finishUnmap (src : Sources) (id : Nat) (hadFocus : Bool) :
    Drops id src (src.finishUnmap id hadFocus) where
  surfaces := rfl
  edits := by
    have edits := edits_unmap src.desktop.windows id
    rw [← finishUnmap_windows src.desktop id hadFocus] at edits
    refine edits.mono fun t next edited => ⟨edited.1, ?_⟩
    rw [edited.2]
    exact fun held => held
  staged := fun staged => staged.finishUnmap id hadFocus

theorem finishUnmap_surfaceOf (src : Sources) (id : Nat) (hadFocus : Bool) (id' : Nat) :
    (src.finishUnmap id hadFocus).surfaceOf id' = src.surfaceOf id' := by
  have same : (src.desktop.finishUnmap id hadFocus).windows.test id' (·.surface) =
      src.desktop.windows.test id' (·.surface) := by
    rw [finishUnmap_windows]
    exact (edits_unmap src.desktop.windows id).test (fun _ _ => rfl)
      (fun t next edited => by rw [edited.2]) id'
  unfold surfaceOf finishUnmap
  rw [same]

theorem drops_finishDissociate (src : Sources) (id : Nat) : Drops id src (src.finishDissociate id) where
  surfaces := rfl
  edits := (edits_loseSurface src.desktop.windows id).mono fun t next edited => by
    rw [edited]
    exact ⟨rfl, fun held => by cases held⟩
  staged := fun staged => staged.finishDissociate id

theorem drops_finishDestroy (src : Sources) (id : Nat) : Drops id src (src.finishDestroy id) where
  surfaces := rfl
  edits := (edits_loseHandle src.desktop.windows id).mono fun t next edited => by
    rw [edited]
    exact ⟨rfl, fun held => by cases held⟩
  staged := fun staged => staged.finishDestroy id

section

variable (drops : Drops id before after)

include drops

theorem Drops.mapped (id' : Nat) : after.desktop.windows.test id' (·.mapped) =
    (before.desktop.windows.test id' (·.mapped) && id' != id) :=
  drops.edits.loses (fun _ _ => rfl) (fun _ _ edited => edited.1) id'

theorem Drops.unmapped : after.desktop.windows.test id (·.mapped) = false := by simp [drops.mapped]

theorem Drops.surfaceOf_other {id' : Nat} (ne : id' ≠ id) :
    after.surfaceOf id' = before.surfaceOf id' := by
  unfold surfaceOf
  rw [drops.surfaces, drops.edits.toOnlyChanges.test ne fun _ _ => rfl]

theorem Drops.surfaceOf {id' : Nat} (held : after.surfaceOf id' = some surface) :
    before.surfaceOf id' = some surface := by
  by_cases same : id' = id
  · subst same
    obtain ⟨owned, en⟩ := surfaceOf_eq_some.mp held
    obtain ⟨next, found, owned⟩ := test_iff.mp owned
    obtain ⟨t, original, _, surface⟩ := drops.edits.own found
    exact surfaceOf_eq_some.mpr ⟨test_iff.mpr ⟨t, original, surface owned⟩, drops.surfaces ▸ en⟩
  · rwa [← drops.surfaceOf_other same]

omit drops in
theorem Drops.sound (drops : Drops id before after) (sound : before.Sound) : after.Sound where
  length := by rw [drops.surfaces, sound.length, drops.edits.length]
  staged := drops.staged sound.staged
  distinct := fun first second => sound.distinct (drops.surfaceOf first) (drops.surfaceOf second)

theorem Drops.mem_mappedSurfaces (sound : before.Sound) :
    surface ∈ after.mappedSurfaces ↔ surface ∈ before.mappedSurfaces ∧ before.surfaceOf id ≠ some surface := by
  simp only [Sources.mem_mappedSurfaces, drops.mapped, Bool.and_eq_true, bne_iff_ne]
  constructor
  · rintro ⟨id', ⟨mapped, ne⟩, held⟩
    rw [drops.surfaceOf_other ne] at held
    exact ⟨⟨id', mapped, held⟩, fun own => ne (sound.distinct held own)⟩
  · rintro ⟨⟨id', mapped, held⟩, foreign⟩
    have ne : id' ≠ id := by
      rintro rfl
      exact foreign held
    refine ⟨id', ⟨mapped, ne⟩, ?_⟩
    rwa [drops.surfaceOf_other ne]

theorem Drops.mem_mappedSurfaces_of_unmapped (sound : before.Sound)
    (unmapped : before.desktop.windows.test id (·.mapped) = false) :
    surface ∈ after.mappedSurfaces ↔ surface ∈ before.mappedSurfaces := by
  rw [drops.mem_mappedSurfaces sound, and_iff_left_iff_imp]
  intro mem held
  cases unmapped.symm.trans (sound.mapped_of_mem mem held)

end

theorem unmapped_finishUnmap (told : Sources) (hadFocus : Bool) :
    (if src.desktop.windows.test id (·.mapped) then told.finishUnmap id hadFocus else src).desktop.windows.test id
      (·.mapped) = false := by
  split
  · exact (drops_finishUnmap told id hadFocus).unmapped
  · rename_i hidden
    exact Bool.eq_false_iff.mpr hidden

def ends : Desktop.Event → Bool
  | .unmap _ | .dissociate _ | .destroy _ => true
  | _ => false

structure Extends (before after : Sources) : Prop where
  sound : after.Sound
  mapped : ∀ surface ∈ before.mappedSurfaces, surface ∈ after.mappedSurfaces

theorem Arranges.extends (arranges : Arranges before after) (sound : before.Sound) : Extends before after :=
  ⟨arranges.sound sound, fun _ => arranges.mem_mappedSurfaces.mpr⟩

theorem extends_of_fresh (id : Nat) (sound : before.Sound)
    (unmapped : before.desktop.windows.test id (·.mapped) = false)
    (length : after.surfaces.length = after.desktop.windows.toplevels.length) (staged : after.desktop.Staged)
    (mapped : ∀ id', id' ≠ id →
      after.desktop.windows.test id' (·.mapped) = before.desktop.windows.test id' (·.mapped))
    (held : ∀ id', id' ≠ id → after.surfaceOf id' = before.surfaceOf id')
    (fresh : ∀ surface id', after.surfaceOf id = some surface → before.surfaceOf id' ≠ some surface) :
    Extends before after where
  sound := {
    length := length
    staged := staged
    distinct := by
      intro first second surface one two
      by_cases left : first = id <;> by_cases right : second = id
      · rw [left, right]
      · rw [held second right] at two
        exact absurd two (fresh surface second (left ▸ one))
      · rw [held first left] at one
        exact absurd one (fresh surface first (right ▸ two))
      · rw [held first left] at one
        rw [held second right] at two
        exact sound.distinct one two }
  mapped := by
    intro surface mem
    obtain ⟨id', shown, own⟩ := mem_mappedSurfaces.mp mem
    have ne : id' ≠ id := by
      rintro rfl
      cases unmapped.symm.trans shown
    exact mem_mappedSurfaces.mpr ⟨id', (mapped id' ne).trans shown, (held id' ne).trans own⟩

theorem surfaceOf_add (src : Sources) (xw : Bool) (x : Nat)
    (length : src.surfaces.length = src.desktop.windows.toplevels.length) :
    Sources.surfaceOf ⟨src.desktop.addToplevel xw, src.surfaces ++ [x]⟩ id =
      if id = src.surfaces.length then (if xw then none else some x) else src.surfaceOf id := by
  unfold surfaceOf test addToplevel add
  dsimp only
  rcases Nat.lt_trichotomy id src.surfaces.length with old | rfl | later
  · rw [if_neg (Nat.ne_of_lt old), List.getElem?_append_left (length ▸ old), List.getElem?_append_left old]
  · rw [if_pos rfl, length, List.getElem?_append_right (Nat.le_refl _), ← length,
      List.getElem?_append_right (Nat.le_refl _)]
    cases xw <;> simp [Toplevel.create]
  · have missing : src.surfaces[id]? = none := List.getElem?_eq_none_iff.mpr (Nat.le_of_lt later)
    have beyond : (src.surfaces ++ [x])[id]? = none := by
      rw [List.getElem?_eq_none_iff, List.length_append]
      exact later
    rw [if_neg (Nat.ne_of_gt later), missing, beyond]
    split <;> split <;> rfl

theorem extends_newToplevel (sound : src.Sound) (xw : Bool)
    (free : src.toplevelForSurface surface = none) :
    Extends src ⟨src.desktop.addToplevel xw, src.surfaces ++ [surface]⟩ := by
  have missing : src.desktop.windows.toplevels[src.surfaces.length]? = none :=
    List.getElem?_eq_none_iff.mpr (Nat.le_of_eq sound.length.symm)
  refine extends_of_fresh src.surfaces.length sound ?_ ?_ (sound.staged.addToplevel xw) ?_ ?_ ?_
  · simp [test, missing]
  · simp [addToplevel, add, sound.length]
  · intro id' ne
    rw [sound.length] at ne
    unfold test addToplevel add
    rcases Nat.lt_or_gt_of_ne ne with old | later
    · rw [List.getElem?_append_left old]
    · rw [List.getElem?_eq_none_iff.mpr (Nat.le_of_lt later), List.getElem?_eq_none_iff.mpr]
      rw [List.length_append]
      exact later
  · intro id' ne
    rw [surfaceOf_add src xw surface sound.length, if_neg ne]
  · intro given id' own
    rw [surfaceOf_add src xw surface sound.length, if_pos rfl] at own
    cases xw with
    | true => cases own
    | false =>
      cases own
      exact surfaceOf_ne_of_free free

theorem extends_associate (sound : src.Sound) (tc sm big : Bool)
    (free : src.toplevelForSurface surface = none) (accepted : src.desktop.windows.test id (fun t =>
      t.xwayland && t.alive && !t.surface) = true) :
    Extends src ⟨src.desktop.associate id tc sm big,
      src.surfaces.set id surface⟩ := by
  have only : OnlyChanges id src.desktop.windows
      (src.desktop.associate id tc sm big).windows := by
    rw [associate_windows]
    have associated := (edits_associate src.desktop.windows id tc sm).toOnlyChanges
    dsimp only [windowsAfter]
    split
    · exact associated.trans (edits_map _ id big).toOnlyChanges
    · exact associated
  refine extends_of_fresh id sound ?_ ?_ (sound.staged.associate id ..) ?_ ?_ ?_
  · -- a window without a surface is not mapped
    rw [Bool.eq_false_iff]
    intro mapped
    have held := (sound.staged.mapped_mem mapped).2
    obtain ⟨t, found, bare⟩ := test_iff.mp accepted
    simp only [test, found, Option.any_some] at held
    simp [held] at bare
  · rw [List.length_set, sound.length, only.length]
  · intro id' ne
    exact only.test ne fun _ _ => rfl
  · intro id' ne
    unfold surfaceOf
    rw [only.test ne fun _ _ => rfl, List.getElem?_set_ne (Ne.symm ne)]
  · intro given id' own
    have en := (surfaceOf_eq_some.mp own).2
    have inside : id < src.surfaces.length := by
      simpa using (List.getElem?_eq_some_iff.mp en).1
    rw [List.getElem?_set_self inside] at en
    cases en
    exact surfaceOf_ne_of_free free

theorem extends_map (sound : src.Sound) (id : Nat) (big : Bool) :
    Extends src { src with desktop := src.desktop.map id big } := by
  have edits := edits_map src.desktop.windows id big
  rw [← map_windows src.desktop id big] at edits
  have surfaces : ∀ id', Sources.surfaceOf { src with desktop := src.desktop.map id big } id' =
      src.surfaceOf id' := by
    intro id'
    have same : (src.desktop.map id big).windows.test id' (·.surface) =
        src.desktop.windows.test id' (·.surface) :=
      edits.test (fun _ _ => rfl) (fun t next edited => by rw [edited.1]) id'
    unfold surfaceOf
    rw [same]
  refine ⟨⟨by rw [sound.length, ← edits.length], sound.staged.map id big, ?_⟩, ?_⟩
  · intro first second surface
    rw [surfaces, surfaces]
    exact sound.distinct
  · intro surface mem
    obtain ⟨id', shown, own⟩ := mem_mappedSurfaces.mp mem
    refine mem_mappedSurfaces.mpr ⟨id', ?_, (surfaces id').trans own⟩
    by_cases same : id' = id
    · -- a mapped window is not mapped again
      subst same
      have refused : src.desktop.windows.mayMap id' = false := by
        obtain ⟨t, found, mapped⟩ := test_iff.mp shown
        simp [Windows.mayMap, Windows.test, found, mapped]
      simp only [State.map, refused]
      exact shown
    · dsimp only
      rwa [edits.toOnlyChanges.test same fun _ _ => rfl]

theorem step_extends (sound : src.Sound) (e : Desktop.Event) (lasting : ends e = false) (x : Nat) :
    Extends src (src.step e x) := by
  have same : Extends src src := (Arranges.refl src).extends sound
  cases lives : changesLives e with
  | false =>
    have plain : src.step e x = { src with desktop := Desktop.step src.desktop e } := by
      cases e <;> first | rfl | cases lives
    rw [plain]
    exact (arranges_step src lives).extends sound
  | true =>
    cases e with
    | newToplevel xw =>
      unfold step
      dsimp only
      split
      · exact same
      · rename_i free
        exact extends_newToplevel sound xw (by simpa using free)
    | associate id tc sm big =>
      unfold step
      dsimp only
      split
      · exact same
      · rename_i free
        split
        · rename_i accepted
          exact extends_associate sound tc sm big (by simpa using free) accepted
        · exact same
    | map id big => exact extends_map sound id big
    | unmap | dissociate | destroy => cases lasting
    | _ => cases lives

end

end Sources

/-- What an overlay over the windows is here: open or closed, with the surfaces it
holds on to. -/
structure Holder where
  sources : Sources
  active : Bool
  held : List Nat

namespace Holder

open Sources

def Tidy (holder : Holder) : Prop := holder.active = false → holder.held = []

structure Sound (holder : Holder) : Prop where
  sources : holder.sources.Sound
  tidy : holder.Tidy

/-- The overlay takes surfaces only from mapped windows, and does nothing to the
lives of the windows. -/
structure Browses (before after : Holder) : Prop where
  arranges : Arranges before.sources after.sources
  held : ∀ surface ∈ after.held, surface ∈ before.held ∨ surface ∈ before.sources.mappedSurfaces
  tidy : before.Tidy → after.Tidy

section

variable {before middle after holder : Holder} {surface : Nat}

theorem Browses.refl (holder : Holder) : Browses holder holder := ⟨.refl _, fun _ => .inl, id⟩

theorem Browses.back (browses : Browses before after)
    (known : surface ∈ after.held ∨ surface ∈ after.sources.mappedSurfaces) :
    surface ∈ before.held ∨ surface ∈ before.sources.mappedSurfaces := by
  rcases known with held | mapped
  · exact browses.held surface held
  · exact .inr (browses.arranges.mem_mappedSurfaces.mp mapped)

theorem Browses.trans (first : Browses before middle) (second : Browses middle after) : Browses before after where
  arranges := first.arranges.trans second.arranges
  held := fun surface mem => first.back (second.held surface mem)
  tidy := second.tidy ∘ first.tidy

theorem browses_keep (sources : after.sources = before.sources) (active : after.active = before.active)
    (held : ∀ surface ∈ after.held, surface ∈ before.held ∨
      before.active = true ∧ surface ∈ before.sources.mappedSurfaces) : Browses before after where
  arranges := sources ▸ .refl _
  held := fun surface mem => (held surface mem).imp_right And.right
  tidy := by
    intro tidy closed
    rw [active] at closed
    refine List.eq_nil_iff_forall_not_mem.mpr fun surface mem => ?_
    rcases held surface mem with old | ⟨shown, _⟩
    · rw [tidy closed] at old
      cases old
    · cases closed.symm.trans shown

section

variable (arranges : Arranges before.sources after.sources)

include arranges

theorem browses_close (empty : after.held = []) : Browses before after where
  arranges := arranges
  held := by
    intro surface mem
    rw [empty] at mem
    cases mem
  tidy := fun _ _ => empty

theorem browses_open (active : after.active = true) (held : after.held ⊆ before.sources.mappedSurfaces) :
    Browses before after where
  arranges := arranges
  held := fun _ mem => .inr (held mem)
  tidy := fun _ closed => by cases active.symm.trans closed

end

theorem Browses.sound (browses : Browses before after) (sound : before.Sound) : after.Sound :=
  ⟨browses.arranges.sound sound.sources, browses.tidy sound.tidy⟩

theorem Browses.mapped (browses : Browses before after)
    (mapped : ∀ surface ∈ before.held, surface ∈ before.sources.mappedSurfaces) :
    ∀ surface ∈ after.held, surface ∈ after.sources.mappedSurfaces := by
  intro surface mem
  rw [browses.arranges.mem_mappedSurfaces]
  rcases browses.held surface mem with old | taken
  · exact mapped surface old
  · exact taken

theorem Sound.dropped (sound : holder.Sound) {id : Nat} {src : Sources} (drops : Drops id holder.sources src) :
    Sound { holder with sources := src } :=
  ⟨drops.sound sound.sources, sound.tidy⟩

end

end Holder
end FlakeWM.View
