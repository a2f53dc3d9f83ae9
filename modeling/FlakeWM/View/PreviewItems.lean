import FlakeWM.View.Previews

/-! The items of the window previews.

The overlay lists mapped windows only and gives up a window that goes, except
while it closes: then it keeps its items, draws them until the animation is over,
and may even be opened again with them. -/

set_option autoImplicit false

namespace FlakeWM.View

open FlakeWM.Input FlakeWM.Desktop

namespace Sources

theorem mapped_of_previewed {src : Sources} {s : Box} {looks : Nat → Look} {exclude : Option Nat}
    {x : Nat} (listed : x ∈ src.previewed s looks exclude) :
    x ∈ src.mappedSurfaces ∧ exclude ≠ some x := by
  rw [previewed, List.mem_insertionSort, List.mem_filter] at listed
  obtain ⟨en, kept⟩ := listed
  simp only [previewEntries, List.mem_filterMap, Option.ite_none_right_eq_some] at en
  obtain ⟨id, _, listed, held⟩ := en
  obtain ⟨t, found, shown⟩ := Windows.test_iff.mp listed
  simp only [Bool.and_eq_true, bne_iff_ne] at kept shown
  exact ⟨mem_mappedSurfaces.mpr ⟨id, Windows.test_iff.mpr ⟨t, found, shown.1.1.1⟩, held⟩, kept.1.1.1.1⟩

theorem arranges_performPreview (src : Sources) (q : Request) : Arranges src (src.performPreview q) := by
  unfold performPreview
  split
  · split
    · exact arranges_step src rfl
    · exact .refl src
  · exact .refl src

theorem arranges_previewsHidden (src : Sources) (hidden : Bool) : Arranges src (src.setPreviewsHidden hidden) :=
  arranges_step src rfl

end Sources

namespace WindowPreviews

structure Keeps (listed : List Nat) (view next : WindowPreviews) : Prop where
  items : next.items = view.items ∨ view.isActive = true ∧ next.items = listed
  active : next.isActive = view.isActive

section

variable {listed : List Nat} {view before next : WindowPreviews}

theorem Keeps.refl (listed : List Nat) (view : WindowPreviews) : Keeps listed view view := ⟨.inl rfl, rfl⟩

theorem Keeps.of_same (kept : Keeps listed before next) (items : before.items = view.items)
    (active : before.isActive = view.isActive) : Keeps listed view next := by
  refine ⟨?_, kept.active.trans active⟩
  rw [← items, ← active]
  exact kept.items

theorem keeps_startClose (listed : List Nat) (view : WindowPreviews) : Keeps listed view view.startClose := by
  unfold startClose
  split
  · exact .refl listed view
  · rename_i started
    have shown : view.active = true := by
      by_contra inactive
      simp [inactive] at started
    exact ⟨.inl rfl, by simp [isActive, shown]⟩

section

variable (view : WindowPreviews)

theorem keeps_reflow (ans : Answers) : Keeps ans.previewed view (view.reflow ans) := by
  unfold reflow
  split
  · exact .refl _ view
  · rename_i started
    have shown : view.isActive = true := by
      by_contra inactive
      simp only [isActive, Bool.or_eq_true, not_or, Bool.not_eq_true] at inactive
      simp [inactive] at started
    split
    · have closed := keeps_startClose ans.previewed { view with items := ans.previewed }
      refine ⟨.inr ⟨shown, ?_⟩, closed.active⟩
      rcases closed.items with same | ⟨_, same⟩ <;> exact same
    · split
      · exact ⟨.inr ⟨shown, rfl⟩, rfl⟩
      · split <;> exact ⟨.inr ⟨shown, rfl⟩, rfl⟩

theorem keeps_setFilter (filter : List Char) (ans : Answers) :
    Keeps ans.previewed view (view.setFilter filter ans) := by
  unfold setFilter
  exact (keeps_reflow _ ans).of_same rfl rfl

theorem keeps_closeItem (i : Int) (ans : Answers) : Keeps ans.previewed view (view.closeItem i ans).next := by
  unfold closeItem
  split
  · exact .refl _ view
  · dsimp only [Reply.consume]
    exact (keeps_reflow _ ans).of_same rfl rfl

theorem keeps_handlePress (e : KeyEvent) (ans : Answers) : Keeps ans.previewed view (view.handlePress e ans).next := by
  unfold handlePress
  split
  · exact keeps_startClose _ view
  split
  · exact keeps_startClose _ view
  split
  · exact ⟨.inl rfl, rfl⟩
  split
  · dsimp only [Reply.consume]
    split
    · exact .refl _ view
    · exact keeps_setFilter view _ ans
  split
  · dsimp only [Reply.consume]
    split
    · exact .refl _ view
    · exact keeps_setFilter view _ ans
  split
  · exact .refl _ view
  split
  · exact .refl _ view
  · exact keeps_setFilter view _ ans

theorem keeps_handleKey (e : KeyEvent) (ans : Answers) : Keeps ans.previewed view (view.handleKey e ans).next := by
  have noted : Keeps ans.previewed view (view.noteRelease e) := by
    unfold noteRelease
    split <;> exact ⟨.inl rfl, rfl⟩
  have same : (view.noteRelease e).items = view.items := by
    unfold noteRelease
    split <;> rfl
  unfold handleKey
  split
  · exact .refl _ view
  split
  · exact .refl _ view
  dsimp only
  split
  · exact noted
  split
  · exact noted
  · exact (keeps_handlePress _ e ans).of_same same noted.active

theorem keeps_handleButton (button : Button) (pressed : Bool) (ans : Answers) :
    Keeps ans.previewed view (view.handleButton button pressed ans).next := by
  unfold handleButton
  split
  · exact .refl _ view
  split
  · exact .refl _ view
  split
  · split
    · exact keeps_startClose _ view
    · exact keeps_closeItem view _ ans
  · dsimp only [Reply.consume]
    split
    · exact keeps_startClose _ view
    · exact .refl _ view

end

end

end WindowPreviews

namespace Previews

open Sources

abbrev holder (previews : Previews) : Holder := ⟨previews.sources, previews.view.isActive, previews.view.items⟩

/-- What the handlers of the overlay are made of. -/
inductive Moves (previews : Previews) : Previews → Prop where
  | refl : Moves previews previews
  | rebuild {next : Previews} (moves : Moves previews next) : Moves previews next.rebuild
  | perform {next : Previews} (moves : Moves previews next) (request : Request) :
      Moves previews { next with sources := next.sources.performPreview request }
  /-- The overlay stays open or closed. If it is open, it may list mapped windows. -/
  | keep {next last : Previews} (moves : Moves previews next) (sources : last.sources = next.sources)
      (rebuilds : last.rebuilds = next.rebuilds) (active : last.view.isActive = next.view.isActive)
      (items : ∀ surface ∈ last.view.items, surface ∈ next.view.items ∨
        next.view.isActive = true ∧ surface ∈ next.sources.mappedSurfaces) : Moves previews last
  | close {next : Previews} (moves : Moves previews next) : Moves previews next.completeClose
  | opened {next last : Previews} (moves : Moves previews next)
      (sources : last.sources = next.sources.setPreviewsHidden true) (rebuilds : last.rebuilds = next.rebuilds)
      (active : last.view.isActive = true) (items : last.view.items ⊆ next.sources.mappedSurfaces) :
      Moves previews last

/-- The overlay draws the items it has, over the windows that are mapped. -/
structure Browses (before after : Previews) : Prop extends Holder.Browses before.holder after.holder where
  rebuilds : ∀ rebuild ∈ after.rebuilds, rebuild ∈ before.rebuilds ∨
    (∀ surface ∈ rebuild.items, surface ∈ before.view.items ∨ surface ∈ before.sources.mappedSurfaces) ∧
      ∀ surface, surface ∈ rebuild.mapped ↔ surface ∈ before.sources.mappedSurfaces

section

variable {before middle after p : Previews} {surface : Nat}

theorem Browses.trans (first : Browses before middle) (second : Browses middle after) : Browses before after where
  toBrowses := first.toBrowses.trans second.toBrowses
  rebuilds := by
    intro rebuild mem
    rcases second.rebuilds rebuild mem with old | ⟨items, mapped⟩
    · exact first.rebuilds rebuild old
    · refine .inr ⟨fun surface mem => first.back (items surface mem), fun surface => ?_⟩
      rw [mapped, first.arranges.mem_mappedSurfaces]

theorem browses_rebuild (p : Previews) : Browses p p.rebuild where
  toBrowses := .refl _
  rebuilds := by
    intro rebuild mem
    rcases List.mem_append.mp mem with old | new
    · exact .inl old
    · cases List.mem_singleton.mp new
      exact .inr ⟨fun _ => .inl, fun _ => Iff.rfl⟩

theorem Moves.browses (moves : Moves before after) : Browses before after := by
  induction moves with
  | refl => exact ⟨.refl _, fun _ => .inl⟩
  | rebuild _ ih => exact ih.trans (browses_rebuild _)
  | perform _ request ih => exact ih.trans ⟨⟨arranges_performPreview _ request, fun _ => .inl, id⟩, fun _ => .inl⟩
  | keep _ sources rebuilds active items ih =>
    exact ih.trans ⟨Holder.browses_keep sources active items, fun rebuild mem => .inl (rebuilds ▸ mem)⟩
  | close _ ih => exact ih.trans ⟨Holder.browses_close (arranges_previewsHidden _ false) rfl, fun _ => .inl⟩
  | @opened next _ _ sources rebuilds active items ih =>
    have arranges := arranges_previewsHidden next.sources true
    rw [← sources] at arranges
    exact ih.trans ⟨Holder.browses_open arranges active items, fun rebuild mem => .inl (rebuilds ▸ mem)⟩

theorem Moves.updateView (moves : Moves before after) : Moves before after.updateView := by
  unfold Previews.updateView
  split
  · exact moves.rebuild
  · exact moves

theorem moves_view {listed : List Nat} {view : WindowPreviews} (kept : WindowPreviews.Keeps listed p.view view)
    (mapped : ∀ surface ∈ listed, surface ∈ p.sources.mappedSurfaces) : Moves p { p with view := view } := by
  refine Moves.refl.keep rfl rfl kept.active fun surface mem => ?_
  rcases kept.items with same | ⟨shown, new⟩
  · exact .inl (same ▸ mem)
  · exact .inr ⟨shown, mapped surface (new ▸ mem)⟩

theorem moves_startClose (p : Previews) : Moves p p.startClose := by
  unfold startClose
  split
  · exact .refl
  · apply Moves.updateView
    exact moves_view (WindowPreviews.keeps_startClose [] p.view) fun _ mem => by cases mem

theorem answered_mapped (p : Previews) (ans : Answers) (looks : Nat → Look) (exclude : Option Nat) :
    ∀ surface ∈ (p.answered ans looks exclude).previewed, surface ∈ p.sources.mappedSurfaces :=
  fun _ listed => (mapped_of_previewed listed).1

theorem moves_reflow (p : Previews) (looks : Nat → Look) (exclude : Option Nat) :
    Moves p (p.reflow looks exclude) := by
  unfold reflow
  split
  · exact .refl
  · apply Moves.updateView
    exact moves_view (WindowPreviews.keeps_reflow p.view _) (p.answered_mapped noAnswers looks exclude)

theorem moves_toggle (p : Previews) (s : Box) (ready : Bool) (looks : Nat → Look) (itemAt : Int) :
    Moves p (p.toggle s ready looks itemAt) := by
  unfold toggle
  split
  · rename_i closing
    apply Moves.updateView
    exact Moves.refl.keep rfl rfl (by simp [WindowPreviews.isActive, closing]) fun _ => .inl
  split
  · exact moves_startClose p
  rename_i still shut
  split
  · exact Moves.refl.keep rfl rfl rfl fun _ => .inl
  · dsimp only
    split
    · rename_i empty
      refine Moves.refl.keep rfl rfl (by simp [WindowPreviews.isActive, still, shut]) fun surface mem => ?_
      rw [List.isEmpty_iff.mp empty] at mem
      cases mem
    · apply Moves.updateView
      exact Moves.refl.opened rfl rfl rfl fun _ mem => (mapped_of_previewed mem).1

theorem moves_obey {listed : List Nat} {reply : Reply WindowPreviews}
    (kept : WindowPreviews.Keeps listed p.view reply.next)
    (mapped : ∀ surface ∈ listed, surface ∈ p.sources.mappedSurfaces) (draws : Bool) :
    Moves p (p.obey reply draws) := by
  have done : Moves p { p with
      view := reply.next
      sources := reply.requests.foldl performPreview p.sources } :=
    List.foldlRecOn (motive := fun src => Moves p { p with view := reply.next, sources := src }) _ _
      (moves_view kept mapped) fun _ moves request _ => moves.perform request
  unfold obey
  split
  · exact done.updateView
  · exact done

section

variable (p : Previews)

theorem moves_handleMotion (itemAt : Int) : Moves p (p.handleMotion itemAt) := by
  unfold handleMotion
  split
  · exact .refl
  · apply Moves.updateView
    exact Moves.refl.keep rfl rfl rfl fun _ => .inl

theorem moves_updateAnimation (finished : Bool) : Moves p (p.updateAnimation finished) := by
  unfold updateAnimation
  split
  · exact .refl
  split
  · exact Moves.refl.updateView.close
  · exact Moves.refl.updateView

theorem moves_surfaceUpdated (x : Option Nat) : Moves p (p.surfaceUpdated x) := by
  unfold surfaceUpdated
  split
  · exact .refl
  · split
    · exact Moves.refl.rebuild
    · exact .refl

theorem moves_surfaceUnavailable (x : Option Nat) (looks : Nat → Look) : Moves p (p.surfaceUnavailable x looks) := by
  unfold surfaceUnavailable
  split
  · exact .refl
  · split
    · exact .refl
    · split
      · exact moves_reflow p looks _
      · exact .refl

theorem browses_surfaceUnavailable (x : Option Nat) (looks : Nat → Look) :
    Browses p (p.surfaceUnavailable x looks) :=
  (moves_surfaceUnavailable p x looks).browses

theorem step_moves {e : Event} (own : ∀ inner surface looks, e ≠ .desktop inner surface looks) :
    Moves p (step p e) := by
  cases e with
  | desktop inner given looks => exact absurd rfl (own inner given looks)
  | commit => exact moves_surfaceUpdated p _
  | toggle s ready looks itemAt => exact moves_toggle p s ready looks itemAt
  | cancel =>
    show Moves p p.cancel
    unfold cancel
    split
    · exact moves_startClose p
    · exact .refl
  | key e ans looks =>
    exact moves_obey (WindowPreviews.keeps_handleKey p.view e _) (p.answered_mapped ans looks none) _
  | motion itemAt => exact moves_handleMotion p itemAt
  | button button pressed ans looks =>
    exact moves_obey (WindowPreviews.keeps_handleButton p.view button pressed _) (p.answered_mapped ans looks _) _
  | tick finished => exact moves_updateAnimation p finished

end

abbrev Sound (previews : Previews) : Prop := previews.holder.Sound

/-- Every item is the surface of a mapped window, and was at every rebuild. -/
structure ShowsMapped (previews : Previews) : Prop where
  items : ∀ surface ∈ previews.view.items, surface ∈ previews.sources.mappedSurfaces
  rebuilds : ∀ rebuild ∈ previews.rebuilds, ∀ surface ∈ rebuild.items, surface ∈ rebuild.mapped

theorem Browses.showsMapped (browses : Browses before after) (good : before.ShowsMapped) : after.ShowsMapped where
  items := browses.mapped good.items
  rebuilds := by
    intro rebuild mem surface drawn
    rcases browses.rebuilds rebuild mem with old | ⟨items, mapped⟩
    · exact good.rebuilds rebuild old surface drawn
    · rw [mapped]
      rcases items surface drawn with held | taken
      · exact good.items surface held
      · exact taken

theorem not_mem_reflow (shown : p.view.active = true) (still : p.view.closing = false)
    (looks : Nat → Look) : surface ∉ (p.reflow looks (some surface)).view.items := by
  have listed : (p.reflow looks (some surface)).view.items = p.sources.previewed p.screen looks (some surface) := by
    have drawn : ∀ p : Previews, p.updateView.view = p.view := by
      intro p
      unfold updateView
      split <;> rfl
    unfold reflow
    rw [if_neg (by simp [shown, still]), drawn]
    unfold WindowPreviews.reflow
    rw [if_neg (by simp [shown, still])]
    dsimp only
    split
    · unfold WindowPreviews.startClose
      split <;> rfl
    · split
      · rfl
      · split <;> rfl
  rw [listed]
  intro mem
  exact (mapped_of_previewed mem).2 rfl

theorem surfaceUnavailable_closing (closing : p.view.closing = true) (gone : Option Nat)
    (looks : Nat → Look) : p.surfaceUnavailable gone looks = p := by
  unfold surfaceUnavailable
  split
  · rfl
  · simp [closing]

theorem told_keeps_iff (tidy : p.view.isActive = false → p.view.items = []) (x : Nat) (looks : Nat → Look) :
    x ∈ (p.surfaceUnavailable (some x) looks).view.items ↔ p.view.closing = true ∧ x ∈ p.view.items := by
  cases closing : p.view.closing with
  | true =>
    rw [surfaceUnavailable_closing closing]
    simp
  | false =>
    -- open, it is laid out without the window; closed, it has no items
    refine iff_of_false ?_ (by simp)
    unfold surfaceUnavailable
    dsimp only
    split
    · rename_i ended
      have closed : p.view.isActive = false := by simpa [closing] using ended
      rw [tidy closed]
      exact List.not_mem_nil
    · rename_i running
      have shown : p.view.active = true := by simpa [WindowPreviews.isActive, closing] using running
      split
      · exact not_mem_reflow shown closing looks
      · rename_i missing
        simpa using missing

theorem onUnmap_showsMapped_iff {id : Nat} (sound : p.Sound) (good : p.ShowsMapped)
    (mapped : p.sources.desktop.windows.test id (·.mapped) = true)
    (own : p.sources.surfaceOf id = some surface) (looks : Nat → Look) :
    (p.onUnmap id looks).ShowsMapped ↔ ¬(p.view.closing = true ∧ surface ∈ p.view.items) := by
  have browses := browses_surfaceUnavailable p (some surface) looks
  have told := browses.showsMapped good
  have kept := told_keeps_iff sound.tidy surface looks
  have held : (p.surfaceUnavailable (some surface) looks).sources.surfaceOf id = some surface :=
    browses.arranges.surfaceOf.trans own
  unfold onUnmap
  rw [if_pos mapped, own]
  generalize p.sources.desktop.hadFocus id = hadFocus
  have drops := drops_finishUnmap (p.surfaceUnavailable (some surface) looks).sources id hadFocus
  rw [← kept]
  constructor
  · intro shows mem
    have still := shows.items surface mem
    rw [drops.mem_mappedSurfaces (browses.sound sound).sources] at still
    exact still.2 held
  · intro free
    refine ⟨fun id' mem => ?_, told.rebuilds⟩
    apply (drops.mem_mappedSurfaces (browses.sound sound).sources).mpr
    refine ⟨told.items id' mem, fun same => ?_⟩
    cases held.symm.trans same
    exact free mem

theorem onUnmap_sound (sound : p.Sound) (id : Nat) (looks : Nat → Look) : (p.onUnmap id looks).Sound := by
  unfold onUnmap
  split
  · exact ((browses_surfaceUnavailable p _ looks).sound sound).dropped (drops_finishUnmap _ id _)
  · exact sound

theorem onUnmap_hidden (p : Previews) (id : Nat) (looks : Nat → Look) :
    (p.onUnmap id looks).sources.desktop.windows.test id (·.mapped) = false := by
  unfold onUnmap
  rw [apply_ite Previews.sources]
  exact unmapped_finishUnmap _ _

theorem showsMapped_dropped {src : Sources} {id : Nat} (drops : Drops id p.sources src)
    (sound : p.Sound) (hidden : p.sources.desktop.windows.test id (·.mapped) = false) :
    ShowsMapped { p with sources := src } ↔ p.ShowsMapped := by
  have same : ∀ surface, surface ∈ src.mappedSurfaces ↔ surface ∈ p.sources.mappedSurfaces :=
    fun _ => drops.mem_mappedSurfaces_of_unmapped sound.sources hidden
  constructor
  · intro shows
    exact ⟨fun surface mem => (same surface).mp (shows.items surface mem), shows.rebuilds⟩
  · intro shows
    exact ⟨fun surface mem => (same surface).mpr (shows.items surface mem), shows.rebuilds⟩

def closingSafe (previews : Previews) : Event → Bool
  | .desktop (.unmap id) _ _ | .desktop (.destroy id) _ _ =>
    !(previews.view.closing && previews.sources.desktop.windows.test id (·.mapped) &&
      (previews.sources.surfaceOf id).any previews.view.items.contains)
  | .desktop (.dissociate id) _ _ =>
    !(previews.view.closing &&
      previews.sources.desktop.windows.test id (fun toplevel => toplevel.xwayland && toplevel.mapped) &&
      (previews.sources.surfaceOf id).any previews.view.items.contains)
  | _ => true

section

variable (sound : p.Sound) (good : p.ShowsMapped) (id given : Nat) (looks : Nat → Look)

include sound good

theorem onUnmap_exact : (p.onUnmap id looks).ShowsMapped ↔ p.closingSafe (.desktop (.unmap id) given looks) = true := by
  cases mapped : p.sources.desktop.windows.test id (·.mapped) with
  | true =>
    obtain ⟨surface, own⟩ := sound.sources.surface_of_mapped mapped
    rw [onUnmap_showsMapped_iff sound good mapped own looks]
    cases closing : p.view.closing <;> simp [closingSafe, mapped, own, closing]
  | false =>
    rw [onUnmap, if_neg (by simp [mapped])]
    exact iff_of_true good (by simp [closingSafe, mapped])

theorem onDissociate_exact : (p.onDissociate id looks).ShowsMapped ↔
      p.closingSafe (.desktop (.dissociate id) given looks) = true := by
  unfold onDissociate
  split
  · rename_i x11
    -- the surface is lost only after the unmap
    have unmap := onUnmap_exact sound good id given looks
    have safe : p.closingSafe (.desktop (.dissociate id) given looks) =
        p.closingSafe (.desktop (.unmap id) given looks) := by
      simp only [closingSafe, Windows.test_and, x11, Bool.true_and]
    rw [safe, ← unmap]
    exact showsMapped_dropped (drops_finishDissociate _ id) (onUnmap_sound sound id looks) (onUnmap_hidden p id looks)
  · rename_i native
    refine iff_of_true good ?_
    simp [closingSafe, Windows.test_and, native]

theorem onDestroy_exact : (p.onDestroy id looks).ShowsMapped ↔
      p.closingSafe (.desktop (.destroy id) given looks) = true := by
  unfold onDestroy
  dsimp only
  generalize (if p.sources.desktop.windows.test id (·.xwayland) then none
    else (p.onUnmap id looks).sources.surfaceOf id) = gone
  have browses := browses_surfaceUnavailable (p.onUnmap id looks) gone looks
  have told := browses.sound (onUnmap_sound sound id looks)
  have hidden := browses.arranges.mapped.trans (onUnmap_hidden p id looks)
  rw [showsMapped_dropped (drops_finishDestroy _ id) told hidden]
  have unmap : (p.onUnmap id looks).ShowsMapped ↔
      p.closingSafe (.desktop (.destroy id) given looks) = true := onUnmap_exact sound good id given looks
  constructor
  · intro shows
    -- a closing overlay does nothing when it is told, at the unmap as now
    by_contra broken
    have closing : p.view.closing = true := by
      simp only [closingSafe, Bool.not_eq_true', Bool.not_eq_false, Bool.and_eq_true] at broken
      exact broken.1.1
    have still : (p.onUnmap id looks).view.closing = true := by
      unfold onUnmap
      rw [surfaceUnavailable_closing closing]
      split <;> exact closing
    rw [surfaceUnavailable_closing still] at shows
    exact broken (unmap.mp shows)
  · intro safe
    exact browses.showsMapped (unmap.mpr safe)

end

theorem step_quiet {e : Event} (quiet : ∀ inner surface looks, e = .desktop inner surface looks →
      ends inner = false) (sound : p.Sound) :
    (step p e).Sound ∧ (p.ShowsMapped → (step p e).ShowsMapped) := by
  by_cases own : ∀ inner surface looks, e ≠ .desktop inner surface looks
  · have browses := (step_moves p own).browses
    exact ⟨browses.sound sound, browses.showsMapped⟩
  · push Not at own
    obtain ⟨inner, given, looks, rfl⟩ := own
    have lasting := quiet inner given looks rfl
    have plain : step p (.desktop inner given looks) = { p with sources := p.sources.step inner given } := by
      cases inner <;> first | rfl | cases lasting
    have extended := step_extends sound.sources inner lasting given
    rw [plain]
    refine ⟨⟨extended.sound, sound.tidy⟩, fun good => ⟨fun surface mem => ?_, good.rebuilds⟩⟩
    exact extended.mapped surface (good.items surface mem)

theorem step_sound (p : Previews) (e : Event) (sound : p.Sound) : (step p e).Sound := by
  by_cases quiet : ∀ inner surface looks, e = .desktop inner surface looks → ends inner = false
  · exact (step_quiet quiet sound).1
  · push Not at quiet
    obtain ⟨inner, given, looks, rfl, ending⟩ := quiet
    have hidden := fun id => onUnmap_sound sound id looks
    cases inner with
    | unmap id => exact hidden id
    | dissociate id =>
      show (p.onDissociate id looks).Sound
      unfold onDissociate
      split
      · exact (hidden id).dropped (drops_finishDissociate _ id)
      · exact sound
    | destroy id =>
      have told := (browses_surfaceUnavailable (p.onUnmap id looks)
        (if p.sources.desktop.windows.test id (·.xwayland) then none
          else (p.onUnmap id looks).sources.surfaceOf id) looks).sound (hidden id)
      exact told.dropped (drops_finishDestroy _ id)
    | _ => exact absurd rfl ending

theorem step_showsMapped_iff (p : Previews) (e : Event) (sound : p.Sound)
    (good : p.ShowsMapped) : (step p e).ShowsMapped ↔ p.closingSafe e = true := by
  by_cases quiet : ∀ inner surface looks, e = .desktop inner surface looks → ends inner = false
  · refine iff_of_true ((step_quiet quiet sound).2 good) ?_
    cases e with
    | desktop inner given looks =>
      have lasting := quiet inner given looks rfl
      cases inner <;> first | rfl | cases lasting
    | _ => rfl
  · push Not at quiet
    obtain ⟨inner, given, looks, rfl, ending⟩ := quiet
    cases inner with
    | unmap id => exact onUnmap_exact sound good id given looks
    | dissociate id => exact onDissociate_exact sound good id given looks
    | destroy id => exact onDestroy_exact sound good id given looks
    | _ => exact absurd rfl ending

theorem sound_initial : initial.Sound := ⟨Sources.sound_initial, fun _ => rfl⟩

theorem showsMapped_initial : initial.ShowsMapped where
  items := fun _ mem => by cases mem
  rebuilds := fun _ mem => by cases mem

end

/-- In every run, all items at all times and all rebuilds are surfaces of mapped
windows exactly if no window is unmapped or destroyed that is an item of the
closing overlay. -/
theorem previews_show_mapped_iff (events : List Event) :
    Transition.Throughout step ShowsMapped initial events ↔
      Transition.Along step (fun previews event => previews.closingSafe event = true) initial events :=
  Transition.throughout_iff_along step_sound step_showsMapped_iff sound_initial showsMapped_initial events

theorem closed_has_no_items (events : List Event) :
    Transition.Throughout step (fun previews => previews.view.isActive = false → previews.view.items = [])
      initial events :=
  (Transition.throughout_invariant step_sound sound_initial events).mono fun _ sound => sound.tidy

/-- The overlay is opened on a window and closed again; the window is unmapped
while the overlay closes, and the overlay is reopened with the window as its only
item. -/
theorem reopened_with_unmapped_window :
    let screen := Box.mk 0 0 1920 1080
    let looks : Nat → Look := fun _ => ⟨⟨100, 100, 800, 600⟩, true⟩
    let reopened := Transition.run step initial
      [.desktop (.newToplevel false) 7 looks, .desktop (.map 0 false) 0 looks, .toggle screen true looks (-1),
        .toggle screen true looks (-1), .desktop (.unmap 0) 0 looks, .toggle screen true looks (-1)]
    reopened.view.active = true ∧ reopened.view.items = [7] ∧ reopened.sources.mappedSurfaces = [] ∧
      reopened.rebuilds = [⟨[7], [7]⟩, ⟨[7], [7]⟩, ⟨[7], []⟩] := by
  decide +kernel

end Previews
end FlakeWM.View
