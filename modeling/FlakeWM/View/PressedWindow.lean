import FlakeWM.View.ListedWindows

/-! The window a release acts on.

A press remembers a place in the view's list, and the list may be refreshed before
the release. What the view does to a window is compared with the window that was
under the pointer at the press. -/

set_option autoImplicit false

namespace FlakeWM.View

open FlakeWM.Input FlakeWM.Desktop

def Request.window : Request → Option Nat
  | .activate surface | .close surface | .toggleKeptAbove surface | .moveToWorkspace surface _ => some surface
  | _ => none

def Control.onWindow : Control → Bool
  | .window | .windowClose | .windowTop => true
  | _ => false

namespace Sources

open Overview

def visibleFrom (sources : Sources) (selected : Int) : List Nat := sources.visibleOn (sources.clampWorkspace selected)

theorem clampWorkspace_clampWorkspace (src : Sources) (n : Int) :
    src.clampWorkspace (src.clampWorkspace n) = src.clampWorkspace n := by
  unfold clampWorkspace
  omega

theorem visibleFrom_congr {before after : Sources} (ws : after.desktop.windows = before.desktop.windows)
    (surfaces : after.surfaces = before.surfaces) (selected : Int) :
    after.visibleFrom selected = before.visibleFrom selected := by
  unfold visibleFrom visibleOn listedEntries entriesProvider clampWorkspace surfaceOf
  rw [ws, surfaces]

theorem visibleFrom_finishUnmap (src : Sources) (id : Nat) (hadFocus : Bool) (selected : Int) :
    (src.finishUnmap id hadFocus).visibleFrom (src.clampWorkspace selected) =
      (src.finishUnmap id false).visibleFrom selected := by
  have ws : ∀ hadFocus, (src.finishUnmap id hadFocus).desktop.windows = src.desktop.windows.unmap id :=
    State.finishUnmap_windows src.desktop id
  have clamp : src.clampWorkspace selected = (src.finishUnmap id false).clampWorkspace selected := by
    unfold clampWorkspace
    rw [ws, (Windows.edits_unmap src.desktop.windows id).count]
  have same : (src.finishUnmap id hadFocus).desktop.windows = (src.finishUnmap id false).desktop.windows := by
    rw [ws, ws]
  rw [visibleFrom_congr same rfl, clamp]
  unfold visibleFrom
  rw [clampWorkspace_clampWorkspace]

theorem visibleFrom_of_unmapped {src : Sources} {id : Nat}
    (hidden : src.desktop.windows.test id (·.mapped) = false) (selected : Int) :
    src.visibleFrom selected = (src.finishUnmap id false).visibleFrom selected := by
  have same : src.desktop.windows = (src.finishUnmap id false).desktop.windows := by
    show src.desktop.windows = (src.desktop.finishUnmap id false).windows
    rw [State.finishUnmap_windows, Windows.unmap, hidden]
    rfl
  exact visibleFrom_congr same rfl selected

end Sources

namespace Overview

/-- Whatever the view has chosen or done, it was to the window pressed last. -/
structure ActsOnPressed (overview : Overview) : Prop where
  chosen : ∀ surface, overview.view.pendingActivation = some surface ∨ overview.view.pendingClose = some surface →
    overview.pressed = some surface
  done : ∀ act ∈ overview.performed, ∀ surface, act.1.window = some surface → act.2 = some surface

def Undecided (overview : Overview) : Prop :=
  overview.view.active = true → overview.view.closing = false →
    overview.view.pendingActivation = none ∧ overview.view.pendingClose = none

def Aimed (overview : Overview) : Prop :=
  overview.view.pressedControl.onWindow = true →
    ∀ surface, overview.view.windowAt overview.view.pressedWindow = some surface → overview.pressed = some surface

section

variable {overview : Overview} {usable : Bool}

theorem windowAt_nil {view : Multitasking} (empty : view.visibleEntries = []) (i : Int) :
    view.windowAt i = none := by
  simp [Multitasking.windowAt, empty]

theorem ActsOnPressed.perform (acts : overview.ActsOnPressed) {q : Request}
    (aimed : ∀ x, q.window = some x → overview.pressed = some x) :
    (overview.perform q).ActsOnPressed where
  chosen := acts.chosen
  done := by
    intro act mem x about
    rcases List.mem_append.mp mem with old | new
    · exact acts.done act old x about
    · cases List.mem_singleton.mp new
      exact aimed x about

theorem ActsOnPressed.refresh (acts : overview.ActsOnPressed) : overview.refresh.ActsOnPressed :=
  ⟨acts.chosen, acts.done⟩

theorem ActsOnPressed.select (acts : overview.ActsOnPressed) (n : Int) :
    ActsOnPressed { overview with selectedWorkspace := n } :=
  ⟨acts.chosen, acts.done⟩

theorem ActsOnPressed.completeClose (acts : overview.ActsOnPressed) : overview.completeClose.ActsOnPressed := by
  unfold Overview.completeClose
  rw [foldl_perform]
  refine ⟨fun x pending => ?_, fun act mem x about => ?_⟩
  · rcases pending with pending | pending <;> cases pending
  · rcases List.mem_append.mp mem with old | new
    · exact acts.done act old x about
    · obtain ⟨q, asked, rfl⟩ := List.mem_map.mp new
      apply acts.chosen x
      rcases List.mem_append.mp asked with closing | rest
      · obtain ⟨closed, pending, rfl⟩ := List.mem_map.mp closing
        cases about
        exact .inr (Option.mem_toList.mp pending)
      · cases pending : overview.view.pendingActivation with
        | some =>
          rw [pending] at rest
          cases List.mem_singleton.mp rest
          cases about
          exact .inl rfl
        | none =>
          -- a workspace was chosen, or nothing
          rw [pending] at rest
          dsimp only at rest
          split at rest
          · cases List.mem_singleton.mp rest
            cases about
          · cases rest

theorem undecided_completeClose (o : Overview) : o.completeClose.Undecided := by
  intro shown
  rw [completeClose_view] at shown
  cases shown

theorem aimed_completeClose (o : Overview) : o.completeClose.Aimed := by
  intro _ x found
  rw [windowAt_nil (by rw [completeClose_view]; rfl)] at found
  cases found

theorem ActsOnPressed.updateView (acts : overview.ActsOnPressed) (u : Bool) :
    (overview.updateView u).ActsOnPressed := by
  unfold Overview.updateView
  split
  · exact acts.completeClose
  · exact acts

theorem Undecided.updateView (undecided : overview.Undecided) (u : Bool) :
    (overview.updateView u).Undecided := by
  unfold Overview.updateView
  split
  · exact undecided_completeClose overview
  · exact undecided

theorem Aimed.updateView (aimed : overview.Aimed) (u : Bool) : (overview.updateView u).Aimed := by
  unfold Overview.updateView
  split
  · exact aimed_completeClose overview
  · exact aimed

theorem ActsOnPressed.startAnimation (acts : overview.ActsOnPressed) (closing u : Bool) :
    (overview.startAnimation closing u).ActsOnPressed := by
  unfold Overview.startAnimation
  split
  · exact acts
  · apply ActsOnPressed.updateView
    exact ⟨acts.chosen, acts.done⟩

theorem undecided_startAnimation (o : Overview) (u : Bool) :
    (o.startAnimation true u).Undecided := by
  unfold startAnimation
  split
  · rename_i refused
    intro shown still
    simp [shown, still] at refused
  · apply Undecided.updateView
    intro _ still
    cases still

theorem Aimed.startAnimation (aimed : overview.Aimed) (closing u : Bool) :
    (overview.startAnimation closing u).Aimed := by
  unfold Overview.startAnimation
  split
  · exact aimed
  · apply Aimed.updateView
    exact aimed

structure Attentive (overview : Overview) : Prop where
  acts : overview.ActsOnPressed
  undecided : overview.Undecided
  aimed : overview.Aimed

structure SameChoice (before after : Overview) : Prop where
  active : after.view.active = before.view.active
  closing : after.view.closing = before.view.closing
  visible : after.view.visibleEntries = before.view.visibleEntries
  control : after.view.pressedControl = before.view.pressedControl
  place : after.view.pressedWindow = before.view.pressedWindow
  activation : after.view.pendingActivation = before.view.pendingActivation
  close : after.view.pendingClose = before.view.pendingClose
  pressed : after.pressed = before.pressed
  performed : after.performed = before.performed

theorem Attentive.same {after : Overview} (attentive : overview.Attentive) (same : SameChoice overview after) :
    after.Attentive := by
  refine ⟨⟨fun x pending => ?_, ?_⟩, fun shown still => ?_, fun about x found => ?_⟩
  · rw [same.activation, same.close] at pending
    rw [same.pressed]
    exact attentive.acts.chosen x pending
  · rw [same.performed]
    exact attentive.acts.done
  · rw [same.activation, same.close]
    exact attentive.undecided (same.active ▸ shown) (same.closing ▸ still)
  · unfold Multitasking.windowAt at found
    rw [same.place, same.visible] at found
    rw [same.pressed]
    exact attentive.aimed (same.control ▸ about) x found

theorem Attentive.updateView (attentive : overview.Attentive) (u : Bool) :
    (overview.updateView u).Attentive :=
  ⟨attentive.acts.updateView u, attentive.undecided.updateView u, attentive.aimed.updateView u⟩

theorem Attentive.close (attentive : overview.Attentive) (u : Bool) :
    (overview.startAnimation true u).Attentive :=
  ⟨attentive.acts.startAnimation true u, undecided_startAnimation overview u,
    attentive.aimed.startAnimation true u⟩

theorem attentive_completeClose (acts : overview.ActsOnPressed) : overview.completeClose.Attentive :=
  ⟨acts.completeClose, undecided_completeClose overview, aimed_completeClose overview⟩

theorem acts_click (attentive : overview.Attentive)
    (hit : overview.view.hoveredControl = overview.view.pressedControl) (u : Bool) :
    (overview.click u).ActsOnPressed ∧ (overview.click u).Undecided := by
  have target : ∀ x, overview.view.hoveredControl.onWindow = true →
      overview.view.windowAt overview.view.pressedWindow = some x → overview.pressed = some x :=
    fun x about found => attentive.aimed (hit ▸ about) x found
  have acts := attentive.acts
  have closes : ∀ view : Multitasking, ActsOnPressed { overview with view := view } →
      ActsOnPressed (startAnimation { overview with view := view } true u) ∧
        Undecided (startAnimation { overview with view := view } true u) :=
    fun view good => ⟨good.startAnimation true u, undecided_startAnimation _ u⟩
  have refreshes : ∀ (q : Request) (selected : Int),
      (∀ x, q.window = some x → overview.pressed = some x) →
      let listed := refresh { overview.perform q with selectedWorkspace := selected }
      (listed.updateView u).ActsOnPressed ∧ (listed.updateView u).Undecided := by
    intro q selected about
    have asked := ((acts.perform about).select selected).refresh
    have undecided : Undecided (refresh { overview.perform q with selectedWorkspace := selected }) :=
      attentive.undecided
    exact ⟨asked.updateView u, undecided.updateView u⟩
  have performs : ∀ q : Request, q.window = none →
      (overview.perform q).ActsOnPressed ∧ (overview.perform q).Undecided :=
    fun q nothing => ⟨acts.perform (by simp [nothing]), attentive.undecided⟩
  unfold click
  dsimp only
  split
  · rename_i x control found
    apply closes
    refine ⟨fun id' pending => ?_, acts.done⟩
    rcases pending with old | new
    · exact acts.chosen id' (.inl old)
    · cases new
      exact target x (by rw [control]; rfl) found
  · rename_i x control found
    apply refreshes _ overview.selectedWorkspace
    rintro _ ⟨⟩
    exact target x (by rw [control]; rfl) found
  · rename_i x control found
    apply closes
    refine ⟨fun id' pending => ?_, acts.done⟩
    rcases pending with new | old
    · cases new
      exact target x (by rw [control]; rfl) found
    · exact acts.chosen id' (.inr old)
  · split
    · apply closes
      exact ⟨acts.chosen, acts.done⟩
    · exact ⟨acts, attentive.undecided⟩
  · split
    · exact ⟨acts, attentive.undecided⟩
    · split
      · exact refreshes _ _ fun _ about => by cases about
      · exact performs _ rfl
  · split
    · split
      · exact refreshes _ overview.selectedWorkspace fun _ about => by cases about
      · exact performs _ rfl
    · exact ⟨acts, attentive.undecided⟩
  · exact closes _ acts
  · exact ⟨acts, attentive.undecided⟩

theorem aimed_of_none (ended : overview.view.pressedControl = .none) : overview.Aimed := by
  intro about
  rw [ended] at about
  cases about

theorem attentive_drop (acts : overview.ActsOnPressed) (undecided : overview.Undecided) (u : Bool) :
    (overview.drop u).Attentive := by
  unfold drop
  apply Attentive.updateView
  exact ⟨⟨acts.chosen, acts.done⟩, undecided, aimed_of_none rfl⟩

theorem attentive_release (attentive : overview.Attentive) (target : Int) (u : Bool) :
    (overview.release target u).Attentive := by
  unfold release
  split
  · rename_i x _ control found
    split
    · apply attentive_drop
      · apply ActsOnPressed.refresh
        apply attentive.acts.perform
        rintro _ ⟨⟩
        exact attentive.aimed (by rw [control]; rfl) x found
      · exact attentive.undecided
    · exact attentive_drop attentive.acts attentive.undecided u
  · split
    · apply attentive_drop
      · apply ActsOnPressed.refresh
        apply ActsOnPressed.select
        apply attentive.acts.perform
        rintro _ ⟨⟩
      · exact attentive.undecided
    · exact attentive_drop attentive.acts attentive.undecided u
  · unfold releaseClick
    split
    · rename_i hit
      obtain ⟨acts, undecided⟩ := acts_click attentive hit u
      exact ⟨⟨acts.chosen, acts.done⟩, undecided, aimed_of_none rfl⟩
    · exact ⟨⟨attentive.acts.chosen, attentive.acts.done⟩, attentive.undecided, aimed_of_none rfl⟩

def keepsPlace (overview : Overview) (listed : List Nat) : Bool :=
  !overview.view.pressedControl.onWindow ||
    (Multitasking.windowAt { overview.view with visibleEntries := listed } overview.view.pressedWindow).all
      fun surface => overview.pressed == some surface

def relistSafe (overview : Overview) (sources : Sources) (usable : Bool) : Bool :=
  !overview.view.isActive || !usable || overview.keepsPlace (sources.visibleFrom overview.selectedWorkspace)

/-- A press on a window is made where the hovered window is the one under the
pointer, and no refresh of the list puts another window in the pressed place: the
list is refreshed when a window is unmapped or destroyed and when the view opens. -/
def pressSafe (overview : Overview) : Event → Bool
  | .button button pressed under _ _ =>
    let view := overview.view
    !view.active || view.closing || button != .left || !pressed || !view.hoveredControl.onWindow ||
      (view.windowAt view.hoveredWindow).all fun surface => view.windowAt under == some surface
  | .desktop (.unmap id) _ usable =>
    !overview.sources.desktop.windows.test id (·.mapped) || overview.relistSafe overview.sources usable
  | .desktop (.dissociate id) _ usable =>
    !overview.sources.desktop.windows.test id (fun toplevel => toplevel.xwayland && toplevel.mapped) ||
      overview.relistSafe overview.sources usable
  | .desktop (.destroy id) _ usable =>
    if overview.sources.desktop.windows.test id (·.xwayland) then
      !overview.sources.desktop.windows.test id (·.mapped) || overview.relistSafe overview.sources usable
    else
      -- the list without the window is the last one
      (overview.sources.surfaceOf id).isNone || overview.relistSafe (overview.sources.finishUnmap id false) usable
  | .toggle usable =>
    let windows := overview.sources.desktop.windows
    overview.view.isActive || decide (windows.workspaceCount ≤ 0) || !usable ||
      overview.keepsPlace (overview.sources.visibleFrom windows.currentWorkspace)
  | _ => true

theorem aimed_of_keepsPlace {after : Overview} {listed : List Nat} (kept : overview.keepsPlace listed = true)
    (control : after.view.pressedControl = overview.view.pressedControl)
    (place : after.view.pressedWindow = overview.view.pressedWindow) (pressed : after.pressed = overview.pressed)
    (visible : after.view.visibleEntries = listed) : after.Aimed := by
  intro about x found
  rw [control] at about
  unfold Multitasking.windowAt at found
  rw [place, visible] at found
  simp only [keepsPlace, about, Bool.not_true, Bool.false_or, Option.all_eq_true, beq_iff_eq] at kept
  rw [pressed]
  exact kept x found

theorem attentive_press (attentive : overview.Attentive) (under : Int) (shown : overview.view.active = true)
    (still : overview.view.closing = false)
    (safe : overview.pressSafe (.button .left true under 0 true) = true) : (overview.press under).Attentive := by
  -- the new press replaces the old one, and nothing was chosen under the old one
  obtain ⟨activation, close⟩ := attentive.undecided shown still
  refine ⟨⟨fun x pending => ?_, attentive.acts.done⟩, attentive.undecided, fun about x found => ?_⟩
  · rcases pending with pending | pending
    · cases activation.symm.trans pending
    · cases close.symm.trans pending
  · have hovered : overview.view.hoveredControl.onWindow = true := about
    have under := safe
    simp only [pressSafe, shown, still, hovered, bne_self_eq_false, Bool.not_true, Bool.or_false, Bool.false_or,
      Option.all_eq_true, beq_iff_eq] at under
    exact under x found

theorem attentive_handleButton (attentive : overview.Attentive) (button : Button) (pressed : Bool)
    (under target : Int) (u : Bool)
    (safe : overview.pressSafe (.button button pressed under target u) = true) :
    (overview.handleButton button pressed under target u).Attentive := by
  unfold handleButton
  split
  · exact attentive
  rename_i opened
  split
  · exact attentive
  rename_i left
  split
  · rename_i down
    have active : overview.view.active = true := by
      by_contra inactive
      simp [inactive] at opened
    have still : overview.view.closing = false := by
      by_contra closing
      simp [closing] at opened
    rw [ne_eq, not_not] at left
    subst left down
    exact attentive_press attentive under active still safe
  · exact attentive_release attentive target u

theorem ActsOnPressed.forget (acts : overview.ActsOnPressed) (gone : Nat) : (overview.forget gone).ActsOnPressed := by
  refine ⟨fun x pending => acts.chosen x ?_, acts.done⟩
  exact pending.imp (fun kept => (Option.filter_eq_some_iff.mp kept).1)
    (fun kept => (Option.filter_eq_some_iff.mp kept).1)

theorem Undecided.forget (undecided : overview.Undecided) (gone : Nat) : (overview.forget gone).Undecided := by
  intro shown still
  obtain ⟨activation, close⟩ := undecided shown still
  exact ⟨by simp [Overview.forget, activation], by simp [Overview.forget, close]⟩

theorem acts_surfaceUnavailable (acts : overview.ActsOnPressed) (undecided : overview.Undecided) (gone : Option Nat)
    (u : Bool) : (overview.surfaceUnavailable gone u).ActsOnPressed ∧
      (overview.surfaceUnavailable gone u).Undecided := by
  unfold surfaceUnavailable
  split
  · exact ⟨acts, undecided⟩
  · rename_i gone
    split
    · have forgot : ((overview.forget gone).refresh).Undecided := undecided.forget gone
      exact ⟨((acts.forget gone).refresh).updateView u, forgot.updateView u⟩
    · exact ⟨acts, undecided⟩

theorem surfaceUnavailable_shown {gone : Nat} (active : overview.view.isActive = true) :
    overview.surfaceUnavailable (some gone) true = (overview.forget gone).refresh := by
  unfold surfaceUnavailable updateView
  simp [active]

theorem surfaceUnavailable_dark {gone : Nat} (active : overview.view.isActive = true) :
    overview.surfaceUnavailable (some gone) false = ((overview.forget gone).refresh).completeClose := by
  have still : ((overview.forget gone).refresh).view.isActive = true := active
  unfold surfaceUnavailable updateView
  simp [active, still]

theorem surfaceUnavailable_closed {gone : Option Nat} (closed : overview.view.isActive = false) :
    overview.surfaceUnavailable gone usable = overview := by
  unfold surfaceUnavailable
  split
  · rfl
  · simp [closed]

section

variable (attentive : overview.Attentive)

include attentive

theorem attentive_surfaceUnavailable (gone : Option Nat)
    (safe : gone ≠ none → overview.relistSafe overview.sources usable = true) :
    (overview.surfaceUnavailable gone usable).Attentive := by
  obtain ⟨acts, undecided⟩ := acts_surfaceUnavailable attentive.acts attentive.undecided gone usable
  refine ⟨acts, undecided, ?_⟩
  cases gone with
  | none => exact attentive.aimed
  | some =>
    cases active : overview.view.isActive with
    | false =>
      rw [surfaceUnavailable_closed active]
      exact attentive.aimed
    | true =>
      cases usable with
      | false =>
        rw [surfaceUnavailable_dark active]
        exact aimed_completeClose _
      | true =>
        have kept : overview.keepsPlace (overview.sources.visibleFrom overview.selectedWorkspace) = true := by
          simpa [relistSafe, active] using safe (by simp)
        rw [surfaceUnavailable_shown active]
        exact aimed_of_keepsPlace kept rfl rfl rfl rfl

theorem attentive_toggle (safe : overview.pressSafe (.toggle usable) = true) : (overview.toggle usable).Attentive := by
  unfold toggle
  dsimp only
  split
  · split
    · exact attentive
    · exact attentive.close usable
  · rename_i closed
    split
    · exact attentive
    · rename_i some
      generalize opened : refresh _ = listing
      have acts : listing.ActsOnPressed := by
        subst opened
        refine ⟨fun x pending => ?_, attentive.acts.done⟩
        rcases pending with pending | pending <;> cases pending
      have nothing : listing.view.pendingActivation = none ∧ listing.view.pendingClose = none := by
        subst opened
        exact ⟨rfl, rfl⟩
      cases usable with
      | false =>
        -- without a screen the view closes at once
        have closes : listing.updateView false = listing.completeClose := by
          subst opened
          rfl
        have shut : listing.completeClose.view.active = false := by
          rw [completeClose_view]
          rfl
        rw [closes, if_pos (by rw [shut]; rfl)]
        exact attentive_completeClose acts
      | true =>
        have kept : overview.keepsPlace
            (overview.sources.visibleFrom overview.sources.desktop.windows.currentWorkspace) = true := by
          simpa [pressSafe, closed, some] using safe
        have aimed : listing.Aimed := by
          subst opened
          refine aimed_of_keepsPlace kept rfl rfl rfl ?_
          show Sources.visibleOn _ (Sources.clampWorkspace _ (Sources.clampWorkspace _ _)) = _
          rw [Sources.clampWorkspace_clampWorkspace]
          rfl
        have still : listing.updateView true = listing := by
          unfold updateView
          apply if_neg
          simp
        rw [still]
        have opened : listing.Attentive := ⟨acts, fun _ _ => nothing, aimed⟩
        split
        · exact opened
        · -- the opening animation draws once more, with the same screen
          unfold startAnimation
          split
          · exact opened.same ⟨rfl, rfl, rfl, rfl, rfl, rfl, rfl, rfl, rfl⟩
          · apply Attentive.updateView
            exact ⟨⟨acts.chosen, acts.done⟩, fun _ _ => nothing, aimed⟩

theorem attentive_handleMotion (hit : Hit) : (overview.handleMotion hit usable).Attentive := by
  unfold handleMotion
  dsimp only
  split
  · exact attentive
  split
  · apply Attentive.updateView
    exact attentive.same ⟨rfl, rfl, rfl, rfl, rfl, rfl, rfl, rfl, rfl⟩
  split
  · apply Attentive.updateView
    exact attentive.same ⟨rfl, rfl, rfl, rfl, rfl, rfl, rfl, rfl, rfl⟩
  · exact attentive.same ⟨rfl, rfl, rfl, rfl, rfl, rfl, rfl, rfl, rfl⟩

theorem attentive_handleKey (e : KeyEvent) : (overview.handleKey e usable).Attentive := by
  unfold handleKey
  split
  · exact attentive
  split
  · exact attentive
  split
  · exact attentive
  split
  · exact attentive.close usable
  · exact attentive

theorem attentive_updateAnimation (finished : Bool) : (overview.updateAnimation finished usable).Attentive := by
  have stopped : Attentive { overview with animating := false } :=
    attentive.same ⟨rfl, rfl, rfl, rfl, rfl, rfl, rfl, rfl, rfl⟩
  unfold updateAnimation
  split
  · exact attentive
  split
  · split
    · exact attentive_completeClose stopped.acts
    · exact stopped.updateView usable
  · exact attentive.updateView usable

end

section

variable (attentive : overview.Attentive)

include attentive

theorem Attentive.withSources (src : Sources) : Attentive { overview with sources := src } :=
  attentive.same ⟨rfl, rfl, rfl, rfl, rfl, rfl, rfl, rfl, rfl⟩

theorem attentive_onUnmap (id : Nat)
    (safe : overview.sources.desktop.windows.test id (·.mapped) = true → overview.relistSafe overview.sources usable = true) :
    (overview.onUnmap id usable).Attentive := by
  unfold onUnmap
  split
  · rename_i mapped
    exact (attentive_surfaceUnavailable attentive _ fun _ => safe mapped).withSources _
  · exact attentive

theorem attentive_onDissociate (id given : Nat)
    (safe : overview.pressSafe (.desktop (.dissociate id) given usable) = true) :
    (overview.onDissociate id usable).Attentive := by
  unfold onDissociate
  split
  · rename_i x11
    refine (attentive_onUnmap attentive id fun mapped => ?_).withSources _
    simpa [pressSafe, Windows.test_and, x11, mapped] using safe
  · exact attentive

theorem attentive_destroyed (id : Nat) {x : Nat} (own : overview.sources.surfaceOf id = some x)
    (safe : overview.relistSafe (overview.sources.finishUnmap id false) usable = true) :
    ((overview.onUnmap id usable).surfaceUnavailable (some x) usable).Attentive := by
  have told := acts_surfaceUnavailable attentive.acts attentive.undecided (some x) usable
  cases active : overview.view.isActive with
  | false =>
    -- a closed view is told, but lists nothing
    have lasting : overview.relistSafe overview.sources usable = true := by simp [relistSafe, active]
    apply attentive_surfaceUnavailable (attentive_onUnmap attentive id fun _ => lasting)
    intro _
    have closed : (overview.onUnmap id usable).view.isActive = false := by
      unfold onUnmap
      rw [surfaceUnavailable_closed active]
      split <;> exact active
    simp [relistSafe, closed]
  | true =>
    cases usable with
    | false =>
      have dark : ∀ overview : Overview, ∀ src, overview.relistSafe src false = true := by
        simp [relistSafe]
      exact attentive_surfaceUnavailable (attentive_onUnmap attentive id fun _ => dark _ _) _ fun _ => dark _ _
    | true =>
      have kept : overview.keepsPlace
          ((overview.sources.finishUnmap id false).visibleFrom overview.selectedWorkspace) = true := by
        simpa [relistSafe, active] using safe
      cases mapped : overview.sources.desktop.windows.test id (·.mapped) with
      | true =>
        -- the first list may be another; the second is taken without the window
        have hidden : overview.onUnmap id true = { (overview.forget x).refresh with
            sources := overview.sources.finishUnmap id (overview.sources.desktop.hadFocus id) } := by
          unfold onUnmap
          rw [mapped, own, surfaceUnavailable_shown active]
          rfl
        have acts : (overview.onUnmap id true).ActsOnPressed ∧ (overview.onUnmap id true).Undecided := by
          rw [surfaceUnavailable_shown active] at told
          rw [hidden]
          exact ⟨⟨told.1.chosen, told.1.done⟩, told.2⟩
        obtain ⟨acts, undecided⟩ := acts_surfaceUnavailable acts.1 acts.2 (some x) true
        refine ⟨acts, undecided, ?_⟩
        have still : (overview.onUnmap id true).view.isActive = true := by
          rw [hidden]
          exact active
        rw [surfaceUnavailable_shown still, hidden]
        refine aimed_of_keepsPlace kept rfl rfl rfl ?_
        exact Sources.visibleFrom_finishUnmap overview.sources id _ overview.selectedWorkspace
      | false =>
        have same : overview.onUnmap id true = overview := by
          unfold onUnmap
          rw [mapped]
          rfl
        rw [same]
        refine ⟨told.1, told.2, ?_⟩
        rw [surfaceUnavailable_shown active]
        refine aimed_of_keepsPlace kept rfl rfl rfl ?_
        exact Sources.visibleFrom_of_unmapped mapped overview.selectedWorkspace

theorem attentive_onDestroy (id given : Nat) (safe : overview.pressSafe (.desktop (.destroy id) given usable) = true) :
    (overview.onDestroy id usable).Attentive := by
  unfold onDestroy
  apply Attentive.withSources
  rw [onUnmap_surfaceOf]
  cases x11 : overview.sources.desktop.windows.test id (·.xwayland) with
  | true =>
    rw [if_pos rfl]
    apply attentive_onUnmap attentive id
    intro mapped
    simpa [pressSafe, x11, mapped] using safe
  | false =>
    rw [if_neg Bool.false_ne_true]
    cases own : overview.sources.surfaceOf id with
    | none =>
      -- the view is told of no surface, neither at the unmap nor now
      show (overview.onUnmap id usable).Attentive
      unfold onUnmap
      rw [own]
      split
      · exact attentive.withSources _
      · exact attentive
    | some =>
      apply attentive_destroyed attentive id own
      simpa [pressSafe, x11, own] using safe

end

theorem step_attentive (o : Overview) (e : Event) (attentive : o.Attentive)
    (safe : o.pressSafe e = true) : (step o e).Attentive := by
  cases e with
  | toggle => exact attentive_toggle attentive safe
  | cancel usable =>
    show (o.cancel usable).Attentive
    unfold cancel
    split
    · exact attentive.close usable
    · exact attentive
  | key e => exact attentive_handleKey attentive e
  | motion hit => exact attentive_handleMotion attentive hit
  | button button pressed under target usable =>
    exact attentive_handleButton attentive button pressed under target usable safe
  | tick finished => exact attentive_updateAnimation attentive finished
  | desktop inner given =>
    cases inner with
    | unmap id =>
      apply attentive_onUnmap attentive id
      intro mapped
      simpa [pressSafe, mapped] using safe
    | dissociate id => exact attentive_onDissociate attentive id given safe
    | destroy id => exact attentive_onDestroy attentive id given safe
    | _ => exact attentive.withSources _

theorem attentive_initial : initial.Attentive where
  acts := {
    chosen := by
      intro x pending
      rcases pending with pending | pending <;> cases pending
    done := fun _ mem => by cases mem }
  undecided := fun shown _ => by cases shown
  aimed := fun about => by cases about

/-- In every run whose presses are made on the hovered window and whose refreshes
leave the pressed window its place, the view activates, closes, pins and moves
only the window that was under the pointer at the press. -/
theorem release_acts_on_pressed (events : List Event)
    (safe : Transition.Along step (fun overview event => overview.pressSafe event = true) initial events) :
    Transition.Throughout step ActsOnPressed initial events := by
  have attentive := Transition.along_invariant step_attentive attentive_initial safe
  exact attentive.mono fun _ kept => kept.acts

end

/-- Two windows are shown and the newer one is pressed; the other is unmapped
before the release, and the pressed window is activated. -/
theorem release_acts_on_pressed_session :
    let hover := Hit.mk false 2 (-1) 0 false false false false
    let events : List Event :=
      [.desktop (.newToplevel false) 10 true, .desktop (.map 0 false) 0 true,
        .desktop (.newToplevel false) 11 true, .desktop (.map 1 false) 0 true,
        .toggle true, .tick true true, .motion hover true, .button .left true 0 (-1) true,
        .desktop (.unmap 0) 0 true, .button .left false 0 (-1) true, .tick true true]
    (Transition.run step initial events).performed = [(.activate 11, some 11)] ∧
      Transition.Throughout step ActsOnPressed initial events :=
  ⟨by decide +kernel, release_acts_on_pressed _ (by decide +kernel)⟩

/-- Three windows are shown and the second is pressed; the first is destroyed, so
that the third moves to the pressed place, and the release activates it. -/
theorem destroyed_window_shifts_press :
    let hover := Hit.mk false 3 (-1) 1 false false false false
    let pressed := Transition.run step initial
      [.desktop (.newToplevel false) 10 true, .desktop (.map 0 false) 0 true,
        .desktop (.newToplevel false) 11 true, .desktop (.map 1 false) 0 true,
        .desktop (.newToplevel false) 12 true, .desktop (.map 2 false) 0 true,
        .toggle true, .tick true true, .motion hover true, .button .left true 1 (-1) true]
    let released := Transition.run step pressed
      [.desktop (.destroy 2) 0 true, .button .left false 1 (-1) true, .tick true true]
    pressed.view.visibleEntries = [12, 11, 10] ∧ pressed.pressed = some 11 ∧
      released.performed = [(.activate 10, some 11)] := by
  decide +kernel

end Overview
end FlakeWM.View
