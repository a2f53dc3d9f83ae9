import FlakeWM.View.ListedWindows
import FlakeWM.View.PreviewItems

/-! When the overlays hide the windows they show.

The multitasking view and the window previews stand over one compositor. Each has a
flag there that hides every window, and sets it when it opens and takes it back
when it has closed. An overlay may close in the middle of its own update, open
again while it closes, or give up while it opens. -/

set_option autoImplicit false

namespace FlakeWM.Desktop

/-- The flags of the multitasking view and of the window previews. -/
def Windows.flags (windows : Windows) : Bool × Bool :=
  (windows.multitaskingSourcesHidden, windows.windowPreviewsSourcesHidden)

open Windows

theorem Windows.Edits.flags {id : Nat} {edit : Toplevel → Toplevel → Prop} {before after : Windows}
    (edits : Edits id edit before after) : after.flags = before.flags :=
  Prod.ext edits.multitasking edits.previews

namespace State

theorem ownWorkspaceShown_flags (state : State) (id : Nat) : (state.ownWorkspaceShown id).flags = state.windows.flags :=
  state.ownWorkspaceShown_induction (motive := fun windows => windows.flags = state.windows.flags) id rfl fun _ _ => rfl

theorem windowsAfter_flags (state : State) {event : Event} (foreign : setsFlag event = false) :
    (state.windowsAfter event).flags = state.windows.flags := by
  by_cases arranges : arrangesWindow event = true
  · obtain ⟨_, edits⟩ := state.windowsAfter_arranged arranges
    exact edits.flags
  cases event with
  | associate id created mapped =>
    dsimp only [windowsAfter]
    split
    · exact (edits_map ..).flags.trans (edits_associate ..).flags
    · exact (edits_associate ..).flags
  | dissociate id =>
    dsimp only [windowsAfter]
    split
    · exact (edits_loseSurface _ id).flags.trans (edits_unmap _ id).flags
    · rfl
  | map id maximized => exact (edits_map _ id maximized).flags
  | unmap id => exact (edits_unmap _ id).flags
  | destroy id => exact (edits_loseHandle _ id).flags.trans (edits_unmap _ id).flags
  | minimize | requestRestore | xRequestRestore | switcherActivate | setMaximized | tile | animationEnd | highlight
  | unhighlight => exact absurd rfl arranges
  | multitaskingActivate id =>
    dsimp only [windowsAfter]
    split
    · exact (edits_multitaskingRestore _ id).flags.trans (state.ownWorkspaceShown_flags id)
    · rfl
  | previewsActivate id =>
    dsimp only [windowsAfter]
    split
    · exact ownWorkspaceShown_flags { state with windows := state.windows.previewsRestore id } id
    · rfl
  | moveToWorkspace id workspace => exact (edits_moveToWorkspace _ id workspace).flags
  | setAllWorkspaces id everywhere => exact (edits_setAllWorkspaces _ id everywhere).flags
  | addWorkspace | removeWorkspace | reorderWorkspace =>
    dsimp only [windowsAfter, addWorkspace, removeWorkspace, reorderWorkspace]
    split <;> rfl
  | switchWorkspace | setKeptAbove =>
    dsimp only [windowsAfter]
    split <;> rfl
  | hideMultitaskingSources | hideWindowPreviewsSources => cases foreign
  | _ => rfl

theorem step_flags (state : State) {event : Event} (foreign : setsFlag event = false) :
    (step state event).windows.flags = state.windows.flags := by
  rw [step_windows]
  exact state.windowsAfter_flags foreign

end State

end FlakeWM.Desktop

namespace FlakeWM.View

open FlakeWM.Input FlakeWM.Desktop

namespace Sources

def flags (sources : Sources) : Bool × Bool := sources.desktop.windows.flags

theorem step_flags (sources : Sources) {event : Desktop.Event} (foreign : State.setsFlag event = false) (surface : Nat) :
    (sources.step event surface).flags = sources.flags := by
  have kept : ∀ surfaces, flags ⟨Desktop.step sources.desktop event, surfaces⟩ = sources.flags :=
    fun _ => State.step_flags sources.desktop foreign
  unfold Sources.step
  split
  · split
    · rfl
    · exact kept _
  · split
    · rfl
    · split
      · exact kept _
      · rfl
  · exact kept _

theorem perform_flags (sources : Sources) (request : Request) : (sources.perform request).flags = sources.flags := by
  unfold perform
  split
  · rename_i event carried
    exact State.step_flags sources.desktop (eventOf_quiet carried).2
  · rfl

theorem performPreview_flags (sources : Sources) (request : Request) :
    (sources.performPreview request).flags = sources.flags := by
  unfold performPreview
  split
  · split
    · exact State.step_flags sources.desktop rfl
    · rfl
  · rfl

end Sources

/-- Whether an overlay has set its flag, whether it is shown, and the flag of the other one. -/
structure Flag where
  own : Bool
  shown : Bool
  other : Bool

namespace Flag

/-- The overlay leaves the other flag alone, and its own one says whether it is shown
if it did so before. -/
structure Switches (before after : Flag) : Prop where
  own : before.own = before.shown → after.own = after.shown
  other : after.other = before.other

variable {before middle after : Flag}

theorem Switches.trans (first : Switches before middle) (second : Switches middle after) : Switches before after :=
  ⟨second.own ∘ first.own, second.other.trans first.other⟩

theorem Switches.same (same : after = before) : Switches before after := by
  rw [same]
  exact ⟨id, rfl⟩

end Flag

open FlakeWM.View.Flag

namespace Overview

def flag (overview : Overview) : Flag := ⟨overview.sources.flags.1, overview.view.isActive, overview.sources.flags.2⟩

variable (overview : Overview)

theorem perform_flag (request : Request) : (overview.perform request).flag = overview.flag := by
  unfold flag perform
  dsimp only
  rw [Sources.perform_flags]

/-- A view that has closed has taken its flag back, whatever it was. -/
theorem completeClose_flag : overview.completeClose.flag = ⟨false, false, overview.flag.other⟩ := by
  have kept : ∀ (requests : List Request) (sources : Sources),
      (requests.foldl Sources.perform sources).flags = sources.flags :=
    fun requests sources => List.foldlRecOn (motive := fun last : Sources => last.flags = sources.flags) requests _ rfl
      fun _ kept request _ => (Sources.perform_flags _ request).trans kept
  unfold completeClose
  rw [foldl_perform]
  unfold flag
  dsimp only
  rw [kept]
  rfl

theorem Moves.switches {before after : Overview} (moves : Moves before after) : Switches before.flag after.flag := by
  induction moves with
  | refl => exact .same rfl
  | keep _ sources active _ ih => exact ih.trans (.same (by simp only [flag, sources, active]))
  | perform _ request ih => exact ih.trans (.same (perform_flag _ request))
  | refresh _ _ ih => exact ih.trans (.same rfl)
  | close _ sources ih =>
    rw [completeClose_flag]
    exact ih.trans ⟨fun _ => rfl, congrArg (·.flags.2) sources⟩
  | opened _ sources active _ ih =>
    refine ih.trans ⟨fun _ => ?_, ?_⟩
    · simp only [flag, sources, active]
      rfl
    · simp only [flag, sources]
      rfl

end Overview

namespace Previews

def flag (previews : Previews) : Flag := ⟨previews.sources.flags.2, previews.view.isActive, previews.sources.flags.1⟩

theorem Moves.switches {before after : Previews} (moves : Moves before after) : Switches before.flag after.flag := by
  induction moves with
  | refl => exact .same rfl
  | rebuild _ ih => exact ih.trans (.same rfl)
  | perform _ request ih => exact ih.trans (.same (by simp only [flag, Sources.performPreview_flags]))
  | keep _ sources _ active _ ih => exact ih.trans (.same (by simp only [flag, sources, active]))
  | close _ ih => exact ih.trans ⟨fun _ => rfl, rfl⟩
  | opened _ sources _ active _ ih =>
    refine ih.trans ⟨fun _ => ?_, ?_⟩
    · simp only [flag, sources, active]
      rfl
    · simp only [flag, sources]
      rfl

end Previews

/-! ## Both overlays over one compositor -/

/-- The multitasking view with its compositor, and the window previews over the same one. -/
structure Views where
  overview : Overview
  view : WindowPreviews
  screen : Box
  rebuilds : List Rebuild

namespace Views

def initial : Views := ⟨.initial, .initial, ⟨0, 0, 0, 0⟩, []⟩

def previews (views : Views) : Previews := ⟨views.overview.sources, views.view, views.screen, views.rebuilds⟩

def withPreviews (views : Views) (previews : Previews) : Views :=
  ⟨{ views.overview with sources := previews.sources }, previews.view, previews.screen, previews.rebuilds⟩

def withSources (views : Views) (sources : Sources) : Views :=
  { views with overview := { views.overview with sources := sources } }

/-- The multitasking view is told first. -/
def surfaceUnavailable (views : Views) (surface : Option Nat) (usable : Bool) (looks : Nat → Look) : Views :=
  let told := { views with overview := views.overview.surfaceUnavailable surface usable }
  told.withPreviews (told.previews.surfaceUnavailable surface looks)

def onUnmap (views : Views) (id : Nat) (usable : Bool) (looks : Nat → Look) : Views :=
  let sources := views.overview.sources
  if sources.desktop.windows.test id (·.mapped) then
    let told := views.surfaceUnavailable (sources.surfaceOf id) usable looks
    told.withSources (told.overview.sources.finishUnmap id (sources.desktop.hadFocus id))
  else views

def onDissociate (views : Views) (id : Nat) (usable : Bool) (looks : Nat → Look) : Views :=
  if views.overview.sources.desktop.windows.test id (·.xwayland) then
    let hidden := views.onUnmap id usable looks
    hidden.withSources (hidden.overview.sources.finishDissociate id)
  else views

def onDestroy (views : Views) (id : Nat) (usable : Bool) (looks : Nat → Look) : Views :=
  let hidden := views.onUnmap id usable looks
  let surface :=
    if views.overview.sources.desktop.windows.test id (·.xwayland) then none else hidden.overview.sources.surfaceOf id
  let told := hidden.surfaceUnavailable surface usable looks
  told.withSources (told.overview.sources.finishDestroy id)

inductive Event where
  | desktop (event : Desktop.Event) (surface : Nat) (usable : Bool) (looks : Nat → Look)
  | multitasking (event : Overview.Event)
  | previews (event : Previews.Event)

/-- What happens on the desktop happens to both; the flags are set by the overlays only. -/
def step (views : Views) : Event → Views
  | .desktop (.unmap id) _ usable looks => views.onUnmap id usable looks
  | .desktop (.dissociate id) _ usable looks => views.onDissociate id usable looks
  | .desktop (.destroy id) _ usable looks => views.onDestroy id usable looks
  | .desktop event surface _ _ =>
    if State.setsFlag event then views else views.withSources (views.overview.sources.step event surface)
  | .multitasking (.desktop ..) | .previews (.desktop ..) => views
  | .multitasking event => { views with overview := views.overview.step event }
  | .previews event => views.withPreviews (views.previews.step event)

/-- Each flag says whether its overlay is active or closing. -/
structure Agree (views : Views) : Prop where
  multitasking : views.overview.sources.flags.1 = views.overview.view.isActive
  previews : views.overview.sources.flags.2 = views.view.isActive

section

variable {views : Views} (agree : views.Agree)

include agree

theorem Agree.overview {overview : Overview} (switches : Switches views.overview.flag overview.flag) :
    Agree { views with overview := overview } :=
  ⟨switches.own agree.multitasking, switches.other.trans agree.previews⟩

theorem Agree.withPreviews {previews : Previews} (switches : Switches views.previews.flag previews.flag) :
    (views.withPreviews previews).Agree :=
  ⟨switches.other.trans agree.multitasking, switches.own agree.previews⟩

theorem Agree.withSources {sources : Sources} (same : sources.flags = views.overview.sources.flags) :
    (views.withSources sources).Agree :=
  ⟨(congrArg Prod.fst same).trans agree.multitasking, (congrArg Prod.snd same).trans agree.previews⟩

variable (id : Nat) (usable : Bool) (looks : Nat → Look)

omit id in
theorem Agree.surfaceUnavailable (surface : Option Nat) : (views.surfaceUnavailable surface usable looks).Agree :=
  (agree.overview (Overview.moves_surfaceUnavailable _ surface usable).switches).withPreviews
    (Previews.moves_surfaceUnavailable _ surface looks).switches

theorem Agree.onUnmap : (views.onUnmap id usable looks).Agree := by
  unfold Views.onUnmap
  dsimp only
  split
  · exact (agree.surfaceUnavailable usable looks _).withSources (Sources.drops_finishUnmap _ id _).edits.flags
  · exact agree

theorem Agree.onDissociate : (views.onDissociate id usable looks).Agree := by
  unfold Views.onDissociate
  split
  · exact (agree.onUnmap id usable looks).withSources (Sources.drops_finishDissociate _ id).edits.flags
  · exact agree

theorem Agree.onDestroy : (views.onDestroy id usable looks).Agree :=
  ((agree.onUnmap id usable looks).surfaceUnavailable usable looks _).withSources (Sources.drops_finishDestroy _ id).edits.flags

end

theorem step_agree (views : Views) (event : Event) (agree : views.Agree) : (views.step event).Agree := by
  unfold step
  split
  · exact agree.onUnmap _ _ _
  · exact agree.onDissociate _ _ _
  · exact agree.onDestroy _ _ _
  · split
    · exact agree
    · rename_i foreign
      exact agree.withSources (Sources.step_flags _ (by simpa using foreign) _)
  · exact agree
  · exact agree
  · rename_i own
    exact agree.overview (Overview.step_moves _ own).switches
  · rename_i own
    exact agree.withPreviews (Previews.step_moves _ own).switches

/-- In every state of every run the windows are hidden for an overlay exactly while it
is active or closing; so they are never all hidden without an overlay on the screen. -/
theorem hidden_while_shown (events : List Event) :
    Transition.Throughout step (fun views =>
      let windows := views.overview.sources.desktop.windows
      windows.multitaskingSourcesHidden = views.overview.view.isActive ∧
        windows.windowPreviewsSourcesHidden = views.view.isActive ∧
        (windows.overviewHidden = true → views.overview.view.isActive = true ∨ views.view.isActive = true))
      initial events := by
  refine Transition.Throughout.mono ?_ (Transition.throughout_invariant step_agree ⟨rfl, rfl⟩ events)
  intro views agree
  refine ⟨agree.multitasking, agree.previews, fun hidden => ?_⟩
  rw [← agree.multitasking, ← agree.previews]
  exact Bool.or_eq_true_iff.mp hidden

end Views

end FlakeWM.View
