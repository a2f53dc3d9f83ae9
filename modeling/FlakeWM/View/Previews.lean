import FlakeWM.View.Overlays
import FlakeWM.View.Sources
import Mathlib.Data.List.Sort

/-! The window previews over the windows they show.

The overlay is open, closing or closed. It draws its items again and again, from
the surfaces it listed when it was opened or last laid out; what it draws each
time is recorded together with the windows that are mapped at that time. -/

set_option autoImplicit false

namespace FlakeWM.View

open FlakeWM.Input FlakeWM.Desktop

structure Box where
  x : Int
  y : Int
  width : Int
  height : Int
  deriving DecidableEq, Repr

def Box.overlaps (first second : Box) : Bool :=
  decide (first.x < second.x + second.width) && decide (second.x < first.x + first.width) &&
    decide (first.y < second.y + second.height) && decide (second.y < first.y + first.height)

/-- Where a window is, and whether its title or application contains the filter. -/
structure Look where
  geometry : Box
  matching : Bool
  deriving DecidableEq, Repr

/-- The order of the previews: from top to bottom, then from left to right. -/
def Look.before (first second : Look) : Prop :=
  if first.geometry.y = second.geometry.y then first.geometry.x ≤ second.geometry.x
  else first.geometry.y < second.geometry.y

instance (first second : Look) : Decidable (first.before second) :=
  inferInstanceAs (Decidable (if first.geometry.y = second.geometry.y then first.geometry.x ≤ second.geometry.x
    else first.geometry.y < second.geometry.y))

namespace Sources

def previewEntries (sources : Sources) : List Nat :=
  (List.range sources.surfaces.length).filterMap fun id =>
    if sources.desktop.windows.test id fun toplevel =>
        toplevel.mapped && toplevel.alive && toplevel.canManage && toplevel.wantsFocus then
      sources.surfaceOf id
    else none

/-- What `Refresh` lists on the given screen. -/
def previewed (sources : Sources) (screen : Box) (looks : Nat → Look) (exclude : Option Nat) : List Nat :=
  (sources.previewEntries.filter fun surface =>
    let look := looks surface
    exclude != some surface && decide (0 < look.geometry.width) && decide (0 < look.geometry.height) &&
      look.geometry.overlaps screen && look.matching).insertionSort fun first second =>
        (looks first).before (looks second)

def performPreview (sources : Sources) : Request → Sources
  | .activate surface =>
    match sources.toplevelForSurface surface with
    | some id => { sources with desktop := Desktop.step sources.desktop (.previewsActivate id) }
    | none => sources
  | _ => sources

/-- `SetWindowPreviewsSourcesHidden`. -/
def setPreviewsHidden (sources : Sources) (hidden : Bool) : Sources :=
  { sources with desktop := Desktop.step sources.desktop (.hideWindowPreviewsSources hidden) }

end Sources

structure Rebuild where
  items : List Nat
  mapped : List Nat
  deriving DecidableEq, Repr

structure Previews where
  sources : Sources
  view : WindowPreviews
  screen : Box
  rebuilds : List Rebuild
  deriving DecidableEq, Repr

namespace Previews

def initial : Previews := ⟨.initial, .initial, ⟨0, 0, 0, 0⟩, []⟩

def rebuild (previews : Previews) : Previews :=
  { previews with
    rebuilds := previews.rebuilds ++ [⟨previews.view.items, previews.sources.mappedSurfaces⟩] }

/-- `UpdateView`: an overlay that is not shown draws nothing. -/
def updateView (previews : Previews) : Previews :=
  if previews.view.isActive then previews.rebuild else previews

def answered (previews : Previews) (answers : Answers) (looks : Nat → Look) (exclude : Option Nat) : Answers :=
  { answers with previewed := previews.sources.previewed previews.screen looks exclude }

def noAnswers : Answers := ⟨-1, [], -1, false, false, -1, 0, false, false, [], none, none⟩

def startClose (previews : Previews) : Previews :=
  if !previews.view.active || previews.view.closing then previews
  else { previews with view := previews.view.startClose }.updateView

def cancel (previews : Previews) : Previews :=
  if previews.view.active && !previews.view.closing then previews.startClose else previews

def completeClose (previews : Previews) : Previews :=
  { previews with
    sources := previews.sources.setPreviewsHidden false
    view := { previews.view with active := false, closing := false, items := [], filter := [], highlighted := -1 } }

def reflow (previews : Previews) (looks : Nat → Look) (exclude : Option Nat) : Previews :=
  if !previews.view.active || previews.view.closing then previews
  else
    let view := previews.view.reflow (previews.answered noAnswers looks exclude)
    { previews with view := view }.updateView

/-- `ready` says whether there is a usable area and the renderer has a buffer;
`itemAt` is the item at the pointer. -/
def toggle (previews : Previews) (screen : Box) (ready : Bool) (looks : Nat → Look) (itemAt : Int) : Previews :=
  if previews.view.closing then
    -- the overlay opens again with the items it has
    { previews with view := { previews.view with active := true, closing := false } }.updateView
  else if previews.view.active then previews.startClose
  else if screen.width ≤ 0 ∨ screen.height ≤ 0 ∨ !ready then { previews with screen := screen }
  else
    let items := previews.sources.previewed screen looks none
    let view := { previews.view with filter := [], active := true, closing := false, items := items }
    if items.isEmpty then { previews with screen := screen, view := { view with active := false } }
    else
      let opened : Previews := { previews with
        screen := screen
        sources := previews.sources.setPreviewsHidden true
        view := { view with highlighted := itemAt } }
      opened.updateView

def keyDraws (view : WindowPreviews) (event : KeyEvent) : Bool :=
  view.active && !view.closing && event.hasState && event.pressed && !WindowPreviews.ownShortcut event &&
    (event.symbol == Keysym.escape || event.symbol == Keysym.returnKey || event.symbol == Keysym.kpEnter ||
      WindowPreviews.navigates event.symbol ||
      (event.symbol == Keysym.backSpace || event.symbol == Keysym.delete) && !view.filter.isEmpty ||
      event.symbol != Keysym.backSpace && event.symbol != Keysym.delete && event.symbol != Keysym.tab &&
        event.symbol != Keysym.isoLeftTab && !event.modifiers.has (.ctrl ||| .alt ||| .logo) && !event.text.isEmpty)

def obey (previews : Previews) (reply : Reply WindowPreviews) (draws : Bool) : Previews :=
  let done := { previews with
    view := reply.next
    sources := reply.requests.foldl Sources.performPreview previews.sources }
  if draws then done.updateView else done

def handleKey (previews : Previews) (event : KeyEvent) (answers : Answers) (looks : Nat → Look) : Previews :=
  previews.obey (previews.view.handleKey event (previews.answered answers looks none)) (keyDraws previews.view event)

def buttonDraws (view : WindowPreviews) (button : Button) (pressed : Bool) (answers : Answers) : Bool :=
  view.active && !view.closing && !pressed &&
    if 0 ≤ answers.itemAt then
      button == .left && !answers.onCloseButton ||
        (button == .left || button == .right) && (view.surfaceAt answers.itemAt).isSome
    else button == .left

/-- An item that is closed is left out of the next layout. -/
def handleButton (previews : Previews) (button : Button) (pressed : Bool) (answers : Answers) (looks : Nat → Look) :
    Previews :=
  let excluded := previews.view.surfaceAt answers.itemAt
  previews.obey (previews.view.handleButton button pressed (previews.answered answers looks excluded))
    (buttonDraws previews.view button pressed answers)

def handleMotion (previews : Previews) (itemAt : Int) : Previews :=
  if !previews.view.active || previews.view.closing || !previews.view.filter.isEmpty ||
      itemAt == previews.view.highlighted then previews
  else { previews with view := { previews.view with highlighted := itemAt } }.updateView

/-- A tick of the animation; `finished` says whether its duration has passed. -/
def updateAnimation (previews : Previews) (finished : Bool) : Previews :=
  if !previews.view.isActive then previews
  else if previews.view.closing && finished then previews.updateView.completeClose
  else previews.updateView

def surfaceUpdated (previews : Previews) (surface : Option Nat) : Previews :=
  match surface with
  | none => previews
  | some surface =>
    if previews.view.isActive && previews.view.items.contains surface then previews.rebuild else previews

def surfaceUnavailable (previews : Previews) (surface : Option Nat) (looks : Nat → Look) : Previews :=
  match surface with
  | none => previews
  | some surface =>
    if !previews.view.isActive || previews.view.closing then previews
    else if previews.view.items.contains surface then previews.reflow looks (some surface)
    else previews

/-- `OnUnmap`: the overlay is told while the window still counts as mapped. -/
def onUnmap (previews : Previews) (id : Nat) (looks : Nat → Look) : Previews :=
  if previews.sources.desktop.windows.test id (·.mapped) then
    let told := previews.surfaceUnavailable (previews.sources.surfaceOf id) looks
    { told with sources := told.sources.finishUnmap id (previews.sources.desktop.hadFocus id) }
  else previews

def onDissociate (previews : Previews) (id : Nat) (looks : Nat → Look) : Previews :=
  if previews.sources.desktop.windows.test id (·.xwayland) then
    let hidden := previews.onUnmap id looks
    { hidden with sources := hidden.sources.finishDissociate id }
  else previews

/-- An X11 window has already lost its handle, and with it its surface, when the
overlay is told of its destruction. -/
def onDestroy (previews : Previews) (id : Nat) (looks : Nat → Look) : Previews :=
  let hidden := previews.onUnmap id looks
  let surface := if previews.sources.desktop.windows.test id (·.xwayland) then none else hidden.sources.surfaceOf id
  let told := hidden.surfaceUnavailable surface looks
  { told with sources := told.sources.finishDestroy id }

inductive Event where
  | desktop (event : Desktop.Event) (surface : Nat) (looks : Nat → Look)
  | commit (id : Nat)
  | toggle (screen : Box) (ready : Bool) (looks : Nat → Look) (itemAt : Int)
  | cancel
  | key (event : KeyEvent) (answers : Answers) (looks : Nat → Look)
  | motion (itemAt : Int)
  | button (button : Button) (pressed : Bool) (answers : Answers) (looks : Nat → Look)
  | tick (finished : Bool)

def step (previews : Previews) : Event → Previews
  | .desktop (.unmap id) _ looks => previews.onUnmap id looks
  | .desktop (.dissociate id) _ looks => previews.onDissociate id looks
  | .desktop (.destroy id) _ looks => previews.onDestroy id looks
  | .desktop event surface _ => { previews with sources := previews.sources.step event surface }
  | .commit id => previews.surfaceUpdated (previews.sources.surfaceOf id)
  | .toggle screen ready looks itemAt => previews.toggle screen ready looks itemAt
  | .cancel => previews.cancel
  | .key event answers looks => previews.handleKey event answers looks
  | .motion itemAt => previews.handleMotion itemAt
  | .button button pressed answers looks => previews.handleButton button pressed answers looks
  | .tick finished => previews.updateAnimation finished

end Previews
end FlakeWM.View
