import FlakeWM.Geometry.ResizeHit
import FlakeWM.Lib.Rounding
import FlakeWM.Lib.Transition

/-! Windows that are moved and resized with the pointer.

A grab remembers the window and where the pointer held it, and every motion computes the
window's box from the grab. The position of an XDG toplevel is set at once, while its
size changes only with a commit of the client. -/

set_option autoImplicit false

namespace FlakeWM.Geometry

open Pixels

def truncate (value : ℚ) : Int := if 0 ≤ value then ⌊value⌋ else ⌈value⌉

theorem truncate_intCast (value : Int) : truncate value = value := by
  unfold truncate
  split <;> simp

/-- No edge is selected together with the opposite one. -/
def Edges.proper (edges : Edges) : Bool := !(edges.top && edges.bottom) && !(edges.left && edges.right)

structure Cursor where
  x : ℚ
  y : ℚ

/-- `x` and `y` lead from the border to the pointer. -/
structure Grab where
  edges : Edges
  box : Box
  x : ℚ
  y : ℚ

namespace Grab

/-- What `BeginInteractive` remembers of a resize. -/
def beginResize (edges : Edges) (box : Box) (cursor : Cursor) : Grab where
  edges := edges
  box := box
  x := cursor.x - ((box.x + if edges.right then box.width else 0 : Int) : ℚ)
  y := cursor.y - ((box.y + if edges.bottom then box.height else 0 : Int) : ℚ)

/-- The box that a motion asks for; `usable` belongs to the output under the pointer,
`offset` is where the client's geometry starts. -/
def resized (grab : Grab) (offset : Int) (usable : Box) (cursor : Cursor) : Box :=
  let box := grab.box
  let borderX := truncate (cursor.x - grab.x)
  let borderY := truncate (cursor.y - grab.y)
  let top :=
    if grab.edges.top then
      let dragged := min borderY (box.y + box.height - 1)
      -- Growing upward stops at a top panel.
      if Nonempty usable ∧ usable.y + offset ≤ box.y then
        min (max dragged (usable.y + offset)) (box.y + box.height - 1)
      else dragged
    else box.y
  let bottom := if !grab.edges.top && grab.edges.bottom then max borderY (box.y + 1) else box.y + box.height
  let left := if grab.edges.left then min borderX (box.x + box.width - 1) else box.x
  let right := if !grab.edges.left && grab.edges.right then max borderX (box.x + 1) else box.x + box.width
  ⟨left, top, right - left, bottom - top⟩

variable {g : Grab} {box : Box}

theorem resized_edges (filled : Nonempty g.box) (offset : Int) (u : Box) (c : Cursor) :
    Nonempty (g.resized offset u c) ∧ (g.edges.left = false → (g.resized offset u c).x = g.box.x) ∧
      (g.edges.right = false → (g.resized offset u c).x + (g.resized offset u c).width = g.box.x + g.box.width) ∧
      (g.edges.top = false → (g.resized offset u c).y = g.box.y) ∧
      (g.edges.bottom = false → (g.resized offset u c).y + (g.resized offset u c).height = g.box.y + g.box.height) := by
  obtain ⟨wide, high⟩ := filled
  have ⟨least, most⟩ : 0 < g.box.y + g.box.height - (g.resized offset u c).y ∧
      (g.edges.top = false → (g.resized offset u c).y = g.box.y) := by
    unfold resized
    dsimp only
    split
    · rename_i selected
      refine ⟨?_, by simp [selected]⟩
      split <;> omega
    · exact ⟨by omega, fun _ => rfl⟩
  unfold resized at least most ⊢
  dsimp only at least most ⊢
  refine ⟨⟨?_, ?_⟩, ?_, ?_, most, ?_⟩
  · cases g.edges.left <;> cases g.edges.right <;> simp
    omega
  · cases top : g.edges.top with
    | true => simpa [top] using least
    | false =>
      cases g.edges.bottom <;> simp
      omega
  · intro free
    simp [free]
  · intro free
    simp [free]
  · intro free
    simp [free]

theorem resized_start {es : Edges} (filled : Nonempty box) (proper : es.proper = true) (offset : Int) (u : Box)
    (c : Cursor) : (beginResize es box c).resized offset u c = box := by
  obtain ⟨wide, high⟩ := filled
  obtain ⟨top, bottom, left, right⟩ := es
  unfold resized beginResize
  simp only [sub_sub_cancel, truncate_intCast]
  cases box
  simp only [Box.mk.injEq]
  dsimp only at wide high ⊢
  cases top <;> cases bottom <;> cases left <;> cases right <;> simp [Edges.proper] at proper ⊢ <;>
    (try split) <;> omega

theorem resized_limit {offset : Int} {u : Box} (filled : Nonempty g.box) (room : Nonempty u)
    (below : u.y + offset ≤ g.box.y) (c : Cursor) :
    u.y + offset ≤ (g.resized offset u c).y := by
  have high := filled.2
  unfold resized
  dsimp only
  split
  · rw [if_pos ⟨room, below⟩]
    omega
  · exact below

end Grab

namespace Toplevel

def kMoveTitlebarVisible : Int := 32

/-- A motion of an interactive move; `grab` leads from the node to the pointer. -/
def moveStep (scale : XScale) (grab : Cursor) (usable : Box) (cursor : Cursor) (toplevel : Toplevel) : Toplevel :=
  let x := truncate (cursor.x - grab.x)
  let y := truncate (cursor.y - grab.y)
  let offset := toplevel.layoutFrame.y - toplevel.y
  let lowest := max usable.y (usable.y + usable.height - kMoveTitlebarVisible)
  let y := if Nonempty usable then max usable.y (min (y + offset) lowest) - offset else y
  if toplevel.xwayland then toplevel.configure scale { toplevel.geometry with x := x, y := y }
  else toplevel.setPosition x y

/-- An X11 window has a size and no decoration of the compositor. -/
def Solid (toplevel : Toplevel) : Prop :=
  toplevel.xwayland = true → toplevel.ssd = none ∧ Nonempty toplevel.geometry

theorem top_moveStep {t : Toplevel} {u : Box} (alive : t.alive = true) (tree : t.tree = true)
    (solid : t.Solid) (room : Nonempty u) (sc : XScale) (g c : Cursor) :
    u.y ≤ (t.moveStep sc g u c).layoutFrame.y ∧ (t.moveStep sc g u c).layoutFrame.y < u.y + u.height := by
  have high := room.2
  have frame : t.layoutFrame.y - t.y = t.frameGeometry.y - t.geometry.y := by
    simp only [layoutFrame, tree, if_true]
    omega
  unfold moveStep kMoveTitlebarVisible
  dsimp only
  rw [if_pos room, frame]
  by_cases x11 : t.xwayland = true
  · obtain ⟨plain, filled⟩ := solid x11
    have same : t.frameGeometry = t.geometry := by simp [frameGeometry, plain]
    rw [if_pos x11, configure, if_neg (by simp [tree, Nonempty, filled.1, filled.2]), if_pos x11, if_pos alive, same]
    simp only [layoutFrame, askFor, setPosition, tree, if_true, frameGeometry, plain]
    omega
  · rw [if_neg x11]
    have kept : ∀ x y, (t.setPosition x y).frameGeometry = t.frameGeometry := fun _ _ => rfl
    simp only [layoutFrame, kept]
    simp only [setPosition, tree, if_true]
    omega

/-- A resize keeps a size and the edges that are not selected, starts from the box that
was grabbed and stops at a panel; a move keeps the top of the frame in the usable area. -/
theorem interactive_steps {box : Box} (filled : Nonempty box) (edges : Edges) (start : Cursor) :
    (∀ offset usable cursor,
      let next := (Grab.beginResize edges box start).resized offset usable cursor
      (1 ≤ next.width ∧ 1 ≤ next.height) ∧
        (edges.left = false → next.x = box.x) ∧ (edges.right = false → next.x + next.width = box.x + box.width) ∧
        (edges.top = false → next.y = box.y) ∧ (edges.bottom = false → next.y + next.height = box.y + box.height) ∧
        (edges.proper = true → cursor = start → next = box) ∧
        (Nonempty usable → usable.y + offset ≤ box.y → usable.y + offset ≤ next.y)) ∧
      ∀ (scale : XScale) (grab cursor : Cursor) (usable : Box) (toplevel : Toplevel), toplevel.alive = true →
        toplevel.tree = true → toplevel.Solid → Nonempty usable →
        let top := (toplevel.moveStep scale grab usable cursor).layoutFrame.y
        usable.y ≤ top ∧ top < usable.y + usable.height := by
  constructor
  · intro offset usable cursor
    have ⟨size, left, right, top, bottom⟩ := @Grab.resized_edges (.beginResize edges box start) filled offset usable cursor
    refine ⟨size, left, right, top, bottom, ?_, ?_⟩
    · rintro proper rfl
      exact Grab.resized_start filled proper offset usable cursor
    · intro room below
      exact @Grab.resized_limit (.beginResize edges box start) _ _ filled room below cursor
  · intro scale grab cursor usable toplevel alive tree solid room
    exact top_moveStep alive tree solid room scale grab cursor

theorem interactive_steps_corner :
    (Grab.beginResize ⟨true, false, true, false⟩ ⟨100, 80, 800, 600⟩ ⟨100, 80⟩).resized 0 ⟨0, 0, 1920, 1080⟩ ⟨100, 80⟩ =
      ⟨100, 80, 800, 600⟩ :=
  ((interactive_steps (by decide) ⟨true, false, true, false⟩ ⟨100, 80⟩).1 0 _ _).2.2.2.2.2.1 rfl rfl

/-- Opposite edges are both selected: the first motion takes all of the height. An X11
window that has no width in the layout is not moved at all. -/
theorem opposite_edges_collapse :
    (Grab.beginResize ⟨false, false, true, true⟩ ⟨100, 80, 800, 600⟩ ⟨100, 80⟩).resized 0 ⟨0, 0, 1920, 1080⟩ ⟨100, 80⟩ =
        ⟨100, 679, 800, 1⟩ ∧
      (moveStep ⟨id, id⟩ ⟨0, 0⟩ ⟨0, 0, 1920, 1080⟩ ⟨5, 5⟩ { create true with
        mapped := true, y := -50, geometry := ⟨0, 0, 0, 100⟩ }).layoutFrame.y = -50 := by
  decide +kernel

inductive ResizeEvent where
  | motion (usable : Box) (cursor : Cursor)
  | commit (geometry : Box)

def resizeStep (scale : XScale) (usableUnder : Box → Option Box) (grab : Grab) (toplevel : Toplevel) :
    ResizeEvent → Toplevel
  | .motion usable cursor => toplevel.configure scale (grab.resized toplevel.geometry.y usable cursor)
  | .commit geometry => toplevel.onCommit scale usableUnder geometry

/-- The edges of the frame that are not dragged are where they were. -/
def Anchored (edges : Edges) (start toplevel : Toplevel) : Prop :=
  (edges.left = false → toplevel.layoutFrame.x = start.layoutFrame.x) ∧
    (edges.right = false → toplevel.layoutFrame.x + toplevel.layoutFrame.width =
      start.layoutFrame.x + start.layoutFrame.width) ∧
    (edges.top = false → toplevel.layoutFrame.y = start.layoutFrame.y) ∧
    (edges.bottom = false → toplevel.layoutFrame.y + toplevel.layoutFrame.height =
      start.layoutFrame.y + start.layoutFrame.height)

/-- The client keeps the offset of its geometry, and what is not dragged of its size. -/
def complies (edges : Edges) (start : Toplevel) : ResizeEvent → Prop
  | .motion _ _ => True
  | .commit geometry => geometry.x = start.geometry.x ∧ geometry.y = start.geometry.y ∧
      (edges.right = false → geometry.width = start.geometry.width) ∧
      (edges.bottom = false → geometry.height = start.geometry.height)

/-- An XDG toplevel as `BeginInteractive` leaves it, with no position pending. -/
structure Grabbed (toplevel : Toplevel) : Prop where
  shown : toplevel.Shown
  floating : toplevel.maximized = false
  tile : toplevel.tilePositionPending = false
  restore : toplevel.restorePositionPending = false
  decoration : toplevel.ssdInitialPositionPending = false
  free : toplevel.keepCentered = false

structure Held (edges : Edges) (start toplevel : Toplevel) : Prop extends Grabbed toplevel where
  x : toplevel.x = start.x
  y : toplevel.y = start.y
  ssd : toplevel.ssd = start.ssd
  geometry : complies edges start (.commit toplevel.geometry)

section

variable {es : Edges} {start t : Toplevel}

theorem Held.anchored (held : Held es start t) (tree : start.tree = true) : Anchored es start t := by
  obtain ⟨left, top, wide, high⟩ := held.geometry
  have x := held.x
  have y := held.y
  unfold Anchored layoutFrame frameGeometry
  rw [if_pos held.shown.tree, if_pos tree, held.ssd]
  cases start.ssd with
  | none =>
    dsimp only
    refine ⟨fun _ => by omega, fun free => ?_, fun _ => by omega, fun free => ?_⟩
    · have := wide free
      omega
    · have := high free
      omega
  | some ssd =>
    unfold Ssd.frameGeometry
    dsimp only
    refine ⟨fun _ => by omega, fun free => ?_, fun _ => by omega, fun free => ?_⟩
    · have := wide free
      omega
    · have := high free
      omega

theorem Held.step (held : Held es start t) (sides : es.left = false ∧ es.top = false)
    (filled : Nonempty start.savedBox) (sc : XScale) (usableUnder : Box → Option Box) (c : Cursor)
    (event : ResizeEvent) (compliant : complies es start event) :
    Held es start (t.resizeStep sc usableUnder (.beginResize es start.savedBox c) event) := by
  have ⟨left, top, _, _⟩ := held.geometry
  cases event with
  | motion u now =>
    have ⟨size, x, _, y, _⟩ := @Grab.resized_edges (.beginResize es start.savedBox c) filled t.geometry.y u now
    have x := x sides.1
    have y := y sides.2
    unfold resizeStep
    dsimp only
    generalize (Grab.beginResize es start.savedBox c).resized t.geometry.y u now = box at *
    have content : (t.contentOf box).x - t.geometry.x = start.x ∧ (t.contentOf box).y - t.geometry.y = start.y := by
      simp only [Grab.beginResize, savedBox, frameGeometry] at x y
      unfold contentOf
      rw [held.ssd]
      cases decoration : start.ssd with
      | none =>
        rw [decoration] at x y
        dsimp only at x y ⊢
        omega
      | some ssd =>
        rw [decoration] at x y
        simp only [Ssd.frameGeometry, Ssd.contentGeometry] at x y ⊢
        omega
    rw [configure, if_neg (by simp [held.shown.tree, size]), if_neg (by simp [held.shown.xdg])]
    exact ⟨⟨⟨held.shown.xdg, held.shown.alive, held.shown.tree⟩, held.floating, held.tile, held.restore, held.decoration,
      held.free⟩, content.1, content.2, held.ssd, held.geometry⟩
  | commit geometry =>
    have placed : t.onCommit sc usableUnder geometry = t.commitGeometry geometry := by
      have decorated : (t.commitGeometry geometry).placeDecorated = t.commitGeometry geometry :=
        if_neg (by simp [commitGeometry, held.decoration])
      have requested : (t.commitGeometry geometry).placeRequested = t.commitGeometry geometry := by
        simp [placeRequested, commitGeometry, held.floating, held.tile, held.restore]
      unfold onCommit
      rw [if_neg (by simp [held.shown.xdg]), if_neg (by simp [held.shown.alive, held.shown.tree]), decorated, requested]
      exact if_neg (by simp [commitGeometry, held.free])
    unfold resizeStep
    dsimp only
    rw [placed]
    exact ⟨⟨⟨held.shown.xdg, held.shown.alive, held.shown.tree⟩, held.floating, held.tile, held.restore, held.decoration,
      held.free⟩, held.x, held.y, held.ssd, compliant⟩

end

/-- Where only the right and the lower edge are dragged, the other edges stay through
every motion and every commit of a client that does not move itself. -/
theorem throughout_anchored {edges : Edges} {start : Toplevel} (grabbed : start.Grabbed) (filled : Nonempty start.savedBox)
    (sides : edges.left = false ∧ edges.top = false) (scale : XScale) (usableUnder : Box → Option Box) (cursor : Cursor)
    {events : List ResizeEvent}
    (compliant : Transition.Along (resizeStep scale usableUnder (.beginResize edges start.savedBox cursor))
      (fun _ event => complies edges start event) start events) :
    Transition.Throughout (resizeStep scale usableUnder (.beginResize edges start.savedBox cursor)) (Anchored edges start)
      start events := by
  have held : Held edges start start := ⟨grabbed, rfl, rfl, rfl, rfl, rfl, fun _ => rfl, fun _ => rfl⟩
  have kept := Transition.along_invariant (fun toplevel event held compliant =>
    held.step sides filled scale usableUnder cursor event compliant) held compliant
  exact kept.mono fun toplevel held => held.anchored grabbed.shown.tree

/-- A floating window of 800 by 600. -/
def window : Toplevel := { create false with mapped := true, x := 100, y := 80, geometry := ⟨0, 0, 800, 600⟩ }

theorem throughout_anchored_corner :
    Transition.Throughout (resizeStep ⟨id, id⟩ (fun _ => none) (.beginResize ⟨false, true, false, true⟩ window.savedBox ⟨0, 0⟩))
      (Anchored ⟨false, true, false, true⟩ window) window
      [.motion ⟨0, 0, 1920, 1080⟩ ⟨9, 9⟩, .commit ⟨0, 0, 805, 600⟩] :=
  throughout_anchored ⟨⟨rfl, rfl, rfl⟩, rfl, rfl, rfl, rfl, rfl⟩ (by decide) ⟨rfl, rfl⟩ _ _ _
    ⟨trivial, ⟨rfl, rfl, by simp, by simp⟩, trivial⟩

/-- The left edge is dragged: the right one follows until the client takes the size, and
stays away if the client has a minimum. -/
theorem right_edge_follows :
    let run := Transition.run (resizeStep ⟨id, id⟩ (fun _ => none)
      (.beginResize ⟨true, false, false, false⟩ window.savedBox ⟨100, 300⟩)) window
    let dragged : ResizeEvent := .motion ⟨0, 0, 1920, 1080⟩ ⟨150, 300⟩
    ¬ Anchored ⟨true, false, false, false⟩ window (run [dragged]) ∧
      ¬ Anchored ⟨true, false, false, false⟩ window (run [dragged, .commit ⟨0, 0, 800, 600⟩]) := by
  unfold Anchored
  decide +kernel

end Toplevel

end FlakeWM.Geometry
