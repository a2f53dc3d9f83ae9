import FlakeWM.Lib.Boxes

/-! Where a toplevel's frame is.

Three systems of coordinates meet: the scene node of the toplevel, the client's
window geometry, and the frame with the server-side decoration around it. An XDG
client is asked for a size and commits one later; an X11 window has its new size at
once. The size the client was asked for is kept, and whether it has committed it. -/

set_option autoImplicit false

namespace FlakeWM.Geometry

open Pixels

def kTitlebarHeight : Int := 40

structure Ssd where
  maximized : Bool
  tiled : Bool
  deriving DecidableEq, Repr

namespace Ssd

def borderWidth (ssd : Ssd) : Int := if ssd.maximized || ssd.tiled then 0 else 1

def frameGeometry (ssd : Ssd) (client : Box) : Box where
  x := client.x - ssd.borderWidth
  y := client.y - kTitlebarHeight - ssd.borderWidth
  width := client.width + ssd.borderWidth * 2
  height := client.height + kTitlebarHeight + ssd.borderWidth * 2

def contentGeometry (ssd : Ssd) (frame : Box) : Box where
  x := frame.x + ssd.borderWidth
  y := frame.y + kTitlebarHeight + ssd.borderWidth
  width := max 1 (frame.width - ssd.borderWidth * 2)
  height := max 1 (frame.height - kTitlebarHeight - ssd.borderWidth * 2)

end Ssd

inductive Tile where
  | left
  | right
  | topLeft
  | bottomLeft
  | topRight
  | bottomRight
  deriving DecidableEq, Repr

/-- The division of two `int`s; usable areas have no negative size. -/
def tileBox (usable : Box) (tile : Tile) : Box :=
  let leftWidth := usable.width.tdiv 2
  let rightWidth := usable.width - leftWidth
  let topHeight := usable.height.tdiv 2
  let bottomHeight := usable.height - topHeight
  match tile with
  | .left => { usable with width := leftWidth }
  | .right => { usable with x := usable.x + leftWidth, width := rightWidth }
  | .topLeft => { usable with width := leftWidth, height := topHeight }
  | .bottomLeft => { usable with y := usable.y + topHeight, width := leftWidth, height := bottomHeight }
  | .topRight => { usable with x := usable.x + leftWidth, width := rightWidth, height := topHeight }
  | .bottomRight =>
    { x := usable.x + leftWidth, y := usable.y + topHeight, width := rightWidth, height := bottomHeight }

def Nonempty (box : Box) : Prop := 0 < box.width ∧ 0 < box.height

instance (box : Box) : Decidable (Nonempty box) := inferInstanceAs (Decidable (_ ∧ _))

/-- Lengths of X11 windows, in the two directions. -/
structure XScale where
  toX : Int → Int
  fromX : Int → Int

def XScale.stored (scale : XScale) (length : Int) : Int := scale.fromX (max 1 (min 65535 (scale.toX length)))

/-- `x` and `y` are the position of the scene node, `tree` says that there is one.
`geometry` is what the client has committed; an X11 window has no offset in it.
`requested` are the sizes the client was asked for, the latest first, and `answered`
says that it has committed the latest one since. -/
structure Toplevel where
  xwayland : Bool
  alive : Bool
  tree : Bool
  mapped : Bool
  minimized : Bool
  canManage : Bool
  fullscreen : Bool
  positionRequested : Bool
  x : Int
  y : Int
  geometry : Box
  ssd : Option Ssd
  maximized : Bool
  tiled : Bool
  tile : Tile
  maximizedOutput : Option Nat
  tiledOutput : Option Nat
  maximizedBox : Box
  tiledBox : Box
  restoreBox : Box
  hasRestoreBox : Bool
  restorePositionPending : Bool
  tilePositionPending : Bool
  ssdInitialPositionPending : Bool
  keepCentered : Bool
  centeredFrame : Box
  requested : List (Int × Int)
  answered : Bool
  deriving DecidableEq, Repr

namespace Toplevel

/-- A new toplevel with its scene node at the origin. -/
def create (xwayland : Bool) : Toplevel where
  xwayland := xwayland
  alive := true
  tree := true
  mapped := false
  minimized := false
  canManage := true
  fullscreen := false
  positionRequested := false
  x := 0
  y := 0
  geometry := ⟨0, 0, 0, 0⟩
  ssd := none
  maximized := false
  tiled := false
  tile := .left
  maximizedOutput := none
  tiledOutput := none
  maximizedBox := ⟨0, 0, 0, 0⟩
  tiledBox := ⟨0, 0, 0, 0⟩
  restoreBox := ⟨0, 0, 0, 0⟩
  hasRestoreBox := false
  restorePositionPending := false
  tilePositionPending := false
  ssdInitialPositionPending := false
  keepCentered := false
  centeredFrame := ⟨0, 0, 0, 0⟩
  requested := []
  answered := false

def frameGeometry (toplevel : Toplevel) : Box :=
  match toplevel.ssd with
  | some ssd => ssd.frameGeometry toplevel.geometry
  | none => toplevel.geometry

def layoutFrame (toplevel : Toplevel) : Box :=
  if toplevel.tree then
    let frame := toplevel.frameGeometry
    { frame with
      x := frame.x + (toplevel.x - toplevel.geometry.x)
      y := frame.y + (toplevel.y - toplevel.geometry.y) }
  else ⟨0, 0, 0, 0⟩

def setPosition (toplevel : Toplevel) (x y : Int) : Toplevel := { toplevel with x := x, y := y }

def placeFrame (toplevel : Toplevel) (box : Box) : Toplevel :=
  toplevel.setPosition (box.x - toplevel.frameGeometry.x) (box.y - toplevel.frameGeometry.y)

def askFor (toplevel : Toplevel) (width height : Int) : Toplevel :=
  { toplevel with requested := (width, height) :: toplevel.requested, answered := false }

def contentOf (toplevel : Toplevel) (box : Box) : Box :=
  match toplevel.ssd with
  | some ssd => ssd.contentGeometry box
  | none => box

/-- `Configure` of an XDG toplevel that has made its first commit, and of an X11 window. -/
def configure (scale : XScale) (toplevel : Toplevel) (box : Box) : Toplevel :=
  if toplevel.tree = false ∨ ¬ Nonempty box then toplevel
  else if toplevel.xwayland then
    if toplevel.alive then
      { (toplevel.setPosition box.x box.y).askFor (scale.stored box.width) (scale.stored box.height) with
        geometry := ⟨0, 0, scale.stored box.width, scale.stored box.height⟩ }
    else toplevel
  else
    let content := toplevel.contentOf box
    (toplevel.setPosition (content.x - toplevel.geometry.x) (content.y - toplevel.geometry.y)).askFor
      content.width content.height

def ssdSetMaximized (toplevel : Toplevel) (maximized : Bool) : Toplevel :=
  { toplevel with ssd := toplevel.ssd.map ({ · with maximized := maximized }) }

def ssdSetTiled (toplevel : Toplevel) (tiled : Bool) : Toplevel :=
  { toplevel with ssd := toplevel.ssd.map ({ · with tiled := tiled }) }

def savedBox (toplevel : Toplevel) : Box :=
  let frame := toplevel.frameGeometry
  { frame with x := toplevel.x + frame.x, y := toplevel.y + frame.y }

def saveRestoreBox (toplevel : Toplevel) : Toplevel :=
  if Nonempty toplevel.frameGeometry then { toplevel with restoreBox := toplevel.savedBox, hasRestoreBox := true }
  else toplevel

/-- Ask for the saved box again, if there is one. -/
def requestRestore (scale : XScale) (toplevel : Toplevel) : Toplevel :=
  if toplevel.hasRestoreBox then
    { toplevel.configure scale toplevel.restoreBox with restorePositionPending := true }
  else toplevel

def clearTiled (toplevel : Toplevel) : Toplevel :=
  { toplevel with tiled := false, tilePositionPending := false }.ssdSetTiled false

/-- `SetMaximized`; the output under the pointer and its usable area are given. -/
def setMaximized (scale : XScale) (toplevel : Toplevel) (maximized : Bool) (output : Option Nat) (usable : Box) :
    Toplevel :=
  if toplevel.alive = false ∨ toplevel.tree = false then toplevel
  else if maximized = toplevel.maximized then
    -- An explicit unmaximize request also leaves a tiling slot.
    let left := if maximized = false ∧ toplevel.tiled then toplevel.clearTiled.requestRestore scale else toplevel
    left.ssdSetMaximized maximized
  else
    let saved := if maximized ∧ toplevel.tiled = false then toplevel.saveRestoreBox else toplevel
    let changed := { saved.clearTiled with maximized := maximized }.ssdSetMaximized maximized
    if maximized then
      let targeted := { changed with maximizedOutput := output, maximizedBox := usable }
      -- A maximize request also brings a hidden window back.
      { targeted.configure scale usable with minimized := false }
    else { changed.requestRestore scale with maximizedOutput := none }

def mayTile (toplevel : Toplevel) (output : Option Nat) (usable : Box) : Bool :=
  toplevel.mapped && toplevel.alive && toplevel.canManage && toplevel.tree && output.isSome &&
    1 < usable.width && 1 < usable.height

/-- `TileToplevel`, with the output under the pointer and its usable area. -/
def tileToplevel (scale : XScale) (toplevel : Toplevel) (tile : Tile) (output : Option Nat) (usable : Box) : Toplevel :=
  if toplevel.mayTile output usable then
    let saved :=
      if toplevel.maximized = false ∧ toplevel.tiled = false then toplevel.saveRestoreBox else toplevel
    let target := tileBox usable tile
    let changed := { saved with
      maximized := false
      maximizedOutput := none
      tiled := true
      tiledBox := target
      tile := tile
      tiledOutput := output
      tilePositionPending := true
      restorePositionPending := false }
    { ((changed.ssdSetMaximized false).ssdSetTiled true).configure scale target with minimized := false }
  else toplevel

def moveToplevelFrame (scale : XScale) (toplevel : Toplevel) (x y : Int) : Toplevel :=
  let frame := toplevel.layoutFrame
  if toplevel.xwayland then toplevel.configure scale ⟨x, y, frame.width, frame.height⟩
  else toplevel.setPosition (toplevel.x + x - frame.x) (toplevel.y + y - frame.y)

/-- `ConstrainToUsableArea`; `usableUnder` finds the usable area a frame belongs to. -/
def constrainToUsableArea (scale : XScale) (usableUnder : Box → Option Box) (toplevel : Toplevel) : Toplevel :=
  if toplevel.alive = false ∨ toplevel.tree = false ∨ toplevel.maximized ∨ toplevel.tiled ∨ toplevel.canManage = false ∨
      toplevel.fullscreen then toplevel
  else
    let frame := toplevel.layoutFrame
    if ¬ Nonempty frame then toplevel
    else match usableUnder frame with
      | none => toplevel
      | some usable =>
        if ¬ Nonempty usable then toplevel
        else
          let x := max (min frame.x (usable.x + usable.width - frame.width)) usable.x
          let y := max (min frame.y (usable.y + usable.height - frame.height)) usable.y
          if x ≠ frame.x ∨ y ≠ frame.y then toplevel.moveToplevelFrame scale x y else toplevel

/-- `KeepCentered`, for a window that is to be kept centered. -/
def recenter (scale : XScale) (usableUnder : Box → Option Box) (toplevel : Toplevel) : Toplevel :=
  if toplevel.mapped = false ∨ toplevel.maximized ∨ toplevel.tiled ∨ toplevel.fullscreen ∨ toplevel.positionRequested then
    { toplevel with keepCentered := false }
  else
    let frame := toplevel.layoutFrame
    let centered := toplevel.centeredFrame
    if ¬ Nonempty frame ∨ frame.width = centered.width ∧ frame.height = centered.height then toplevel
    else
      let moved := (toplevel.moveToplevelFrame scale (centered.x + (centered.width - frame.width).tdiv 2)
        (centered.y + (centered.height - frame.height).tdiv 2)).constrainToUsableArea scale usableUnder
      { moved with centeredFrame := moved.layoutFrame }

/-- A decoration that is new moves a window from the layout's origin so that its
frame starts there. -/
def placeDecorated (toplevel : Toplevel) : Toplevel :=
  if toplevel.ssd.isSome ∧ toplevel.ssdInitialPositionPending ∧ Nonempty toplevel.geometry then
    let placed :=
      if toplevel.x = 0 ∧ toplevel.y = 0 then
        toplevel.setPosition (-toplevel.frameGeometry.x) (-toplevel.frameGeometry.y)
      else toplevel
    { placed with ssdInitialPositionPending := false }
  else toplevel

def placeRequested (toplevel : Toplevel) : Toplevel :=
  if toplevel.maximized ∧ Nonempty toplevel.maximizedBox then toplevel.placeFrame toplevel.maximizedBox
  else if toplevel.tilePositionPending ∧ Nonempty toplevel.tiledBox then
    { toplevel.placeFrame toplevel.tiledBox with tilePositionPending := false }
  else if toplevel.restorePositionPending ∧ toplevel.hasRestoreBox then
    { toplevel.placeFrame toplevel.restoreBox with restorePositionPending := false }
  else toplevel

def commitGeometry (toplevel : Toplevel) (geometry : Box) : Toplevel :=
  { toplevel with
    geometry := geometry
    answered := toplevel.requested.head? == some (geometry.width, geometry.height) }

/-- `OnCommit`. An X11 window keeps the geometry it was given: its commit returns
early, as it has no XDG handle. -/
def onCommit (scale : XScale) (usableUnder : Box → Option Box) (toplevel : Toplevel) (geometry : Box) : Toplevel :=
  if toplevel.xwayland then toplevel.commitGeometry toplevel.geometry
  else if toplevel.alive = false ∨ toplevel.tree = false then toplevel
  else
    let placed := (toplevel.commitGeometry geometry).placeDecorated.placeRequested
    if placed.keepCentered then placed.recenter scale usableUnder else placed

/-- The target box of a maximized toplevel, or of a tiled one with its position pending. -/
def target (toplevel : Toplevel) : Option Box :=
  if toplevel.maximized then if Nonempty toplevel.maximizedBox then some toplevel.maximizedBox else none
  else if toplevel.tiled ∧ toplevel.tilePositionPending ∧ Nonempty toplevel.tiledBox then some toplevel.tiledBox
  else none

/-- An XDG toplevel that is there. -/
structure Shown (toplevel : Toplevel) : Prop where
  xdg : toplevel.xwayland = false
  alive : toplevel.alive = true
  tree : toplevel.tree = true

section

variable {toplevel : Toplevel} {box : Box}

/-- Placing the frame counts the client's offset, although the node stands at the
client's geometry already. -/
theorem layoutFrame_placeFrame (shown : toplevel.tree = true) (box : Box) :
    (toplevel.placeFrame box).layoutFrame.x = box.x - toplevel.geometry.x ∧
      (toplevel.placeFrame box).layoutFrame.y = box.y - toplevel.geometry.y := by
  have frame : (toplevel.placeFrame box).frameGeometry = toplevel.frameGeometry := rfl
  unfold layoutFrame
  rw [if_pos (show (toplevel.placeFrame box).tree = true from shown), frame]
  simp only [placeFrame, setPosition]
  omega

theorem target_managed (held : toplevel.target = some box) : toplevel.maximized = true ∨ toplevel.tiled = true := by
  unfold target at held
  split at held
  · rename_i mx
    exact .inl mx
  · split at held
    · rename_i tiled
      exact .inr tiled.1
    · cases held

theorem placeRequested_of_target (held : toplevel.target = some box) :
    toplevel.placeRequested.layoutFrame = (toplevel.placeFrame box).layoutFrame := by
  unfold target at held
  unfold placeRequested
  split at held
  · rename_i mx
    split at held
    · rename_i filled
      obtain rfl := Option.some.inj held
      rw [if_pos ⟨mx, filled⟩]
    · cases held
  · rename_i floating
    split at held
    · rename_i tiled
      obtain rfl := Option.some.inj held
      rw [if_neg fun both => floating both.1, if_pos tiled.2]
      rfl
    · cases held

theorem placeRequested_eq (t : Toplevel) : ∃ x y tilePending restorePending, t.placeRequested = { t with
      x := x, y := y, tilePositionPending := tilePending, restorePositionPending := restorePending } := by
  unfold placeRequested
  split
  · exact ⟨_, _, _, _, rfl⟩
  · split
    · exact ⟨_, _, _, _, rfl⟩
    · split
      · exact ⟨_, _, _, _, rfl⟩
      · exact ⟨_, _, _, _, rfl⟩

theorem placeDecorated_eq (t : Toplevel) : ∃ x y pending,
    t.placeDecorated = { t with x := x, y := y, ssdInitialPositionPending := pending } := by
  unfold placeDecorated
  split
  · dsimp only
    split
    · exact ⟨_, _, _, rfl⟩
    · exact ⟨_, _, _, rfl⟩
  · exact ⟨_, _, _, rfl⟩

theorem recenter_managed (sc : XScale) (usableUnder : Box → Option Box)
    (managed : toplevel.maximized = true ∨ toplevel.tiled = true) :
    toplevel.recenter sc usableUnder = { toplevel with keepCentered := false } := by
  unfold recenter
  rw [if_pos]
  tauto

/-- For every XDG toplevel, decorated or not, and every geometry its client commits,
the frame has the target's corner after the commit exactly if the geometry has no
offset. -/
theorem layoutFrame_onCommit_iff (scale : XScale) (usableUnder : Box → Option Box) (toplevel : Toplevel)
    (geometry box : Box) (shown : toplevel.Shown) (held : toplevel.target = some box) :
    (toplevel.onCommit scale usableUnder geometry).layoutFrame.x = box.x ∧
      (toplevel.onCommit scale usableUnder geometry).layoutFrame.y = box.y ↔ geometry.x = 0 ∧ geometry.y = 0 := by
  obtain ⟨x, y, pending, decorated⟩ := placeDecorated_eq (toplevel.commitGeometry geometry)
  have target : (toplevel.commitGeometry geometry).placeDecorated.target = some box := by rw [decorated]; exact held
  have tree : (toplevel.commitGeometry geometry).placeDecorated.tree = true := by rw [decorated]; exact shown.tree
  have offset : (toplevel.commitGeometry geometry).placeDecorated.geometry = geometry := by rw [decorated]; rfl
  have placed : (toplevel.onCommit scale usableUnder geometry).layoutFrame =
      ((toplevel.commitGeometry geometry).placeDecorated.placeFrame box).layoutFrame := by
    rw [← placeRequested_of_target target]
    obtain ⟨px, py, tilePending, restorePending, requested⟩ :=
      placeRequested_eq (toplevel.commitGeometry geometry).placeDecorated
    have before := target_managed target
    have managed : (toplevel.commitGeometry geometry).placeDecorated.placeRequested.maximized = true ∨
        (toplevel.commitGeometry geometry).placeDecorated.placeRequested.tiled = true := by
      rw [requested]
      exact before
    simp only [onCommit, shown.xdg, shown.alive, shown.tree, Bool.false_eq_true, Bool.true_eq_false, or_self,
      if_false]
    split
    · rw [recenter_managed scale usableUnder managed]
      rfl
    · rfl
  obtain ⟨atX, atY⟩ := layoutFrame_placeFrame tree box
  rw [placed, atX, atY, offset]
  omega

/-- A decorated toplevel is maximized and its client has no shadow of its own. -/
theorem layoutFrame_onCommit_decorated :
    let toplevel : Toplevel := { create false with
      ssd := some ⟨true, false⟩, maximized := true, maximizedBox := ⟨0, 30, 1920, 1050⟩ }
    toplevel.target = some ⟨0, 30, 1920, 1050⟩ ∧
      (toplevel.onCommit ⟨id, id⟩ (fun _ => none) ⟨0, 0, 1920, 1010⟩).layoutFrame.x = 0 ∧
      (toplevel.onCommit ⟨id, id⟩ (fun _ => none) ⟨0, 0, 1920, 1010⟩).layoutFrame.y = 30 :=
  ⟨rfl, (layoutFrame_onCommit_iff ⟨id, id⟩ (fun _ => none) _ ⟨0, 0, 1920, 1010⟩ ⟨0, 30, 1920, 1050⟩
    ⟨rfl, rfl, rfl⟩ rfl).mpr ⟨rfl, rfl⟩⟩

/-- A client that draws a shadow of 26 pixels around its window is maximized: the
frame stands 26 pixels left of the usable area and 23 above it. -/
theorem layoutFrame_onCommit_shadow :
    let toplevel : Toplevel := { create false with maximized := true, maximizedBox := ⟨0, 30, 1920, 1050⟩ }
    let frame := (toplevel.onCommit ⟨id, id⟩ (fun _ => none) ⟨26, 23, 1920, 1050⟩).layoutFrame
    frame.x = -26 ∧ frame.y = 7 := by
  decide

end

end Toplevel

end FlakeWM.Geometry
