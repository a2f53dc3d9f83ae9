import FlakeWM.Geometry.Restore
import FlakeWM.Screen.Layout

/-! Usable areas, and the toplevels that fill them.

Panels take strips off the edges of an output. What they leave is computed when the
layers of that output are arranged; it is stored with the output, and the toplevels
that are maximized or tiled there are given their new boxes. Outputs are numbered in
the order they appear; a disconnected one keeps its number and its stored area. -/

set_option autoImplicit false

namespace FlakeWM.Geometry

open Pixels Screen

inductive Layer where
  | overlay
  | top
  | bottom
  | background
  deriving DecidableEq, Repr

inductive PanelEdge where
  | top
  | bottom
  | left
  | right
  deriving DecidableEq, Repr

/-- A layer surface. `placed` says that it is initialized and in the tree of its layer,
`edge` is the one its exclusive zone belongs to, with the margin there. -/
structure Panel where
  output : Nat
  layer : Layer
  placed : Bool
  mapped : Bool
  edge : Option PanelEdge
  exclusiveZone : Int
  margin : Int
  deriving DecidableEq, Repr

namespace Panel

def reserve (usable : Box) (panel : Panel) : Box :=
  let strip := panel.exclusiveZone + panel.margin
  let rest :=
    if panel.mapped = true ∧ 0 < panel.exclusiveZone then
      match panel.edge with
      | some .top => { usable with y := usable.y + strip, height := usable.height - strip }
      | some .bottom => { usable with height := usable.height - strip }
      | some .left => { usable with x := usable.x + strip, width := usable.width - strip }
      | some .right => { usable with width := usable.width - strip }
      | none => usable
    else usable
  { rest with width := max 0 rest.width, height := max 0 rest.height }

def kLayerOrder : List Layer := [.overlay, .top, .bottom, .background]

def arrange (panels : List Panel) (output : Nat) (full : Box) : Box :=
  [true, false].foldl (fun usable exclusive =>
    kLayerOrder.foldl (fun usable layer =>
      (panels.filter fun panel => panel.placed && panel.output == output && panel.layer == layer &&
        decide (0 < panel.exclusiveZone) == exclusive).foldl reserve usable) usable) full

end Panel

structure Monitor (F : Type) where
  output : Output F
  connected : Bool
  usableBox : Box

structure Desk (F : Type) where
  monitors : List (Monitor F)
  layout : List LayoutOutput
  /-- Layer surfaces, with their numbers. -/
  panels : List (Nat × Panel)
  toplevels : List Toplevel

namespace Toplevel

def overlaps (first second : Box) : Bool :=
  decide (Nonempty first) && decide (Nonempty second) &&
    decide (max first.x second.x < min (first.x + first.width) (second.x + second.width)) &&
    decide (max first.y second.y < min (first.y + first.height) (second.y + second.height))

/-- Where a floating frame goes on one axis: back from a strip that was usable before.
The top-left edge wins. -/
def withdraw (start size usableStart usableSize oldStart oldSize : Int) : Int :=
  if start < usableStart ∧ oldStart ≤ start then usableStart
  else if usableStart + usableSize < start + size ∧ start + size ≤ oldStart + oldSize then
    max (usableStart + usableSize - size) usableStart
  else start

def fitFloating (scale : XScale) (usable old : Box) (toplevel : Toplevel) : Toplevel :=
  if usable = old ∨ ¬ Nonempty old ∨ toplevel.mapped = false ∨ toplevel.minimized ∨ toplevel.canManage = false ∨
      toplevel.fullscreen then toplevel
  else
    let box := toplevel.layoutFrame
    if ¬ Nonempty box ∨ overlaps box old = false then toplevel
    else
      let x := withdraw box.x box.width usable.x usable.width old.x old.width
      let y := withdraw box.y box.height usable.y usable.height old.y old.height
      if x = box.x ∧ y = box.y then toplevel else toplevel.moveToplevelFrame scale x y

/-- One round of `FitToplevelsToUsableArea`. -/
def fit (scale : XScale) (output : Nat) (usable old : Box) (toplevel : Toplevel) : Toplevel :=
  if toplevel.alive = false ∨ toplevel.tree = false then toplevel
  else if toplevel.maximized then
    if toplevel.maximizedOutput = some output then { toplevel with maximizedBox := usable }.configure scale usable
    else toplevel
  else if toplevel.tiled then
    if toplevel.tiledOutput = some output ∧ usable ≠ old then
      { toplevel with tiledBox := tileBox usable toplevel.tile, tilePositionPending := true }.configure scale
        (tileBox usable toplevel.tile)
    else toplevel
  else toplevel.fitFloating scale usable old

end Toplevel

namespace Desk

variable {F : Type}

def create : Desk F := ⟨[], [], [], []⟩

def connected (desk : Desk F) (output : Nat) : Bool := desk.monitors[output]?.any (·.connected)

def enabled (desk : Desk F) (output : Nat) : Bool := desk.monitors[output]?.any (·.output.enabled)

def modifyToplevel (desk : Desk F) (window : Nat) (change : Toplevel → Toplevel) : Desk F :=
  { desk with toplevels := desk.toplevels.modify window change }

section

variable [ScaleFormat F]

def shown (desk : Desk F) : List (Output F) := desk.monitors.map Monitor.output

def outputBox (desk : Desk F) (output : Nat) : Box := layoutBox desk.shown desk.layout output

def sizable (desk : Desk F) (output : Nat) : Bool :=
  desk.monitors[output]?.any fun monitor =>
    decide (0 < monitor.output.effectiveWidth) && decide (0 < monitor.output.effectiveHeight)

def usableArea (desk : Desk F) (output : Nat) : Box :=
  match desk.monitors[output]? with
  | none => ⟨0, 0, 0, 0⟩
  | some monitor =>
    let full : Box := ⟨0, 0, monitor.output.effectiveWidth, monitor.output.effectiveHeight⟩
    let usable := Panel.arrange (desk.panels.map Prod.snd) output full
    { usable with x := usable.x + (desk.outputBox output).x, y := usable.y + (desk.outputBox output).y }

def storeUsable (desk : Desk F) (output : Nat) (usable : Box) : Desk F :=
  { desk with monitors := desk.monitors.modify output ({ · with usableBox := usable }) }

/-- `ArrangeLayers`, with `FitToplevelsToUsableArea`. -/
def arrangeLayers (scale : XScale) (desk : Desk F) (output : Nat) : Desk F :=
  match desk.monitors[output]? with
  | none => desk
  | some monitor =>
    if monitor.connected && desk.sizable output then
      let usable := desk.usableArea output
      let stored := desk.storeUsable output usable
      if Nonempty usable then
        { stored with toplevels := desk.toplevels.map (Toplevel.fit scale output usable monitor.usableBox) }
      else stored
    else desk

/-- `wlr_output_layout_get_box` without an output: the extents of the layout. -/
def extents (desk : Desk F) : Box :=
  match desk.layout.map fun entry => desk.outputBox entry.output with
  | [] => ⟨0, 0, 0, 0⟩
  | first :: rest =>
    let left := rest.foldl (fun least box => min least box.x) first.x
    let top := rest.foldl (fun least box => min least box.y) first.y
    let right := rest.foldl (fun most box => max most (box.x + box.width)) (first.x + first.width)
    let bottom := rest.foldl (fun most box => max most (box.y + box.height)) (first.y + first.height)
    ⟨left, top, right - left, bottom - top⟩

/-- `UsableOutputBox`. Without an output an old record is found by its empty handle. -/
def usableOutputBox (desk : Desk F) : Option Nat → Box
  | some output =>
    match desk.monitors[output]? with
    | some monitor =>
      if monitor.connected = true ∧ Nonempty monitor.usableBox then monitor.usableBox else desk.outputBox output
    | none => desk.outputBox output
  | none =>
    match desk.monitors.find? (!·.connected) with
    | some monitor => if Nonempty monitor.usableBox then monitor.usableBox else desk.extents
    | none => desk.extents

/-- The output a request means: `pointed` is the one under the pointer or, off the layout,
the one in the center. As long as the layout has an output, one of them is meant. -/
def outputAt (desk : Desk F) (pointed : Nat) : Option Nat :=
  if (entryOf desk.layout pointed).isSome then some pointed else desk.layout.head?.map LayoutOutput.output

def place (desk : Desk F) (output : Nat) (x y : Int) (auto : Bool) : Desk F :=
  { desk with layout := layoutAdd desk.shown desk.layout output x y auto }

def commitOutput (desk : Desk F) (output : Nat) (state : Output F) : Desk F :=
  let next := { desk with monitors := desk.monitors.modify output ({ · with output := state }) }
  if (entryOf desk.layout output).isSome then { next with layout := reconfigure next.shown desk.layout } else next

def addOutput (desk : Desk F) (output : Output F) : Desk F :=
  let next : Desk F := { desk with monitors := desk.monitors ++ [⟨output, true, ⟨0, 0, 0, 0⟩⟩] }
  next.place desk.monitors.length 0 0 true

def showOutput (desk : Desk F) (output : Nat) (enabled : Option Bool) : Desk F :=
  match enabled, entryOf desk.layout output with
  | some true, none => desk.place output 0 0 true
  | some false, some _ => { desk with layout := layoutRemove desk.shown desk.layout output }
  | _, _ => desk

structure Head (F : Type) where
  output : Nat
  state : Output F
  x : Int
  y : Int

def commitHeads (desk : Desk F) (heads : List (Head F)) : Desk F :=
  let committed := heads.foldl (fun desk head => desk.commitOutput head.output head.state) desk
  heads.foldl (fun desk head => desk.place head.output head.x head.y false) committed

def setPanel (desk : Desk F) (number : Nat) (panel : Panel) : Desk F :=
  { desk with panels :=
      if desk.panels.any (·.1 == number) then
        FirstMatch.update (·.1 == number) (fun _ => (number, panel)) desk.panels
      else desk.panels ++ [(number, panel)] }

def dropPanel (desk : Desk F) (number : Nat) : Desk F :=
  { desk with panels := desk.panels.eraseP (·.1 == number) }

def panelOutput (desk : Desk F) (number : Nat) : Option Nat :=
  (desk.panels.find? (·.1 == number)).map (·.2.output)

def closePanel (scale : XScale) (output : Nat) (desk : Desk F) (number : Nat) : Desk F :=
  (desk.dropPanel number).arrangeLayers scale output

def destroyPanel (scale : XScale) (desk : Desk F) (number : Nat) : Desk F :=
  match desk.panelOutput number with
  | none => desk
  | some output => closePanel scale output desk number

def panelsOf (desk : Desk F) (output : Nat) : List Nat :=
  (desk.panels.filter (·.2.output == output)).map Prod.fst

def disconnect (desk : Desk F) (output : Nat) : Desk F :=
  { desk with
    monitors := desk.monitors.modify output ({ · with connected := false })
    layout := layoutRemove desk.shown desk.layout output }

/-- `OnDestroy` closes the surfaces of the output first. Toplevels are not told. -/
def destroyOutput (scale : XScale) (desk : Desk F) (output : Nat) : Desk F :=
  ((desk.panelsOf output).foldl (closePanel scale output) desk).disconnect output

end

/-- `configureOutput` is a state the backend or a caller sets for one output, the flag
says whether it is switched on or off; `applyConfiguration` is a configuration of an
output-management client. `under` is the output under a frame. -/
inductive Event (F : Type) where
  | newOutput (output : Output F)
  | destroyOutput (output : Nat)
  | configureOutput (output : Nat) (state : Output F) (enabled : Option Bool)
  | moveOutput (output : Nat) (x y : Int)
  | applyConfiguration (heads : List (Head F))
  | setPanel (number : Nat) (panel : Panel)
  | destroyPanel (number : Nat)
  | newToplevel (xwayland : Bool)
  | dress (window : Nat) (mapped minimized canManage fullscreen : Bool) (ssd : Option Ssd)
  | commit (window : Nat) (geometry : Box) (under : Option Nat)
  | maximize (window pointed : Nat)
  | unmaximize (window : Nat)
  | tile (window : Nat) (tile : Tile) (pointed : Nat)
  | destroyToplevel (window : Nat)

section

variable [ScaleFormat F]

def step (scale : XScale) (desk : Desk F) : Event F → Desk F
  | .newOutput output => (desk.addOutput output).arrangeLayers scale desk.monitors.length
  | .destroyOutput output => if desk.connected output then desk.destroyOutput scale output else desk
  | .configureOutput output state enabled =>
    if desk.connected output then
      ((desk.commitOutput output state).showOutput output enabled).arrangeLayers scale output
    else desk
  | .moveOutput output x y =>
    if desk.connected output && desk.enabled output then
      (desk.place output x y false).arrangeLayers scale output
    else desk
  | .applyConfiguration heads =>
    if heads.all (desk.connected ·.output) then
      let next := desk.commitHeads heads
      (List.range next.monitors.length).foldl (arrangeLayers scale) next
    else desk
  | .setPanel number panel => (desk.setPanel number panel).arrangeLayers scale panel.output
  | .destroyPanel number => desk.destroyPanel scale number
  | .newToplevel xwayland => { desk with toplevels := desk.toplevels ++ [Toplevel.create xwayland] }
  | .dress window mapped minimized canManage fullscreen ssd =>
    desk.modifyToplevel window ({ · with mapped, minimized, canManage, fullscreen, ssd })
  | .commit window geometry under =>
    desk.modifyToplevel window
      (·.onCommit scale (fun _ => under.map fun output => desk.usableOutputBox (some output)) geometry)
  | .maximize window pointed =>
    let output := desk.outputAt pointed
    desk.modifyToplevel window (·.setMaximized scale true output (desk.usableOutputBox output))
  | .unmaximize window => desk.modifyToplevel window (·.setMaximized scale false none ⟨0, 0, 0, 0⟩)
  | .tile window tile pointed =>
    let output := desk.outputAt pointed
    desk.modifyToplevel window (·.tileToplevel scale tile output (desk.usableOutputBox output))
  | .destroyToplevel window => desk.modifyToplevel window ({ · with alive := false, tree := false })

end

end Desk

end FlakeWM.Geometry
