import FlakeWM.Lib.Rounding
import FlakeWM.Lib.Transition
import FlakeWM.Geometry.Frames

/-! The scale of XWayland.

X11 windows are drawn in pixels of the output with the largest scale, and their
coordinates are converted where they pass between the layout and the X server. A
change of the scale keeps the managed windows where they are in the layout. -/

set_option autoImplicit false

namespace FlakeWM.Xwayland

open Pixels Rounding

def toX (scale : ℚ) (logical : Int) : Int := lround (logical * scale)

def fromX (scale : ℚ) (x : Int) : Int := lround (x / scale)

/-- Half a pixel of the X server is at most half a unit of the layout, and less if the
scale is larger than one. -/
theorem fromX_toX {sc : ℚ} (enlarged : 1 ≤ sc) (logical : Int) : fromX sc (toX sc logical) = logical := by
  have positive : 0 < sc := by linarith
  obtain one | larger := enlarged.eq_or_lt
  · simp [fromX, toX, ← one, lround_intCast]
  · have ⟨least, most⟩ := lround_sub_le (logical * sc)
    apply lround_eq
    · rw [lt_sub_iff_add_lt, lt_div_iff₀ positive]
      unfold toX
      linarith
    · rw [sub_lt_iff_lt_add, div_lt_iff₀ positive]
      unfold toX
      linarith

theorem fromX_mono {sc : ℚ} (enlarged : 1 ≤ sc) {least most : Int} (order : least ≤ most) :
    fromX sc least ≤ fromX sc most := by
  apply lround_mono
  have positive : 0 < sc := by linarith
  have cast : (least : ℚ) ≤ most := by exact_mod_cast order
  gcongr

theorem toX_pos {sc : ℚ} (enlarged : 1 ≤ sc) {logical : Int} (positive : 0 < logical) : 1 ≤ toX sc logical := by
  have cast : (1 : ℚ) ≤ logical := by exact_mod_cast positive
  have grown : ((1 : Int) : ℚ) ≤ logical * sc := by push_cast; nlinarith
  have rounded := lround_mono grown
  rwa [lround_intCast] at rounded

structure Handle where
  x : Int
  y : Int
  width : Int
  height : Int
  deriving DecidableEq, Repr

/-- `x` and `y` are the position of the scene node, `tree` says that there is one. -/
structure XSurface where
  handle : Option Handle
  tree : Bool
  mapped : Bool
  canManage : Bool
  maximized : Bool
  grabbed : Bool
  x : Int
  y : Int
  deriving DecidableEq, Repr

def clamp (value least most : Int) : Int := max least (min most value)

namespace XSurface

def geometry (scale : ℚ) (surface : XSurface) : Box :=
  match surface.handle with
  | none => ⟨0, 0, 0, 0⟩
  | some handle => ⟨0, 0, fromX scale handle.width, fromX scale handle.height⟩

def scaled (scale : ℚ) (box : Box) : Handle where
  x := clamp (toX scale box.x) (-32768) 32767
  y := clamp (toX scale box.y) (-32768) 32767
  width := clamp (toX scale box.width) 1 65535
  height := clamp (toX scale box.height) 1 65535

def configure (scale : ℚ) (surface : XSurface) (box : Box) : XSurface :=
  if surface.handle = none ∨ surface.tree = false ∨ box.width ≤ 0 ∨ box.height ≤ 0 then surface
  else { surface with x := box.x, y := box.y, handle := some (scaled scale box) }

def onSetGeometry (scale : ℚ) (surface : XSurface) : XSurface :=
  match surface.handle with
  | none => surface
  | some handle =>
    if surface.tree = false ∨ surface.maximized ∨ surface.grabbed then surface
    else { surface with x := fromX scale handle.x, y := fromX scale handle.y }

def layoutBox (scale : ℚ) (surface : XSurface) : Box :=
  { surface.geometry scale with x := surface.x, y := surface.y }

def managed (surface : XSurface) : Bool := surface.mapped && surface.canManage && surface.tree

end XSurface

structure XWaylandManager where
  scale : ℚ
  toplevels : List XSurface

namespace XWaylandManager

def largest (outputs : List ℚ) : ℚ := outputs.foldl max 1

/-- Keep managed windows where they are in layout units. -/
def updateScale (manager : XWaylandManager) (outputs : List ℚ) : XWaylandManager :=
  if largest outputs = manager.scale then manager
  else
    { scale := largest outputs
      toplevels := manager.toplevels.map fun toplevel =>
        if toplevel.managed then toplevel.configure (largest outputs) (toplevel.layoutBox manager.scale)
        else toplevel }

/-- `updateScale` comes with the scales of the outputs in the layout; `setGeometry` is the
X server's report of the geometry it has recorded for a window. -/
inductive Event where
  | updateScale (outputs : List ℚ)
  | setGeometry (window : Nat)
  deriving DecidableEq, Repr

def step (manager : XWaylandManager) : Event → XWaylandManager
  | .updateScale outputs => manager.updateScale outputs
  | .setGeometry window =>
    { manager with toplevels := manager.toplevels.modify window (·.onSetGeometry manager.scale) }

theorem one_le_largest (os : List ℚ) : 1 ≤ largest os := by
  have grown : ∀ least, least ≤ os.foldl max least := by
    induction os with
    | nil => exact le_refl
    | cons sc rest ih =>
      intro least
      exact (le_max_left least sc).trans (ih (max least sc))
  exact grown 1

end XWaylandManager

namespace XSurface

/-- The node is where the X server has the window. -/
def Agrees (scale : ℚ) (surface : XSurface) : Prop :=
  ∃ handle ∈ surface.handle, fromX scale handle.x = surface.x ∧ fromX scale handle.y = surface.y

def InRange (scale : ℚ) (box : Box) : Prop :=
  -32768 ≤ toX scale box.x ∧ toX scale box.x ≤ 32767 ∧ -32768 ≤ toX scale box.y ∧ toX scale box.y ≤ 32767 ∧
    toX scale box.width ≤ 65535 ∧ toX scale box.height ≤ 65535

variable {sc : ℚ} {sf : XSurface} {box : Box}

theorem clamp_of_mem {value least most : Int} (above : least ≤ value) (below : value ≤ most) :
    clamp value least most = value := by
  rw [clamp, min_eq_right below, max_eq_right above]

theorem configure_inRange (enlarged : 1 ≤ sc) (recorded : sf.handle ≠ none) (tree : sf.tree = true)
    (filled : Geometry.Nonempty box) (inRange : InRange sc box) :
    (sf.configure sc box).Agrees sc ∧ (sf.configure sc box).layoutBox sc = box := by
  obtain ⟨left, right, top, bottom, wide, high⟩ := inRange
  have moved : sf.configure sc box = { sf with
      x := box.x, y := box.y, handle := some ⟨toX sc box.x, toX sc box.y, toX sc box.width, toX sc box.height⟩ } := by
    have guard : ¬ (sf.handle = none ∨ sf.tree = false ∨ box.width ≤ 0 ∨ box.height ≤ 0) := by
      have ⟨wide, high⟩ := filled
      rintro (absent | absent | empty | empty)
      · exact recorded absent
      · rw [tree] at absent
        contradiction
      · omega
      · omega
    rw [configure, if_neg guard, scaled, clamp_of_mem left right, clamp_of_mem top bottom,
      clamp_of_mem (toX_pos enlarged filled.1) wide, clamp_of_mem (toX_pos enlarged filled.2) high]
  rw [moved]
  constructor
  · exact ⟨_, rfl, fromX_toX enlarged box.x, fromX_toX enlarged box.y⟩
  · simp only [layoutBox, geometry, fromX_toX enlarged]

theorem onSetGeometry_eq (agrees : sf.Agrees sc) : sf.onSetGeometry sc = sf := by
  obtain ⟨h, recorded, left, top⟩ := agrees
  cases sf
  cases Option.mem_def.mp recorded
  subst left top
  unfold onSetGeometry
  dsimp only
  split <;> rfl

end XSurface

namespace XWaylandManager

structure Still (window : Nat) (box : Box) (manager : XWaylandManager) : Prop where
  enlarged : 1 ≤ manager.scale
  found : ∃ surface ∈ manager.toplevels[window]?, surface.managed = true ∧ surface.Agrees manager.scale ∧
    surface.layoutBox manager.scale = box

/-- The scale the event sets keeps the box in the range of the X server. -/
def fits (box : Box) : Event → Prop
  | .updateScale outputs => XSurface.InRange (largest outputs) box
  | .setGeometry _ => True

section

variable {window : Nat} {box : Box} {m : XWaylandManager} (filled : Geometry.Nonempty box)

include filled

theorem still_updateScale (still : Still window box m) {os : List ℚ} (inRange : XSurface.InRange (largest os) box) :
    Still window box (m.updateScale os) := by
  unfold updateScale
  split
  · exact still
  · obtain ⟨sf, found, managed, agrees, covered⟩ := still.found
    obtain ⟨h, recorded, _⟩ := agrees
    have tree : sf.tree = true := by
      unfold XSurface.managed at managed
      simp_all
    have moved := @XSurface.configure_inRange _ sf _ (one_le_largest os)
      (by rw [Option.mem_def.mp recorded]; exact Option.some_ne_none h) tree filled inRange
    refine ⟨one_le_largest os, sf.configure (largest os) box, ?_, ?_, moved⟩
    · simp [Option.mem_def.mp found, managed, covered]
    · unfold XSurface.configure
      split <;> exact managed

theorem still_step (e : Event) (still : Still window box m) (inRange : fits box e) : Still window box (m.step e) := by
  cases e with
  | updateScale => exact still_updateScale filled still inRange
  | setGeometry =>
    obtain ⟨sf, found, managed, agrees, covered⟩ := still.found
    refine ⟨still.enlarged, sf, ?_, managed, agrees, covered⟩
    simp only [step, Option.mem_def, List.getElem?_modify]
    rw [Option.mem_def.mp found]
    split
    · simp [XSurface.onSetGeometry_eq agrees]
    · rfl

end

/-- A window that has a size in the layout stays where it is: the two conversions cancel,
and whatever the scale becomes, the X server is told the same box again. -/
theorem layoutBox_kept {manager : XWaylandManager} {window : Nat} {surface : XSurface} (enlarged : 1 ≤ manager.scale)
    (found : manager.toplevels[window]? = some surface) (managed : surface.managed = true)
    (agrees : surface.Agrees manager.scale) (filled : Geometry.Nonempty (surface.layoutBox manager.scale))
    (events : List Event)
    (inRange : Transition.Along step (fun _ event => fits (surface.layoutBox manager.scale) event) manager events) :
    (∀ scale logical, 1 ≤ scale → fromX scale (toX scale logical) = logical) ∧
      Transition.Throughout step (fun now => now.toplevels[window]?.map (·.layoutBox now.scale) =
        some (surface.layoutBox manager.scale)) manager events := by
  constructor
  · intro scale logical larger
    exact fromX_toX larger logical
  · have start : Still window (surface.layoutBox manager.scale) manager :=
      ⟨enlarged, surface, found, managed, agrees, rfl⟩
    have kept := Transition.along_invariant (fun _ event still inRange => still_step filled event still inRange)
      start inRange
    apply kept.mono
    intro now still
    obtain ⟨surface', found', _, _, covered⟩ := still.found
    rw [Option.mem_def.mp found', ← covered]
    rfl

/-- One window, 300 pixels high, at scale 3. -/
def small (width : Int) : XWaylandManager :=
  ⟨3, [⟨some ⟨30, 0, width, 300⟩, true, true, true, false, false, 10, 0⟩]⟩

theorem layoutBox_kept_square :
    Transition.Throughout step (fun now => now.toplevels[0]?.map (·.layoutBox now.scale) =
      some (XSurface.layoutBox 3 ⟨some ⟨30, 0, 300, 300⟩, true, true, true, false, false, 10, 0⟩))
      (small 300) [.updateScale [1, 3 / 2], .setGeometry 0] := by
  have filled : Geometry.Nonempty
      (XSurface.layoutBox 3 ⟨some ⟨30, 0, 300, 300⟩, true, true, true, false, false, 10, 0⟩) := by decide +kernel
  apply (@layoutBox_kept (small 300) 0 _ (by decide +kernel) rfl rfl
    ⟨⟨30, 0, 300, 300⟩, rfl, by decide +kernel, by decide +kernel⟩ filled _ ?_).2
  refine ⟨?_, trivial, trivial⟩
  unfold fits XSurface.InRange
  decide +kernel

/-- A window one pixel wide has no width at scale 3. It is not configured when the scale
becomes 1, so that the X server moves it with its next report. -/
theorem narrow_window_drifts :
    (small 1).toplevels[0]?.map (·.layoutBox (small 1).scale) = some ⟨10, 0, 0, 100⟩ ∧
      (Transition.run step (small 1) [.updateScale [1], .setGeometry 0]).toplevels[0]?.map
        (·.layoutBox (Transition.run step (small 1) [.updateScale [1], .setGeometry 0]).scale) =
          some ⟨30, 0, 1, 300⟩ := by
  decide +kernel

end XWaylandManager

end FlakeWM.Xwayland
