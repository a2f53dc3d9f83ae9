import FlakeWM.Geometry.Targets
import FlakeWM.Xwayland.Scale

/-! Floating windows beside space that panels reserve.

The area a window belongs to is looked up by its output. A window that a new panel
covers is moved back into the area that is left, and a window that is placed is held in
the area of the output its center is on. -/

set_option autoImplicit false

namespace FlakeWM.Geometry

open Xwayland Pixels Screen

namespace Desk

variable {F : Type} [ScaleFormat F]

def layoutBoxOf (desk : Desk F) : Option Nat → Box
  | some output => desk.outputBox output
  | none => desk.extents

/-- The usable area that a connected output has at present, the given one if there is one,
or the box the layout has for the argument. -/
def Current (desk : Desk F) (argument : Option Nat) (box : Box) : Prop :=
  (∃ output, (∀ given ∈ argument, output = given) ∧ desk.connected output = true ∧ box = desk.usableArea output) ∨
    box = desk.layoutBoxOf argument

/-- The record that a lookup without an output finds first has an area. -/
def remembers (desk : Desk F) : Bool :=
  (desk.monitors.find? (!·.connected)).any fun monitor => decide (Nonempty monitor.usableBox)

/-- The desk with what an event changes of the outputs and panels, and the outputs whose
layers are arranged afterwards. -/
def changed (scale : XScale) (desk : Desk F) : Event F → Option (Desk F × List Nat)
  | .newOutput output => some (desk.addOutput output, [desk.monitors.length])
  | .destroyOutput output => if desk.connected output then some (desk.destroyOutput scale output, []) else none
  | .configureOutput output state enabled =>
    if desk.connected output then some ((desk.commitOutput output state).showOutput output enabled, [output]) else none
  | .moveOutput output x y =>
    if desk.connected output && desk.enabled output then some (desk.place output x y false, [output]) else none
  | .applyConfiguration heads =>
    if heads.all (desk.connected ·.output) then
      some (desk.commitHeads heads, List.range (desk.commitHeads heads).monitors.length)
    else none
  | .setPanel number panel => some (desk.setPanel number panel, [panel.output])
  | .destroyPanel number => (desk.panelOutput number).map fun output => (desk.dropPanel number, [output])
  | _ => none

/-- Of the connected outputs, those that are arranged have a size, and the others have the
usable area they had. -/
def KeepsAreas (scale : XScale) (desk : Desk F) (event : Event F) : Prop :=
  ∀ change ∈ desk.changed scale event, ∀ output < change.1.monitors.length, change.1.connected output = true →
    if output ∈ change.2 then change.1.sizable output = true else change.1.usableArea output = desk.usableArea output

def UpToDate (desk : Desk F) : Prop := ∀ output box, desk.storedArea output = some box → box = desk.usableArea output

section

variable (scale : XScale) (desk : Desk F) (e : Event F)

theorem step_unchanged (none : desk.changed scale e = none) :
    (desk.step scale e).storedArea = desk.storedArea ∧ (desk.step scale e).usableArea = desk.usableArea := by
  cases e with
  | newOutput | setPanel => cases none
  | destroyOutput | configureOutput | moveOutput | applyConfiguration =>
    simp only [changed, ite_eq_right_iff, reduceCtorEq, imp_false] at none
    simp only [step, if_neg none, and_self]
  | destroyPanel number =>
    have absent := Option.map_eq_none_iff.mp none
    simp only [step, destroyPanel, absent, and_self]
  | _ => exact ⟨rfl, rfl⟩

theorem step_changed {next : Desk F} {arranged : List Nat} (some : desk.changed scale e = some (next, arranged)) :
    desk.step scale e = arranged.foldl (arrangeLayers scale) next ∧
      ∀ o box, next.storedArea o = Option.some box → desk.storedArea o = Option.some box ∨ o ∈ arranged := by
  cases e with
  | newOutput output =>
    cases some
    refine ⟨rfl, fun o box held => ?_⟩
    rcases storedArea_addOutput desk output o with same | ⟨_, new⟩
    · exact .inl (same ▸ held)
    · exact .inr new
  | destroyOutput output =>
    obtain ⟨plugged, same⟩ := Option.ite_none_right_eq_some.mp some
    cases same
    refine ⟨if_pos plugged, fun o box held => .inl ?_⟩
    rw [storedArea_destroyOutput, Function.update_apply] at held
    split at held
    · cases held
    · exact held
  | configureOutput output state enabled =>
    obtain ⟨plugged, same⟩ := Option.ite_none_right_eq_some.mp some
    cases same
    refine ⟨if_pos plugged, fun o box held => .inl ?_⟩
    rwa [storedArea_congr (monitors_showOutput _ output enabled), storedArea_commitOutput] at held
  | moveOutput output x y =>
    obtain ⟨shown, same⟩ := Option.ite_none_right_eq_some.mp some
    cases same
    exact ⟨if_pos shown, fun o box held => .inl held⟩
  | applyConfiguration heads =>
    obtain ⟨plugged, same⟩ := Option.ite_none_right_eq_some.mp some
    cases same
    exact ⟨if_pos plugged, fun o box held => .inl ((commitHeads_keeps desk heads).2 ▸ held)⟩
  | setPanel number panel =>
    cases some
    exact ⟨rfl, fun o box held => .inl held⟩
  | destroyPanel number =>
    obtain ⟨output, found, same⟩ := Option.map_eq_some_iff.mp some
    cases same
    refine ⟨?_, fun o box held => .inl held⟩
    simp only [step, destroyPanel, found]
    rfl
  | _ => cases some

variable {desk e}

theorem UpToDate.step (upToDate : desk.UpToDate) (kept : desk.KeepsAreas scale e) : (desk.step scale e).UpToDate := by
  intro o box held
  cases found : desk.changed scale e with
  | none =>
    obtain ⟨stored, usable⟩ := step_unchanged scale desk e found
    rw [usable]
    exact upToDate o box (stored ▸ held)
  | some change =>
    obtain ⟨taken, before⟩ := step_changed scale desk e found
    rw [taken] at held ⊢
    have plugged : change.1.connected o = true := by
      rw [← connected_arrangeAll scale change.2]
      exact connected_iff.mpr ⟨box, held⟩
    have proper := kept change found o (connected_lt plugged) plugged
    rw [usableArea_arrangeAll]
    by_cases here : o ∈ change.2
    · rw [if_pos here] at proper
      rw [storedArea_arrangeAll scale here change.1 plugged proper] at held
      exact (Option.some.inj held).symm
    · rw [if_neg here] at proper
      rw [storedArea_arrangeAll_other scale here] at held
      rw [proper]
      exact upToDate o box ((before o box held).resolve_right here)

end

/-- As long as every event arranges the outputs whose usable area it changes, a given output
has its usable area. Without one, the area is that of the first output that is gone, if it
had one. -/
theorem usableOutputBox_current (scale : XScale) (events : List (Event F))
    (kept : Transition.Along (step scale) (fun desk event => desk.KeepsAreas scale event) create events)
    (argument : Option Nat) :
    let desk := Transition.run (step scale) create events
    (argument.isSome || !desk.remembers) = true ∧ desk.Current argument (desk.usableOutputBox argument) ∨
      (argument.isSome || !desk.remembers) = false ∧ ∃ gone ∈ desk.monitors, gone.connected = false ∧
        Nonempty gone.usableBox ∧ desk.usableOutputBox argument = gone.usableBox := by
  intro desk
  have start : (create : Desk F).UpToDate := by
    intro output box held
    cases held
  have throughout : Transition.Throughout (step scale) UpToDate create events := by
    apply Transition.along_invariant _ start kept
    intro desk event upToDate proper
    exact upToDate.step scale proper
  have upToDate : desk.UpToDate := throughout.last
  cases argument with
  | some output =>
    refine .inl ⟨rfl, ?_⟩
    unfold usableOutputBox
    dsimp only
    cases found : desk.monitors[output]? with
    | none => exact .inr rfl
    | some monitor =>
      dsimp only
      split
      · rename_i plugged
        have held : desk.storedArea output = some monitor.usableBox := by
          rw [storedArea, found, Option.filter_some_pos plugged.1]
          rfl
        exact .inl ⟨output, fun given same => Option.some.inj same, connected_iff.mpr ⟨_, held⟩, upToDate output _ held⟩
      · exact .inr rfl
  | none =>
    unfold remembers usableOutputBox
    dsimp only
    cases found : desk.monitors.find? (!·.connected) with
    | none => exact .inl ⟨rfl, .inr rfl⟩
    | some gone =>
      by_cases room : Nonempty gone.usableBox
      · refine .inr ⟨by simp [room], gone, List.mem_of_find?_eq_some found, ?_, room, if_pos room⟩
        simpa using List.find?_some found
      · refine .inl ⟨by simp [room], .inr ?_⟩
        dsimp only
        rw [if_neg room]
        rfl

/-- The panel of the second screen is taken off its area. -/
theorem usableOutputBox_current_panel :
    let screen : Output Nat := ⟨"left", [], true, 1920, 1080, 60000, 1, .normal⟩
    let panel : Panel := ⟨1, .top, true, true, some .top, 30, 0⟩
    let desk := Transition.run (step ⟨id, id⟩) (create : Desk Nat) [.newOutput screen, .newOutput screen, .setPanel 0 panel]
    desk.Current (some 1) (desk.usableOutputBox (some 1)) ∧ desk.usableOutputBox (some 1) = ⟨1920, 30, 1920, 1050⟩ := by
  have kept : Transition.Along (step ⟨id, id⟩) (fun desk event => desk.KeepsAreas ⟨id, id⟩ event) (create : Desk Nat)
      [.newOutput ⟨"left", [], true, 1920, 1080, 60000, 1, .normal⟩,
        .newOutput ⟨"left", [], true, 1920, 1080, 60000, 1, .normal⟩,
        .setPanel 0 ⟨1, .top, true, true, some .top, 30, 0⟩] := by
    unfold KeepsAreas
    decide +kernel
  rcases usableOutputBox_current _ _ kept (some 1) with ⟨_, current⟩ | ⟨none, _⟩
  · exact ⟨current, by decide +kernel⟩
  · cases none

/-- The only screen is unplugged and another one plugged in: off the layout the pointer
is on the area of the first. Of two screens the left one is unplugged: the other one moves to
its place, and its area stays behind. -/
theorem unplugged_area_returned :
    let screen : Output Nat := ⟨"left", [], true, 1920, 1080, 60000, 1, .normal⟩
    let second : Output Nat := ⟨"right", [], true, 800, 600, 60000, 1, .normal⟩
    let desk := Transition.run (step ⟨id, id⟩) (create : Desk Nat)
      [.newOutput screen, .destroyOutput 0, .newOutput second]
    let moved := Transition.run (step ⟨id, id⟩) (create : Desk Nat)
      [.newOutput screen, .newOutput second, .destroyOutput 0]
    (desk.usableOutputBox none = ⟨0, 0, 1920, 1080⟩ ∧ ¬ desk.Current none ⟨0, 0, 1920, 1080⟩) ∧
      moved.usableOutputBox (some 1) = ⟨1920, 0, 800, 600⟩ ∧ ¬ moved.Current (some 1) ⟨1920, 0, 800, 600⟩ := by
  intro screen second desk moved
  refine ⟨⟨by decide +kernel, ?_⟩, by decide +kernel, ?_⟩
  · rintro (⟨output, _, plugged, same⟩ | same)
    · have only : ∀ output < desk.monitors.length, desk.connected output = true →
          desk.usableArea output ≠ ⟨0, 0, 1920, 1080⟩ := by
        decide +kernel
      exact only output (connected_lt plugged) plugged same.symm
    · exact absurd same (by decide +kernel)
  · rintro (⟨output, given, _, same⟩ | same)
    · obtain rfl := given 1 rfl
      exact absurd same (by decide +kernel)
    · exact absurd same (by decide +kernel)

/-- `wlr_output_layout_output_at`, with the point in halves of a unit. -/
def outputAtHalf (desk : Desk F) (px py : Int) : Option Nat :=
  (desk.layout.find? fun entry =>
    let box := desk.outputBox entry.output
    decide (Nonempty box) && decide (2 * box.x ≤ px ∧ px < 2 * (box.x + box.width)) &&
      decide (2 * box.y ≤ py ∧ py < 2 * (box.y + box.height))).map LayoutOutput.output

/-- The area of the output that the frame's center is on, or else its corner. -/
def usableUnder (desk : Desk F) (frame : Box) : Option Box :=
  ((desk.outputAtHalf (2 * frame.x + frame.width) (2 * frame.y + frame.height)).or
    (desk.outputAtHalf (2 * frame.x) (2 * frame.y))).map fun output => desk.usableOutputBox (some output)

end Desk

def xScale (scale : ℚ) : XScale := ⟨toX scale, fromX scale⟩

/-- A length that the X server has is kept when it is configured again. Its pixels may
be others, and no more than 16 bits hold. -/
theorem stored_fromX {sc : ℚ} (enlarged : 1 ≤ sc) {pixels : Int} (most : pixels ≤ 65535)
    (filled : 0 < fromX sc pixels) :
    (xScale sc).stored (fromX sc pixels) = fromX sc pixels := by
  have again := fromX_toX enlarged (fromX sc pixels)
  have positive := toX_pos enlarged filled
  unfold XScale.stored xScale
  dsimp only
  by_cases fits : toX sc (fromX sc pixels) ≤ 65535
  · rwa [min_eq_right fits, max_eq_right positive]
  · have beyond : 65535 ≤ toX sc (fromX sc pixels) := by omega
    have below := fromX_mono enlarged most
    have above := fromX_mono enlarged beyond
    rw [min_eq_left beyond, max_eq_right (by omega)]
    omega

namespace Toplevel

/-- An X11 window has no decoration of the compositor, and its geometry is that of the
X server. -/
def Genuine (scale : ℚ) (toplevel : Toplevel) : Prop :=
  toplevel.xwayland = true → toplevel.ssd = none ∧ ∃ width height, (1 ≤ width ∧ width ≤ 65535) ∧
    (1 ≤ height ∧ height ≤ 65535) ∧
    toplevel.geometry = ⟨0, 0, fromX scale width, fromX scale height⟩

section

variable {sc : ℚ} {t : Toplevel}

section

variable (enlarged : 1 ≤ sc) (genuine : t.Genuine sc) (alive : t.alive = true)
  (tree : t.tree = true) (filled : Nonempty t.layoutFrame) (x y : Int)

include enlarged genuine alive tree filled

theorem moveToplevelFrame_eq : ∃ nodeX nodeY requested answered, t.moveToplevelFrame (xScale sc) x y =
        { t with x := nodeX, y := nodeY, requested := requested, answered := answered } ∧
      nodeX - t.x = x - t.layoutFrame.x ∧ nodeY - t.y = y - t.layoutFrame.y := by
  unfold moveToplevelFrame
  by_cases x11 : t.xwayland = true
  · obtain ⟨plain, width, height, wide, high, recorded⟩ := genuine x11
    have frame : t.layoutFrame = ⟨t.x, t.y, fromX sc width, fromX sc height⟩ := by
      simp [layoutFrame, tree, frameGeometry, plain, recorded]
    rw [frame] at filled ⊢
    have box : Nonempty ⟨x, y, fromX sc width, fromX sc height⟩ := filled
    rw [if_pos x11, configure, if_neg (by simp [tree, box]), if_pos x11, if_pos alive]
    rw [stored_fromX enlarged wide.2 filled.1, stored_fromX enlarged high.2 filled.2, ← recorded]
    exact ⟨x, y, _, false, rfl, rfl, rfl⟩
  · rw [if_neg x11]
    refine ⟨_, _, t.requested, t.answered, rfl, ?_, ?_⟩ <;> omega

theorem layoutFrame_moveToplevelFrame : (t.moveToplevelFrame (xScale sc) x y).layoutFrame =
      ⟨x, y, t.layoutFrame.width, t.layoutFrame.height⟩ := by
  obtain ⟨nodeX, nodeY, requested, answered, moved, left, top⟩ :=
    moveToplevelFrame_eq enlarged genuine alive tree filled x y
  have frame : ({ t with x := nodeX, y := nodeY, requested := requested, answered := answered } :
      Toplevel).frameGeometry = t.frameGeometry := rfl
  rw [moved]
  unfold layoutFrame at left top ⊢
  dsimp only at left top ⊢
  rw [if_pos tree] at left top ⊢
  rw [if_pos tree, frame]
  simp only [Box.mk.injEq, and_true]
  dsimp only at left top
  omega

end

end

/-- Every pixel of the frame lies in the area. -/
def Within (frame area : Box) : Prop := ∀ px py, frame.Contains px py → area.Contains px py

theorem within_iff {frame area : Box} (filled : Nonempty frame) :
    Within frame area ↔ area.x ≤ frame.x ∧ frame.x + frame.width ≤ area.x + area.width ∧
      area.y ≤ frame.y ∧ frame.y + frame.height ≤ area.y + area.height := by
  have ⟨wide, high⟩ := filled
  constructor
  · intro within
    have ⟨left, _, top, _⟩ := within frame.x frame.y ⟨by omega, by omega, by omega, by omega⟩
    have ⟨_, right, _, bottom⟩ := within (frame.x + frame.width - 1) (frame.y + frame.height - 1)
      ⟨by omega, by omega, by omega, by omega⟩
    omega
  · rintro ⟨left, right, top, bottom⟩ px py ⟨fromLeft, toRight, fromTop, toBottom⟩
    exact ⟨by omega, by omega, by omega, by omega⟩

theorem within_of_empty {frame : Box} (empty : ¬ Nonempty frame) (area : Box) : Within frame area := by
  rintro px py ⟨left, right, top, bottom⟩
  exact absurd ⟨by omega, by omega⟩ empty

/-- On one axis: the edge was in the old area and is not in the new one. -/
def Lost (oldStart oldSize start size edge : Int) : Prop :=
  (oldStart ≤ edge ∧ edge ≤ oldStart + oldSize) ∧ ¬ (start ≤ edge ∧ edge ≤ start + size)

section

variable {start size usableStart usableSize oldStart oldSize : Int}

theorem withdraw_within (first : oldStart ≤ start) (last : start + size ≤ oldStart + oldSize) (fits : size ≤ usableSize) :
    usableStart ≤ withdraw start size usableStart usableSize oldStart oldSize ∧
      withdraw start size usableStart usableSize oldStart oldSize + size ≤ usableStart + usableSize := by
  unfold withdraw
  split
  · omega
  · split <;> omega

theorem withdraw_eq_self (meets : start < oldStart + oldSize ∧ oldStart < start + size)
    (first : ¬ Lost oldStart oldSize usableStart usableSize start)
    (last : ¬ Lost oldStart oldSize usableStart usableSize (start + size)) :
    withdraw start size usableStart usableSize oldStart oldSize = start := by
  unfold Lost at first last
  unfold withdraw
  rw [if_neg (by omega), if_neg (by omega)]

end

/-- A floating window that can be managed. -/
structure Floating (toplevel : Toplevel) : Prop where
  alive : toplevel.alive = true
  tree : toplevel.tree = true
  mapped : toplevel.mapped = true
  shown : toplevel.minimized = false
  canManage : toplevel.canManage = true
  windowed : toplevel.fullscreen = false
  unmaximized : toplevel.maximized = false
  untiled : toplevel.tiled = false

/-- `FitToplevelsToUsableArea`, for one of the windows. -/
def fitToUsableArea (scale : XScale) (output : Nat) (usable old : Box) (toplevel : Toplevel) : Toplevel :=
  if Nonempty usable then toplevel.fit scale output usable old else toplevel

section

variable {scale : ℚ} {toplevel : Toplevel} {u old : Box} {o : Nat}

theorem fitToUsableArea_cases (enlarged : 1 ≤ scale) (genuine : toplevel.Genuine scale) (floating : toplevel.Floating) :
    toplevel.fitToUsableArea (xScale scale) o u old = toplevel ∧
        (¬ Nonempty u ∨ u = old ∨ ¬ Nonempty old ∨ ¬ Nonempty toplevel.layoutFrame ∨
          overlaps toplevel.layoutFrame old = false) ∨
      Nonempty toplevel.layoutFrame ∧ overlaps toplevel.layoutFrame old = true ∧
        (toplevel.fitToUsableArea (xScale scale) o u old).layoutFrame =
          ⟨withdraw toplevel.layoutFrame.x toplevel.layoutFrame.width u.x u.width old.x old.width,
            withdraw toplevel.layoutFrame.y toplevel.layoutFrame.height u.y u.height old.y old.height,
            toplevel.layoutFrame.width, toplevel.layoutFrame.height⟩ := by
  unfold fitToUsableArea
  by_cases room : Nonempty u
  · rw [if_pos room, fit, if_neg (by simp [floating.alive, floating.tree]), if_neg (by simp [floating.unmaximized]),
      if_neg (by simp [floating.untiled]), fitFloating]
    by_cases still : u = old ∨ ¬ Nonempty old
    · rw [if_pos (by tauto)]
      exact .inl ⟨rfl, by tauto⟩
    · rw [if_neg (by simp [floating.mapped, floating.shown, floating.canManage, floating.windowed, not_or.mp still])]
      dsimp only
      by_cases apart : ¬ Nonempty toplevel.layoutFrame ∨ overlaps toplevel.layoutFrame old = false
      · rw [if_pos apart]
        exact .inl ⟨rfl, by tauto⟩
      · have ⟨filled, meets⟩ := not_or.mp apart
        rw [if_neg apart]
        refine .inr ⟨not_not.mp filled, by simpa using meets, ?_⟩
        split
        · rename_i same
          rw [same.1, same.2]
        · exact layoutFrame_moveToplevelFrame enlarged genuine floating.alive floating.tree (not_not.mp filled) _ _
  · exact .inl ⟨if_neg room, .inl room⟩

theorem floating_fitToUsableArea (floating : toplevel.Floating) :
    (toplevel.fitToUsableArea (xScale scale) o u old).maximized = false ∧
      (toplevel.fitToUsableArea (xScale scale) o u old).tiled = false := by
  have kept : (toplevel.fitToUsableArea (xScale scale) o u old).record = toplevel.record := by
    unfold fitToUsableArea
    split
    · rw [record_fit _ _ _ _ _ floating.alive floating.tree, if_neg (by simp [floating.unmaximized]),
        if_neg (by simp [floating.untiled])]
    · rfl
  exact ⟨(congrArg Record.maximized kept).trans floating.unmaximized,
    (congrArg Record.tiled kept).trans floating.untiled⟩

/-- A window that the old area held and the new one can hold is in the new one. An axis
on which no edge was lost stays as it is, and there is nothing left to do. -/
theorem fitToUsableArea_floating (enlarged : 1 ≤ scale) (genuine : toplevel.Genuine scale)
    (floating : toplevel.Floating) (output : Nat) (usable old : Box) :
    let frame := toplevel.layoutFrame
    let fitted := toplevel.fitToUsableArea (xScale scale) output usable old
    (Within frame old → frame.width ≤ usable.width → frame.height ≤ usable.height → Within fitted.layoutFrame usable) ∧
      (fitted.layoutFrame.width = frame.width ∧ fitted.layoutFrame.height = frame.height) ∧
      (¬ Lost old.x old.width usable.x usable.width frame.x →
        ¬ Lost old.x old.width usable.x usable.width (frame.x + frame.width) → fitted.layoutFrame.x = frame.x) ∧
      (¬ Lost old.y old.height usable.y usable.height frame.y →
        ¬ Lost old.y old.height usable.y usable.height (frame.y + frame.height) → fitted.layoutFrame.y = frame.y) ∧
      fitted.fitToUsableArea (xScale scale) output usable usable = fitted := by
  dsimp only
  have again : ∀ fitted, fitted = toplevel.fitToUsableArea (xScale scale) output usable old →
      fitted.fitToUsableArea (xScale scale) output usable usable = fitted := by
    rintro fitted rfl
    obtain ⟨unmaximized, untiled⟩ := @floating_fitToUsableArea scale _ usable old output floating
    rw [fitToUsableArea, fit, fitFloating]
    simp [unmaximized, untiled]
  rcases @fitToUsableArea_cases scale toplevel usable old output enlarged genuine floating with
    ⟨same, reason⟩ | ⟨filled, meets, moved⟩
  · refine ⟨?_, ⟨by rw [same], by rw [same]⟩, fun _ _ => by rw [same], fun _ _ => by rw [same], again _ rfl⟩
    intro within wide high
    rw [same]
    -- a frame with pixels meets the area it lies in
    by_cases filled : Nonempty toplevel.layoutFrame
    · have edges := (within_iff filled).mp within
      have ⟨width, height⟩ := filled
      rcases reason with narrow | unchanged | empty | empty | apart
      · exact absurd ⟨lt_of_lt_of_le width wide, lt_of_lt_of_le height high⟩ narrow
      · rwa [unchanged]
      · exact absurd ⟨by omega, by omega⟩ empty
      · exact absurd filled empty
      · have meets : overlaps toplevel.layoutFrame old = true := by
          simp only [overlaps, Bool.and_eq_true, decide_eq_true_eq]
          exact ⟨⟨⟨filled, by unfold Nonempty; omega⟩, by omega⟩, by omega⟩
        rw [meets] at apart
        contradiction
    · exact within_of_empty filled usable
  · simp only [overlaps, Bool.and_eq_true, decide_eq_true_eq] at meets
    rw [moved]
    refine ⟨?_, ⟨rfl, rfl⟩, withdraw_eq_self (by omega), withdraw_eq_self (by omega), again _ rfl⟩
    intro within wide high
    obtain ⟨left, right, top, bottom⟩ := (within_iff filled).mp within
    have horizontal := @withdraw_within _ _ usable.x _ _ _ left right wide
    have vertical := @withdraw_within _ _ usable.y _ _ _ top bottom high
    refine (within_iff ?_).mpr ⟨horizontal.1, horizontal.2, vertical.1, vertical.2⟩
    exact filled

/-- A window at the right edge makes room for a panel there. -/
theorem fitToUsableArea_floating_right :
    let window : Toplevel := { create true with mapped := true, x := 1120, y := 0, geometry := ⟨0, 0, 800, 600⟩ }
    Within (window.fitToUsableArea (xScale 1) 0 ⟨0, 0, 1880, 1080⟩ ⟨0, 0, 1920, 1080⟩).layoutFrame ⟨0, 0, 1880, 1080⟩ := by
  intro window
  have genuine : window.Genuine 1 := fun _ => ⟨rfl, 800, 600, by decide, by decide, by decide +kernel⟩
  apply (fitToUsableArea_floating le_rfl genuine ⟨rfl, rfl, rfl, rfl, rfl, rfl, rfl, rfl⟩ 0 _ _).1
  · rw [within_iff (by decide +kernel)]
    decide +kernel
  · decide +kernel
  · decide +kernel

end

def constrained (usable frame : Box) : Box :=
  { frame with
    x := max (min frame.x (usable.x + usable.width - frame.width)) usable.x
    y := max (min frame.y (usable.y + usable.height - frame.height)) usable.y }

/-- On one axis: a frame that is held in the first area lies in the second one too, or
starts with it. -/
def Agree (start size first firstSize second secondSize : Int) : Prop :=
  let held := max (min start (first + firstSize - size)) first
  second ≤ held ∧ (held + size ≤ second + secondSize ∨ held = second)

theorem agree_self (start size first firstSize : Int) : Agree start size first firstSize first firstSize := by
  unfold Agree
  omega

/-- The area found for the frame once it is held in the one found first agrees with that. -/
def Settles (usableUnder : Box → Option Box) (frame : Box) : Prop :=
  ∀ first ∈ usableUnder frame, Nonempty first →
    ∀ second ∈ usableUnder (constrained first frame), Nonempty second →
      Agree frame.x frame.width first.x first.width second.x second.width ∧
        Agree frame.y frame.height first.y first.height second.y second.height

/-- The area found for the frame holds it already. -/
def Rests (usableUnder : Box → Option Box) (frame : Box) : Prop :=
  ∀ usable ∈ usableUnder frame, Nonempty usable → constrained usable frame = frame

section

variable {scale : ℚ} {toplevel : Toplevel} {usableUnder : Box → Option Box}

theorem Rests.settles {frame : Box} (rests : Rests usableUnder frame) : Settles usableUnder frame := by
  intro first found room second later _
  rw [rests first found room] at later
  obtain rfl := Option.some.inj ((Option.mem_def.mp found).symm.trans later)
  exact ⟨agree_self .., agree_self ..⟩

def beyond (width : Int) : Toplevel :=
  { create false with mapped := true, x := -60, geometry := ⟨0, 0, width, 50⟩ }

end

end Toplevel

end FlakeWM.Geometry
