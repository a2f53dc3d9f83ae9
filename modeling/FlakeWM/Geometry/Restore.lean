import FlakeWM.Lib.Transition
import FlakeWM.Geometry.Frames

/-! Back to where a floating window was.

Maximizing or tiling a floating window saves its frame from the geometry its client
has committed last; unmaximizing asks for the saved size, and the next commit puts
the frame back. In between the client may commit sizes it was asked for before. -/

set_option autoImplicit false

namespace FlakeWM.Geometry

open Pixels

/-- Requests of the user and commits of the client; the output under the pointer and
its usable area come with the request. -/
inductive SizeEvent where
  | maximize (output : Option Nat) (usable : Box)
  | tile (tile : Tile) (output : Option Nat) (usable : Box)
  | unmaximize
  | commit (geometry : Box)
  deriving DecidableEq, Repr

namespace Toplevel

def sizeStep (scale : XScale) (usableUnder : Box → Option Box) (toplevel : Toplevel) : SizeEvent → Toplevel
  | .maximize output usable => toplevel.setMaximized scale true output usable
  | .tile tile output usable => toplevel.tileToplevel scale tile output usable
  | .unmaximize => toplevel.setMaximized scale false none ⟨0, 0, 0, 0⟩
  | .commit geometry => toplevel.onCommit scale usableUnder geometry

/-- A floating window at rest: nothing is left to be done at its next commit. -/
structure AtRest (scale : XScale) (toplevel : Toplevel) : Prop where
  alive : toplevel.alive = true
  tree : toplevel.tree = true
  maximized : toplevel.maximized = false
  tiled : toplevel.tiled = false
  filled : Nonempty toplevel.geometry
  ssd : toplevel.ssd = none ∨ toplevel.xwayland = false ∧ toplevel.ssd = some ⟨false, false⟩
  restore : toplevel.restorePositionPending = false
  tile : toplevel.tilePositionPending = false
  initial : toplevel.ssdInitialPositionPending = false
  centered : toplevel.keepCentered = true → toplevel.centeredFrame.width = toplevel.frameGeometry.width ∧
    toplevel.centeredFrame.height = toplevel.frameGeometry.height
  /-- The X server keeps the size of an X11 window. -/
  stored : toplevel.xwayland = true → toplevel.geometry.x = 0 ∧ toplevel.geometry.y = 0 ∧
    scale.stored toplevel.geometry.width = toplevel.geometry.width ∧
    scale.stored toplevel.geometry.height = toplevel.geometry.height

/-- Every commit acknowledges some size the client was asked for. -/
def acknowledges (toplevel : Toplevel) : SizeEvent → Bool
  | .commit geometry => toplevel.requested.contains (geometry.width, geometry.height)
  | _ => true

/-- While the window is floating its client commits the size it was asked for last (its own
one as long as it was asked for none) with the offset of the start, and the next request to
maximize or tile waits for that. An X11 window has no such delay. -/
def timely (start toplevel : Toplevel) : SizeEvent → Bool
  | .commit geometry => toplevel.xwayland || toplevel.maximized || toplevel.tiled ||
      geometry.x == start.geometry.x && geometry.y == start.geometry.y &&
        if toplevel.requested = start.requested then
          geometry.width == start.geometry.width && geometry.height == start.geometry.height
        else toplevel.requested.head? == some (geometry.width, geometry.height)
  | .unmaximize => true
  | _ => toplevel.xwayland || toplevel.maximized || toplevel.tiled || !toplevel.restorePositionPending

/-- Not both maximized and tiled. -/
def OneState (toplevel : Toplevel) : Prop := ¬ (toplevel.maximized = true ∧ toplevel.tiled = true)

/-- Floating again, with the size last requested committed, the window has the frame
it had at the start. -/
def Restored (start toplevel : Toplevel) : Prop :=
  toplevel.maximized = false → toplevel.tiled = false → toplevel.answered = true →
    toplevel.layoutFrame = start.layoutFrame

instance (start toplevel : Toplevel) : Decidable (Restored start toplevel) :=
  inferInstanceAs (Decidable (_ → _ → _ → _))

section

variable (sc : XScale) (t : Toplevel)

theorem configure_eq (box : Box) : ∃ x y geometry requested answered, t.configure sc box =
      { t with x := x, y := y, geometry := geometry, requested := requested, answered := answered } := by
  unfold configure
  split
  · exact ⟨_, _, _, _, _, rfl⟩
  · split
    · split
      · exact ⟨_, _, _, _, _, rfl⟩
      · exact ⟨_, _, _, _, _, rfl⟩
    · exact ⟨_, _, _, _, _, rfl⟩

theorem configure_xdg {box : Box} (xdg : t.xwayland = false) (tree : t.tree = true)
    (filled : Nonempty box) : (t.configure sc box).answered = false := by
  unfold configure
  rw [if_neg (by simp [tree, filled]), if_neg (by simp [xdg])]
  rfl

theorem configure_x11 {box : Box} (x11 : t.xwayland = true) (alive : t.alive = true)
    (tree : t.tree = true) (filled : Nonempty box) :
    (t.configure sc box).x = box.x ∧ (t.configure sc box).y = box.y ∧
      (t.configure sc box).geometry = ⟨0, 0, sc.stored box.width, sc.stored box.height⟩ := by
  unfold configure
  rw [if_neg (by simp [tree, filled]), if_pos x11, if_pos alive]
  exact ⟨rfl, rfl, rfl⟩

theorem requestRestore_eq : ∃ x y geometry requested answered pending, t.requestRestore sc = { t with
      x := x, y := y, geometry := geometry, requested := requested, answered := answered
      restorePositionPending := pending } := by
  unfold requestRestore
  split
  · obtain ⟨x, y, geometry, requested, answered, moved⟩ := configure_eq sc t t.restoreBox
    rw [moved]
    exact ⟨_, _, _, _, _, _, rfl⟩
  · exact ⟨_, _, _, _, _, _, rfl⟩

end

structure Record where
  alive : Bool
  tree : Bool
  maximized : Bool
  tiled : Bool
  tile : Tile
  maximizedOutput : Option Nat
  tiledOutput : Option Nat
  maximizedBox : Box
  tiledBox : Box

def record (toplevel : Toplevel) : Record :=
  ⟨toplevel.alive, toplevel.tree, toplevel.maximized, toplevel.tiled, toplevel.tile, toplevel.maximizedOutput,
    toplevel.tiledOutput, toplevel.maximizedBox, toplevel.tiledBox⟩

section

variable (sc : XScale) (usableUnder : Box → Option Box) (t : Toplevel)

theorem oneState_of_record {before after : Toplevel} (one : before.OneState) (same : after.record = before.record) :
    after.OneState := by
  have mx : after.maximized = before.maximized := congrArg Record.maximized same
  have tiled : after.tiled = before.tiled := congrArg Record.tiled same
  unfold OneState
  rwa [mx, tiled]

theorem record_configure (box : Box) : (t.configure sc box).record = t.record := by
  obtain ⟨x, y, geometry, requested, answered, moved⟩ := configure_eq sc t box
  rw [moved]
  rfl

theorem record_requestRestore : (t.requestRestore sc).record = t.record := by
  obtain ⟨x, y, geometry, requested, answered, pending, moved⟩ := requestRestore_eq sc t
  rw [moved]
  rfl

theorem record_moveToplevelFrame (x y : Int) : (t.moveToplevelFrame sc x y).record = t.record := by
  unfold moveToplevelFrame
  split
  · exact record_configure sc t _
  · rfl

theorem record_constrainToUsableArea : (t.constrainToUsableArea sc usableUnder).record = t.record := by
  unfold constrainToUsableArea
  split
  · rfl
  · dsimp only
    split
    · rfl
    · split
      · rfl
      · split
        · rfl
        · split
          · exact record_moveToplevelFrame sc t _ _
          · rfl

theorem record_recenter : (t.recenter sc usableUnder).record = t.record := by
  unfold recenter
  split
  · rfl
  · dsimp only
    split
    · rfl
    · exact (record_constrainToUsableArea sc usableUnder _).trans (record_moveToplevelFrame sc t _ _)

theorem record_onCommit (geometry : Box) : (t.onCommit sc usableUnder geometry).record = t.record := by
  have placed : (t.commitGeometry geometry).placeDecorated.placeRequested.record = t.record := by
    obtain ⟨x, y, pending, decorated⟩ := placeDecorated_eq (t.commitGeometry geometry)
    obtain ⟨px, py, tilePending, restorePending, requested⟩ :=
      placeRequested_eq (t.commitGeometry geometry).placeDecorated
    rw [requested, decorated]
    rfl
  unfold onCommit
  split
  · rfl
  · split
    · rfl
    · dsimp only
      split
      · exact (record_recenter sc usableUnder _).trans placed
      · exact placed

theorem record_saveRestoreBox : t.saveRestoreBox.record = t.record := by
  unfold saveRestoreBox
  split <;> rfl

/-- A request to maximize or not changes nothing, or records the target of the maximized
state, or leaves both states. -/
theorem record_setMaximized (mx : Bool) (o : Option Nat) (u : Box) : (t.setMaximized sc mx o u).record = t.record ∨
    mx = true ∧ (t.setMaximized sc mx o u).record =
      { t.record with maximized := true, tiled := false, maximizedOutput := o, maximizedBox := u } ∨
    ∃ left, (t.setMaximized sc mx o u).record =
      { t.record with maximized := false, tiled := false, maximizedOutput := left } := by
  unfold setMaximized
  split
  · exact .inl rfl
  · split
    · rename_i same
      dsimp only
      split
      · rename_i released
        have floating : t.maximized = false := same.symm.trans released.1
        refine .inr (.inr ⟨t.maximizedOutput, ?_⟩)
        refine (record_requestRestore sc t.clearTiled).trans ?_
        simp [record, clearTiled, ssdSetTiled, floating]
      · exact .inl rfl
    · have saved : (if mx = true ∧ t.tiled = false then t.saveRestoreBox else t).record =
          t.record := by
        split
        · exact record_saveRestoreBox t
        · rfl
      generalize (if mx = true ∧ t.tiled = false then t.saveRestoreBox else t) = window at saved ⊢
      dsimp only
      rw [← saved]
      cases mx with
      | true =>
        obtain ⟨x, y, geometry, requested, answered, moved⟩ := configure_eq sc
          { { window.clearTiled with maximized := true }.ssdSetMaximized true with
            maximizedOutput := o, maximizedBox := u } u
        rw [if_pos rfl, moved]
        exact .inr (.inl ⟨rfl, rfl⟩)
      | false =>
        obtain ⟨x, y, geometry, requested, answered, pending, moved⟩ := requestRestore_eq sc
          ({ window.clearTiled with maximized := false }.ssdSetMaximized false)
        rw [if_neg nofun, moved]
        exact .inr (.inr ⟨none, rfl⟩)

theorem record_tileToplevel (tile : Tile) (o : Option Nat) (u : Box) : (t.tileToplevel sc tile o u).record = t.record ∨
    t.mayTile o u = true ∧ (t.tileToplevel sc tile o u).record = { t.record with
        maximized := false, maximizedOutput := none, tiled := true, tiledBox := tileBox u tile, tile := tile
        tiledOutput := o } := by
  unfold tileToplevel
  split
  · rename_i able
    have saved : (if t.maximized = false ∧ t.tiled = false then t.saveRestoreBox else t).record = t.record := by
      split
      · exact record_saveRestoreBox t
      · rfl
    generalize (if t.maximized = false ∧ t.tiled = false then t.saveRestoreBox else t) = window at saved ⊢
    refine .inr ⟨able, ?_⟩
    dsimp only
    obtain ⟨x, y, geometry, requested, answered, moved⟩ := configure_eq sc (({ window with
        maximized := false, maximizedOutput := none, tiled := true, tiledBox := tileBox u tile, tile := tile
        tiledOutput := o, tilePositionPending := true, restorePositionPending := false }.ssdSetMaximized
          false).ssdSetTiled true) (tileBox u tile)
    rw [moved, ← saved]
    rfl
  · exact .inl rfl

theorem oneState_setMaximized (one : t.OneState) (mx : Bool) (o : Option Nat) (u : Box) :
    (t.setMaximized sc mx o u).OneState := by
  rcases record_setMaximized sc t mx o u with same | ⟨_, target⟩ | ⟨left, released⟩
  · exact oneState_of_record one same
  · exact fun both => absurd (both.2.symm.trans (congrArg Record.tiled target)) nofun
  · exact fun both => absurd (both.2.symm.trans (congrArg Record.tiled released)) nofun

theorem oneState_tileToplevel (one : t.OneState) (tile : Tile) (o : Option Nat) (u : Box) :
    (t.tileToplevel sc tile o u).OneState := by
  rcases record_tileToplevel sc t tile o u with same | ⟨_, target⟩
  · exact oneState_of_record one same
  · exact fun both => absurd (both.1.symm.trans (congrArg Record.maximized target)) nofun

theorem oneState_step (one : t.OneState) (e : SizeEvent) : (t.sizeStep sc usableUnder e).OneState := by
  cases e with
  | maximize o u => exact oneState_setMaximized sc t one true o u
  | tile tile o u => exact oneState_tileToplevel sc t one tile o u
  | unmaximize => exact oneState_setMaximized sc t one false none _
  | commit geometry => exact oneState_of_record one (record_onCommit sc usableUnder t geometry)

end

structure Kept (start toplevel : Toplevel) : Prop where
  xwayland : toplevel.xwayland = start.xwayland
  alive : toplevel.alive = true
  tree : toplevel.tree = true
  ssd : toplevel.ssd = start.ssd.map fun _ => ⟨toplevel.maximized, toplevel.tiled⟩
  initial : toplevel.ssdInitialPositionPending = false
  centered : toplevel.keepCentered = true → toplevel.centeredFrame.width = start.frameGeometry.width ∧
    toplevel.centeredFrame.height = start.frameGeometry.height
  tile : toplevel.tiled = false → toplevel.tilePositionPending = false
  /-- The frame of the start is saved. -/
  managed : toplevel.maximized = true ∨ toplevel.tiled = true →
    toplevel.hasRestoreBox = true ∧ toplevel.restoreBox = start.savedBox ∧
      (toplevel.xwayland = false → toplevel.restorePositionPending = false)
  /-- The window is where it was at the start, or its client has not committed since
  it was asked for the saved size. -/
  floating : toplevel.maximized = false → toplevel.tiled = false →
    toplevel.x = start.x ∧ toplevel.y = start.y ∧ toplevel.geometry = start.geometry ∧
        (toplevel.xwayland = false → toplevel.restorePositionPending = false) ∨
      toplevel.xwayland = false ∧ toplevel.restorePositionPending = true ∧ toplevel.hasRestoreBox = true ∧
        toplevel.restoreBox = start.savedBox ∧ toplevel.answered = false
  /-- The last size that a floating client was asked for is that of the start. -/
  asked : toplevel.xwayland = false → toplevel.maximized = false → toplevel.tiled = false →
    toplevel.requested = start.requested ∨
      toplevel.requested.head? = some (start.geometry.width, start.geometry.height)

section

variable {sc : XScale} {usableUnder : Box → Option Box} {start t : Toplevel}

theorem AtRest.kept (rest : start.AtRest sc) : Kept start start where
  xwayland := rfl
  alive := rest.alive
  tree := rest.tree
  ssd := by
    rw [rest.maximized, rest.tiled]
    rcases rest.ssd with none | ⟨_, some⟩
    · simp [none]
    · simp [some]
  initial := rest.initial
  centered := rest.centered
  tile := fun _ => rest.tile
  managed := by simp [rest.maximized, rest.tiled]
  floating := fun _ _ => .inl ⟨rfl, rfl, rfl, fun _ => rest.restore⟩
  asked := fun _ _ _ => .inl rfl

theorem Kept.ssd_floating (kept : Kept start t) (rest : start.AtRest sc)
    (mx : t.maximized = false) (tiled : t.tiled = false) : t.ssd = start.ssd := by
  rw [kept.ssd, mx, tiled]
  rcases rest.ssd with none | ⟨_, some⟩
  · simp [none]
  · simp [some]

theorem frameGeometry_congr {other : Toplevel} (ssd : t.ssd = other.ssd)
    (geometry : t.geometry = other.geometry) : t.frameGeometry = other.frameGeometry := by
  unfold frameGeometry
  rw [ssd, geometry]

theorem AtRest.nonempty_frame (rest : start.AtRest sc) : Nonempty start.frameGeometry := by
  have filled := rest.filled
  unfold frameGeometry
  rcases rest.ssd with none | ⟨_, some⟩
  · rw [none]
    exact filled
  · rw [some]
    simp only [Ssd.frameGeometry, Ssd.borderWidth, kTitlebarHeight, Nonempty] at filled ⊢
    exact ⟨by simp; omega, by simp; omega⟩

theorem AtRest.nonempty_saved (rest : start.AtRest sc) : Nonempty start.savedBox := rest.nonempty_frame

section

variable (kept : Kept start t)

include kept

theorem Kept.save (rest : start.AtRest sc) (mx : t.maximized = false) (tiled : t.tiled = false)
    (timely : t.xwayland = true ∨ t.restorePositionPending = false) :
    t.saveRestoreBox = { t with restoreBox := start.savedBox, hasRestoreBox := true } ∧
      (t.xwayland = false → t.restorePositionPending = false) := by
  rcases kept.floating mx tiled with ⟨x, y, geometry, pending⟩ | ⟨xdg, pending, _⟩
  · have frame : t.frameGeometry = start.frameGeometry :=
      frameGeometry_congr (kept.ssd_floating rest mx tiled) geometry
    have saved : t.savedBox = start.savedBox := by
      unfold savedBox
      rw [frame, x, y]
    refine ⟨?_, pending⟩
    unfold saveRestoreBox
    rw [if_pos (frame ▸ rest.nonempty_frame), saved]
  · rcases timely with x11 | settled
    · simp [x11] at xdg
    · simp [settled] at pending

theorem Kept.saved (rest : start.AtRest sc)
    (timely : (t.xwayland || t.maximized || t.tiled || !t.restorePositionPending) = true) :
    (if t.maximized = false ∧ t.tiled = false then t.saveRestoreBox else t) =
        { t with restoreBox := start.savedBox, hasRestoreBox := true } ∧
      (t.xwayland = false → t.restorePositionPending = false) := by
  by_cases floating : t.maximized = false ∧ t.tiled = false
  · rw [if_pos floating]
    refine kept.save rest floating.1 floating.2 ?_
    simpa [floating] using timely
  · have managed : t.maximized = true ∨ t.tiled = true := by
      rcases not_and_or.mp floating with mx | tiled
      · exact .inl (by simpa using mx)
      · exact .inr (by simpa using tiled)
    obtain ⟨has, box, pending⟩ := kept.managed managed
    rw [if_neg floating]
    refine ⟨?_, pending⟩
    rw [← has, ← box]

theorem ssdSetMaximized_same : t.ssdSetMaximized t.maximized = t := by
  have same : t.ssd.map (fun ssd => { ssd with maximized := t.maximized }) = t.ssd := by
    rw [kept.ssd, Option.map_map]
    rfl
  unfold ssdSetMaximized
  rw [same]

theorem Kept.maximize (rest : start.AtRest sc) {o : Option Nat} {u : Box}
    (timely : timely start t (.maximize o u) = true) :
    Kept start (t.setMaximized sc true o u) := by
  unfold setMaximized
  rw [if_neg (by simp [kept.alive, kept.tree])]
  by_cases mx : t.maximized = true
  · have again := ssdSetMaximized_same kept
    rw [mx] at again
    simp only [mx, if_true, Bool.true_eq_false, false_and, if_false, again]
    exact kept
  · have mx : t.maximized = false := by simpa using mx
    obtain ⟨saved, pending⟩ := kept.saved rest timely
    simp only [mx, true_and] at saved
    simp only [mx, Bool.true_eq_false, if_false, true_and, saved, if_true]
    obtain ⟨x, y, geometry, requested, answered, moved⟩ := configure_eq sc _ u
    rw [moved]
    refine ⟨kept.xwayland, kept.alive, kept.tree, ?_, kept.initial, kept.centered, fun _ => rfl,
      fun _ => ⟨rfl, rfl, pending⟩, nofun, nofun⟩
    simp only [clearTiled, ssdSetTiled, ssdSetMaximized, kept.ssd, Option.map_map]
    rfl

theorem Kept.tileToplevel (rest : start.AtRest sc) {tile : Tile} {o : Option Nat} {u : Box}
    (timely : timely start t (.tile tile o u) = true) :
    Kept start (t.tileToplevel sc tile o u) := by
  unfold Toplevel.tileToplevel
  split
  · obtain ⟨saved, _⟩ := kept.saved rest timely
    rw [saved]
    obtain ⟨x, y, geometry, requested, answered, moved⟩ := configure_eq sc _ (tileBox u tile)
    dsimp only at moved ⊢
    rw [moved]
    refine ⟨kept.xwayland, kept.alive, kept.tree, ?_, kept.initial, kept.centered, nofun,
      fun _ => ⟨rfl, rfl, fun _ => rfl⟩, nofun, nofun⟩
    simp only [ssdSetTiled, ssdSetMaximized, kept.ssd, Option.map_map]
    rfl
  · exact kept

end

theorem requestRestore_floating (t : Toplevel) (rest : start.AtRest sc)
    (x11 : t.xwayland = start.xwayland) (alive : t.alive = true) (tree : t.tree = true)
    (has : t.hasRestoreBox = true)
    (box : t.restoreBox = start.savedBox) :
    let after := t.requestRestore sc
    (after.x = start.x ∧ after.y = start.y ∧ after.geometry = start.geometry ∧
        (after.xwayland = false → after.restorePositionPending = false)) ∨
      after.xwayland = false ∧ after.restorePositionPending = true ∧ after.hasRestoreBox = true ∧
        after.restoreBox = start.savedBox ∧ after.answered = false := by
  intro after
  have filled : Nonempty t.restoreBox := box ▸ rest.nonempty_saved
  have restored : after = { t.configure sc t.restoreBox with restorePositionPending := true } :=
    if_pos has
  obtain ⟨x, y, geometry, requested, answered, moved⟩ := configure_eq sc t t.restoreBox
  by_cases xdg : t.xwayland = false
  · have waits := configure_xdg sc t xdg tree filled
    right
    rw [restored]
    rw [moved] at waits ⊢
    exact ⟨xdg, rfl, has, box, waits⟩
  · have isX11 : t.xwayland = true := by simpa using xdg
    have none : start.ssd = none := by
      rcases rest.ssd with none | ⟨xdg, _⟩
      · exact none
      · rw [← x11, isX11] at xdg
        cases xdg
    obtain ⟨atX, atY, stored, stored'⟩ := rest.stored (x11 ▸ isX11)
    obtain ⟨nowX, nowY, now⟩ := configure_x11 sc t isX11 alive tree filled
    have frame : start.frameGeometry = start.geometry := by simp [frameGeometry, none]
    left
    rw [restored]
    refine ⟨?_, ?_, ?_, fun xdg => ?_⟩
    · show (t.configure sc t.restoreBox).x = start.x
      rw [nowX, box]
      simp [savedBox, frame, atX]
    · show (t.configure sc t.restoreBox).y = start.y
      rw [nowY, box]
      simp [savedBox, frame, atY]
    · show (t.configure sc t.restoreBox).geometry = start.geometry
      rw [now, box]
      have whole : (⟨start.geometry.x, start.geometry.y, start.geometry.width, start.geometry.height⟩ : Box) =
        start.geometry := rfl
      rw [atX, atY] at whole
      simpa only [savedBox, frame, stored, stored'] using whole
    · rw [moved] at xdg
      simp [isX11] at xdg

/-- The client is asked for the size that goes with the saved frame. -/
theorem requestRestore_asked (t : Toplevel) (rest : start.AtRest sc) (xdg : t.xwayland = false) (tree : t.tree = true)
    (ssd : t.ssd = start.ssd) (has : t.hasRestoreBox = true) (box : t.restoreBox = start.savedBox) :
    (t.requestRestore sc).requested.head? = some (start.geometry.width, start.geometry.height) := by
  have filled : Nonempty t.restoreBox := box ▸ rest.nonempty_saved
  have ⟨wide, high⟩ := rest.filled
  unfold requestRestore
  rw [if_pos has, configure, if_neg (by simp [tree, filled]), if_neg (by simp [xdg])]
  simp only [askFor, List.head?_cons, contentOf, box, ssd, savedBox, frameGeometry]
  rcases rest.ssd with none | ⟨_, some⟩
  · rw [none]
  · rw [some]
    simp only [Ssd.contentGeometry, Ssd.frameGeometry, Option.some.injEq, Prod.mk.injEq]
    omega

/-- The window without its state; the saved box is not asked for yet. -/
def released (start toplevel : Toplevel) : Toplevel :=
  { toplevel with
    maximized := false
    tiled := false
    tilePositionPending := false
    ssd := start.ssd.map fun _ => ⟨false, false⟩ }

section

variable (kept : Kept start t)

include kept

theorem Kept.release (rest : start.AtRest sc) (managed : t.maximized = true ∨ t.tiled = true) :
    Kept start ((released start t).requestRestore sc) := by
  obtain ⟨has, box, _⟩ := kept.managed managed
  have floating := requestRestore_floating (released start t) rest kept.xwayland kept.alive kept.tree has box
  have ssd : (released start t).ssd = start.ssd := by
    rcases rest.ssd with none | ⟨_, some⟩
    · simp [released, none]
    · simp [released, some]
  have asked (xdg : t.xwayland = false) := requestRestore_asked (released start t) rest xdg kept.tree ssd has box
  obtain ⟨x, y, geometry, requested, answered, pending, moved⟩ := requestRestore_eq sc (released start t)
  rw [moved] at floating asked ⊢
  exact ⟨kept.xwayland, kept.alive, kept.tree, rfl, kept.initial, kept.centered, fun _ => rfl, nofun,
    fun _ _ => floating, fun xdg _ _ => .inr (asked xdg)⟩

theorem Kept.unmaximize (rest : start.AtRest sc) (o : Option Nat) (u : Box) :
    Kept start (t.setMaximized sc false o u) := by
  unfold setMaximized
  rw [if_neg (by simp [kept.alive, kept.tree])]
  by_cases mx : t.maximized = true
  · have is : ({ t.clearTiled with maximized := false } : Toplevel).ssdSetMaximized false =
        released start t := by
      simp only [clearTiled, ssdSetTiled, ssdSetMaximized, kept.ssd, Option.map_map, released]
      rfl
    have released := kept.release rest (.inl mx)
    simp only [mx, Bool.false_eq_true, if_false, false_and]
    rw [is]
    exact ⟨released.xwayland, released.alive, released.tree, released.ssd, released.initial,
      released.centered, released.tile, released.managed, released.floating, released.asked⟩
  · have mx : t.maximized = false := by simpa using mx
    by_cases tiled : t.tiled = true
    · have is : t.clearTiled = released start t := by
        simp only [clearTiled, ssdSetTiled, kept.ssd, Option.map_map, released, mx]
        rfl
      have released := kept.release rest (.inr tiled)
      have floating : ((Toplevel.released start t).requestRestore sc).maximized = false := by
        obtain ⟨x, y, geometry, requested, answered, pending, moved⟩ :=
          requestRestore_eq sc (Toplevel.released start t)
        rw [moved]
        rfl
      have again := ssdSetMaximized_same released
      rw [floating] at again
      simp only [mx, tiled, if_true, and_self]
      rw [is, again]
      exact released
    · have again := ssdSetMaximized_same kept
      rw [mx] at again
      simp only [mx, tiled, if_true, Bool.false_eq_true, and_false, if_false, again]
      exact kept

theorem placeRequested_managed (managed : t.maximized = true ∨ t.tiled = true)
    (xdg : t.xwayland = false) : ∃ x y pending, t.placeRequested =
      { t with x := x, y := y, tilePositionPending := pending } ∧ (t.tiled = false → pending = false) := by
  have tile := kept.tile
  obtain ⟨_, _, settled⟩ := kept.managed managed
  unfold placeRequested
  split
  · exact ⟨_, _, _, rfl, tile⟩
  · split
    · exact ⟨_, _, false, rfl, fun _ => rfl⟩
    · rw [if_neg (by simp [settled xdg])]
      exact ⟨_, _, _, rfl, tile⟩

theorem Kept.uncentered : Kept start { t with keepCentered := false } :=
  ⟨kept.xwayland, kept.alive, kept.tree, kept.ssd, kept.initial, nofun, kept.tile, kept.managed, kept.floating,
    kept.asked⟩

end

theorem layoutFrame_size (tree : t.tree = true) : t.layoutFrame.width = t.frameGeometry.width ∧
      t.layoutFrame.height = t.frameGeometry.height := by
  unfold layoutFrame
  rw [if_pos tree]
  exact ⟨rfl, rfl⟩

section

variable (kept : Kept start t)

include kept

theorem recenter_same (frame : t.frameGeometry = start.frameGeometry) (centered : t.keepCentered = true) :
    Kept start (t.recenter sc usableUnder) := by
  unfold recenter
  split
  · exact kept.uncentered
  · obtain ⟨width, height⟩ := kept.centered centered
    obtain ⟨width', height'⟩ := layoutFrame_size kept.tree
    rw [if_pos (.inr ⟨by rw [width', frame, width], by rw [height', frame, height]⟩)]
    exact kept

theorem Kept.commit_managed (managed : t.maximized = true ∨ t.tiled = true)
    (xdg : t.xwayland = false) (geometry : Box) :
    let placed := (t.commitGeometry geometry).placeRequested
    Kept start (if placed.keepCentered then placed.recenter sc usableUnder else placed) := by
  have floats : ¬ (t.maximized = false ∧ t.tiled = false) := by
    rintro ⟨mx, tiled⟩
    simp [mx, tiled] at managed
  have committed : Kept start (t.commitGeometry geometry) :=
    ⟨kept.xwayland, kept.alive, kept.tree, kept.ssd, kept.initial, kept.centered, kept.tile,
      kept.managed, fun mx tiled => absurd ⟨mx, tiled⟩ floats, fun _ mx tiled => absurd ⟨mx, tiled⟩ floats⟩
  obtain ⟨x, y, pending, moved, tile⟩ := placeRequested_managed committed managed xdg
  have placed : Kept start (t.commitGeometry geometry).placeRequested := by
    rw [moved]
    exact ⟨committed.xwayland, committed.alive, committed.tree, committed.ssd, committed.initial,
      committed.centered, tile, committed.managed, fun mx tiled => absurd ⟨mx, tiled⟩ floats, committed.asked⟩
  dsimp only
  split
  · rw [recenter_managed]
    · exact placed.uncentered
    · rw [moved]
      exact managed
  · exact placed

theorem Kept.placed_floating (rest : start.AtRest sc) (xdg : t.xwayland = false)
    (mx : t.maximized = false) (tiled : t.tiled = false) :
    let placed := (t.commitGeometry start.geometry).placeRequested
    Kept start placed ∧ placed.frameGeometry = start.frameGeometry := by
  have ssd := kept.ssd_floating rest mx tiled
  have tile : (t.commitGeometry start.geometry).tilePositionPending = false := kept.tile tiled
  have frame : (t.commitGeometry start.geometry).frameGeometry = start.frameGeometry :=
    frameGeometry_congr ssd rfl
  unfold placeRequested
  rw [if_neg (by simp [commitGeometry, mx]), if_neg (by simp [tile])]
  rcases kept.floating mx tiled with ⟨x, y, _, pending⟩ | ⟨_, pending, has, box, _⟩
  · rw [if_neg (by simp [commitGeometry, pending xdg])]
    exact ⟨⟨kept.xwayland, kept.alive, kept.tree, kept.ssd, kept.initial, kept.centered, kept.tile,
      kept.managed, fun _ _ => .inl ⟨x, y, rfl, pending⟩, kept.asked⟩, frame⟩
  · rw [if_pos ⟨pending, has⟩]
    refine ⟨⟨kept.xwayland, kept.alive, kept.tree, kept.ssd, kept.initial, kept.centered, kept.tile,
      by simp [placeFrame, setPosition, commitGeometry, mx, tiled], fun _ _ => .inl ⟨?_, ?_, rfl, fun _ => rfl⟩,
      kept.asked⟩, frame⟩
    · simp only [placeFrame, setPosition, frame]
      simp [commitGeometry, box, savedBox]
    · simp only [placeFrame, setPosition, frame]
      simp [commitGeometry, box, savedBox]

theorem Kept.commit (rest : start.AtRest sc) {geometry : Box} (timely : timely start t (.commit geometry) = true) :
    Kept start (t.onCommit sc usableUnder geometry) := by
  unfold onCommit
  by_cases x11 : t.xwayland = true
  · rw [if_pos x11]
    refine ⟨kept.xwayland, kept.alive, kept.tree, kept.ssd, kept.initial, kept.centered, kept.tile,
      kept.managed, fun mx tiled => ?_, kept.asked⟩
    rcases kept.floating mx tiled with back | ⟨xdg, _⟩
    · exact .inl back
    · simp [x11] at xdg
  · have xdg : t.xwayland = false := by simpa using x11
    have decorated : (t.commitGeometry geometry).placeDecorated = t.commitGeometry geometry :=
      if_neg (by simp [commitGeometry, kept.initial])
    rw [if_neg x11, if_neg (by simp [kept.alive, kept.tree]), decorated]
    by_cases managed : t.maximized = true ∨ t.tiled = true
    · exact kept.commit_managed managed xdg geometry
    · rw [not_or, Bool.not_eq_true, Bool.not_eq_true] at managed
      obtain ⟨mx, tiled⟩ := managed
      have same : geometry = start.geometry := by
        simp only [Toplevel.timely, xdg, mx, tiled, Bool.false_or, Bool.and_eq_true, beq_iff_eq] at timely
        obtain ⟨⟨left, top⟩, size⟩ := timely
        split at size
        · simp only [Bool.and_eq_true, beq_iff_eq] at size
          exact Box.ext left top size.1 size.2
        · rename_i again
          have last := (kept.asked xdg mx tiled).resolve_left again
          rw [beq_iff_eq, last, Option.some.injEq, Prod.mk.injEq] at size
          exact Box.ext left top size.1.symm size.2.symm
      obtain ⟨placed, frame⟩ := kept.placed_floating rest xdg mx tiled
      rw [same]
      dsimp only
      split
      · rename_i centered
        exact recenter_same placed frame centered
      · exact placed

theorem Kept.step (rest : start.AtRest sc) (e : SizeEvent) (timely : timely start t e = true) :
    Kept start (t.sizeStep sc usableUnder e) := by
  cases e with
  | maximize => exact kept.maximize rest timely
  | tile => exact kept.tileToplevel rest timely
  | unmaximize => exact kept.unmaximize rest none ⟨0, 0, 0, 0⟩
  | commit => exact kept.commit rest timely

theorem Kept.restored (rest : start.AtRest sc) : Restored start t := by
  intro mx tiled answered
  rcases kept.floating mx tiled with ⟨x, y, geometry, _⟩ | ⟨_, _, _, _, waits⟩
  · have frame : t.frameGeometry = start.frameGeometry :=
      frameGeometry_congr (kept.ssd_floating rest mx tiled) geometry
    unfold layoutFrame
    rw [if_pos kept.tree, if_pos rest.tree, frame, x, y, geometry]
  · rw [answered] at waits
    cases waits

end

end

/-- A floating window at rest is maximized, tiled and unmaximized in any order, while
its client commits. It is never both maximized and tiled. If the client answers each
return to the floating state before the next request, and with nothing older than
what it was asked for, the window comes back to its frame. -/
theorem throughout_restored (scale : XScale) (usableUnder : Box → Option Box) (start : Toplevel)
    (events : List SizeEvent) (rest : start.AtRest scale) :
    Transition.Throughout (sizeStep scale usableUnder) OneState start events ∧
      (Transition.Along (sizeStep scale usableUnder) (fun toplevel event => timely start toplevel event = true)
          start events →
        Transition.Throughout (sizeStep scale usableUnder) (Restored start) start events) := by
  have one : start.OneState := by
    intro both
    rw [rest.maximized] at both
    exact nomatch both.1
  refine ⟨Transition.throughout_invariant (fun toplevel event one => ?_) one events, fun met => ?_⟩
  · exact oneState_step scale usableUnder toplevel one event
  · have step_kept : ∀ (toplevel : Toplevel) (event : SizeEvent), Kept start toplevel →
        timely start toplevel event = true → Kept start (toplevel.sizeStep scale usableUnder event) :=
      fun toplevel event kept timely => kept.step rest event timely
    have kept := Transition.along_invariant step_kept rest.kept met
    exact kept.mono fun toplevel kept => kept.restored rest

/-- A window of 800 by 600 pixels with a shadow around it, maximized, tiled and back. -/
theorem throughout_restored_once :
    let start : Toplevel := { create false with
      mapped := true, x := 100, y := 80, geometry := ⟨26, 23, 800, 600⟩, requested := [(800, 600)] }
    let events : List SizeEvent := [.maximize (some 0) ⟨0, 0, 1920, 1080⟩, .commit ⟨0, 0, 1920, 1080⟩,
      .tile .left (some 0) ⟨0, 0, 1920, 1080⟩, .unmaximize, .commit ⟨26, 23, 800, 600⟩]
    Transition.Along (sizeStep ⟨id, id⟩ fun _ => none) (fun toplevel event => timely start toplevel event = true)
        start events ∧
      Transition.Throughout (sizeStep ⟨id, id⟩ fun _ => none) (Restored start) start events :=
  ⟨by decide, (throughout_restored ⟨id, id⟩ (fun _ => none) _ _
    ⟨rfl, rfl, rfl, rfl, by decide, .inl rfl, rfl, rfl, rfl, by decide, by decide⟩).2 (by decide)⟩

/-- The window is maximized again before its client has committed the size to which it
was restored: the maximized size is saved as the one to come back to. And the client
of a floating window that commits its maximized geometry once more uses up the
correction of the position. All commits acknowledge sizes that were asked for. -/
theorem not_restored_of_late_commit :
    let start : Toplevel := { create false with
      mapped := true, x := 100, y := 80, geometry := ⟨26, 23, 800, 600⟩, requested := [(800, 600)] }
    let step := sizeStep ⟨id, id⟩ fun _ => none
    let early : List SizeEvent := [.maximize (some 0) ⟨0, 0, 1920, 1080⟩, .commit ⟨26, 23, 1920, 1080⟩, .unmaximize,
      .maximize (some 0) ⟨0, 0, 1920, 1080⟩, .unmaximize, .commit ⟨26, 23, 1920, 1080⟩]
    let twice : List SizeEvent := [.maximize (some 0) ⟨0, 0, 1920, 1080⟩, .commit ⟨0, 0, 1920, 1080⟩, .unmaximize,
      .commit ⟨0, 0, 1920, 1080⟩, .commit ⟨26, 23, 800, 600⟩]
    Transition.Along step (fun toplevel event => acknowledges toplevel event = true) start early ∧
      ¬ Restored start (Transition.run step start early) ∧
      Transition.Along step (fun toplevel event => acknowledges toplevel event = true) start twice ∧
      ¬ Restored start (Transition.run step start twice) := by
  decide

end Toplevel

end FlakeWM.Geometry
