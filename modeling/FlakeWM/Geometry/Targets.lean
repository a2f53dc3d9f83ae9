import FlakeWM.Geometry.UsableArea

/-! Maximized and tiled toplevels on the usable areas of the outputs.

The target of a toplevel is a copy of the area stored with its output, and that is a
copy of the usable area at the time its layers were arranged. Both stay current as long
as every event arranges the outputs whose usable area it changes, leaves them some
room, and unplugs no output under a window. -/

set_option autoImplicit false

namespace FlakeWM.Geometry

open Pixels Screen

namespace Toplevel

structure Aims (stored : Nat → Option Box) (record : Record) : Prop where
  maximized : record.maximized = true →
    ∃ output ∈ record.maximizedOutput, stored output = some record.maximizedBox
  tiled : record.tiled = true →
    ∃ output ∈ record.tiledOutput, ∃ box, stored output = some box ∧ record.tiledBox = tileBox box record.tile
  one : ¬ (record.maximized = true ∧ record.tiled = true)

section

variable {stored next : Nat → Option Box} {record : Record}

theorem Aims.mono (aims : Aims stored record) (kept : ∀ o box, stored o = some box → next o = some box) :
    Aims next record where
  maximized s := by
    obtain ⟨o, recorded, held⟩ := aims.maximized s
    exact ⟨o, recorded, kept o _ held⟩
  tiled s := by
    obtain ⟨o, recorded, box, held, slot⟩ := aims.tiled s
    exact ⟨o, recorded, box, kept o box held, slot⟩
  one := aims.one

theorem aims_floating (maximized : record.maximized = false) (tiled : record.tiled = false) : Aims stored record where
  maximized s := absurd (maximized.symm.trans s) nofun
  tiled s := absurd (tiled.symm.trans s) nofun
  one both := absurd (maximized.symm.trans both.1) nofun

theorem aims_maximized {o : Nat} (recorded : record.maximizedOutput = some o)
    (held : stored o = some record.maximizedBox) (tiled : record.tiled = false) : Aims stored record where
  maximized _ := ⟨o, recorded, held⟩
  tiled s := absurd (tiled.symm.trans s) nofun
  one both := absurd (tiled.symm.trans both.2) nofun

theorem aims_tiled {o : Nat} {box : Box} (recorded : record.tiledOutput = some o)
    (held : stored o = some box) (slot : record.tiledBox = tileBox box record.tile)
    (maximized : record.maximized = false) : Aims stored record where
  maximized s := absurd (maximized.symm.trans s) nofun
  tiled _ := ⟨o, recorded, box, held, slot⟩
  one both := absurd (maximized.symm.trans both.1) nofun

end

section

variable {stored next : Nat → Option Box} (sc : XScale) (o : Nat) (u old : Box) (t : Toplevel)

theorem record_fitFloating : (t.fitFloating sc u old).record = t.record := by
  unfold fitFloating
  split
  · rfl
  · dsimp only
    split
    · rfl
    · split
      · rfl
      · exact record_moveToplevelFrame sc t _ _

theorem record_fit (alive : t.alive = true) (tree : t.tree = true) : (t.fit sc o u old).record =
      if t.maximized = true then
        if t.maximizedOutput = some o then { t.record with maximizedBox := u }
        else t.record
      else if t.tiled = true ∧ t.tiledOutput = some o ∧ u ≠ old then
        { t.record with tiledBox := tileBox u t.tile }
      else t.record := by
  unfold fit
  rw [if_neg (by simp [alive, tree])]
  by_cases maximized : t.maximized = true
  · rw [if_pos maximized, if_pos maximized]
    split
    · exact record_configure sc _ u
    · rfl
  · rw [if_neg maximized, if_neg maximized]
    by_cases tiled : t.tiled = true
    · rw [if_pos tiled]
      by_cases moved : t.tiledOutput = some o ∧ u ≠ old
      · rw [if_pos moved, if_pos ⟨tiled, moved⟩]
        exact record_configure sc _ _
      · rw [if_neg moved, if_neg fun both => moved both.2]
    · rw [if_neg tiled, if_neg fun both => tiled both.1]
      exact record_fitFloating sc u old t

theorem shown_of_fit (alive : (t.fit sc o u old).alive = true)
    (tree : (t.fit sc o u old).tree = true) : t.alive = true ∧ t.tree = true := by
  by_contra absent
  have gone : t.alive = false ∨ t.tree = false := by
    rwa [not_and_or, Bool.not_eq_true, Bool.not_eq_true] at absent
  have same : t.fit sc o u old = t := if_pos gone
  rw [same] at alive tree
  exact absent ⟨alive, tree⟩

variable {o u old t}

/-- A window that aims at the area an output had aims at the new one. A slot is left as it
is where the area is the same. -/
theorem Aims.fit (alive : t.alive = true) (tree : t.tree = true) (aims : Aims stored t.record)
    (others : ∀ id', id' ≠ o → next id' = stored id')
    (held : ∀ box, stored o = some box → box = old ∧ next o = some u) :
    Aims next (t.fit sc o u old).record := by
  rw [record_fit sc o u old t alive tree]
  by_cases maximized : t.maximized = true
  · obtain ⟨target, recorded, box⟩ := aims.maximized maximized
    have floating : t.record.tiled = false := by
      have one := aims.one
      cases tiled : t.record.tiled with
      | false => rfl
      | true => exact absurd ⟨maximized, tiled⟩ one
    rw [if_pos maximized]
    -- only a window that is maximized on this output is given the new area
    by_cases here : target = o
    · subst here
      rw [if_pos (show t.maximizedOutput = some target from recorded)]
      exact aims_maximized recorded (held _ box).2 floating
    · have elsewhere : t.maximizedOutput ≠ some o := by
        intro same
        exact here (Option.some.inj (recorded.symm.trans same))
      rw [if_neg elsewhere]
      exact aims_maximized recorded ((others target here).trans box) floating
  · have floating : t.record.maximized = false := Bool.eq_false_iff.mpr maximized
    rw [if_neg maximized]
    by_cases tiled : t.tiled = true
    · obtain ⟨target, recorded, box, area, slot⟩ := aims.tiled tiled
      by_cases here : target = o
      · subst here
        obtain ⟨same, current⟩ := held box area
        split
        · exact aims_tiled recorded current rfl floating
        · -- the slot is kept, so it has to be that of the new area already
          rename_i unmoved
          have unchanged : u = old := by
            by_contra changed
            exact unmoved ⟨tiled, recorded, changed⟩
          exact aims_tiled recorded current (by rw [slot, same, unchanged]) floating
      · have elsewhere : t.tiledOutput ≠ some o := by
          intro same
          exact here (Option.some.inj (recorded.symm.trans same))
        rw [if_neg fun both => elsewhere both.2.1]
        exact aims_tiled recorded ((others target here).trans area) slot floating
    · rw [if_neg fun both => tiled both.1]
      exact aims_floating floating (Bool.eq_false_iff.mpr tiled)

end

end Toplevel

namespace Desk

open Toplevel

variable {F : Type}

def storedArea (desk : Desk F) (output : Nat) : Option Box :=
  (desk.monitors[output]?.filter Monitor.connected).map Monitor.usableBox

theorem connected_iff {desk : Desk F} {o : Nat} : desk.connected o = true ↔ ∃ box, desk.storedArea o = some box := by
  unfold connected storedArea
  cases desk.monitors[o]? with
  | none => simp
  | some monitor => cases plugged : monitor.connected <;> simp [plugged]

theorem connected_lt {desk : Desk F} {o : Nat} (plugged : desk.connected o = true) : o < desk.monitors.length := by
  by_contra beyond
  simp [connected, List.getElem?_eq_none (Nat.le_of_not_lt beyond)] at plugged

theorem storedArea_congr {desk next : Desk F} (monitors : next.monitors = desk.monitors) :
    next.storedArea = desk.storedArea := by
  unfold storedArea
  rw [monitors]

theorem foldl_keeps {α : Type} (f : Desk F → α → Desk F) (kept : ∀ desk item, (f desk item).toplevels = desk.toplevels ∧
      (f desk item).storedArea = desk.storedArea) (items : List α) (desk : Desk F) :
    (items.foldl f desk).toplevels = desk.toplevels ∧ (items.foldl f desk).storedArea = desk.storedArea := by
  induction items generalizing desk with
  | nil => exact ⟨rfl, rfl⟩
  | cons item rest ih =>
    obtain ⟨ws, stored⟩ := ih (f desk item)
    exact ⟨ws.trans (kept desk item).1, stored.trans (kept desk item).2⟩

section

variable (desk : Desk F) {next : Desk F} (o : Nat)

theorem storedArea_modify {f : Monitor F → Monitor F} (changed : next.monitors = desk.monitors.modify o f) (id' : Nat) :
    next.storedArea id' = if id' = o then ((desk.monitors[o]?.map f).filter Monitor.connected).map Monitor.usableBox
      else desk.storedArea id' := by
  unfold storedArea
  rw [changed, List.getElem?_modify]
  by_cases here : id' = o
  · subst here
    simp
  · simp [here, Ne.symm here]

theorem storedArea_storeUsable (u : Box) (id' : Nat) : (desk.storeUsable o u).storedArea id' =
      if id' = o then (desk.storedArea o).map fun _ => u else desk.storedArea id' := by
  rw [storedArea_modify desk o rfl]
  congr 1
  unfold storedArea
  cases desk.monitors[o]? with
  | none => rfl
  | some monitor => cases plugged : monitor.connected <;> simp [Option.filter, plugged]

theorem shown_storeUsable (u : Box) : (desk.storeUsable o u).shown = desk.shown := by
  unfold shown storeUsable
  apply List.ext_getElem?
  intro id'
  rw [List.getElem?_map, List.getElem?_map, List.getElem?_modify]
  cases desk.monitors[id']? with
  | none => rfl
  | some => by_cases here : o = id' <;> simp [here]

theorem connected_storeUsable (u : Box) (id' : Nat) : (desk.storeUsable o u).connected id' = desk.connected id' := by
  unfold connected storeUsable
  rw [List.getElem?_modify]
  cases desk.monitors[id']? with
  | none => rfl
  | some => by_cases here : o = id' <;> simp [here]

end

def Aimed (stored : Nat → Option Box) (desk : Desk F) : Prop :=
  ∀ toplevel ∈ desk.toplevels, toplevel.alive = true → toplevel.tree = true → Toplevel.Aims stored toplevel.record

theorem Aimed.fit {desk next : Desk F} (sc : XScale) {stored stored' : Nat → Option Box} {o : Nat}
    {u old : Box} (aimed : desk.Aimed stored)
    (fitted : next.toplevels = desk.toplevels.map (fit sc o u old))
    (others : ∀ id', id' ≠ o → stored' id' = stored id')
    (held : ∀ box, stored o = some box → box = old ∧ stored' o = some u) : next.Aimed stored' := by
  intro t mem alive tree
  rw [fitted, List.mem_map] at mem
  obtain ⟨window, mem, same⟩ := mem
  subst same
  obtain ⟨alive, tree⟩ := shown_of_fit sc o u old window alive tree
  exact (aimed window mem alive tree).fit sc alive tree others held

def vacant (desk : Desk F) (output : Nat) : Bool :=
  desk.toplevels.all fun toplevel => !(toplevel.alive && toplevel.tree) ||
    !(toplevel.maximized && toplevel.maximizedOutput == some output) &&
      !(toplevel.tiled && toplevel.tiledOutput == some output)

theorem Aimed.vacate {desk : Desk F} {o : Nat} (aimed : desk.Aimed desk.storedArea) (vacant : desk.vacant o = true) :
    desk.Aimed (Function.update desk.storedArea o none) := by
  intro t mem alive tree
  have aims := aimed t mem alive tree
  have free := List.all_eq_true.mp vacant t mem
  rw [alive, tree, Bool.and_self, Bool.not_true, Bool.false_or, Bool.and_eq_true] at free
  obtain ⟨unmaximized, untiled⟩ := free
  constructor
  · intro maximized
    obtain ⟨target, recorded, held⟩ := aims.maximized maximized
    have apart : target ≠ o := by
      rintro rfl
      have s : t.maximized = true := maximized
      have here : t.maximizedOutput = some target := recorded
      simp [s, here] at unmaximized
    exact ⟨target, recorded, by rw [Function.update_of_ne apart, held]⟩
  · intro tiled
    obtain ⟨target, recorded, box, held, slot⟩ := aims.tiled tiled
    have apart : target ≠ o := by
      rintro rfl
      have s : t.tiled = true := tiled
      have here : t.tiledOutput = some target := recorded
      simp [s, here] at untiled
    exact ⟨target, recorded, box, by rw [Function.update_of_ne apart, held], slot⟩
  · exact aims.one

section

variable [ScaleFormat F]

/-- Every maximized or tiled toplevel has a connected output, and its target is the
usable area this output has at present, or its slot of it. -/
def TargetsCurrent (desk : Desk F) : Prop :=
  ∀ toplevel ∈ desk.toplevels, toplevel.alive = true → toplevel.tree = true →
    (toplevel.maximized = true → ∃ output ∈ toplevel.maximizedOutput, desk.connected output = true ∧
      toplevel.maximizedBox = desk.usableArea output) ∧
    (toplevel.tiled = true → ∃ output ∈ toplevel.tiledOutput, desk.connected output = true ∧
      toplevel.tiledBox = tileBox (desk.usableArea output) toplevel.tile)

instance : DecidablePred (TargetsCurrent (F := F)) := fun desk => by
  delta TargetsCurrent
  infer_instance

def Fresh (desk : Desk F) : Prop :=
  ∀ output box, desk.storedArea output = some box → box = desk.usableArea output ∧ Nonempty box

structure Settled (desk : Desk F) : Prop where
  aimed : desk.Aimed desk.storedArea
  fresh : desk.Fresh

theorem Settled.targetsCurrent {desk : Desk F} (settled : desk.Settled) : desk.TargetsCurrent := by
  intro t mem alive tree
  have aims := settled.aimed t mem alive tree
  constructor
  · intro maximized
    obtain ⟨o, recorded, held⟩ := aims.maximized maximized
    exact ⟨o, recorded, connected_iff.mpr ⟨_, held⟩, (settled.fresh o _ held).1⟩
  · intro tiled
    obtain ⟨o, recorded, box, held, slot⟩ := aims.tiled tiled
    refine ⟨o, recorded, connected_iff.mpr ⟨box, held⟩, ?_⟩
    rw [← (settled.fresh o box held).1]
    exact slot

variable {desk next : Desk F} (scale : XScale)

theorem usableArea_congr (shown : next.shown = desk.shown) (layout : next.layout = desk.layout)
    (panels : next.panels = desk.panels) : next.usableArea = desk.usableArea := by
  funext o
  have s : next.monitors[o]?.map Monitor.output = desk.monitors[o]?.map Monitor.output := by
    rw [← List.getElem?_map, ← List.getElem?_map]
    exact congrArg (·[o]?) shown
  unfold usableArea outputBox
  rw [shown, layout, panels]
  cases before : desk.monitors[o]? with
  | none =>
    rw [before, Option.map_none, Option.map_eq_none_iff] at s
    rw [s]
  | some =>
    rw [before, Option.map_some, Option.map_eq_some_iff] at s
    obtain ⟨after, found, same⟩ := s
    rw [found]
    dsimp only
    rw [same]

theorem sizable_congr (shown : next.shown = desk.shown) : next.sizable = desk.sizable := by
  funext o
  have s (desk : Desk F) : desk.sizable o = (desk.shown[o]?).any fun o =>
      decide (0 < o.effectiveWidth) && decide (0 < o.effectiveHeight) := by
    unfold sizable Desk.shown
    rw [List.getElem?_map, Option.any_map]
  rw [s, s, shown]

/-- Arranging does nothing, for want of an output with a picture, or stores the usable area
and fits the windows to it if there is any room. -/
theorem arrangeLayers_cases (desk : Desk F) (o : Nat) :
    (desk.arrangeLayers scale o = desk ∧ (desk.connected o = true → desk.sizable o = false)) ∨
    ∃ old, desk.storedArea o = some old ∧ desk.arrangeLayers scale o = { desk.storeUsable o (desk.usableArea o) with
        toplevels := if Nonempty (desk.usableArea o) then
            desk.toplevels.map (fit scale o (desk.usableArea o) old)
          else desk.toplevels } := by
  unfold arrangeLayers connected storedArea
  cases desk.monitors[o]? with
  | none => exact .inl ⟨rfl, nofun⟩
  | some monitor =>
    dsimp only
    by_cases able : (monitor.connected && desk.sizable o) = true
    · rw [if_pos able]
      rw [Bool.and_eq_true] at able
      refine .inr ⟨monitor.usableBox, by simp [able.1], ?_⟩
      split <;> rfl
    · rw [if_neg able]
      refine .inl ⟨rfl, ?_⟩
      intro plugged
      simpa [show monitor.connected = true from plugged] using able

theorem usableArea_arrangeLayers (desk : Desk F) (o : Nat) :
    (desk.arrangeLayers scale o).usableArea = desk.usableArea := by
  rcases arrangeLayers_cases scale desk o with ⟨same, _⟩ | ⟨old, _, arranged⟩
  · rw [same]
  · rw [arranged]
    exact usableArea_congr (shown_storeUsable desk o _) rfl rfl

theorem sizable_arrangeLayers (desk : Desk F) (o : Nat) : (desk.arrangeLayers scale o).sizable = desk.sizable := by
  rcases arrangeLayers_cases scale desk o with ⟨same, _⟩ | ⟨old, _, arranged⟩
  · rw [same]
  · rw [arranged]
    exact sizable_congr (shown_storeUsable desk o _)

theorem storedArea_arrangeLayers_other {o id' : Nat} (apart : id' ≠ o) :
    (desk.arrangeLayers scale o).storedArea id' = desk.storedArea id' := by
  rcases arrangeLayers_cases scale desk o with ⟨same, _⟩ | ⟨old, _, arranged⟩
  · rw [same]
  · rw [arranged]
    exact (storedArea_storeUsable desk o _ id').trans (if_neg apart)

theorem storedArea_arrangeLayers_self {o : Nat} (plugged : desk.connected o = true) (sizable : desk.sizable o = true) :
    (desk.arrangeLayers scale o).storedArea o = some (desk.usableArea o) := by
  rcases arrangeLayers_cases scale desk o with ⟨_, blind⟩ | ⟨old, held, arranged⟩
  · exact absurd (sizable.symm.trans (blind plugged)) nofun
  · rw [arranged]
    refine (storedArea_storeUsable desk o _ o).trans ?_
    rw [if_pos rfl, held, Option.map_some]

theorem connected_arrangeLayers (desk : Desk F) (o id' : Nat) :
    (desk.arrangeLayers scale o).connected id' = desk.connected id' := by
  rcases arrangeLayers_cases scale desk o with ⟨same, _⟩ | ⟨old, _, arranged⟩
  · rw [same]
  · rw [arranged]
    exact connected_storeUsable desk o _ id'

theorem Aimed.arrangeLayers {o : Nat} (aimed : desk.Aimed desk.storedArea)
    (room : desk.connected o = true → Nonempty (desk.usableArea o)) :
    (desk.arrangeLayers scale o).Aimed (desk.arrangeLayers scale o).storedArea := by
  rcases arrangeLayers_cases scale desk o with ⟨same, _⟩ | ⟨old, held, arranged⟩
  · rw [same]
    exact aimed
  · rw [if_pos (room (connected_iff.mpr ⟨old, held⟩))] at arranged
    rw [arranged]
    apply aimed.fit scale rfl
    · intro id' apart
      exact (storedArea_storeUsable desk o _ id').trans (if_neg apart)
    · intro box same
      refine ⟨Option.some.inj (same.symm.trans held), (storedArea_storeUsable desk o _ o).trans ?_⟩
      rw [if_pos rfl, held, Option.map_some]

theorem Aimed.arrangeVacant {stored : Nat → Option Box} {o : Nat} (aimed : desk.Aimed stored)
    (vacant : stored o = none) : (desk.arrangeLayers scale o).Aimed stored := by
  rcases arrangeLayers_cases scale desk o with ⟨same, _⟩ | ⟨old, held, arranged⟩
  · rw [same]
    exact aimed
  · rw [arranged]
    by_cases room : Nonempty (desk.usableArea o)
    · rw [if_pos room]
      apply aimed.fit scale rfl
      · intro id' apart
        rfl
      · intro box same
        exact absurd (vacant.symm.trans same) nofun
    · rw [if_neg room]
      exact aimed

variable {window : Nat} {os : List Nat}

theorem storedArea_arrangeAll_other {id' : Nat} (apart : id' ∉ os) (desk : Desk F) :
    (os.foldl (arrangeLayers scale) desk).storedArea id' = desk.storedArea id' := by
  induction os generalizing desk with
  | nil => rfl
  | cons o rest ih =>
    rw [List.mem_cons, not_or] at apart
    exact (ih apart.2 _).trans (storedArea_arrangeLayers_other scale apart.1)

theorem usableArea_arrangeAll (os : List Nat) (desk : Desk F) :
    (os.foldl (arrangeLayers scale) desk).usableArea = desk.usableArea := by
  induction os generalizing desk with
  | nil => rfl
  | cons o rest ih => exact (ih _).trans (usableArea_arrangeLayers scale desk o)

theorem connected_arrangeAll (os : List Nat) (desk : Desk F) (id' : Nat) :
    (os.foldl (arrangeLayers scale) desk).connected id' = desk.connected id' := by
  induction os generalizing desk with
  | nil => rfl
  | cons o rest ih => exact (ih _).trans (connected_arrangeLayers scale desk o id')

theorem storedArea_arrangeAll {o : Nat} (mem : o ∈ os) (desk : Desk F)
    (plugged : desk.connected o = true) (sizable : desk.sizable o = true) :
    (os.foldl (arrangeLayers scale) desk).storedArea o = some (desk.usableArea o) := by
  induction os generalizing desk with
  | nil => exact absurd mem List.not_mem_nil
  | cons first rest ih =>
    by_cases later : o ∈ rest
    · rw [← usableArea_arrangeLayers scale desk first]
      apply ih later
      · rwa [connected_arrangeLayers]
      · rwa [sizable_arrangeLayers]
    · -- it is arranged here for the last time
      have here : o = first := (List.mem_cons.mp mem).resolve_right later
      subst here
      exact (storedArea_arrangeAll_other scale later _).trans (storedArea_arrangeLayers_self scale plugged sizable)

theorem Aimed.arrangeAll {desk : Desk F} (aimed : desk.Aimed desk.storedArea)
    (room : ∀ o ∈ os, desk.connected o = true → Nonempty (desk.usableArea o)) :
    (os.foldl (Desk.arrangeLayers scale) desk).Aimed (os.foldl (Desk.arrangeLayers scale) desk).storedArea := by
  induction os generalizing desk with
  | nil => exact aimed
  | cons o rest ih =>
    apply ih (aimed.arrangeLayers scale (room o List.mem_cons_self))
    intro id' mem plugged
    rw [connected_arrangeLayers] at plugged
    rw [usableArea_arrangeLayers]
    exact room id' (List.mem_cons_of_mem o mem) plugged

/-- Of the connected outputs, the listed ones can be arranged and the others have the
usable area they had. -/
def refreshed (before next : Desk F) (arranged : List Nat) : Bool :=
  (List.range next.monitors.length).all fun output =>
    !next.connected output ||
      if output ∈ arranged then next.sizable output && decide (Nonempty (next.usableArea output))
      else next.usableArea output == before.usableArea output

section

variable {arranged : List Nat} (proper : desk.refreshed next arranged = true) {o : Nat}
  (plugged : next.connected o = true)

include proper plugged

theorem refreshed_spec : (if o ∈ arranged then next.sizable o && decide (Nonempty (next.usableArea o))
      else next.usableArea o == desk.usableArea o) = true := by
  have each := List.all_eq_true.mp proper o (List.mem_range.mpr (connected_lt plugged))
  rwa [plugged, Bool.not_true, Bool.false_or] at each

theorem refreshed_mem (mem : o ∈ arranged) : next.sizable o = true ∧ Nonempty (next.usableArea o) := by
  have spec := refreshed_spec proper plugged
  rwa [if_pos mem, Bool.and_eq_true, decide_eq_true_eq] at spec

theorem refreshed_not_mem (apart : o ∉ arranged) : next.usableArea o = desk.usableArea o := by
  have spec := refreshed_spec proper plugged
  rwa [if_neg apart, beq_iff_eq] at spec

end

/-- A change of outputs or panels after which the layers of some outputs are arranged. An
output that was not there before is one of them. -/
theorem Settled.refresh (settled : desk.Settled) (next : Desk F) (arranged : List Nat)
    (ws : next.toplevels = desk.toplevels)
    (kept : ∀ o, next.storedArea o = desk.storedArea o ∨ desk.storedArea o = none ∧ o ∈ arranged)
    (proper : desk.refreshed next arranged = true) : (arranged.foldl (arrangeLayers scale) next).Settled := by
  have aimed : next.Aimed next.storedArea := by
    intro t mem alive tree
    rw [ws] at mem
    apply (settled.aimed t mem alive tree).mono
    intro o box held
    rcases kept o with same | ⟨absent, _⟩
    · exact same.trans held
    · exact absurd (absent.symm.trans held) nofun
  constructor
  · apply aimed.arrangeAll scale
    intro o mem plugged
    exact (refreshed_mem proper plugged mem).2
  · intro o box held
    rw [usableArea_arrangeAll]
    by_cases mem : o ∈ arranged
    · have plugged : next.connected o = true := by
        rw [← connected_arrangeAll scale arranged]
        exact connected_iff.mpr ⟨box, held⟩
      obtain ⟨sizable, room⟩ := refreshed_mem proper plugged mem
      rw [storedArea_arrangeAll scale mem next plugged sizable] at held
      cases held
      exact ⟨rfl, room⟩
    · rw [storedArea_arrangeAll_other scale mem] at held
      rw [refreshed_not_mem proper (connected_iff.mpr ⟨box, held⟩) mem]
      apply settled.fresh
      rcases kept o with same | ⟨_, listed⟩
      · rw [← same, held]
      · exact absurd listed mem

/-- Every output whose usable area changes is arranged, no output is unplugged under a
window, and there is one to maximize or tile on. -/
def keepsTargets (scale : XScale) (desk : Desk F) : Event F → Bool
  | .newOutput output => desk.refreshed (desk.addOutput output) [desk.monitors.length]
  | .destroyOutput output => !desk.connected output ||
      (desk.vacant output && desk.refreshed (desk.destroyOutput scale output) [])
  | .configureOutput output state enabled => !desk.connected output ||
      desk.refreshed ((desk.commitOutput output state).showOutput output enabled) [output]
  | .moveOutput output x y => !(desk.connected output && desk.enabled output) ||
      desk.refreshed (desk.place output x y false) [output]
  | .applyConfiguration heads => !heads.all (desk.connected ·.output) ||
      desk.refreshed (desk.commitHeads heads) (List.range (desk.commitHeads heads).monitors.length)
  | .setPanel number panel => desk.refreshed (desk.setPanel number panel) [panel.output]
  | .destroyPanel number => (desk.panelOutput number).all fun output => desk.refreshed (desk.dropPanel number) [output]
  | .maximize _ pointed => (desk.outputAt pointed).any desk.connected
  | .tile _ _ pointed => (desk.outputAt pointed).all desk.connected
  | _ => true

section

variable (desk : Desk F) (o : Nat) (s : Output F)

theorem storedArea_commitOutput : (desk.commitOutput o s).storedArea = desk.storedArea := by
  have monitors : (desk.commitOutput o s).monitors = desk.monitors.modify o ({ · with output := s }) := by
    unfold commitOutput
    split <;> rfl
  funext id'
  rw [storedArea_modify desk o monitors]
  split
  · rename_i here
    subst here
    unfold storedArea
    cases desk.monitors[id']? with
    | none => rfl
    | some monitor => cases plugged : monitor.connected <;> simp [Option.filter, plugged]
  · rfl

theorem toplevels_commitOutput : (desk.commitOutput o s).toplevels = desk.toplevels := by
  unfold commitOutput
  split <;> rfl

theorem monitors_showOutput (enabled : Option Bool) : (desk.showOutput o enabled).monitors = desk.monitors := by
  unfold showOutput
  split <;> rfl

theorem toplevels_showOutput (enabled : Option Bool) : (desk.showOutput o enabled).toplevels = desk.toplevels := by
  unfold showOutput
  split <;> rfl

theorem commitHeads_keeps (heads : List (Head F)) :
    (desk.commitHeads heads).toplevels = desk.toplevels ∧ (desk.commitHeads heads).storedArea = desk.storedArea := by
  have committed := foldl_keeps (fun desk (head : Head F) => desk.commitOutput head.output head.state)
    (fun desk head => ⟨toplevels_commitOutput desk head.output head.state,
      storedArea_commitOutput desk head.output head.state⟩) heads desk
  have placed := foldl_keeps (fun desk (head : Head F) => desk.place head.output head.x head.y false)
    (fun _ _ => ⟨rfl, rfl⟩) heads (heads.foldl (fun desk head => desk.commitOutput head.output head.state) desk)
  exact ⟨placed.1.trans committed.1, placed.2.trans committed.2⟩

theorem storedArea_addOutput (o : Output F) (id' : Nat) : (desk.addOutput o).storedArea id' = desk.storedArea id' ∨
      desk.storedArea id' = none ∧ id' ∈ [desk.monitors.length] := by
  have monitors : (desk.addOutput o).monitors = desk.monitors ++ [⟨o, true, ⟨0, 0, 0, 0⟩⟩] := rfl
  unfold storedArea
  rw [monitors]
  rcases Nat.lt_trichotomy id' desk.monitors.length with old | new | beyond
  · rw [List.getElem?_append_left old]
    exact .inl rfl
  · refine .inr ⟨?_, List.mem_singleton.mpr new⟩
    rw [List.getElem?_eq_none (Nat.le_of_eq new.symm)]
    rfl
  · rw [List.getElem?_eq_none (Nat.le_of_lt beyond), List.getElem?_eq_none (by simp; omega)]
    exact .inl rfl

end

theorem aimed_closePanels {stored : Nat → Option Box} {o : Nat} (vacant : stored o = none)
    (numbers : List Nat) {desk : Desk F} (aimed : desk.Aimed stored) :
    (numbers.foldl (closePanel scale o) desk).Aimed stored := by
  induction numbers generalizing desk with
  | nil => exact aimed
  | cons number rest ih =>
    have dropped : (desk.dropPanel number).Aimed stored := aimed
    exact ih (dropped.arrangeVacant scale vacant)

theorem storedArea_closePanels {o id' : Nat} (apart : id' ≠ o) (numbers : List Nat) (desk : Desk F) :
    (numbers.foldl (closePanel scale o) desk).storedArea id' = desk.storedArea id' := by
  induction numbers generalizing desk with
  | nil => rfl
  | cons number rest ih => exact (ih _).trans (storedArea_arrangeLayers_other scale apart)

theorem storedArea_disconnect (desk : Desk F) (o id' : Nat) :
    (desk.disconnect o).storedArea id' = if id' = o then none else desk.storedArea id' := by
  rw [storedArea_modify desk o rfl]
  congr 1
  cases desk.monitors[o]? <;> rfl

theorem storedArea_destroyOutput (desk : Desk F) (o : Nat) :
    (desk.destroyOutput scale o).storedArea = Function.update desk.storedArea o none := by
  funext id'
  refine (storedArea_disconnect _ o id').trans ?_
  by_cases here : id' = o
  · rw [if_pos here, here, Function.update_self]
  · rw [if_neg here, Function.update_of_ne here, storedArea_closePanels scale here]

theorem Settled.destroyOutput {o : Nat} (settled : desk.Settled) (vacant : desk.vacant o = true)
    (proper : desk.refreshed (desk.destroyOutput scale o) [] = true) :
    (desk.destroyOutput scale o).Settled := by
  constructor
  · -- the panels of the output go first, and each time its layers are arranged
    rw [storedArea_destroyOutput]
    have closed := aimed_closePanels scale (Function.update_self o none desk.storedArea) (desk.panelsOf o)
      (settled.aimed.vacate vacant)
    exact closed
  · intro id' box held
    rw [refreshed_not_mem proper (connected_iff.mpr ⟨box, held⟩) List.not_mem_nil]
    apply settled.fresh
    rw [storedArea_destroyOutput] at held
    by_cases here : id' = o
    · rw [here, Function.update_self] at held
      exact absurd held nofun
    · rwa [Function.update_of_ne here] at held

theorem Settled.modifyToplevel {f : Toplevel → Toplevel} (settled : desk.Settled)
    (kept : ∀ t : Toplevel, (f t).alive = true → (f t).record = t.record ∨ Aims desk.storedArea (f t).record) :
    (desk.modifyToplevel window f).Settled := by
  refine ⟨?_, settled.fresh⟩
  intro t mem alive tree
  obtain ⟨i, found⟩ := List.mem_iff_getElem?.mp mem
  have changed : (desk.toplevels.modify window f)[i]? = some t := found
  rw [List.getElem?_modify] at changed
  obtain ⟨before, present, same⟩ := Option.map_eq_some_iff.mp changed
  have aims := settled.aimed before (List.mem_of_getElem? present)
  split at same
  · subst same
    rcases kept before alive with same | target
    · have alive' : before.alive = true := (congrArg Record.alive same).symm.trans alive
      have tree' : before.tree = true := (congrArg Record.tree same).symm.trans tree
      rw [same]
      exact aims alive' tree'
    · exact target
  · subst same
    exact aims alive tree

theorem Settled.usableOutputBox {o : Nat} (settled : desk.Settled) (plugged : desk.connected o = true) :
    desk.storedArea o = some (desk.usableOutputBox (some o)) := by
  obtain ⟨box, held⟩ := connected_iff.mp plugged
  have room := (settled.fresh o box held).2
  rw [held]
  unfold storedArea at held
  obtain ⟨monitor, found, area⟩ := Option.map_eq_some_iff.mp held
  obtain ⟨found, live⟩ := Option.filter_eq_some_iff.mp found
  unfold Desk.usableOutputBox
  dsimp only
  rw [found]
  dsimp only
  rw [area, if_pos ⟨live, room⟩]

theorem Settled.setMaximized {o : Nat} (settled : desk.Settled) (plugged : desk.connected o = true) :
    (desk.modifyToplevel window (·.setMaximized scale true (some o) (desk.usableOutputBox (some o)))).Settled := by
  apply settled.modifyToplevel
  intro t _
  rcases record_setMaximized scale t true (some o) (desk.usableOutputBox (some o)) with
    same | ⟨_, target⟩ | ⟨left, released⟩
  · exact .inl same
  · rw [target]
    exact .inr (aims_maximized rfl (settled.usableOutputBox plugged) rfl)
  · rw [released]
    exact .inr (aims_floating rfl rfl)

theorem Settled.unmaximize (settled : desk.Settled) (window : Nat) (u : Box) :
    (desk.modifyToplevel window (·.setMaximized scale false none u)).Settled := by
  apply settled.modifyToplevel
  intro t _
  rcases record_setMaximized scale t false none u with same | ⟨asked, _⟩ | ⟨left, released⟩
  · exact .inl same
  · exact absurd asked nofun
  · rw [released]
    exact .inr (aims_floating rfl rfl)

theorem Settled.tileToplevel (settled : desk.Settled) (tile : Tile) (o : Option Nat)
    (plugged : o.all desk.connected = true) :
    (desk.modifyToplevel window (·.tileToplevel scale tile o (desk.usableOutputBox o))).Settled := by
  apply settled.modifyToplevel
  intro t _
  rcases record_tileToplevel scale t tile o (desk.usableOutputBox o) with
    same | ⟨able, target⟩
  · exact .inl same
  · cases o with
    | none => simp [mayTile] at able
    | some =>
      rw [target]
      exact .inr (aims_tiled rfl (settled.usableOutputBox plugged) rfl rfl)

theorem settled_create : (create : Desk F).Settled := by
  constructor
  · intro t mem
    exact absurd mem List.not_mem_nil
  · intro o box held
    have absent : (create : Desk F).storedArea o = none := rfl
    exact absurd (absent.symm.trans held) nofun

theorem Settled.ite {able proper : Bool} (settled : desk.Settled) (met : (!able || proper) = true)
    (kept : proper = true → next.Settled) : (if able = true then next else desk).Settled := by
  cases able with
  | true => exact kept met
  | false => exact settled

theorem Settled.step (settled : desk.Settled) (e : Event F) (proper : desk.keepsTargets scale e = true) :
    (desk.step scale e).Settled := by
  cases e with
  | newOutput o =>
    exact settled.refresh scale (desk.addOutput o) [_] rfl (storedArea_addOutput desk o) proper
  | destroyOutput =>
    apply settled.ite proper
    intro both
    obtain ⟨vacant, same⟩ := (Bool.and_eq_true _ _).mp both
    exact settled.destroyOutput scale vacant same
  | configureOutput o s enabled =>
    apply settled.ite proper
    intro same
    apply settled.refresh scale _ [o] _ _ same
    · rw [toplevels_showOutput, toplevels_commitOutput]
    · intro id'
      rw [storedArea_congr (monitors_showOutput _ o enabled), storedArea_commitOutput]
      exact .inl rfl
  | moveOutput o x y =>
    apply settled.ite proper
    intro same
    exact settled.refresh scale (desk.place o x y false) [o] rfl (fun _ => .inl rfl) same
  | applyConfiguration heads =>
    apply settled.ite proper
    intro same
    obtain ⟨ws, stored⟩ := commitHeads_keeps desk heads
    exact settled.refresh scale (desk.commitHeads heads) _ ws (fun id' => .inl (congrFun stored id')) same
  | setPanel number panel =>
    exact settled.refresh scale (desk.setPanel number panel) [panel.output] rfl (fun _ => .inl rfl) proper
  | destroyPanel number =>
    unfold Desk.step destroyPanel
    unfold keepsTargets at proper
    dsimp only at proper ⊢
    cases found : desk.panelOutput number with
    | none => exact settled
    | some o =>
      rw [found] at proper
      exact settled.refresh scale (desk.dropPanel number) [o] rfl (fun _ => .inl rfl) proper
  | newToplevel =>
    refine ⟨?_, settled.fresh⟩
    intro t mem alive tree
    rcases List.mem_append.mp mem with old | new
    · exact settled.aimed t old alive tree
    · rw [List.mem_singleton.mp new]
      exact aims_floating rfl rfl
  | dress =>
    exact settled.modifyToplevel fun t _ => .inl rfl
  | commit window geometry =>
    exact settled.modifyToplevel fun t _ => .inl (record_onCommit scale _ t geometry)
  | maximize window pointed =>
    unfold keepsTargets at proper
    unfold Desk.step
    dsimp only at proper ⊢
    cases meant : desk.outputAt pointed with
    | none =>
      rw [meant] at proper
      exact absurd proper nofun
    | some =>
      rw [meant] at proper
      exact settled.setMaximized scale proper
  | unmaximize window => exact settled.unmaximize scale window _
  | tile window tile => exact settled.tileToplevel scale tile _ proper
  | destroyToplevel => exact settled.modifyToplevel fun t alive => absurd alive nofun

/-- As long as no event changes a usable area without arranging that output, takes all of
its room or unplugs it under a window, every target is current. -/
theorem throughout_targetsCurrent (events : List (Event F))
    (kept : Transition.Along (Desk.step scale) (fun desk event => desk.keepsTargets scale event = true) create events) :
    Transition.Throughout (Desk.step scale) TargetsCurrent (create : Desk F) events := by
  have settled : Transition.Throughout (Desk.step scale) Settled (create : Desk F) events := by
    apply Transition.along_invariant _ settled_create kept
    intro desk event settled proper
    exact settled.step scale event proper
  exact settled.mono fun desk settled => settled.targetsCurrent

end

/-- A panel of 30 pixels on top of a screen takes its strip from a maximized window, and a
tiled one gets it back when the panel goes. -/
theorem throughout_targetsCurrent_panel :
    let screen : Output Nat := ⟨"left", [], true, 1920, 1080, 60000, 1, .normal⟩
    let panel : Panel := ⟨0, .top, true, true, some .top, 30, 0⟩
    let events : List (Event Nat) := [.newOutput screen, .newToplevel false, .dress 0 true false true false none,
      .commit 0 ⟨0, 0, 800, 600⟩ (some 0), .maximize 0 0, .setPanel 1 panel, .tile 0 .right 0, .destroyPanel 1,
      .moveOutput 0 100 0, .unmaximize 0, .destroyOutput 0]
    Transition.Throughout (Desk.step ⟨id, id⟩) TargetsCurrent (create : Desk Nat) events :=
  throughout_targetsCurrent ⟨id, id⟩ _ (by decide +kernel)

/-- A screen is unplugged under a maximized window. A screen that is moved takes with it
one that is placed after it, whose maximized window stays behind. A window is maximized
while there is no screen. -/
theorem not_targetsCurrent_of_unplugged :
    let screen : Output Nat := ⟨"left", [], true, 1920, 1080, 60000, 1, .normal⟩
    let second : Output Nat := ⟨"right", [], true, 1920, 1080, 60000, 1, .normal⟩
    let window : List (Event Nat) := [.newToplevel false, .dress 0 true false true false none,
      .commit 0 ⟨0, 0, 800, 600⟩ (some 0)]
    let run := Transition.run (Desk.step ⟨id, id⟩) (create : Desk Nat)
    ¬ (run ([.newOutput screen] ++ window ++ [.maximize 0 0, .destroyOutput 0])).TargetsCurrent ∧
      ¬ (run ([.newOutput screen, .newOutput second] ++ window ++
        [.maximize 0 1, .moveOutput 0 0 200])).TargetsCurrent ∧
      ¬ (run (window ++ [.maximize 0 0])).TargetsCurrent := by
  decide +kernel

end Desk

end FlakeWM.Geometry
