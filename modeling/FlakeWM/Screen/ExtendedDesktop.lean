import FlakeWM.Screen.Screens

/-! The extended desktop.

The outputs are put in a row from left to right, and each one is given the room of
its width in pixels divided by its scale. The layout shows it with the width it
has after its transform. An output that is rotated and higher than it is wide is
wider than its room, and then covers a part of the next one. -/

set_option autoImplicit false

namespace FlakeWM.Screen

open Pixels

variable {F : Type} [ScaleFormat F]

def Output.Fits (output : Output F) : Prop := output.effectiveWidth ≤ Screens.advance output

def Output.Visible (output : Output F) : Prop := 0 < output.effectiveWidth ∧ 0 < output.effectiveHeight

def Output.switchOn (output : Output F) : Output F := { output with enabled := true }

/-- An output whose width and height keep their places fits, as the one quotient is
rounded down and the other one up. -/
theorem Output.fits_of_upright {o : Output F} (upright : o.transform.swaps = false) : o.Fits := by
  have same : o.transformedWidth = o.width := by simp [Output.transformedWidth, upright]
  rw [Output.Fits, Output.effectiveWidth, same]
  exact Int.floor_le_ceil _

namespace Screens

/-- No two enabled outputs show the same pixel of the layout. -/
def Apart (screens : Screens F) : Prop :=
  ∀ first second output other, first ≠ second → screens.outputs[first]? = some output → output.enabled = true →
    screens.outputs[second]? = some other → other.enabled = true →
    (screens.box first).Disjoint (screens.box second)

theorem advance_nonneg (o : Output F) : 0 ≤ advance o :=
  Int.ceil_nonneg (ScaleFormat.divide_nonneg _ _)

/-- Where the extended desktop puts an output. -/
def place (outputs : List (Output F)) (id : Nat) : Int := offset (outputs.map advance) id

theorem place_succ {os : List (Output F)} {id : Nat} {o : Output F} (found : os[id]? = some o) :
    place os (id + 1) = place os id + advance o := by
  apply offset_succ
  rw [List.getElem?_map, found]
  rfl

structure InRow (outputs : List (Output F)) (count : Nat) (state : Screens F × Int) : Prop where
  shown : ∀ id, state.1.outputs[id]? =
    outputs[id]?.map fun output => if id < count then output.switchOn else output
  next : state.2 = place outputs count
  placed : ∀ id < count, entryOf state.1.layout id = some ⟨id, place outputs id, 0, false⟩

variable {screens : Screens F} {outputs : List (Output F)} {count : Nat} {accepts : Nat → Bool}

theorem InRow.step {s : Screens F × Int} (row : InRow outputs count s) (below : count < outputs.length)
    (success : (modeStep .extend (0, 0) accepts s count).2 = true) :
    InRow outputs (count + 1) (modeStep .extend (0, 0) accepts s count).1 := by
  obtain ⟨screens, x⟩ := s
  obtain ⟨shown, next, placed⟩ := row
  simp only at shown next placed
  have known : outputs[count]? = some (outputs.get ⟨count, below⟩) := List.getElem?_eq_getElem below
  generalize outputs.get ⟨count, below⟩ = o at known
  have found : screens.outputs[count]? = some o := by
    rw [shown count, known]
    simp
  cases done : screens.configureOutput count (ScreenMode.extend.request (0, 0) o) (accepts count) with
  | none =>
    rw [(modeStep_refused found).mpr done] at success
    cases success
  | some configured =>
    obtain ⟨absent, -⟩ | ⟨-, moved, there, taken⟩ := modeStep_configured x found done
    · cases absent
    rw [taken]
    obtain ⟨old, mode, -, chosen, committed⟩ := configureOutput_outputs done
    obtain ⟨same, put⟩ := moveOutput_eq_some there
    have outputsNow (id : Nat) : moved.outputs[id]? =
        outputs[id]?.map fun o => if id < count + 1 then o.switchOn else o := by
      -- The request names no mode, so that the commit only enables the output.
      have none : mode = .none := by
        simpa [Request.chooseMode, ScreenMode.request] using chosen.symm
      have on (old : Output F) : old.commit (ScreenMode.extend.request (0, 0) o) mode = old.switchOn := by
        rw [none]
        rfl
      rw [same, committed, List.getElem?_modify, shown id]
      cases outputs[id]? with
      | none => simp
      | some o =>
        obtain before | rfl | after := Nat.lt_trichotomy id count
        · simp [before, Nat.lt_succ_of_lt before, Nat.ne_of_gt before]
        · simp [on]
        · have later : ¬ id < count + 1 := by omega
          simp [later, Nat.not_lt.mpr (Nat.le_of_lt after), Nat.ne_of_lt after]
    refine ⟨outputsNow, ?_, ?_⟩
    · rw [outputsNow count, known, if_pos rfl, place_succ known, ← next]
      simp [Output.switchOn, advance]
    · intro id before
      rw [put, if_neg (by simp), next]
      by_cases last : id = count
      · rw [last]
        exact layoutAdd_self _ _ _ _ _
      · have earlier := placed id (by omega)
        exact layoutAdd_other _ last (configureOutput_keeps done last earlier rfl) rfl _ _ _

theorem extended_inRow {only : String} (done : (screens.setScreenMode 2 1 only accepts).2 = .done) :
    ∃ x, InRow screens.outputs screens.outputs.length ((screens.setScreenMode 2 1 only accepts).1, x) := by
  let applied := Attempt.run (modeStep .extend (0, 0) accepts) (screens, 0) (List.range screens.outputs.length)
  have success : applied.2 = true := by
    by_contra failed
    have answer : (screens.setScreenMode 2 1 only accepts).2 = Reply.of applied.2 := rfl
    rw [answer, Bool.eq_false_iff.mpr failed] at done
    cases done
  refine ⟨applied.1.2, Attempt.range_invariant (InRow screens.outputs) ?_ ?_ success⟩
  · refine ⟨?_, (offset_zero _).symm, ?_⟩
    · intro id
      simp
    · intro id below
      omega
  · intro i s below row taken
    exact row.step below taken

section

variable {extended : Screens F} {x : Int} (row : InRow outputs outputs.length (extended, x))
  {id later : Nat} {o other : Output F}

include row

section

variable (found : outputs[id]? = some o)

include found

theorem InRow.on : extended.outputs[id]? = some o.switchOn := by
  have below : id < outputs.length := (List.getElem?_eq_some_iff.mp found).1
  have here := row.shown id
  rw [found] at here
  simpa [below] using here

theorem InRow.box : extended.box id = ⟨place outputs id, 0, o.effectiveWidth, o.effectiveHeight⟩ := by
  have below : id < outputs.length := (List.getElem?_eq_some_iff.mp found).1
  have placed : entryOf extended.layout id = some ⟨id, place outputs id, 0, false⟩ := row.placed id below
  rw [Screens.box, layoutBox, placed, row.on found]
  rfl

theorem InRow.disjoint (fits : o.Fits) (after : outputs[later]? = some other) (order : id < later) :
    (extended.box id).Disjoint (extended.box later) := by
  have forward : ∀ step ∈ outputs.map advance, 0 ≤ step := by
    intro step mem
    obtain ⟨o, -, rfl⟩ := List.mem_map.mp mem
    exact advance_nonneg o
  have room : (outputs.map advance)[id]? = some (advance o) := by
    rw [List.getElem?_map, found]
    rfl
  rw [row.box found, row.box after]
  exact disjoint_of_offset forward room order rfl fits rfl

/-- Two neighbours that show something are disjoint only if the left one fits. -/
theorem InRow.fits (after : outputs[id + 1]? = some other) (visible : o.Visible) (beside : other.Visible)
    (apart : (extended.box id).Disjoint (extended.box (id + 1))) : o.Fits := by
  by_contra wide
  have next := place_succ found
  have room := advance_nonneg o
  rw [row.box found, row.box after] at apart
  -- The first pixel of the right one would belong to both.
  apply apart (place outputs (id + 1)) 0
  · rw [Output.Fits] at wide
    have starts : place outputs id ≤ place outputs (id + 1) := by omega
    have ends : place outputs (id + 1) < place outputs id + o.effectiveWidth := by omega
    exact ⟨starts, ends, Int.le_refl 0, by simpa using visible.2⟩
  · exact ⟨Int.le_refl _, by simpa using beside.1, Int.le_refl 0, by simpa using beside.2⟩

end

end

/-- The outputs of an extended desktop are disjoint if each of them but the last one
fits into its room. If all of them show something, they are disjoint only then. -/
theorem extended_apart (screens : Screens F) (only : String) (accepts : Nat → Bool)
    (done : (screens.setScreenMode 2 1 only accepts).2 = .done) :
    ((∀ output ∈ screens.outputs.dropLast, output.Fits) → (screens.setScreenMode 2 1 only accepts).1.Apart) ∧
      ((∀ output ∈ screens.outputs, output.Visible) → (screens.setScreenMode 2 1 only accepts).1.Apart →
        ∀ output ∈ screens.outputs.dropLast, output.Fits) := by
  obtain ⟨x, row⟩ := extended_inRow done
  generalize (screens.setScreenMode 2 1 only accepts).1 = extended at row
  have original {id : Nat} {output : Output F} (shown : extended.outputs[id]? = some output) :
      ∃ old, screens.outputs[id]? = some old := by
    have here := row.shown id
    cases old : screens.outputs[id]? with
    | none => simp [old, shown] at here
    | some output => exact ⟨output, rfl⟩
  constructor
  · intro fits first second output other distinct shown _ shown' _
    obtain ⟨old, found⟩ := original shown
    obtain ⟨old', found'⟩ := original shown'
    -- Whichever of the two stands further left is not the last one.
    have left {id later : Nat} {output other : Output F} (found : screens.outputs[id]? = some output)
        (after : screens.outputs[later]? = some other) (order : id < later) : output.Fits := by
      have below : later < screens.outputs.length := (List.getElem?_eq_some_iff.mp after).1
      have listed : screens.outputs.dropLast[id]? = some output := by
        rw [List.getElem?_dropLast, if_pos (by omega), found]
      exact fits output (List.mem_of_getElem? listed)
    obtain order | order := Nat.lt_or_gt_of_ne distinct
    · exact row.disjoint found (left found found' order) found' order
    · exact (row.disjoint found' (left found' found order) found order).symm
  · intro visible apart output member
    obtain ⟨id, listed⟩ := List.getElem?_of_mem member
    rw [List.getElem?_dropLast] at listed
    split at listed
    · rename_i below
      have next : id + 1 < screens.outputs.length := by omega
      have after := List.getElem?_eq_getElem next
      have shown := row.on listed
      have beside := row.on after
      exact row.fits listed after (visible _ (List.mem_of_getElem? listed)) (visible _ (List.mem_of_getElem? after))
        (apart id (id + 1) _ _ (by omega) shown rfl beside rfl)
    · cases listed

/-- Two upright outputs of different scales stand side by side. -/
theorem extended_apart_upright :
    let screens : Screens Nat := {
      outputs := [⟨"HDMI-A-1", [], true, 1920, 1080, 60000, 2, .normal⟩, ⟨"DP-1", [], false, 1280, 720, 60000, 1, .normal⟩]
      layout := [⟨0, 0, 0, true⟩]
      config := [] }
    (screens.setScreenMode 2 1 "" fun _ => true).2 = .done ∧ (screens.setScreenMode 2 1 "" fun _ => true).1.Apart := by
  intro screens
  have done : (screens.setScreenMode 2 1 "" fun _ => true).2 = .done := by decide
  refine ⟨done, (extended_apart screens "" (fun _ => true) done).1 ?_⟩
  intro output member
  obtain rfl : output = ⟨"HDMI-A-1", [], true, 1920, 1080, 60000, 2, .normal⟩ := by simpa [screens] using member
  exact Output.fits_of_upright rfl

def rotatedDesk : Screens Nat where
  outputs := [⟨"DSI-1", [⟨800, 1280, 60000⟩], true, 800, 1280, 60000, 1, .rotated90⟩,
    ⟨"HDMI-A-1", [⟨1920, 1080, 60000⟩], true, 1920, 1080, 60000, 1, .normal⟩]
  layout := [⟨0, 0, 0, true⟩, ⟨1, 1280, 0, true⟩]
  config := []

/-- The second output starts 800 pixels from the left, the first one is 1280 wide. -/
theorem rotatedDesk_overlaps :
    (rotatedDesk.setScreenMode 2 1 "" fun _ => true).2 = .done ∧
      ¬ (rotatedDesk.setScreenMode 2 1 "" fun _ => true).1.Apart := by
  have boxes : (rotatedDesk.setScreenMode 2 1 "" fun _ => true).1.box 0 = ⟨0, 0, 1280, 800⟩ ∧
      (rotatedDesk.setScreenMode 2 1 "" fun _ => true).1.box 1 = ⟨800, 0, 1920, 1080⟩ := by decide +kernel
  refine ⟨by decide, fun apart => ?_⟩
  have disjoint := apart 0 1 _ _ (by decide) rfl rfl rfl rfl
  rw [boxes.1, boxes.2] at disjoint
  exact disjoint 800 0 (by simp [Box.Contains]) (by simp [Box.Contains])

end Screens

end FlakeWM.Screen
