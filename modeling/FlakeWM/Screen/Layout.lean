import FlakeWM.Lib.Boxes
import FlakeWM.Lib.FirstMatch
import Mathlib.Data.Rat.Floor

/-! Outputs and the layout they are placed in.

Outputs are numbered by their place among the compositor's outputs. The layout
keeps one entry for each output that is shown; an entry is placed by hand or by
the layout itself, to the right of all that is placed by hand. Whether a backend
accepts a commit is decided outside. -/

set_option autoImplicit false

namespace FlakeWM.Screen

open FirstMatch

open Pixels

/-- The numbers in which an output holds its scale: single precision, with the
conversions from and to double precision and the quotient of a size by a scale. -/
class ScaleFormat (F : Type) where
  toDouble : F → ℚ
  ofDouble : ℚ → F
  divide : Nat → F → ℚ
  ofDouble_toDouble : ∀ scale, ofDouble (toDouble scale) = scale
  divide_nonneg : ∀ size scale, 0 ≤ divide size scale

/-- Whole scales, which single precision holds exactly. -/
instance : ScaleFormat Nat where
  toDouble scale := scale
  ofDouble value := ⌊value⌋.toNat
  divide size scale := size / scale
  ofDouble_toDouble scale := by simp
  divide_nonneg size scale := by positivity

structure Mode where
  width : Nat
  height : Nat
  /-- In millihertz. -/
  refresh : Int
  deriving DecidableEq, Repr

inductive Transform where
  | normal
  | rotated90
  | rotated180
  | rotated270
  | flipped
  | flipped90
  | flipped180
  | flipped270
  deriving DecidableEq, Repr

namespace Transform

def code : Transform → Int
  | normal => 0
  | rotated90 => 1
  | rotated180 => 2
  | rotated270 => 3
  | flipped => 4
  | flipped90 => 5
  | flipped180 => 6
  | flipped270 => 7

def ofCode : Int → Transform
  | 1 => rotated90
  | 2 => rotated180
  | 3 => rotated270
  | 4 => flipped
  | 5 => flipped90
  | 6 => flipped180
  | 7 => flipped270
  | _ => normal

theorem ofCode_code (transform : Transform) : ofCode transform.code = transform := by
  cases transform <;> rfl

def swaps (transform : Transform) : Bool := transform.code % 2 == 1

end Transform

structure Output (F : Type) where
  name : String
  modes : List Mode
  enabled : Bool
  width : Nat
  height : Nat
  refresh : Int
  scale : F
  transform : Transform
  deriving DecidableEq, Repr

structure LayoutOutput where
  output : Nat
  x : Int
  y : Int
  autoConfigured : Bool
  deriving DecidableEq, Repr

variable {F : Type}

section

variable [ScaleFormat F]

namespace Output

def transformedWidth (output : Output F) : Nat := if output.transform.swaps then output.height else output.width

def transformedHeight (output : Output F) : Nat := if output.transform.swaps then output.width else output.height

/-- `wlr_output_effective_resolution`: the quotients are cut off. -/
def effectiveWidth (output : Output F) : Int := ⌊ScaleFormat.divide output.transformedWidth output.scale⌋

def effectiveHeight (output : Output F) : Int := ⌊ScaleFormat.divide output.transformedHeight output.scale⌋

end Output

def entryWidth (outputs : List (Output F)) (entry : LayoutOutput) : Int :=
  (outputs[entry.output]?.map (·.effectiveWidth)).getD 0

def rightmost (outputs : List (Output F)) (layout : List LayoutOutput) : Option (Int × Int) :=
  layout.foldl (fun edge entry =>
    if entry.autoConfigured then edge
    else
      let right := entry.x + entryWidth outputs entry
      -- Of two equal edges the first one counts.
      if edge.all (·.1 < right) then some (right, entry.y) else edge) none

def placeAuto (outputs : List (Output F)) : Int → Int → List LayoutOutput → List LayoutOutput
  | _, _, [] => []
  | x, y, entry :: rest =>
    if entry.autoConfigured then
      { entry with x := x, y := y } :: placeAuto outputs (x + entryWidth outputs entry) y rest
    else entry :: placeAuto outputs x y rest

/-- `output_layout_reconfigure`. -/
def reconfigure (outputs : List (Output F)) (layout : List LayoutOutput) : List LayoutOutput :=
  let edge := (rightmost outputs layout).getD (0, 0)
  placeAuto outputs edge.1 edge.2 layout

def entryOf (layout : List LayoutOutput) (output : Nat) : Option LayoutOutput :=
  layout.find? (·.output == output)

/-- `output_layout_add`. -/
def layoutAdd (outputs : List (Output F)) (layout : List LayoutOutput) (output : Nat) (x y : Int)
    (autoConfigured : Bool) : List LayoutOutput :=
  let placed :=
    if (entryOf layout output).isSome then
      FirstMatch.update (·.output == output)
        (fun entry => { entry with x := x, y := y, autoConfigured := autoConfigured }) layout
    else layout ++ [⟨output, x, y, autoConfigured⟩]
  reconfigure outputs placed

/-- `wlr_output_layout_remove`. -/
def layoutRemove (outputs : List (Output F)) (layout : List LayoutOutput) (output : Nat) : List LayoutOutput :=
  if (entryOf layout output).isSome then reconfigure outputs (layout.eraseP (·.output == output)) else layout

/-- `wlr_output_layout_get_box`; an output that is not in the layout has an empty one. -/
def layoutBox (outputs : List (Output F)) (layout : List LayoutOutput) (output : Nat) : Box :=
  -- The box has the present size of the output, also where the entry is older.
  match entryOf layout output, outputs[output]? with
  | some entry, some shown => ⟨entry.x, entry.y, shown.effectiveWidth, shown.effectiveHeight⟩
  | _, _ => ⟨0, 0, 0, 0⟩

variable {os : List (Output F)} {layout : List LayoutOutput} {o id' : Nat} {x y : Int}

theorem placeAuto_find (os : List (Output F)) (layout : List LayoutOutput) (o : Nat) (x y : Int) :
    ∃ px py, entryOf (placeAuto os x y layout) o = (entryOf layout o).map fun en =>
      if en.autoConfigured then { en with x := px, y := py } else en := by
  induction layout generalizing x y with
  | nil => exact ⟨0, 0, rfl⟩
  | cons en rest ih =>
    cases auto : en.autoConfigured with
    | true =>
      by_cases here : en.output = o
      · exact ⟨x, y, by simp [entryOf, placeAuto, auto, here]⟩
      · obtain ⟨px, py, later⟩ := ih (x + entryWidth os en) y
        exact ⟨px, py, by simpa [entryOf, placeAuto, auto, here] using later⟩
    | false =>
      by_cases here : en.output = o
      · exact ⟨0, 0, by simp [entryOf, placeAuto, auto, here]⟩
      · obtain ⟨px, py, later⟩ := ih x y
        exact ⟨px, py, by simpa [entryOf, placeAuto, auto, here] using later⟩

theorem reconfigure_keeps {en : LayoutOutput} (found : entryOf layout o = some en)
    (manual : en.autoConfigured = false) : entryOf (reconfigure os layout) o = some en := by
  obtain ⟨px, py, placed⟩ := placeAuto_find os layout o
    ((rightmost os layout).getD (0, 0)).1 ((rightmost os layout).getD (0, 0)).2
  rw [reconfigure, placed, found]
  simp [manual]

section

variable (os : List (Output F))

theorem reconfigure_absent (absent : entryOf layout o = none) : entryOf (reconfigure os layout) o = none := by
  obtain ⟨px, py, placed⟩ := placeAuto_find os layout o
    ((rightmost os layout).getD (0, 0)).1 ((rightmost os layout).getD (0, 0)).2
  rw [reconfigure, placed, absent]
  rfl

theorem entryOf_output {en : LayoutOutput} (found : entryOf layout o = some en) : en.output = o := by
  simpa using List.find?_some found

theorem layoutAdd_self (layout : List LayoutOutput) (o : Nat) (x y : Int) :
    entryOf (layoutAdd os layout o x y false) o = some ⟨o, x, y, false⟩ := by
  rw [layoutAdd]
  refine reconfigure_keeps ?_ rfl
  cases old : layout.find? (·.output == o) with
  | none => simp [entryOf, old]
  | some =>
    have same := entryOf_output old
    have shown : (entryOf layout o).isSome = true := by rw [entryOf, old]; rfl
    rw [if_pos shown, entryOf, find?_update (by intro _; rfl), old]
    simp [same]

theorem beside {item : LayoutOutput} (apart : id' ≠ o) (matched : (item.output == o) = true) :
    (item.output == id') = false := by
  rw [beq_iff_eq] at matched
  simp [matched, Ne.symm apart]

theorem find?_added (apart : id' ≠ o) (x y : Int) (auto : Bool) : entryOf (if (entryOf layout o).isSome then
        update (·.output == o) (fun en => { en with x := x, y := y, autoConfigured := auto }) layout
      else layout ++ [⟨o, x, y, auto⟩]) id' = entryOf layout id' := by
  split
  · exact find?_update_of_not (fun _ => beside apart) (by intro _; rfl)
  · simp [entryOf, List.find?_append, Ne.symm apart]

theorem layoutAdd_other {en : LayoutOutput} (apart : id' ≠ o) (found : entryOf layout id' = some en)
    (manual : en.autoConfigured = false) (x y : Int) (auto : Bool) :
    entryOf (layoutAdd os layout o x y auto) id' = some en := by
  rw [layoutAdd]
  exact reconfigure_keeps ((find?_added apart x y auto).trans found) manual

theorem layoutAdd_absent (apart : id' ≠ o) (absent : entryOf layout id' = none) (x y : Int) (auto : Bool) :
    entryOf (layoutAdd os layout o x y auto) id' = none := by
  rw [layoutAdd]
  exact reconfigure_absent os ((find?_added apart x y auto).trans absent)

theorem layoutRemove_other {en : LayoutOutput} (apart : id' ≠ o) (found : entryOf layout id' = some en)
    (manual : en.autoConfigured = false) :
    entryOf (layoutRemove os layout o) id' = some en := by
  rw [layoutRemove]
  split
  · apply reconfigure_keeps _ manual
    rw [entryOf, find?_eraseP_of_not fun _ => beside apart]
    exact found
  · exact found

end

end

end FlakeWM.Screen
