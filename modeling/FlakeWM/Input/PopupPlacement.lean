import FlakeWM.Geometry.Reserved

/-! The place of an input method's popup.

The popup goes under the text cursor, whose rectangle the client gives, and is held in
the box of the output that the cursor is on. -/

set_option autoImplicit false

namespace FlakeWM.Input

open FlakeWM.Geometry Pixels Screen

variable {F : Type} [ScaleFormat F]

/-- What is left of a sum in an `int` of 32 bits. -/
def int32 (sum : Int) : Int := (sum + 2 ^ 31) % 2 ^ 32 - 2 ^ 31

/-- The rectangle of the text cursor in the layout, from that of the surface. -/
def cursorBox (rectangle : Option Box) (x y : Int) : Box :=
  let cursor := rectangle.getD ⟨0, 0, 0, 0⟩
  { cursor with x := int32 (cursor.x + x), y := int32 (cursor.y + y) }

/-- The box of the output that the cursor is on, or of the whole layout. -/
def placementBox (desk : Desk F) (cursor : Box) : Box :=
  desk.layoutBoxOf (desk.outputAtHalf (2 * cursor.x) (2 * cursor.y))

/-- `UpdatePopup`, for a popup that is mapped while its surface is in the scene. -/
def updatePopup (desk : Desk F) (cursor : Box) (width height : Int) : Option (Int × Int) :=
  let box := placementBox desk cursor
  if box.width ≤ 0 ∨ box.height ≤ 0 then none
  else
    let right := int32 (box.x + box.width)
    let bottom := int32 (box.y + box.height)
    let x := if right < int32 (cursor.x + width) then int32 (right - width) else cursor.x
    let x := if x < box.x then box.x else x
    let below := int32 (cursor.y + cursor.height)
    let y := if bottom < int32 (below + height) then int32 (cursor.y - height) else below
    let y := if y < box.y then box.y else y
    some (x, y)

def Inside (box : Box) (x y width height : Int) : Prop :=
  box.x ≤ x ∧ x + width ≤ box.x + box.width ∧ box.y ≤ y ∧ y + height ≤ box.y + box.height

/-- The edges of the box are of type `int`. -/
def Representable (box : Box) : Prop :=
  (-2 ^ 31 ≤ box.x ∧ box.x + box.width < 2 ^ 31) ∧ -2 ^ 31 ≤ box.y ∧ box.y + box.height < 2 ^ 31

/-- The right end of the popup is of type `int`. Under the cursor its lower end is too; if it
goes above the cursor, the cursor does not start below the box, and the top is of type `int`. -/
def Placeable (box cursor : Box) (width height : Int) : Prop :=
  cursor.x + width < 2 ^ 31 ∧
    if box.y + box.height < int32 (int32 (cursor.y + cursor.height) + height) then
      cursor.y ≤ box.y + box.height ∧ -2 ^ 31 ≤ cursor.y - height
    else int32 (cursor.y + cursor.height) + height < 2 ^ 31

theorem int32_bounds (sum : Int) : -2 ^ 31 ≤ int32 sum ∧ int32 sum < 2 ^ 31 := by
  unfold int32
  omega

theorem int32_of_fits {sum : Int} (least : -2 ^ 31 ≤ sum) (most : sum < 2 ^ 31) : int32 sum = sum := by
  unfold int32
  omega

section

variable {start size low length : Int} (fits : 0 ≤ size ∧ size ≤ length) (edges : -2 ^ 31 ≤ low ∧ low + length < 2 ^ 31)

include fits edges

/-- A sum that is too large comes out as one that is small enough. -/
theorem held_right (bounds : -2 ^ 31 ≤ start ∧ start < 2 ^ 31) :
    let moved := if low + length < int32 (start + size) then low + length - size else start
    let held := if moved < low then low else moved
    low ≤ held ∧ (held + size ≤ low + length ↔ start + size < 2 ^ 31) := by
  dsimp only
  unfold int32
  split <;> split <;> omega

theorem held_below (under : Int) (bounds : -2 ^ 31 ≤ start ∧ start < 2 ^ 31) :
    let moved := if low + length < int32 (under + size) then int32 (start - size) else under
    let held := if moved < low then low else moved
    low ≤ held ∧ (held + size ≤ low + length ↔
      if low + length < int32 (under + size) then start ≤ low + length ∧ -2 ^ 31 ≤ start - size
      else under + size < 2 ^ 31) := by
  dsimp only
  by_cases flipped : low + length < int32 (under + size)
  · simp only [if_pos flipped]
    unfold int32
    split <;> omega
  · simp only [if_neg flipped]
    unfold int32 at flipped
    split <;> omega

end

/-- A popup that fits is placed in the box exactly if no sum for it overflows and, where it
goes above the cursor, the cursor does not start below the box. -/
theorem updatePopup_inside (desk : Desk F) (rectangle : Option Box) (left top : Int) {width height : Int}
    (box : Representable (placementBox desk (cursorBox rectangle left top)))
    (wide : 0 ≤ width ∧ width ≤ (placementBox desk (cursorBox rectangle left top)).width)
    (high : 0 ≤ height ∧ height ≤ (placementBox desk (cursorBox rectangle left top)).height) :
    let cursor := cursorBox rectangle left top
    ∀ x y, updatePopup desk cursor width height = some (x, y) →
      (Inside (placementBox desk cursor) x y width height ↔ Placeable (placementBox desk cursor) cursor width height) := by
  intro cursor x y placed
  have boundsX : -2 ^ 31 ≤ cursor.x ∧ cursor.x < 2 ^ 31 := int32_bounds _
  have boundsY : -2 ^ 31 ≤ cursor.y ∧ cursor.y < 2 ^ 31 := int32_bounds _
  change Representable (placementBox desk cursor) at box
  change 0 ≤ width ∧ width ≤ (placementBox desk cursor).width at wide
  change 0 ≤ height ∧ height ≤ (placementBox desk cursor).height at high
  unfold updatePopup at placed
  generalize placementBox desk cursor = area at *
  obtain ⟨horizontal, vertical⟩ := box
  dsimp only at placed
  rw [int32_of_fits (by omega) horizontal.2, int32_of_fits (by omega) vertical.2,
    @int32_of_fits (area.x + area.width - width) (by omega) (by omega)] at placed
  split at placed
  · contradiction
  · simp only [Option.some.injEq, Prod.mk.injEq] at placed
    obtain ⟨rfl, rfl⟩ := placed
    have ⟨right, rightFits⟩ := held_right wide horizontal boundsX
    have ⟨lower, lowerFits⟩ := held_below high vertical (int32 (cursor.y + cursor.height)) boundsY
    unfold Inside Placeable
    rw [rightFits, lowerFits]
    exact ⟨fun inside => ⟨inside.2.1, inside.2.2.2⟩, fun fits => ⟨right, fits.1, lower, fits.2⟩⟩

/-- One output of 1920 by 1080. -/
def single : Desk Nat :=
  Transition.run (Desk.step ⟨id, id⟩) Desk.create [.newOutput ⟨"left", [], true, 1920, 1080, 60000, 1, .normal⟩]

theorem updatePopup_inside_corner :
    Inside (placementBox single (cursorBox (some ⟨1900, 1060, 2, 20⟩) 0 0)) 1720 960 200 100 := by
  have representable : Representable (placementBox single (cursorBox (some ⟨1900, 1060, 2, 20⟩) 0 0)) := by
    unfold Representable
    decide +kernel
  have placed := @updatePopup_inside _ _ single (some ⟨1900, 1060, 2, 20⟩) 0 0 200 100 representable
    (by decide +kernel) (by decide +kernel)
  refine (placed 1720 960 (by decide +kernel)).mpr ?_
  unfold Placeable
  decide +kernel

/-- A cursor rectangle below all outputs takes the popup along, and so does one so far to
the right that the end of the popup overflows. -/
theorem popup_below_layout :
    (updatePopup single (cursorBox (some ⟨100, 5000, 2, 20⟩) 0 0) 200 100 = some (100, 4900) ∧
        ¬ Inside (placementBox single (cursorBox (some ⟨100, 5000, 2, 20⟩) 0 0)) 100 4900 200 100) ∧
      updatePopup single (cursorBox (some ⟨2147483647, 500, 2, 20⟩) 0 0) 200 100 = some (2147483647, 520) ∧
        ¬ Inside (placementBox single (cursorBox (some ⟨2147483647, 500, 2, 20⟩) 0 0)) 2147483647 520 200 100 := by
  unfold Inside
  decide +kernel

end FlakeWM.Input
