import FlakeWM.Lib.Boxes
import FlakeWM.Lib.Rounding
import Mathlib.Tactic.Ring

/-! The regions of a surface with rounded corners.

Every pixel of a corner is sampled at sixteen points; the regions collect the
pixels by the number of samples that the disc of the corner covers. Each row is
scanned from both ends up to the first pixel that is covered whole. -/

set_option autoImplicit false

namespace FlakeWM.Render

open Pixels Rounding

structure Radii where
  topLeft : Int
  topRight : Int
  bottomRight : Int
  bottomLeft : Int

def limit (destination : Box) : Int := max 0 (min destination.width destination.height / 2)

def scaledRadii (surfaceWidth surfaceHeight : Int) (radii : Radii) (destination : Box) : Radii :=
  let scale : ℚ := min (destination.width / (max surfaceWidth 1 : Int)) (destination.height / (max surfaceHeight 1 : Int))
  let scaled := fun radius : Int => max 0 (min (lround (radius * scale)) (limit destination))
  ⟨scaled radii.topLeft, scaled radii.topRight, scaled radii.bottomRight, scaled radii.bottomLeft⟩

def kCoverageSamples : Nat := 4

def kCoverageLevels : Int := kCoverageSamples * kCoverageSamples

def samples : List (Nat × Nat) :=
  (List.range kCoverageSamples).flatMap fun sampleY => (List.range kCoverageSamples).map fun sampleX => (sampleX, sampleY)

def covered (radius x y : Int) (sample : Nat × Nat) : Bool :=
  let py : ℚ := y + (sample.2 + 1 / 2) / kCoverageSamples - radius
  let px : ℚ := x + (sample.1 + 1 / 2) / kCoverageSamples - radius
  px * px + py * py ≤ radius * radius

def inside (radius x y : Int) : Nat := samples.countP (covered radius x y)

def cornerCoverage (radius x y : Int) : ℚ :=
  if radius ≤ 0 ∨ x ≥ radius ∨ y ≥ radius then 1 else inside radius x y / kCoverageLevels

def level (radius x y : Int) : Int :=
  max 0 (min (lround (cornerCoverage radius x y * kCoverageLevels)) kCoverageLevels)

/-- The loop over one end of a row: where the opaque part starts, and the pixels before it with their levels. -/
def scan (radius y : Int) : Nat → Int → Int × List (Int × Int)
  | 0, x => (x, [])
  | rounds + 1, x =>
    if level radius x y = kCoverageLevels then (x, []) else
      let (edge, marks) := scan radius y rounds (x + 1)
      (edge, if 0 < level radius x y then (x, level radius x y) :: marks else marks)

structure RoundedRegions where
  opaqueRegion : List Box
  partialRegions : List (Int × Box)

/-- The regions of a row, given the corners at its ends. -/
def rowRegions (destination : Box) (leftRadius rightRadius cornerY row : Int) : RoundedRegions :=
  let (leftOpaque, left) := scan leftRadius cornerY leftRadius.toNat 0
  let (rightOpaque, right) := scan rightRadius cornerY rightRadius.toNat 0
  let y := destination.y + row
  let width := destination.width - leftOpaque - rightOpaque
  { opaqueRegion := if 0 < width then [⟨destination.x + leftOpaque, y, width, 1⟩] else []
    partialRegions := left.map (fun mark => (mark.2, ⟨destination.x + mark.1, y, 1, 1⟩)) ++
      right.map fun mark => (mark.2, ⟨destination.x + destination.width - mark.1 - 1, y, 1, 1⟩) }

def buildRow (destination : Box) (radii : Radii) (row : Int) : RoundedRegions :=
  let fromBelow := destination.height - row - 1
  if row < max radii.topLeft radii.topRight then rowRegions destination radii.topLeft radii.topRight row row
  else if fromBelow < max radii.bottomLeft radii.bottomRight then
    rowRegions destination radii.bottomLeft radii.bottomRight fromBelow row
  else rowRegions destination 0 0 fromBelow row

def buildRoundedRegions (destination : Box) (radii : Radii) : RoundedRegions :=
  if destination.width ≤ 0 ∨ destination.height ≤ 0 then ⟨[], []⟩ else
    let rows := List.range destination.height.toNat
    ⟨rows.flatMap fun row : Nat => (buildRow destination radii row).opaqueRegion,
      rows.flatMap fun row : Nat => (buildRow destination radii row).partialRegions⟩

namespace RoundedRegions

def Opaque (regions : RoundedRegions) (px py : Int) : Prop := ∃ box ∈ regions.opaqueRegion, box.Contains px py

def Covered (regions : RoundedRegions) (k px py : Int) : Prop :=
  ∃ mark ∈ regions.partialRegions, mark.1 = k ∧ mark.2.Contains px py

end RoundedRegions

structure Radii.Fit (radii : Radii) (destination : Box) : Prop where
  topLeft : radii.topLeft ≤ limit destination
  topRight : radii.topRight ≤ limit destination
  bottomRight : radii.bottomRight ≤ limit destination
  bottomLeft : radii.bottomLeft ≤ limit destination

/-- The number of samples covered in a pixel of one of the two ends of a row. -/
def cells (leftRadius rightRadius left right y : Int) : Option Int :=
  if left < leftRadius ∧ y < leftRadius then some (inside leftRadius left y)
  else if right < rightRadius ∧ y < rightRadius then some (inside rightRadius right y)
  else none

/-- The number of samples covered in the corner that the pixel lies in, if it lies in one. -/
def cornerCell (destination : Box) (radii : Radii) (px py : Int) : Option Int :=
  let left := px - destination.x
  let right := destination.width - 1 - left
  let top := py - destination.y
  let bottom := destination.height - 1 - top
  (cells radii.topLeft radii.topRight left right top).or (cells radii.bottomLeft radii.bottomRight left right bottom)

theorem scaledRadii_fit (surfaceWidth surfaceHeight : Int) (rs : Radii) (destination : Box) :
    (scaledRadii surfaceWidth surfaceHeight rs destination).Fit destination := by
  have bound : ∀ value, max 0 (min value (limit destination)) ≤ limit destination :=
    fun value => max_le (le_max_left _ _) (min_le_right _ _)
  exact ⟨bound _, bound _, bound _, bound _⟩

section Level

variable {rad x y : Int}

theorem inside_le : (inside rad x y : Int) ≤ kCoverageLevels :=
  Int.ofNat_le.mpr (List.countP_le_length)

theorem level_inside (low : 0 ≤ x) (hx : x < rad) (hy : y < rad) : level rad x y = inside rad x y := by
  have exact : cornerCoverage rad x y * kCoverageLevels = (inside rad x y : Int) := by
    rw [cornerCoverage, if_neg (by omega), kCoverageLevels, kCoverageSamples]
    push_cast
    ring
  rw [level, exact, lround_intCast, min_eq_left inside_le, max_eq_right (Int.natCast_nonneg _)]

theorem level_outside (hy : rad ≤ y) : level rad x y = kCoverageLevels := by
  rw [level, cornerCoverage, if_pos (by omega), one_mul, lround_intCast, min_self]
  decide

/-- Towards the middle of the row the samples come nearer to the centre of the disc. -/
theorem inside_mono (hx : x + 1 < rad) : inside rad x y ≤ inside rad (x + 1) y := by
  refine List.countP_mono_left fun p0 mem near => ?_
  have column : (p0.1 : ℚ) ≤ 3 := by
    simp only [samples, kCoverageSamples, List.mem_flatMap, List.mem_map, List.mem_range] at mem
    obtain ⟨_, _, n, few, rfl⟩ := mem
    exact_mod_cast Nat.le_of_lt_succ few
  have bound : (x : ℚ) + 2 ≤ rad := by exact_mod_cast (by omega : x + 2 ≤ rad)
  rw [covered, decide_eq_true_iff] at near ⊢
  dsimp only [kCoverageSamples] at near ⊢
  push_cast at near ⊢
  nlinarith

theorem level_full {c : Int} (low : 0 ≤ x) (full : level rad x y = kCoverageLevels) (le : x ≤ c) (hc : c < rad) :
    level rad c y = kCoverageLevels := by
  by_cases hy : y < rad
  · induction c, le using Int.leInduction with
    | base => exact full
    | succ c le ih =>
      have here := ih (by omega)
      rw [level_inside (by omega) (by omega) hy] at here ⊢
      have more : (inside rad c y : Int) ≤ inside rad (c + 1) y := Int.ofNat_le.mpr (inside_mono hc)
      exact le_antisymm inside_le (here ▸ more)
  · exact level_outside (by omega)

theorem scan_spec (rounds : Nat) (x : Int) : x ≤ (scan rad y rounds x).1 ∧ (scan rad y rounds x).1 ≤ x + rounds ∧
    (∀ c, x ≤ c → c < (scan rad y rounds x).1 → level rad c y ≠ kCoverageLevels) ∧
    ((scan rad y rounds x).1 < x + rounds → level rad (scan rad y rounds x).1 y = kCoverageLevels) ∧
    ∀ c k, (c, k) ∈ (scan rad y rounds x).2 ↔ x ≤ c ∧ c < (scan rad y rounds x).1 ∧ level rad c y = k ∧ 0 < k := by
  induction rounds generalizing x with
  | zero =>
    refine ⟨le_rfl, by simp [scan], fun c _ _ => ?_, fun less => ?_, fun c k => ?_⟩
    · simp only [scan] at *
      omega
    · simp [scan] at less
    · simp only [scan, List.not_mem_nil, false_iff]
      omega
  | succ rounds ih =>
    rw [scan]
    split
    next full =>
      dsimp only
      refine ⟨le_rfl, by omega, fun c _ _ => by omega, fun _ => full, fun c k => ?_⟩
      rw [List.mem_nil_iff, false_iff]
      omega
    next part =>
      obtain ⟨low, high, before, stop, marks⟩ := ih (x + 1)
      dsimp only
      refine ⟨by omega, by omega, fun c ge lt => ?_, fun less => stop (by omega), fun c k => ?_⟩
      · by_cases first : c = x
        · exact first ▸ part
        · exact before c (by omega) lt
      · split
        next positive =>
          rw [List.mem_cons, Prod.mk.injEq, marks]
          constructor
          · rintro (⟨rfl, rfl⟩ | ⟨ge, rest⟩)
            · exact ⟨le_rfl, by omega, rfl, positive⟩
            · exact ⟨by omega, rest⟩
          · rintro ⟨ge, lt, rfl, positive⟩
            by_cases first : c = x
            · exact .inl ⟨first, first ▸ rfl⟩
            · exact .inr ⟨by omega, lt, rfl, positive⟩
        next zero =>
          rw [marks]
          constructor
          · rintro ⟨ge, rest⟩
            exact ⟨by omega, rest⟩
          · rintro ⟨ge, lt, rfl, positive⟩
            have apart : c ≠ x := fun first => zero (first ▸ positive)
            exact ⟨by omega, lt, rfl, positive⟩

variable {c k : Int}

/-- A pixel of the corner is in the opaque part exactly when it is covered whole. -/
theorem edge_le_iff (low : 0 ≤ c) :
    (scan rad y rad.toNat 0).1 ≤ c ↔ (c < rad → y < rad → (inside rad c y : Int) = kCoverageLevels) := by
  obtain ⟨least, most, before, stop, -⟩ := @scan_spec rad y rad.toNat 0
  constructor
  · intro le hc hy
    rw [← level_inside low hc hy]
    exact level_full least (stop (by omega)) le hc
  · intro full
    by_contra less
    have hc : c < rad := by omega
    by_cases hy : y < rad
    · exact before c low (by omega) ((level_inside low hc hy).trans (full hc hy))
    · exact before c low (by omega) (level_outside (by omega))

theorem mark_iff : (c, k) ∈ (scan rad y rad.toNat 0).2 ↔
    0 ≤ c ∧ c < rad ∧ y < rad ∧ (inside rad c y : Int) = k ∧ 0 < k ∧ k < kCoverageLevels := by
  obtain ⟨least, most, before, stop, marks⟩ := @scan_spec rad y rad.toNat 0
  rw [marks]
  constructor
  · rintro ⟨low, less, rfl, positive⟩
    have hc : c < rad := by omega
    have partly := before c low less
    have hy : y < rad := by
      by_contra outside
      exact partly (level_outside (by omega))
    rw [level_inside low hc hy] at partly positive ⊢
    exact ⟨low, hc, hy, rfl, positive, lt_of_le_of_ne inside_le partly⟩
  · rintro ⟨low, hc, hy, rfl, positive, partly⟩
    refine ⟨low, ?_, level_inside low hc hy, positive⟩
    by_contra le
    exact partly.ne ((edge_le_iff low).mp (by omega) hc hy)

end Level

section Rows

variable {d : Box} {leftRadius rightRadius cy i px py : Int}

theorem edge_bounds (rad y : Int) : 0 ≤ (scan rad y rad.toNat 0).1 ∧ (scan rad y rad.toNat 0).1 ≤ max rad 0 := by
  obtain ⟨least, most, -⟩ := @scan_spec rad y rad.toNat 0
  omega

theorem rowRegions_opaque (apart : max leftRadius 0 + max rightRadius 0 ≤ d.width) :
    (rowRegions d leftRadius rightRadius cy i).Opaque px py ↔ py = d.y + i ∧ d.x ≤ px ∧ px < d.x + d.width ∧
      ∀ k ∈ cells leftRadius rightRadius (px - d.x) (d.width - 1 - (px - d.x)) cy, k = kCoverageLevels := by
  have left := edge_bounds leftRadius cy
  have right := edge_bounds rightRadius cy
  have box : (rowRegions d leftRadius rightRadius cy i).Opaque px py ↔ py = d.y + i ∧
      (scan leftRadius cy leftRadius.toNat 0).1 ≤ px - d.x ∧
      (scan rightRadius cy rightRadius.toNat 0).1 ≤ d.width - 1 - (px - d.x) := by
    simp only [RoundedRegions.Opaque, rowRegions, Box.Contains]
    split
    · simp only [List.mem_singleton, exists_eq_left]
      omega
    · simp only [List.not_mem_nil, false_and, exists_false, false_iff]
      omega
  rw [box]
  refine and_congr_right fun _ => ?_
  by_cases low : d.x ≤ px ∧ px < d.x + d.width
  · rw [edge_le_iff (by omega), edge_le_iff (by omega)]
    simp only [low, true_and, cells]
    split
    next here => simp_all; omega
    next notLeft =>
      split
      next there => simp_all
      next => simp_all
  · omega

theorem rowRegions_covered {k : Int} (apart : max leftRadius 0 + max rightRadius 0 ≤ d.width) :
    (rowRegions d leftRadius rightRadius cy i).Covered k px py ↔
      py = d.y + i ∧ d.x ≤ px ∧ px < d.x + d.width ∧ 0 < k ∧ k < kCoverageLevels ∧
      cells leftRadius rightRadius (px - d.x) (d.width - 1 - (px - d.x)) cy = some k := by
  have marks : (rowRegions d leftRadius rightRadius cy i).Covered k px py ↔ py = d.y + i ∧
      ((px - d.x, k) ∈ (scan leftRadius cy leftRadius.toNat 0).2 ∨
        (d.width - 1 - (px - d.x), k) ∈ (scan rightRadius cy rightRadius.toNat 0).2) := by
    constructor
    · rintro ⟨mark, mem, rfl, inBox⟩
      simp only [rowRegions, List.mem_append, List.mem_map] at mem
      rcases mem with ⟨⟨c, j⟩, listed, rfl⟩ | ⟨⟨c, j⟩, listed, rfl⟩
      · simp only [Box.Contains] at inBox
        rw [show px - d.x = c by omega]
        exact ⟨by omega, .inl listed⟩
      · simp only [Box.Contains] at inBox
        rw [show d.width - 1 - (px - d.x) = c by omega]
        exact ⟨by omega, .inr listed⟩
    · rintro ⟨rfl, here⟩
      refine ⟨(k, ⟨px, d.y + i, 1, 1⟩), List.mem_append.mpr ?_, rfl, by simp only [Box.Contains]; omega⟩
      refine here.imp (fun left => List.mem_map.mpr ⟨_, left, ?_⟩) fun right => List.mem_map.mpr ⟨_, right, ?_⟩
      · simp only [add_sub_cancel]
      · simp only [Prod.mk.injEq, Box.mk.injEq, and_true, true_and]
        omega
  rw [marks, mark_iff, mark_iff, cells]
  refine and_congr_right fun _ => ?_
  split
  next => simp only [Option.some.injEq]; omega
  next =>
    split
    next => simp only [Option.some.injEq]; omega
    next => simp only [reduceCtorEq, and_false, iff_false]; omega

theorem cells_none {left right : Int} (noLeft : leftRadius ≤ cy) (noRight : rightRadius ≤ cy) :
    cells leftRadius rightRadius left right cy = none := by
  rw [cells, if_neg (by omega), if_neg (by omega)]

variable {rs : Radii}

/-- A row meets the upper corners, the lower ones or none, but never both. -/
theorem buildRow_cells (fit : rs.Fit d) (wide : 0 < d.width) (low : 0 ≤ i) (high : i < d.height) :
    ∃ leftRadius rightRadius cy, buildRow d rs i = rowRegions d leftRadius rightRadius cy i ∧
      max leftRadius 0 + max rightRadius 0 ≤ d.width ∧
      ∀ px, cornerCell d rs px (d.y + i) = cells leftRadius rightRadius (px - d.x) (d.width - 1 - (px - d.x)) cy := by
  obtain ⟨tl, tr, br, bl⟩ := fit
  simp only [limit] at tl tr br bl
  simp only [buildRow, cornerCell, add_sub_cancel_left]
  split
  next top =>
    refine ⟨_, _, _, rfl, by omega, fun px => ?_⟩
    rw [@cells_none rs.bottomLeft rs.bottomRight _ _ _ (by omega) (by omega), Option.or_none]
  next below =>
    split
    next bottom =>
      refine ⟨_, _, _, rfl, by omega, fun px => ?_⟩
      rw [@cells_none rs.topLeft rs.topRight _ _ _ (by omega) (by omega), Option.none_or, sub_right_comm d.height]
    next =>
      refine ⟨_, _, _, rfl, by omega, fun px => ?_⟩
      rw [cells_none (by omega) (by omega), cells_none (by omega) (by omega), cells_none (by omega) (by omega)]
      rfl

theorem exists_row {α : Type} {part : Int → List α} {test : α → Prop} {height : Int} :
    (∃ item ∈ (List.range height.toNat).flatMap fun i : Nat => part i, test item) ↔
      ∃ i, (0 ≤ i ∧ i < height) ∧ ∃ item ∈ part i, test item := by
  constructor
  · rintro ⟨item, mem, passed⟩
    obtain ⟨i, counted, listed⟩ := List.mem_flatMap.mp mem
    have := List.mem_range.mp counted
    exact ⟨i, by omega, item, listed, passed⟩
  · rintro ⟨i, valid, item, listed, passed⟩
    refine ⟨item, List.mem_flatMap.mpr ⟨i.toNat, List.mem_range.mpr (by omega), ?_⟩, passed⟩
    rwa [Int.toNat_of_nonneg valid.1]

/-- What holds of the pixels of every row, by the cells of its two ends, holds of the box by its corners. -/
theorem exists_row_iff (fit : rs.Fit d) (wide : 0 < d.width) (inRow : RoundedRegions → Prop) (test : Option Int → Prop)
    (rows : ∀ leftRadius rightRadius cy i, max leftRadius 0 + max rightRadius 0 ≤ d.width →
      (inRow (rowRegions d leftRadius rightRadius cy i) ↔ py = d.y + i ∧ d.x ≤ px ∧ px < d.x + d.width ∧
        test (cells leftRadius rightRadius (px - d.x) (d.width - 1 - (px - d.x)) cy))) :
    (∃ i, (0 ≤ i ∧ i < d.height) ∧ inRow (buildRow d rs i)) ↔ d.Contains px py ∧ test (cornerCell d rs px py) := by
  have here : ∀ i, 0 ≤ i → i < d.height → (inRow (buildRow d rs i) ↔
      py = d.y + i ∧ d.x ≤ px ∧ px < d.x + d.width ∧ test (cornerCell d rs px (d.y + i))) := by
    intro i low high
    obtain ⟨_, _, _, same, apart, cell⟩ := buildRow_cells fit wide low high
    rw [same, rows _ _ _ _ apart, cell]
  constructor
  · rintro ⟨i, ⟨low, high⟩, mem⟩
    obtain ⟨rfl, left, right, passed⟩ := (here i low high).mp mem
    exact ⟨⟨left, right, by omega, by omega⟩, passed⟩
  · rintro ⟨⟨left, right, top, bottom⟩, passed⟩
    obtain ⟨i, rfl⟩ : ∃ i, py = d.y + i := ⟨py - d.y, by omega⟩
    exact ⟨i, by omega, (here i (by omega) (by omega)).mpr ⟨rfl, left, right, passed⟩⟩

theorem buildRoundedRegions_opaque (fit : rs.Fit d) : (buildRoundedRegions d rs).Opaque px py ↔
      d.Contains px py ∧ ∀ k ∈ cornerCell d rs px py, k = kCoverageLevels := by
  rw [buildRoundedRegions, RoundedRegions.Opaque]
  split
  next empty =>
    simp only [List.not_mem_nil, false_and, exists_false, false_iff, Box.Contains]
    omega
  next full =>
    refine (@exists_row _ (fun i => (buildRow d rs i).opaqueRegion) _ _).trans ?_
    exact exists_row_iff fit (by omega) (·.Opaque px py) (∀ k ∈ ·, k = kCoverageLevels)
      fun _ _ _ _ apart => rowRegions_opaque apart

theorem buildRoundedRegions_covered {k : Int} (fit : rs.Fit d) : (buildRoundedRegions d rs).Covered k px py ↔
      d.Contains px py ∧ 0 < k ∧ k < kCoverageLevels ∧ cornerCell d rs px py = some k := by
  rw [buildRoundedRegions, RoundedRegions.Covered]
  split
  next empty =>
    simp only [List.not_mem_nil, false_and, exists_false, false_iff, Box.Contains]
    omega
  next full =>
    refine (@exists_row _ (fun i => (buildRow d rs i).partialRegions) _ _).trans ?_
    exact exists_row_iff fit (by omega) (·.Covered k px py) (0 < k ∧ k < kCoverageLevels ∧ · = some k)
      fun _ _ _ _ apart => rowRegions_covered apart

end Rows

theorem cornerCell_range {d : Box} {rs : Radii} {px py k : Int} (cell : cornerCell d rs px py = some k) :
    0 ≤ k ∧ k ≤ kCoverageLevels := by
  have range : ∀ {l r x x' y}, cells l r x x' y = some k → 0 ≤ k ∧ k ≤ kCoverageLevels := by
    intro l r x x' y some
    unfold cells at some
    split at some
    · exact Option.some.inj some ▸ ⟨Int.natCast_nonneg _, inside_le⟩
    · split at some
      · exact Option.some.inj some ▸ ⟨Int.natCast_nonneg _, inside_le⟩
      · cases some
  rcases Option.or_eq_some_iff.mp cell with upper | ⟨-, lower⟩
  · exact range upper
  · exact range lower

theorem buildRoundedRegions_pixels (d : Box) (radii : Radii) (fit : radii.Fit d) (px py : Int) :
    let regions := buildRoundedRegions d radii
    let cell := cornerCell d radii px py
    (∀ width height given, (scaledRadii width height given d).Fit d) ∧
    (regions.Opaque px py ↔ d.Contains px py ∧ ∀ k ∈ cell, k = kCoverageLevels) ∧
    (∀ k, regions.Covered k px py ↔ d.Contains px py ∧ 0 < k ∧ k < kCoverageLevels ∧ cell = some k) ∧
    (d.Contains px py → ((¬regions.Opaque px py ∧ ∀ k, ¬regions.Covered k px py) ↔ cell = some 0)) ∧
    (∀ k, ¬(regions.Opaque px py ∧ regions.Covered k px py)) ∧
    ∀ j k, regions.Covered j px py → regions.Covered k px py → j = k := by
  intro regions cell
  have whole : regions.Opaque px py ↔ _ := buildRoundedRegions_opaque fit
  have partly : ∀ k, regions.Covered k px py ↔ _ := fun k => buildRoundedRegions_covered fit
  refine ⟨fun width height given => scaledRadii_fit width height given d, whole, partly, fun inBox => ?_, ?_, ?_⟩
  · have range := @cornerCell_range d radii px py
    rw [whole]
    simp only [partly, inBox, true_and, cell]
    generalize cornerCell d radii px py = samples at range
    cases samples with
    | none => simp
    | some n =>
      have bounds := range rfl
      simp only [Option.mem_def, Option.some.injEq, forall_eq']
      constructor
      · rintro ⟨notWhole, notPartly⟩
        have := notPartly n
        omega
      · rintro rfl
        exact ⟨by decide, fun k some => some.1.ne some.2.2⟩
  · rintro k ⟨full, some⟩
    obtain ⟨-, -, less, same⟩ := (partly k).mp some
    exact less.ne ((whole.mp full).2 k same)
  · intro j k first second
    obtain ⟨-, -, -, same⟩ := (partly j).mp first
    obtain ⟨-, -, -, other⟩ := (partly k).mp second
    exact Option.some.inj (same.symm.trans other)

theorem buildRoundedRegions_pixels_square :
    ¬((buildRoundedRegions ⟨0, 0, 4, 4⟩ ⟨2, 2, 1, 0⟩).Opaque 0 0 ∧
      (buildRoundedRegions ⟨0, 0, 4, 4⟩ ⟨2, 2, 1, 0⟩).Covered 7 0 0) :=
  (buildRoundedRegions_pixels ⟨0, 0, 4, 4⟩ ⟨2, 2, 1, 0⟩ ⟨by decide, by decide, by decide, by decide⟩ 0 0).2.2.2.2.1 7

end FlakeWM.Render
