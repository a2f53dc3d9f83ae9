import FlakeWM.Geometry.Interactive
import Mathlib.Data.List.FinRange
import Mathlib.Tactic.FieldSimp

/-! The natural layout of the window previews.

Boxes are pushed apart, scaled into the usable area, grown as long as they stay
apart, and shrunk again where they have become too large. -/

set_option autoImplicit false

namespace FlakeWM.View.NaturalLayout

structure PreviewBox where
  x : ℚ
  y : ℚ
  width : ℚ
  height : ℚ
  deriving DecidableEq

def kMargin : ℚ := 20

def kAccuracy : ℚ := 20

def kOverlapPad : ℚ := 5

def kMaxScale : ℚ := 2

def overlaps (a b : PreviewBox) (pad : ℚ) : Bool :=
  a.x < b.x + b.width + pad && a.x + a.width + pad > b.x && a.y < b.y + b.height + pad && a.y + a.height + pad > b.y

def unite (a b : PreviewBox) : PreviewBox :=
  let left := min a.x b.x
  let top := min a.y b.y
  ⟨left, top, max (a.x + a.width) (b.x + b.width) - left, max (a.y + a.height) (b.y + b.height) - top⟩

def heightForWidth (original : PreviewBox) (width : ℚ) : ℚ :=
  if original.width ≤ 0 then 0 else width * original.height / original.width

def inside (a b : PreviewBox) : Bool :=
  !(a.x < b.x || a.y < b.y || a.x + a.width > b.x + b.width || a.y + a.height > b.y + b.height)

variable {n : Nat}

structure Separation (n : Nat) where
  targets : Fin n → PreviewBox
  bounds : PreviewBox
  overlap : Bool

/-- Where the second push of a window leads: to the corner of its section, or nowhere. -/
def corner (bounds : PreviewBox) (direction : Nat) (box : PreviewBox) : ℚ × ℚ :=
  let xSection := Geometry.truncate ((box.x - bounds.x) / (bounds.width / 3))
  let ySection := Geometry.truncate ((box.y - bounds.y) / (bounds.height / 3))
  let middle := xSection = 1 ∧ ySection = 1
  let xSection := if ¬middle ∧ xSection = 1 then (if direction / 2 ≠ 0 then 2 else 0) else xSection
  let ySection := if ¬middle ∧ ySection = 1 then (if direction % 2 ≠ 0 then 2 else 0) else ySection
  let cx := box.x + box.width / 2
  let cy := box.y + box.height / 2
  if xSection = 0 ∧ ySection = 0 then (bounds.x - cx, bounds.y - cy)
  else if xSection = 2 ∧ ySection = 0 then (bounds.x + bounds.width - cx, bounds.y - cy)
  else if xSection = 2 ∧ ySection = 2 then (bounds.x + bounds.width - cx, bounds.y + bounds.height - cy)
  else if xSection = 0 ∧ ySection = 2 then (bounds.x - cx, bounds.y + bounds.height - cy)
  else (0, 0)

def PreviewBox.shift (box : PreviewBox) (dx dy : ℚ) : PreviewBox := { box with x := box.x + dx, y := box.y + dy }

/-- One round of the inner loop. -/
def push (s : Separation n) (w e : Fin n) : Separation n :=
  let first := s.targets w
  let second := s.targets e
  if w = e ∨ !overlaps first second kOverlapPad then s else
    let dx := second.x + second.width / 2 - (first.x + first.width / 2)
    let dy := second.y + second.height / 2 - (first.y + first.height / 2)
    let dx := if dx = 0 ∧ dy = 0 then 1 else dx
    let distance := |dx| + |dy|
    let dx := dx * (kAccuracy / distance)
    let dy := dy * (kAccuracy / distance)
    let first := first.shift (-dx) (-dy)
    let second := second.shift dx dy
    let (px, py) := corner s.bounds (w % 4) first
    let distance := |px| + |py|
    let first :=
      if px ≠ 0 ∨ py ≠ 0 then first.shift (px * kAccuracy / distance) (py * kAccuracy / distance) else first
    ⟨Function.update (Function.update s.targets w first) e second, unite (unite s.bounds first) second, true⟩

/-- The pairs of indices in the order of two nested loops. -/
def pairs (m n : Nat) : List (Fin m × Fin n) :=
  (List.finRange m).flatMap fun i => (List.finRange n).map fun j => (i, j)

def separate : Nat → Separation n → Separation n
  | 0, s => s
  | rounds + 1, s =>
    let next := (pairs n n).foldl (fun s pair => push s pair.1 pair.2) { s with overlap := false }
    if next.overlap then separate rounds next else next

def separated (original : Fin n → PreviewBox) (area : PreviewBox) : Separation n :=
  separate 10000 ⟨original, (List.finRange n).foldl (fun bounds i => unite bounds (original i)) area, false⟩

def scaleFor (area bounds : PreviewBox) : ℚ :=
  if bounds = area then 1
  else if area.width / bounds.width < area.height / bounds.height then (area.width - kMargin) / bounds.width
  else (area.height - kMargin) / bounds.height

def fitInto (area bounds box : PreviewBox) : PreviewBox :=
  let scale := scaleFor area bounds
  let x := (bounds.x * scale - (area.width - kMargin - bounds.width * scale) / 2 - 10) / scale
  let y := (bounds.y * scale - (area.height - kMargin - bounds.height * scale) / 2 - 10) / scale
  ⟨(box.x - x) * scale + area.x, (box.y - y) * scale + area.y, box.width * scale, box.height * scale⟩

def blocked (candidate : PreviewBox) (self : Fin n) (targets : Fin n → PreviewBox) (inner : PreviewBox) : Bool :=
  !inside candidate inner || (List.finRange n).any fun i => i ≠ self && overlaps candidate (targets i) kOverlapPad

/-- One of the four ways to grow; the differences are those of the box as it is then. -/
def grown (original box : PreviewBox) (attempt : Fin 4) : PreviewBox :=
  let heightDiff := heightForWidth original (box.width + kAccuracy) - box.height
  let xDiff := kAccuracy / 2
  let yDiff := heightDiff / 2
  ⟨if attempt < 2 then box.x + xDiff else box.x - (xDiff + kAccuracy),
    if attempt = 1 ∨ attempt = 2 then box.y + yDiff else box.y - (yDiff + heightDiff),
    box.width + kAccuracy, box.height + heightDiff⟩

def grow (original : Fin n → PreviewBox) (inner : PreviewBox) (s : (Fin n → PreviewBox) × Bool) (w : Fin n)
    (attempt : Fin 4) : (Fin n → PreviewBox) × Bool :=
  let candidate := grown (original w) (s.1 w) attempt
  if blocked candidate w s.1 inner then s else (Function.update s.1 w candidate, true)

def growAll (original : Fin n → PreviewBox) (inner : PreviewBox) : Nat → (Fin n → PreviewBox) → Fin n → PreviewBox
  | 0, targets => targets
  | rounds + 1, targets =>
    let next := (pairs n 4).foldl (fun s pair => grow original inner s pair.1 pair.2) (targets, false)
    if next.2 then growAll original inner rounds next.1 else next.1

def large (original : PreviewBox) : Prop := 300 < original.width ∨ 300 < original.height

instance large.decidable (original : PreviewBox) : Decidable (large original) :=
  inferInstanceAs (Decidable (_ ∨ _))

def shrink (original box : PreviewBox) : PreviewBox :=
  if original.width ≤ 0 then box else
    let scale := box.width / original.width
    if scale > kMaxScale ∨ scale > 1 ∧ large original then
      let scale := if large original then 1 else kMaxScale
      let width := original.width * scale
      let height := original.height * scale
      ⟨box.x + box.width / 2 - width / 2, box.y + box.height / 2 - height / 2, width, height⟩
    else box

def innerArea (area : PreviewBox) (scale : ℚ) : PreviewBox :=
  let inset := 10 / scale
  ⟨area.x + inset, area.y + inset, area.width - 2 * inset, area.height - 2 * inset⟩

def calculateNaturalLayout (screenWidth screenHeight : ℚ) (area : PreviewBox) (original : Fin n → PreviewBox) :
    Fin n → PreviewBox :=
  if n = 1 ∧ ∀ i, inside (original i) ⟨0, 0, screenWidth, screenHeight⟩ then original else
    let s := separated original area
    let fitted := fun i => fitInto area s.bounds (s.targets i)
    let targets := growAll original (innerArea area (scaleFor area s.bounds)) 10000 fitted
    fun i => shrink (original i) (targets i)

section Boxes

variable {a b c : PreviewBox} {pad : ℚ}

theorem inside_iff : inside a b = true ↔
    b.x ≤ a.x ∧ b.y ≤ a.y ∧ a.x + a.width ≤ b.x + b.width ∧ a.y + a.height ≤ b.y + b.height := by
  simp [inside, and_assoc]

theorem apart_iff : overlaps a b pad = false ↔ b.x + b.width + pad ≤ a.x ∨ a.x + a.width + pad ≤ b.x ∨
    b.y + b.height + pad ≤ a.y ∨ a.y + a.height + pad ≤ b.y := by
  simp only [overlaps, Bool.and_eq_false_iff, decide_eq_false_iff_not, not_lt, gt_iff_lt, or_assoc]

theorem inside_trans (first : inside a b) (second : inside b c) : inside a c := by
  rw [inside_iff] at *
  refine ⟨?_, ?_, ?_, ?_⟩ <;> linarith

theorem inside_unite : inside a (unite a b) ∧ inside b (unite a b) := by
  simp [inside_iff, unite]

theorem apart_of_inside (within : inside a b) (apart : overlaps b c 0 = false) : overlaps a c 0 = false := by
  rw [inside_iff] at within
  rw [apart_iff] at *
  rcases apart with h | h | h | h
  · exact .inl (by linarith)
  · exact .inr (.inl (by linarith))
  · exact .inr (.inr (.inl (by linarith)))
  · exact .inr (.inr (.inr (by linarith)))

theorem apart_symm (apart : overlaps a b pad = false) : overlaps b a pad = false := by
  rw [apart_iff] at *
  tauto

end Boxes

variable {original ts : Fin n → PreviewBox} {ar : PreviewBox}

/-- The boxes keep their sizes and stay, with the usable area, in the bounds. -/
structure Held (original : Fin n → PreviewBox) (area : PreviewBox) (s : Separation n) : Prop where
  width : ∀ i, (s.targets i).width = (original i).width
  height : ∀ i, (s.targets i).height = (original i).height
  within : ∀ i, inside (s.targets i) s.bounds
  area : inside area s.bounds

section Separate

variable {s : Separation n} {w e : Fin n}

theorem Held.update (held : Held original ar s) {first second : PreviewBox} (fw : first.width = (original w).width)
    (fh : first.height = (original w).height) (sw : second.width = (original e).width)
    (sh : second.height = (original e).height) : Held original ar
      ⟨Function.update (Function.update s.targets w first) e second, unite (unite s.bounds first) second, true⟩ := by
  have wider : inside s.bounds (unite (unite s.bounds first) second) := inside_trans inside_unite.1 inside_unite.1
  have each : ∀ i, let box := Function.update (Function.update s.targets w first) e second i
      box.width = (original i).width ∧ box.height = (original i).height ∧
        inside box (unite (unite s.bounds first) second) := by
    intro i
    by_cases he : i = e
    · subst he
      simp only [Function.update_self]
      exact ⟨sw, sh, inside_unite.2⟩
    · by_cases hw : i = w
      · subst hw
        simp only [Function.update_of_ne he, Function.update_self]
        exact ⟨fw, fh, inside_trans inside_unite.2 inside_unite.1⟩
      · simp only [Function.update_of_ne he, Function.update_of_ne hw]
        exact ⟨held.width i, held.height i, inside_trans (held.within i) wider⟩
  exact ⟨fun i => (each i).1, fun i => (each i).2.1, fun i => (each i).2.2, inside_trans held.area wider⟩

theorem Held.push (held : Held original ar s) : Held original ar (push s w e) := by
  unfold NaturalLayout.push
  dsimp only
  split
  · exact held
  · refine held.update ?_ ?_ (held.width e) (held.height e)
    · exact (apply_ite PreviewBox.width _ _ _).trans ((ite_self _).trans (held.width w))
    · exact (apply_ite PreviewBox.height _ _ _).trans ((ite_self _).trans (held.height w))

theorem push_cases : push s w e = s ∧ (w ≠ e → overlaps (s.targets w) (s.targets e) kOverlapPad = false) ∨
    (push s w e).overlap = true := by
  unfold push
  dsimp only
  split
  next skip => exact .inl ⟨rfl, fun other => by simpa using skip.resolve_left other⟩
  next => exact .inr rfl

variable (l : List (Fin n × Fin n))

theorem foldl_push_held (held : Held original ar s) :
    Held original ar (l.foldl (fun s pair => push s pair.1 pair.2) s) :=
  List.foldlRecOn l _ held fun _ kept _ _ => kept.push

theorem foldl_push_overlap (overlap : s.overlap = true) :
    (l.foldl (fun s pair => push s pair.1 pair.2) s).overlap = true := by
  refine List.foldlRecOn (motive := fun s : Separation n => s.overlap = true) l _ overlap fun s overlap pair _ => ?_
  rcases @push_cases _ s pair.1 pair.2 with ⟨same, -⟩ | pushed
  · rwa [same]
  · exact pushed

/-- A pass that has met no overlap has moved nothing. -/
theorem foldl_push_quiet (quiet : (l.foldl (fun s pair => push s pair.1 pair.2) s).overlap = false) :
    l.foldl (fun s pair => push s pair.1 pair.2) s = s ∧
      ∀ pair ∈ l, pair.1 ≠ pair.2 → overlaps (s.targets pair.1) (s.targets pair.2) kOverlapPad = false := by
  induction l with
  | nil => exact ⟨rfl, fun pair none => absurd none List.not_mem_nil⟩
  | cons pair l ih =>
    rw [List.foldl_cons] at quiet ⊢
    rcases @push_cases _ s pair.1 pair.2 with ⟨same, apart⟩ | pushed
    · rw [same] at quiet ⊢
      exact ⟨(ih quiet).1, List.forall_mem_cons.mpr ⟨apart, (ih quiet).2⟩⟩
    · exact absurd quiet (by simp [foldl_push_overlap l pushed])

theorem separate_spec {rounds : Nat} (held : Held original ar s) (begun : s.overlap = true ∨ 0 < rounds)
    (ended : (separate rounds s).overlap = false) : Held original ar (separate rounds s) ∧
      ∀ i j, i ≠ j → overlaps ((separate rounds s).targets i) ((separate rounds s).targets j) kOverlapPad = false := by
  induction rounds generalizing s with
  | zero => exact absurd ended (by simp [separate, begun.resolve_right (lt_irrefl 0)])
  | succ rounds ih =>
    have start : Held original ar { s with overlap := false } := ⟨held.width, held.height, held.within, held.area⟩
    simp only [separate] at ended ⊢
    split
    next more =>
      rw [if_pos more] at ended
      exact ih (foldl_push_held _ start) (.inl more) ended
    next quiet =>
      refine ⟨foldl_push_held _ start, fun i j other => ?_⟩
      obtain ⟨same, apart⟩ := foldl_push_quiet _ (Bool.eq_false_iff.mpr quiet)
      rw [same]
      exact apart (i, j) (by simp [pairs]) other

theorem separated_spec (ended : (separated original ar).overlap = false) : Held original ar (separated original ar) ∧
    ∀ i j, i ≠ j →
      overlaps ((separated original ar).targets i) ((separated original ar).targets j) kOverlapPad = false := by
  have bs : ∀ (l : List (Fin n)) (box : PreviewBox), inside box (l.foldl (fun bs i => unite bs (original i)) box) ∧
      ∀ i ∈ l, inside (original i) (l.foldl (fun bs i => unite bs (original i)) box) := by
    intro l
    induction l with
    | nil => exact fun box => ⟨by simp [inside], fun i none => absurd none List.not_mem_nil⟩
    | cons i l ih =>
      intro box
      obtain ⟨wider, each⟩ := ih (unite box (original i))
      exact ⟨inside_trans inside_unite.1 wider, List.forall_mem_cons.mpr ⟨inside_trans inside_unite.2 wider, each⟩⟩
  obtain ⟨wider, each⟩ := bs (List.finRange n) ar
  exact separate_spec ⟨fun _ => rfl, fun _ => rfl, fun i => each i (List.mem_finRange i), wider⟩ (.inr (by decide)) ended

end Separate

/-- What the boxes have to meet from the time they are in the area. -/
structure Good (original : Fin n → PreviewBox) (area : PreviewBox) (targets : Fin n → PreviewBox) : Prop where
  within : ∀ i, inside (targets i) area
  filled : ∀ i, 0 < (targets i).width
  aspect : ∀ i, (targets i).height = heightForWidth (original i) (targets i).width
  apart : ∀ i j, i ≠ j → overlaps (targets i) (targets j) 0 = false

section Fit

variable {bs : PreviewBox} (wide : 20 < ar.width) (tall : 20 < ar.height) (larger : inside ar bs)
include wide tall larger

theorem scaleFor_spec : 0 < scaleFor ar bs ∧ bs.width * scaleFor ar bs ≤ ar.width ∧
    bs.height * scaleFor ar bs ≤ ar.height := by
  rw [inside_iff] at larger
  have bw : 0 < bs.width := by linarith
  have bh : 0 < bs.height := by linarith
  have cross : ∀ {a b c d : ℚ}, 20 < a → 0 < b → 0 < d → a / b ≤ c / d →
      0 < (a - kMargin) / b ∧ b * ((a - kMargin) / b) ≤ a ∧ d * ((a - kMargin) / b) ≤ c := by
    intro a b c d large hb hd le
    rw [div_le_div_iff₀ hb hd] at le
    refine ⟨div_pos (by rw [kMargin]; linarith) hb, ?_, ?_⟩
    · rw [mul_div_cancel₀ _ hb.ne', kMargin]
      linarith
    · rw [← mul_div_assoc, div_le_iff₀ hb, kMargin]
      nlinarith
  unfold scaleFor
  split
  next same => exact ⟨one_pos, by rw [same, mul_one], by rw [same, mul_one]⟩
  next =>
    split
    next less => exact cross wide bw bh less.le
    next most =>
      obtain ⟨positive, first, second⟩ := cross tall bh bw (not_lt.mp most)
      exact ⟨positive, second, first⟩

theorem fitInto_eq (box : PreviewBox) : (fitInto ar bs box).x = ar.x + (box.x - bs.x) * scaleFor ar bs +
      (ar.width - bs.width * scaleFor ar bs) / 2 ∧
    (fitInto ar bs box).y = ar.y + (box.y - bs.y) * scaleFor ar bs + (ar.height - bs.height * scaleFor ar bs) / 2 := by
  have scale := (scaleFor_spec wide tall larger).1.ne'
  simp only [fitInto, kMargin]
  constructor <;> field_simp <;> ring

theorem inside_fitInto {box : PreviewBox} (within : inside box bs) : inside (fitInto ar bs box) ar := by
  obtain ⟨x, y⟩ := fitInto_eq wide tall larger box
  obtain ⟨positive, narrow, low⟩ := scaleFor_spec wide tall larger
  rw [inside_iff] at within ⊢
  rw [x, y]
  simp only [fitInto]
  refine ⟨?_, ?_, ?_, ?_⟩ <;> nlinarith

theorem apart_fitInto {a b : PreviewBox} (apart : overlaps a b kOverlapPad = false) :
    overlaps (fitInto ar bs a) (fitInto ar bs b) 0 = false := by
  obtain ⟨x, y⟩ := fitInto_eq wide tall larger a
  obtain ⟨x', y'⟩ := fitInto_eq wide tall larger b
  have positive := (scaleFor_spec wide tall larger).1
  rw [apart_iff, kOverlapPad] at apart
  rw [apart_iff, x, y, x', y']
  simp only [fitInto]
  rcases apart with h | h | h | h
  · exact .inl (by nlinarith)
  · exact .inr (.inl (by nlinarith))
  · exact .inr (.inr (.inl (by nlinarith)))
  · exact .inr (.inr (.inr (by nlinarith)))

end Fit

theorem Good.update (good : Good original ar ts) {w : Fin n} {box : PreviewBox} (within : inside box ar)
    (filled : 0 < box.width) (aspect : box.height = heightForWidth (original w) box.width)
    (apart : ∀ i, i ≠ w → overlaps box (ts i) 0 = false) : Good original ar (Function.update ts w box) := by
  refine ⟨fun i => ?_, fun i => ?_, fun i => ?_, fun i j other => ?_⟩
  · by_cases same : i = w
    · rwa [same, Function.update_self]
    · rw [Function.update_of_ne same]
      exact good.within i
  · by_cases same : i = w
    · rwa [same, Function.update_self]
    · rw [Function.update_of_ne same]
      exact good.filled i
  · by_cases same : i = w
    · rwa [same, Function.update_self]
    · rw [Function.update_of_ne same]
      exact good.aspect i
  · by_cases first : i = w
    · subst first
      rw [Function.update_self, Function.update_of_ne other.symm]
      exact apart j other.symm
    · rw [Function.update_of_ne first]
      by_cases second : j = w
      · rw [second, Function.update_self]
        exact apart_symm (apart i first)
      · rw [Function.update_of_ne second]
        exact good.apart i j other

section Grow

variable {inner : PreviewBox} (smaller : inside inner ar)
include smaller

theorem Good.grow {s : (Fin n → PreviewBox) × Bool} (good : Good original ar s.1) (w : Fin n) (attempt : Fin 4) :
    Good original ar (grow original inner s w attempt).1 := by
  unfold NaturalLayout.grow
  dsimp only
  split
  · exact good
  next free =>
    obtain ⟨within, others⟩ : inside (grown (original w) (s.1 w) attempt) inner = true ∧ ∀ i, i ≠ w →
        overlaps (grown (original w) (s.1 w) attempt) (s.1 i) kOverlapPad = false := by
      simpa [blocked] using free
    have wider : 0 < (s.1 w).width + kAccuracy := add_pos (good.filled w) (by norm_num [kAccuracy])
    refine good.update (inside_trans within smaller) wider (add_sub_cancel _ _) fun i other => ?_
    have padded := others i other
    rw [apart_iff, kOverlapPad] at padded
    rw [apart_iff]
    exact padded.imp (by linarith [·]) (.imp (by linarith [·]) (.imp (by linarith [·]) (by linarith [·])))

theorem Good.growAll (rounds : Nat) (good : Good original ar ts) :
    Good original ar (growAll original inner rounds ts) := by
  have fold : ∀ s : (Fin n → PreviewBox) × Bool, Good original ar s.1 →
      Good original ar ((pairs n 4).foldl (fun s pair => NaturalLayout.grow original inner s pair.1 pair.2) s).1 := by
    intro s good
    refine List.foldlRecOn (motive := fun s : (Fin n → PreviewBox) × Bool => Good original ar s.1) _ _ good fun s kept pair _ => ?_
    exact kept.grow smaller pair.1 pair.2
  induction rounds generalizing ts with
  | zero => exact good
  | succ rounds ih =>
    rw [NaturalLayout.growAll]
    split
    · exact ih (fold _ good)
    · exact fold _ good

end Grow

theorem shrink_spec {orig box : PreviewBox} (positive : 0 < orig.width ∧ 0 < orig.height) (filled : 0 < box.width)
    (aspect : box.height = heightForWidth orig box.width) :
    inside (shrink orig box) box ∧ 0 < (shrink orig box).width ∧
      (shrink orig box).height = heightForWidth orig (shrink orig box).width ∧
      (shrink orig box).width ≤ 2 * orig.width ∧
      (large orig → (shrink orig box).width ≤ orig.width) := by
  obtain ⟨pw, ph⟩ := positive
  rw [heightForWidth, if_neg (not_le.mpr pw)] at aspect
  rw [heightForWidth, if_neg (not_le.mpr pw), shrink, if_neg (not_le.mpr pw)]
  dsimp only
  split
  next past =>
    have least : orig.width * (if large orig then 1 else kMaxScale) ≤ box.width := by
      simp only [kMaxScale, gt_iff_lt, lt_div_iff₀ pw] at past ⊢
      split
      next big => rcases past with past | past <;> linarith
      next small => linarith [past.resolve_right fun both => small both.2]
    have bs : (if large orig then (1 : ℚ) else kMaxScale) ≤ 2 := by
      rw [kMaxScale]
      split <;> norm_num
    have more : 0 < (if large orig then (1 : ℚ) else kMaxScale) := by
      rw [kMaxScale]
      split <;> norm_num
    have one : large orig → (if large orig then (1 : ℚ) else kMaxScale) = 1 := fun big => if_pos big
    generalize (if large orig then (1 : ℚ) else kMaxScale) = k at least bs more one ⊢
    have low : orig.height * k ≤ box.height := by
      rw [aspect, le_div_iff₀ pw]
      nlinarith
    refine ⟨inside_iff.mpr (by refine ⟨?_, ?_, ?_, ?_⟩ <;> dsimp only <;> linarith), mul_pos pw more, ?_, ?_,
      fun big => ?_⟩
    · field_simp
    · dsimp only
      nlinarith
    · rw [one big, mul_one]
  next under =>
    simp only [kMaxScale, not_or, not_and, gt_iff_lt, lt_div_iff₀ pw, not_lt] at under
    refine ⟨by simp [inside], filled, aspect, by linarith [under.1], fun big => ?_⟩
    by_contra more
    exact under.2 (by linarith) big

/-- Once the windows are apart, no later phase brings them together again. -/
theorem calculateNaturalLayout_spec (two : 2 ≤ n) (screenWidth screenHeight : ℚ) (area : PreviewBox) (wide : 20 < area.width)
    (tall : 20 < area.height) (original : Fin n → PreviewBox)
    (positive : ∀ i, 0 < (original i).width ∧ 0 < (original i).height)
    (ended : (separated original area).overlap = false) :
    let result := calculateNaturalLayout screenWidth screenHeight area original
    (∀ i j, i ≠ j → overlaps (result i) (result j) 0 = false) ∧ (∀ i, inside (result i) area) ∧
    (∀ i, 0 < (result i).width ∧
      (result i).height * (original i).width = (result i).width * (original i).height) ∧
    ∀ i, (result i).width ≤ 2 * (original i).width ∧ (large (original i) → (result i).width ≤ (original i).width) := by
  intro result
  obtain ⟨held, apart⟩ := separated_spec ended
  have scale := (scaleFor_spec wide tall held.area).1
  have fitted : Good original area fun i => fitInto area (separated original area).bounds ((separated original area).targets i) := by
    refine ⟨fun i => inside_fitInto wide tall held.area (held.within i), fun i => ?_, fun i => ?_,
      fun i j other => apart_fitInto wide tall held.area (apart i j other)⟩
    · rw [fitInto, held.width]
      exact mul_pos (positive i).1 scale
    · have pw := (positive i).1
      rw [heightForWidth, if_neg (not_le.mpr pw)]
      simp only [fitInto, held.width, held.height]
      field_simp
  have smaller : inside (innerArea area (scaleFor area (separated original area).bounds)) area := by
    have inset := div_pos (by norm_num : (0 : ℚ) < 10) scale
    rw [inside_iff, innerArea]
    refine ⟨?_, ?_, ?_, ?_⟩ <;> dsimp only <;> linarith
  have good := fitted.growAll smaller 10000
  have single : ¬(n = 1 ∧ ∀ i, inside (original i) ⟨0, 0, screenWidth, screenHeight⟩ = true) := by omega
  rw [show result = _ from if_neg single]
  have final := fun i => shrink_spec (positive i) (good.filled i) (good.aspect i)
  refine ⟨fun i j other => ?_, fun i => inside_trans (final i).1 (good.within i), fun i => ?_, fun i => (final i).2.2.2⟩
  · exact apart_of_inside (final i).1 (apart_symm (apart_of_inside (final j).1 (good.apart j i other.symm)))
  · have pw := (positive i).1
    obtain ⟨_, filled, aspect, _⟩ := final i
    rw [heightForWidth, if_neg (not_le.mpr pw)] at aspect
    exact ⟨filled, (eq_div_iff pw.ne').mp aspect⟩

theorem calculateNaturalLayout_spec_two : let original : Fin 2 → PreviewBox := fun i => ⟨500 * i, 100, 400, 300⟩
    ∀ i, inside (calculateNaturalLayout 1000 800 ⟨0, 0, 1000, 800⟩ original i) ⟨0, 0, 1000, 800⟩ :=
  (calculateNaturalLayout_spec (by decide) 1000 800 ⟨0, 0, 1000, 800⟩ (by norm_num) (by norm_num) _
    (fun _ => ⟨by norm_num, by norm_num⟩) (by decide +kernel)).2.1

end FlakeWM.View.NaturalLayout
