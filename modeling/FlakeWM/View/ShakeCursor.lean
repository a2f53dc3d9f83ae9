import FlakeWM.Lib.Transition
import Mathlib.Analysis.Real.Sqrt
import Mathlib.Data.List.Induction
import Mathlib.Tactic.Positivity

/-! The detector of pointer shakes.

Samples are kept in a ring of fixed capacity. A sample that continues the last
direction replaces the one before it, so that the ring holds the turning points
of the trail. -/

set_option autoImplicit false

namespace FlakeWM.View.ShakeCursor

structure Sample where
  x : ℝ
  y : ℝ
  time : Nat

def kPointCount : Nat := 64

def kInterval : Nat := 500

structure Ring where
  points : Nat → Sample
  head : Nat
  tail : Nat
  count : Nat

def inSameSign (a b : ℝ) : Prop := (a ≥ -1 ∧ b ≥ -1) ∨ (a ≤ 1 ∧ b ≤ 1)

noncomputable instance inSameSign.decidable (a b : ℝ) : Decidable (inSameSign a b) := Classical.dec _

noncomputable def hypot (a b : ℝ) : ℝ := √(a ^ 2 + b ^ 2)

structure Trail where
  left : ℝ
  right : ℝ
  top : ℝ
  bottom : ℝ
  distance : ℝ

/-- One round of the loop over the trail. -/
noncomputable def Trail.extend (trail : Trail) (current next : Sample) : Trail where
  left := min trail.left next.x
  right := max trail.right next.x
  top := min trail.top next.y
  bottom := max trail.bottom next.y
  distance := trail.distance + hypot (next.x - current.x) (next.y - current.y)

noncomputable def Trail.measure (trail : Trail) (current : Sample) : List Sample → Trail
  | [] => trail
  | next :: rest => (trail.extend current next).measure next rest

noncomputable def Trail.diagonal (trail : Trail) : ℝ := hypot (trail.right - trail.left) (trail.bottom - trail.top)

def Trail.shaken (trail : Trail) : Prop := ¬(trail.diagonal < 100 ∨ trail.distance / trail.diagonal ≤ 4)

def shaken : List Sample → Prop
  | [] => False
  | first :: rest =>
    2 ≤ (first :: rest).length ∧ (Trail.measure ⟨first.x, first.x, first.y, first.y, 0⟩ first rest).shaken

noncomputable instance shaken.decidable (samples : List Sample) : Decidable (shaken samples) := Classical.dec _

namespace Ring

def initial : Ring := ⟨fun _ => ⟨0, 0, 0⟩, 0, 0, 0⟩

/-- The samples from the head on. -/
def retained (ring : Ring) : List Sample :=
  (List.range ring.count).map fun i => ring.points ((ring.head + i) % kPointCount)

def dropHead (ring : Ring) : Ring := { ring with head := (ring.head + 1) % kPointCount, count := ring.count - 1 }

/-- The first loop, which takes at most as many rounds as there are samples. -/
def dropOld (now : Nat) : Nat → Ring → Ring
  | 0, ring => ring
  | rounds + 1, ring =>
    if 0 < ring.count ∧ kInterval ≤ now - (ring.points ring.head).time then dropOld now rounds ring.dropHead else ring

/-- `DetectShake` up to the loop over the trail, and whether it returns before that. -/
noncomputable def record (ring : Ring) (sample : Sample) : Ring × Bool :=
  let ring := ring.dropOld sample.time ring.count
  let last := ring.points ((ring.tail + kPointCount - 1) % kPointCount)
  let prev := ring.points ((ring.tail + kPointCount - 2) % kPointCount)
  if 2 ≤ ring.count ∧ inSameSign (last.x - prev.x) (sample.x - last.x) ∧
      inSameSign (last.y - prev.y) (sample.y - last.y) then
    ({ ring with points := Function.update ring.points ((ring.tail + kPointCount - 1) % kPointCount) sample }, true)
  else
    let ring := if ring.count = kPointCount then ring.dropHead else ring
    ({ ring with
        points := Function.update ring.points ring.tail sample
        tail := (ring.tail + 1) % kPointCount
        count := ring.count + 1 }, false)

noncomputable def detectShake (ring : Ring) (sample : Sample) : Ring × Bool :=
  let (ring, merged) := ring.record sample
  if merged = false ∧ shaken ring.retained then ({ ring with head := ring.tail, count := 0 }, true) else (ring, false)

structure Sound (ring : Ring) : Prop where
  head : ring.head < kPointCount
  count : ring.count ≤ kPointCount
  tail : ring.tail = (ring.head + ring.count) % kPointCount

end Ring

/-- The coordinate rises or falls over the whole path. -/
def Monotonic (coordinate : Sample → ℝ) (path : List Sample) : Prop :=
  path.Pairwise (fun p q => coordinate p ≤ coordinate q) ∨ path.Pairwise fun p q => coordinate q ≤ coordinate p

section Geometry

variable {a b : ℝ}

theorem add_le_two_hypot : a + b ≤ 2 * hypot a b := by
  have first : a ≤ hypot a b := Real.le_sqrt_of_sq_le (le_add_of_nonneg_right (sq_nonneg b))
  have second : b ≤ hypot a b := Real.le_sqrt_of_sq_le (le_add_of_nonneg_left (sq_nonneg a))
  linarith

theorem hypot_le_hypot {c d : ℝ} (first : |a| ≤ c) (second : |b| ≤ d) : hypot a b ≤ hypot c d :=
  Real.sqrt_le_sqrt (add_le_add (sq_le_sq' (abs_le.mp first).1 (abs_le.mp first).2)
    (sq_le_sq' (abs_le.mp second).1 (abs_le.mp second).2))

theorem hypot_le_abs_add : hypot a b ≤ |a| + |b| := by
  refine Real.sqrt_le_iff.mpr ⟨by positivity, ?_⟩
  nlinarith [sq_abs a, sq_abs b, abs_nonneg a, abs_nonneg b, mul_nonneg (abs_nonneg a) (abs_nonneg b)]

namespace Trail

structure Within (trail : Trail) (p : Sample) : Prop where
  left : trail.left ≤ p.x
  right : p.x ≤ trail.right
  top : trail.top ≤ p.y
  bottom : p.y ≤ trail.bottom

variable {tr : Trail} {c p q : Sample} {rest : List Sample}

theorem Within.extend (within : tr.Within p) : (tr.extend c q).Within p :=
  ⟨min_le_of_left_le within.left, le_max_of_le_left within.right, min_le_of_left_le within.top,
    le_max_of_le_left within.bottom⟩

theorem within_extend : (tr.extend c q).Within q :=
  ⟨min_le_right _ _, le_max_right _ _, min_le_right _ _, le_max_right _ _⟩

theorem within_measure (inside : tr.Within p ∨ p ∈ rest) : (tr.measure c rest).Within p := by
  induction rest generalizing tr c with
  | nil => exact inside.resolve_right (List.not_mem_nil)
  | cons next rest ih =>
    refine ih ?_
    rcases inside with within | mem
    · exact .inl within.extend
    · rcases List.mem_cons.mp mem with rfl | later
      · exact .inl within_extend
      · exact .inr later

/-- The length of the path through the samples. -/
noncomputable def path : Sample → List Sample → ℝ
  | _, [] => 0
  | current, next :: rest => hypot (next.x - current.x) (next.y - current.y) + path next rest

theorem measure_distance : (tr.measure c rest).distance = tr.distance + path c rest := by
  induction rest generalizing tr c with
  | nil => exact (add_zero _).symm
  | cons next rest ih => rw [measure, ih, path, extend, add_assoc]

theorem Within.abs_le (first : tr.Within p) (second : tr.Within q) :
    |q.x - p.x| ≤ tr.right - tr.left ∧ |q.y - p.y| ≤ tr.bottom - tr.top := by
  obtain ⟨l, r, t, b⟩ := first
  obtain ⟨l', r', t', b'⟩ := second
  constructor <;> rw [abs_sub_le_iff] <;> constructor <;> linarith

theorem path_le (start : tr.Within c) (inside : ∀ p ∈ rest, tr.Within p) : path c rest ≤ rest.length * tr.diagonal := by
  induction rest generalizing c with
  | nil => simp [path]
  | cons next rest ih =>
    have here := inside next List.mem_cons_self
    have segment := hypot_le_hypot (start.abs_le here).1 (start.abs_le here).2
    have others := ih here fun p mem => inside p (List.mem_cons_of_mem _ mem)
    rw [path, List.length_cons, Nat.cast_succ, add_mul, one_mul, add_comm]
    exact add_le_add others segment

/-- Along a path without a turn the lengths of the segments add up to no more than the two sides. -/
theorem path_le_sides {σ τ : ℝ} (horizontal : σ = 1 ∨ σ = -1) (vertical : τ = 1 ∨ τ = -1)
    (steady : (c :: rest).Pairwise fun p q => 0 ≤ σ * (q.x - p.x) ∧ 0 ≤ τ * (q.y - p.y)) :
    path c rest ≤ σ * ((rest.getLastD c).x - c.x) + τ * ((rest.getLastD c).y - c.y) := by
  have size : ∀ {ρ d : ℝ}, ρ = 1 ∨ ρ = -1 → 0 ≤ ρ * d → |d| = ρ * d := by
    rintro ρ d (rfl | rfl) nonneg
    · rw [one_mul] at nonneg ⊢
      exact abs_of_nonneg nonneg
    · rw [neg_one_mul] at nonneg ⊢
      exact abs_of_nonpos (neg_nonneg.mp nonneg)
  induction rest generalizing c with
  | nil => simp [path]
  | cons next rest ih =>
    obtain ⟨ahead, later⟩ := List.pairwise_cons.mp steady
    obtain ⟨dx, dy⟩ := ahead next List.mem_cons_self
    have segment := @hypot_le_abs_add (next.x - c.x) (next.y - c.y)
    rw [size horizontal dx, size vertical dy] at segment
    rw [path, List.getLastD_cons]
    linarith [ih later]

end Trail

theorem trail_of_shaken {first : Sample} {ps : List Sample} (shake : shaken (first :: ps)) :
    ∃ tr : Trail, (∀ p ∈ first :: ps, tr.Within p) ∧ 0 < tr.diagonal ∧ 4 * tr.diagonal < Trail.path first ps := by
  obtain ⟨wide, long⟩ := not_or.mp shake.2
  have positive := lt_of_lt_of_le (by norm_num : (0 : ℝ) < 100) (not_lt.mp wide)
  refine ⟨_, fun p mem => Trail.within_measure ?_, positive, ?_⟩
  · rcases List.mem_cons.mp mem with rfl | later
    · exact .inl ⟨le_rfl, le_rfl, le_rfl, le_rfl⟩
    · exact .inr later
  · rw [not_le, lt_div_iff₀ positive] at long
    rwa [Trail.measure_distance, zero_add] at long

theorem length_of_shaken {samples : List Sample} (shake : shaken samples) : 6 ≤ samples.length := by
  cases samples with
  | nil => exact shake.elim
  | cons first ps =>
    obtain ⟨tr, within, positive, long⟩ := trail_of_shaken shake
    have bound := Trail.path_le (within first List.mem_cons_self) fun p mem => within p (List.mem_cons_of_mem _ mem)
    have many : (4 : ℝ) < ps.length := lt_of_mul_lt_mul_right (long.trans_le bound) positive.le
    have : 4 < ps.length := by exact_mod_cast many
    rw [List.length_cons]
    omega

theorem Monotonic.sign {coordinate : Sample → ℝ} {samples : List Sample} (monotonic : Monotonic coordinate samples) :
    ∃ σ : ℝ, (σ = 1 ∨ σ = -1) ∧ samples.Pairwise fun p q => 0 ≤ σ * (coordinate q - coordinate p) := by
  rcases monotonic with rising | falling
  · exact ⟨1, .inl rfl, rising.imp fun le => by linarith⟩
  · exact ⟨-1, .inr rfl, falling.imp fun le => by linarith⟩

theorem not_shaken_of_monotonic {samples : List Sample} (horizontal : Monotonic Sample.x samples)
    (vertical : Monotonic Sample.y samples) : ¬shaken samples := by
  intro shake
  cases samples with
  | nil => exact shake
  | cons first =>
    obtain ⟨tr, within, positive, long⟩ := trail_of_shaken shake
    obtain ⟨σ, unit, rises⟩ := horizontal.sign
    obtain ⟨τ, unit', rises'⟩ := vertical.sign
    have sides := Trail.path_le_sides unit unit' (rises.and rises')
    have spread := (within first List.mem_cons_self).abs_le (within _ List.getLastD_mem_cons)
    have signed : ∀ {ρ d : ℝ}, ρ = 1 ∨ ρ = -1 → ρ * d ≤ |d| := by
      rintro ρ d (rfl | rfl)
      · exact (one_mul d).le.trans (le_abs_self d)
      · exact (neg_one_mul d).le.trans (neg_le_abs d)
    have twice := @add_le_two_hypot (tr.right - tr.left) (tr.bottom - tr.top)
    have dx := (signed unit).trans spread.1
    have dy := (signed unit').trans spread.2
    rw [Trail.diagonal] at long positive
    linarith

end Geometry

theorem Monotonic.sublist {coordinate : Sample → ℝ} {first second : List Sample} (monotonic : Monotonic coordinate second)
    (fewer : first.Sublist second) : Monotonic coordinate first :=
  monotonic.imp (·.sublist fewer) (·.sublist fewer)

namespace Ring

variable {ring : Ring}

theorem Sound.dropHead (sound : ring.Sound) (some : 0 < ring.count) :
    ring.dropHead.Sound ∧ ring.retained = ring.points ring.head :: ring.dropHead.retained := by
  obtain ⟨head, count, tail⟩ := sound
  simp only [kPointCount] at head count tail
  refine ⟨⟨Nat.mod_lt _ (by decide), ?_, ?_⟩, ?_⟩
  · simp only [Ring.dropHead, kPointCount]
    omega
  · simp only [Ring.dropHead, kPointCount]
    omega
  · obtain ⟨n, size⟩ : ∃ n, ring.count = n + 1 := ⟨ring.count - 1, by omega⟩
    simp only [retained, Ring.dropHead, size, List.range_succ_eq_map, List.map_cons, List.map_map, Nat.add_zero,
      kPointCount, Nat.mod_eq_of_lt head, Nat.add_sub_cancel]
    congr 2
    funext i
    exact congrArg ring.points (by simp only [Nat.succ_eq_add_one]; omega)

theorem dropOld_spec (now rounds : Nat) (sound : ring.Sound) (enough : ring.count ≤ rounds) :
    (ring.dropOld now rounds).Sound ∧ (ring.dropOld now rounds).retained <:+ ring.retained ∧
      ∀ p ∈ (ring.dropOld now rounds).retained.head?, now - p.time < kInterval := by
  induction rounds generalizing ring with
  | zero =>
    refine ⟨sound, List.suffix_rfl, ?_⟩
    simp [dropOld, retained, Nat.le_zero.mp enough]
  | succ rounds ih =>
    rw [dropOld]
    split
    next old =>
      obtain ⟨sound', split⟩ := sound.dropHead old.1
      obtain ⟨still, fewer, fresh⟩ := ih sound' (by simp only [Ring.dropHead]; omega)
      exact ⟨still, split ▸ fewer.trans (List.suffix_cons _ _), fresh⟩
    next new =>
      refine ⟨sound, List.suffix_rfl, fun p front => ?_⟩
      by_cases some : 0 < ring.count
      · rw [(sound.dropHead some).2, List.head?_cons, Option.mem_some_iff] at front
        subst front
        omega
      · simp [retained, Nat.eq_zero_of_not_pos some] at front

/-- Writing past the last sample. -/
theorem Sound.append (sound : ring.Sound) (room : ring.count < kPointCount) (p0 : Sample) :
    let next : Ring := ⟨Function.update ring.points ring.tail p0, ring.head, (ring.tail + 1) % kPointCount, ring.count + 1⟩
    next.Sound ∧ next.retained = ring.retained ++ [p0] := by
  obtain ⟨head, count, tail⟩ := sound
  simp only [kPointCount] at head count tail room
  refine ⟨⟨head, room, ?_⟩, ?_⟩
  · simp only [kPointCount]
    omega
  · simp only [retained, List.range_succ, List.map_append, List.map_singleton, kPointCount, ← tail, Function.update_self]
    congr 1
    refine List.map_congr_left fun i mem => Function.update_of_ne ?_ _ _
    have := List.mem_range.mp mem
    omega

/-- Overwriting the last sample is writing past the ones before it. -/
theorem Sound.replace (sound : ring.Sound) (some : 0 < ring.count) (p0 : Sample) :
    let next : Ring := { ring with points := Function.update ring.points ((ring.tail + kPointCount - 1) % kPointCount) p0 }
    next.Sound ∧ next.retained = ring.retained.dropLast ++ [p0] := by
  obtain ⟨n, size⟩ : ∃ n, ring.count = n + 1 := ⟨ring.count - 1, by omega⟩
  obtain ⟨head, count, tail⟩ := sound
  simp only [kPointCount, size] at head count tail
  have shorter : Sound ⟨ring.points, ring.head, (ring.tail + kPointCount - 1) % kPointCount, n⟩ := by
    refine ⟨head, ?_, ?_⟩ <;> simp only [kPointCount] <;> omega
  obtain ⟨sound', same⟩ := shorter.append (by simp only [kPointCount]; omega) p0
  have last : ((ring.tail + kPointCount - 1) % kPointCount + 1) % kPointCount = ring.tail := by
    simp only [kPointCount]
    omega
  simp only [last, ← size] at sound' same
  refine ⟨sound', same.trans (congrArg (· ++ [p0]) ?_)⟩
  simp only [retained, size, List.range_succ, List.map_append, List.map_singleton, List.dropLast_concat]

theorem record_spec (sound : ring.Sound) (p0 : Sample) :
    (ring.record p0).1.Sound ∧ ∃ kept, kept.Sublist (ring.dropOld p0.time ring.count).retained ∧
      (ring.record p0).1.retained = kept ++ [p0] := by
  obtain ⟨fresh, -⟩ := dropOld_spec p0.time ring.count sound le_rfl
  unfold record
  generalize ring.dropOld p0.time ring.count = dropped at fresh ⊢
  dsimp only
  split
  next merged =>
    obtain ⟨sound', same⟩ := fresh.replace (Nat.lt_of_lt_of_le Nat.zero_lt_two merged.1) p0
    exact ⟨sound', _, List.dropLast_sublist _, same⟩
  next =>
    split
    next full =>
      obtain ⟨shorter, split⟩ := fresh.dropHead (full ▸ by decide)
      have room : dropped.dropHead.count < kPointCount := by simp only [Ring.dropHead, full, kPointCount]; omega
      obtain ⟨sound', same⟩ := shorter.append room p0
      exact ⟨sound', _, split ▸ List.sublist_cons_self _ _, same⟩
    next room =>
      obtain ⟨sound', same⟩ := fresh.append (lt_of_le_of_ne fresh.count room) p0
      exact ⟨sound', _, .refl _, same⟩

theorem detectShake_iff (p0 : Sample) :
    (ring.detectShake p0).2 = true ↔ (ring.record p0).2 = false ∧ shaken (ring.record p0).1.retained := by
  unfold detectShake
  dsimp only
  split <;> simp_all

theorem detectShake_spec (sound : ring.Sound) (p0 : Sample) :
    (ring.detectShake p0).1.Sound ∧ (ring.detectShake p0).1.retained.Sublist (ring.record p0).1.retained := by
  have recorded := (record_spec sound p0).1
  unfold detectShake
  dsimp only
  split
  · refine ⟨⟨?_, Nat.zero_le _, ?_⟩, by simp [retained]⟩
    · exact recorded.tail ▸ Nat.mod_lt _ (by decide)
    · simp only [recorded.tail, Nat.add_zero, Nat.mod_mod]
  · exact ⟨recorded, .refl _⟩

/-- The ring after the samples. -/
noncomputable def after (samples : List Sample) : Ring :=
  Transition.run (fun ring sample => (ring.detectShake sample).1) initial samples

theorem after_spec (samples : List Sample) : (after samples).Sound ∧ (after samples).retained.Sublist samples := by
  induction samples using List.reverseRecOn with
  | nil => exact ⟨⟨by decide, by decide, rfl⟩, .refl _⟩
  | append_singleton samples p0 ih =>
    have next : after (samples ++ [p0]) = ((after samples).detectShake p0).1 := Transition.run_append _ _ _ _
    obtain ⟨sound, fewer⟩ := detectShake_spec ih.1 p0
    obtain ⟨-, kept, part, same⟩ := record_spec ih.1 p0
    obtain ⟨-, dropped, -⟩ := dropOld_spec p0.time _ ih.1 le_rfl
    rw [next]
    exact ⟨sound, fewer.trans (same ▸ ((part.trans dropped.sublist).trans ih.2).append (.refl _))⟩

end Ring

/-- A path that turns in neither coordinate is never a shake. -/
theorem detections (earlier : List Sample) (sample : Sample)
    (ordered : (earlier ++ [sample]).Pairwise (·.time ≤ ·.time)) :
    let ring := Ring.after earlier
    let recorded := (ring.record sample).1
    (∀ r ∈ [ring, recorded], r.tail = (r.head + r.count) % kPointCount ∧ r.count ≤ kPointCount ∧
      r.retained.Pairwise (·.time ≤ ·.time)) ∧
    (∀ p ∈ recorded.retained, sample.time - p.time < kInterval) ∧
    ((ring.detectShake sample).2 = true → 6 ≤ recorded.count) ∧
    (let path := (earlier ++ [sample]).filter fun p => sample.time - p.time < kInterval
     Monotonic Sample.x path → Monotonic Sample.y path → (ring.detectShake sample).2 = false) := by
  intro ring recorded
  obtain ⟨sound, fewer⟩ := Ring.after_spec earlier
  obtain ⟨sound', kept, part, same⟩ := Ring.record_spec sound sample
  obtain ⟨-, dropped, front⟩ := Ring.dropOld_spec sample.time _ sound le_rfl
  have sublist : recorded.retained.Sublist (earlier ++ [sample]) :=
    same ▸ ((part.trans dropped.sublist).trans fewer).append (.refl _)
  have fresh : ∀ p ∈ recorded.retained, sample.time - p.time < kInterval := by
    intro p member
    rw [same, List.mem_append, List.mem_singleton] at member
    rcases member with old | rfl
    · have sorted := ordered.sublist ((dropped.sublist.trans fewer).trans (List.sublist_append_left _ [sample]))
      have place := part.subset old
      -- the samples are in order, so the first one that is left bounds the others
      generalize (ring.dropOld sample.time ring.count).retained = left at place sorted front
      cases left with
      | nil => exact absurd place List.not_mem_nil
      | cons first rest =>
        have bound := front first rfl
        rcases List.mem_cons.mp place with rfl | later
        · exact bound
        · have := (List.pairwise_cons.mp sorted).1 p later
          omega
    · rw [Nat.sub_self]
      decide
  refine ⟨?_, fresh, fun shake => ?_, ?_⟩
  · intro r member
    rcases List.mem_pair.mp member with rfl | rfl
    · exact ⟨sound.tail, sound.count, ordered.sublist (fewer.trans (List.sublist_append_left _ _))⟩
    · exact ⟨sound'.tail, sound'.count, ordered.sublist sublist⟩
  · have six := length_of_shaken ((Ring.detectShake_iff sample).mp shake).2
    rwa [Ring.retained, List.length_map, List.length_range] at six
  · intro path horizontal vertical
    have within : recorded.retained.Sublist path := by
      have all := sublist.filter fun p => sample.time - p.time < kInterval
      rwa [List.filter_eq_self.mpr fun p member => decide_eq_true (fresh p member)] at all
    rw [← Bool.not_eq_true, Ring.detectShake_iff]
    exact fun shake => not_shaken_of_monotonic (horizontal.sublist within) (vertical.sublist within) shake.2

theorem detections_line : ((Ring.after [⟨0, 0, 0⟩]).detectShake ⟨300, 0, 16⟩).2 = false := by
  have facts := detections [⟨0, 0, 0⟩] ⟨300, 0, 16⟩ (by simp)
  exact facts.2.2.2 (.inl (by simp [kInterval])) (.inl (by simp [kInterval]))

end FlakeWM.View.ShakeCursor
