import FlakeWM.Input.TouchTable

/-! A touch device beside others and alone.

The compositor's table is compared with the table of a run in which the device is
the only one. The seat looks a point up by its identifier alone and cancels all
points of a client, so a handler keeps the two in step only if it finds the
device's own points. -/

set_option autoImplicit false

namespace FlakeWM.Input
namespace TouchState

open FirstMatch

def isNative (state : TouchState) (touch : Nat) (touchId : Int) : Bool :=
  (state.findTouchPoint touch touchId).any (·.mode == .native)

def findsOwn (state : TouchState) (touch : Nat) (touchId : Int) : Bool :=
  (state.getPoint touchId).all (·.device == touch)

def cancelsOwn (state : TouchState) (touch : Nat) (touchId : Int) : Bool :=
  (state.getPoint touchId).all fun point =>
    state.seatPoints.all fun other => other.client != point.client || other.device == touch

def touchSafe (state : TouchState) (touch : Nat) : TouchEvent → Bool
  | .down touchId _ => (state.findTouchPoint touch touchId).isNone
  | .motion touchId _ _ _ | .up touchId => !state.isNative touch touchId || state.findsOwn touch touchId
  | .cancel touchId => !state.isNative touch touchId || state.findsOwn touch touchId && state.cancelsOwn touch touchId

/-- An entry of a device in the shared run and in its own run, where the seat has
`point` for the finger. In the shared run an entry may outlive its point. -/
inductive Matches (point : Option SeatPoint) : Option TouchPoint → Option TouchPoint → Prop where
  | none : Matches point none none
  | both {entry alone : TouchPoint} : entry.lastX = alone.lastX → entry.lastY = alone.lastY →
      (entry.mode = .native ↔ alone.mode = .native) → Matches point (some entry) (some alone)
  | stale {entry : TouchPoint} : entry.mode = .native → point = Option.none → Matches point (some entry) Option.none

structure SeatAlone (device : Nat) (shared solo : TouchState) : Prop where
  points : solo.seatPoints = shared.seatPoints.filter (·.device == device)
  received : solo.received = shared.received.filter (·.device == device)

structure Alone (device : Nat) (shared solo : TouchState) : Prop extends SeatAlone device shared solo where
  sharedDistinct : (shared.touchPoints.map TouchPoint.finger).Nodup
  soloDistinct : (solo.touchPoints.map TouchPoint.finger).Nodup
  mine : ∀ entry ∈ solo.touchPoints, entry.touch = device
  backed : ∀ entry ∈ solo.touchPoints, entry.mode = .native → (solo.getPoint entry.touchId).isSome = true
  entries : ∀ touchId, Matches (solo.getPoint touchId) (shared.findTouchPoint device touchId)
    (solo.findTouchPoint device touchId)

section

variable {d touch : Nat} {touchId other : Int} {shared solo s : TouchState}

theorem findsOwn_iff : s.findsOwn touch touchId = true ↔
    ∀ point, s.getPoint touchId = some point → (point.device == touch) = true := by
  simp [findsOwn, Option.all_eq_true]

theorem isNative_iff : s.isNative touch touchId = true ↔
    ∃ en, s.findTouchPoint touch touchId = some en ∧ en.mode = .native := by
  simp [isNative, Option.any_eq_true]

theorem findsOwn_of_safe (safe : (!s.isNative touch touchId || s.findsOwn touch touchId) = true)
    (told : s.isNative touch touchId = true) : s.findsOwn touch touchId = true := by
  simpa [told] using safe

variable {entered ended : TouchState} {point : TouchPoint} {alone' : TouchState}

theorem cancelsOwn_of_native (found : s.findTouchPoint touch touchId = some point) (native : point.mode = .native)
    (safe : s.touchSafe touch (.cancel touchId) = true) :
    s.findsOwn touch touchId = true ∧ ∀ seatPoint, s.getPoint touchId = some seatPoint →
      ∀ other ∈ s.seatPoints, other.client = seatPoint.client → other.device = touch := by
  simp only [touchSafe, isNative, found, native, Option.any_some, beq_self_eq_true, Bool.not_true, Bool.false_or,
    Bool.and_eq_true] at safe
  refine ⟨safe.1, fun seatPoint there other mem same => ?_⟩
  have own := safe.2
  simp only [cancelsOwn, there, Option.all_some, List.all_eq_true, Bool.or_eq_true, bne_iff_ne, beq_iff_eq] at own
  exact (own other mem).resolve_left fun ne => ne same

section

variable (seat : SeatAlone d shared solo) (own : shared.findsOwn d touchId = true)

include seat own

theorem SeatAlone.getPoint : solo.getPoint touchId = shared.getPoint touchId := by
  unfold TouchState.getPoint
  rw [seat.points]
  exact find?_filter (findsOwn_iff.mp own)

omit seat own in
theorem SeatAlone.getPoint_none (seat : SeatAlone d shared solo) (absent : shared.getPoint touchId = none) :
    solo.getPoint touchId = none := by
  unfold TouchState.getPoint
  rw [seat.points]
  exact find?_filter_of_none absent

omit seat own in
theorem SeatAlone.notifyDown (seat : SeatAlone d shared solo) {point : SeatPoint} (mine : point.device = d) :
    SeatAlone d (shared.notifyDown point) (solo.notifyDown point) where
  points := by
    simp only [TouchState.notifyDown, tell]
    rw [List.filter_cons_of_pos (by simp [mine]), seat.points]
  received := by
    simp only [TouchState.notifyDown, tell]
    rw [List.filter_append, seat.received]
    simp [mine]

theorem SeatAlone.notifyUp : SeatAlone d (shared.notifyUp touchId) (solo.notifyUp touchId) := by
  unfold TouchState.notifyUp
  rw [seat.getPoint own]
  split
  · exact seat
  · rename_i point found
    refine ⟨?_, ?_⟩
    · simp only [tell]
      rw [filter_eraseP (findsOwn_iff.mp own), seat.points]
    · have mine := findsOwn_iff.mp own point found
      simp only [tell]
      rw [List.filter_append, seat.received]
      simp [mine]

theorem SeatAlone.notifyMotion (sx sy : Rat) :
    SeatAlone d (shared.notifyMotion touchId sx sy) (solo.notifyMotion touchId sx sy) := by
  unfold TouchState.notifyMotion
  rw [seat.getPoint own]
  split
  · exact seat
  · rename_i point found
    refine ⟨?_, ?_⟩
    · simp only [tell]
      rw [seat.points]
      exact .symm (filter_update (by intro _; rfl) (findsOwn_iff.mp own))
    · have mine := findsOwn_iff.mp own point found
      simp only [tell]
      rw [List.filter_append, seat.received]
      simp [mine]

end

theorem SeatAlone.notifyCancel (seat : SeatAlone d shared solo) (cl : Nat) :
    SeatAlone d (shared.notifyCancel cl) (solo.notifyCancel cl) where
  points := by
    simp only [TouchState.notifyCancel]
    rw [seat.points, List.filter_filter, List.filter_filter]
    simp only [Bool.and_comm]
  received := by
    simp only [TouchState.notifyCancel]
    rw [seat.received, seat.points, List.filter_append, List.filter_map, List.filter_filter, List.filter_filter]
    simp only [Function.comp_def, Bool.and_comm]

structure Untouched (device : Nat) (before after : TouchState) : Prop where
  points : after.seatPoints.filter (·.device == device) = before.seatPoints.filter (·.device == device)
  received : after.received.filter (·.device == device) = before.received.filter (·.device == device)
  entries : ∀ touchId, after.findTouchPoint device touchId = before.findTouchPoint device touchId

theorem Untouched.refl (s : TouchState) : Untouched d s s := ⟨rfl, rfl, fun _ => rfl⟩

theorem Untouched.trans {first second third : TouchState} (left : Untouched d first second)
    (right : Untouched d second third) : Untouched d first third :=
  ⟨right.points.trans left.points, right.received.trans left.received,
    fun touchId => (right.entries touchId).trans (left.entries touchId)⟩

section

variable (apart : touch ≠ d)

include apart

theorem isPoint_apart {point : TouchPoint} (same : isPoint touch touchId point = true) :
    isPoint d other point = false := by
  rw [isPoint_iff] at same
  rw [Bool.eq_false_iff, ne_eq, isPoint_iff, same]
  exact fun equal => apart (congrArg Prod.fst equal)

theorem untouched_pushPoint (s : TouchState) (i : Int) (mode : TouchPointMode) (x y : Rat) :
    Untouched d s (s.pushPoint touch i mode x y) := by
  refine ⟨rfl, rfl, fun other => ?_⟩
  have none : isPoint d other ⟨touch, i, mode, x, y⟩ = false := by simp [isPoint, apart]
  simp [findTouchPoint, pushPoint, List.find?_append, none]

omit apart in
theorem untouched_filter {keep : TouchPoint → Bool} (kept : ∀ point : TouchPoint, point.touch = d → keep point = true)
    (s : TouchState) : Untouched d s { s with touchPoints := s.touchPoints.filter keep } := by
  refine ⟨rfl, rfl, fun other => find?_filter fun point found => kept point ?_⟩
  exact congrArg Prod.fst (isPoint_iff.mp (List.find?_some found))

theorem findsOwn_apart (own : s.findsOwn touch touchId = true) :
    ∀ point, s.getPoint touchId = some point → (point.device == d) = false := by
  intro point found
  simpa [beq_iff_eq.mp (findsOwn_iff.mp own point found)] using apart

theorem untouched_notifyUp (own : s.findsOwn touch touchId = true) : Untouched d s (s.notifyUp touchId) := by
  unfold notifyUp
  split
  · exact .refl s
  · rename_i point found
    have theirs := findsOwn_apart apart own
    refine ⟨filter_eraseP_of_not theirs, ?_, fun _ => rfl⟩
    simp [tell, theirs point found]

theorem untouched_notifyMotion (own : s.findsOwn touch touchId = true) (sx sy : Rat) :
    Untouched d s (s.notifyMotion touchId sx sy) := by
  unfold notifyMotion
  split
  · exact .refl s
  · rename_i point found
    have theirs := findsOwn_apart apart own
    refine ⟨filter_update_of_not (fun _ => rfl) theirs, ?_, fun _ => rfl⟩
    simp [tell, theirs point found]

theorem untouched_notifyCancel {cl : Nat} (own : ∀ point ∈ s.seatPoints, point.client = cl → point.device = touch) :
    Untouched d s (s.notifyCancel cl) := by
  refine ⟨?_, ?_, fun _ => rfl⟩
  · simp only [notifyCancel, List.filter_filter]
    refine List.filter_congr fun point mem => ?_
    by_cases same : point.client = cl
    · simp [own point mem same, apart]
    · simp [same]
  · simp only [notifyCancel, List.filter_append, List.append_right_eq_self, List.filter_eq_nil_iff, List.mem_map,
      List.mem_filter, beq_iff_eq]
    rintro receipt ⟨point, ⟨mem, same⟩, rfl⟩ mine
    exact apart ((own point mem same).symm.trans mine)

theorem untouched_onTouch (e : TouchEvent) (safe : s.touchSafe touch e = true) : Untouched d s (s.onTouch touch e) := by
  cases e with
  | down touchId hit =>
    have pushed := fun (s : TouchState) mode => untouched_pushPoint apart s touchId mode hit.x hit.y
    unfold onTouch onTouchDown
    dsimp only
    split
    · exact pushed s _
    · split
      · exact pushed s _
      · split
        · exact pushed s _
        · split
          · rename_i target _
            have down : Untouched d s
                (s.notifyDown ⟨touch, touchId, target.client, target.xwayland, target.sx, target.sy⟩) := by
              refine ⟨?_, ?_, fun _ => rfl⟩
              · simp [notifyDown, tell, apart]
              · simp [notifyDown, tell, apart]
            exact down.trans (pushed _ _)
          · split
            · exact pushed s _
            · have pressed : Untouched d s (s.sendPointerTouchButton true) := ⟨rfl, rfl, fun _ => rfl⟩
              exact pressed.trans (pushed _ _)
  | motion touchId x y sc =>
    unfold onTouch onTouchMotion
    dsimp only
    split
    · exact .refl s
    · rename_i point found
      have moved : Untouched d s { s with
          touchPoints := update (isPoint touch touchId) (·.moveTo x y) s.touchPoints } :=
        ⟨rfl, rfl, fun other => find?_update_of_not (fun _ same => isPoint_apart apart same) fun _ => rfl⟩
      split
      · rename_i native
        split
        · exact moved
        · have own := findsOwn_of_safe safe (isNative_iff.mpr ⟨point, found, native⟩)
          have same : findsOwn { s with
              touchPoints := update (isPoint touch touchId) (·.moveTo x y) s.touchPoints }
              touch touchId = true := own
          exact moved.trans (untouched_notifyMotion apart same _ _)
      · exact moved
  | up touchId =>
    have kept : ∀ point : TouchPoint, point.touch = d → (!isPoint touch touchId point) = true := by
      intro point mine
      simp [isPoint, mine, Ne.symm apart]
    unfold onTouch onTouchUp
    dsimp only
    split
    · exact .refl s
    · rename_i point found
      refine .trans ?_ (untouched_filter kept _)
      cases mode : point.mode with
      | native => exact untouched_notifyUp apart (findsOwn_of_safe safe (isNative_iff.mpr ⟨point, found, mode⟩))
      | _ => exact ⟨rfl, rfl, fun _ => rfl⟩
  | cancel touchId =>
    have kept : ∀ (ended : TouchState) (point : TouchPoint), point.touch = d →
        (!ended.leavesWith touch touchId point) = true := by
      intro ended point mine
      simp [leavesWith, mine, Ne.symm apart]
    unfold onTouch onTouchCancel
    dsimp only
    split
    · exact .refl s
    · rename_i point found
      refine .trans ?_ (untouched_filter (kept _) _)
      cases mode : point.mode with
      | native =>
        unfold sendCancel
        dsimp only
        split
        · exact .refl s
        · rename_i seatPoint there
          exact untouched_notifyCancel apart ((cancelsOwn_of_native found mode safe).2 seatPoint there)
      | _ => exact ⟨rfl, rfl, fun _ => rfl⟩

end

theorem Alone.untouched {next : TouchState} (alone : Alone d shared solo) (same : Untouched d shared next)
    (distinct : (next.touchPoints.map TouchPoint.finger).Nodup) : Alone d next solo where
  points := alone.points.trans same.points.symm
  received := alone.received.trans same.received.symm
  sharedDistinct := distinct
  soloDistinct := alone.soloDistinct
  mine := alone.mine
  backed := alone.backed
  entries := by
    intro touchId
    rw [same.entries]
    exact alone.entries touchId

theorem find?_filter_distinct {points : List TouchPoint} (distinct : (points.map TouchPoint.finger).Nodup)
    (keep : TouchPoint → Bool) (touch : Nat) (i : Int) :
    (points.filter keep).find? (isPoint touch i) = (points.find? (isPoint touch i)).filter keep := by
  cases found : points.find? (isPoint touch i) with
  | none => rw [find?_filter_of_none found]; rfl
  | some point =>
    have matched := isPoint_iff.mp (List.find?_some found)
    cases kept : keep point with
    | true =>
      rw [Option.filter_some_pos kept, find?_filter fun other there => ?_, found]
      rw [found, Option.some_inj] at there
      exact there ▸ kept
    | false =>
      rw [Option.filter_some_neg (by simp [kept]), List.find?_eq_none]
      intro other mem same
      obtain ⟨mem, stays⟩ := List.mem_filter.mp mem
      have equal : other = point := List.inj_on_of_nodup_map distinct mem (List.mem_of_find?_eq_some found)
        ((isPoint_iff.mp same).trans matched.symm)
      rw [equal, kept] at stays
      cases stays

theorem Alone.leave (alone : Alone d shared solo) (seat : SeatAlone d ended alone')
    (sharedPoints : ended.touchPoints = shared.touchPoints) (soloPoints : alone'.touchPoints = solo.touchPoints)
    (keep keepAlone : TouchPoint → Bool)
    (entries : ∀ touchId, Matches (alone'.getPoint touchId)
      ((shared.findTouchPoint d touchId).filter keep) ((solo.findTouchPoint d touchId).filter keepAlone))
    (backed : ∀ en ∈ solo.touchPoints, keepAlone en = true → en.mode = .native →
      (alone'.getPoint en.touchId).isSome = true) :
    Alone d { ended with touchPoints := ended.touchPoints.filter keep }
      { alone' with touchPoints := alone'.touchPoints.filter keepAlone } where
  points := seat.points
  received := seat.received
  sharedDistinct := by
    rw [sharedPoints]
    exact alone.sharedDistinct.sublist (List.filter_sublist.map _)
  soloDistinct := by
    rw [soloPoints]
    exact alone.soloDistinct.sublist (List.filter_sublist.map _)
  mine := by
    intro en mem
    rw [soloPoints] at mem
    exact alone.mine en (List.mem_of_mem_filter mem)
  backed := by
    intro en mem native
    rw [soloPoints] at mem
    obtain ⟨mem, kept⟩ := List.mem_filter.mp mem
    exact backed en mem kept native
  entries := by
    intro touchId
    have left : findTouchPoint { ended with touchPoints := ended.touchPoints.filter keep } d touchId =
        (shared.findTouchPoint d touchId).filter keep := by
      simp only [findTouchPoint, sharedPoints]
      exact find?_filter_distinct alone.sharedDistinct keep d touchId
    have right : findTouchPoint { alone' with touchPoints := alone'.touchPoints.filter keepAlone } d touchId =
        (solo.findTouchPoint d touchId).filter keepAlone := by
      simp only [findTouchPoint, soloPoints]
      exact find?_filter_distinct alone.soloDistinct keepAlone d touchId
    rw [left, right]
    exact entries touchId

section

variable (alone : Alone d shared solo)

include alone

theorem Alone.push (seat : SeatAlone d entered alone') (sharedPoints : entered.touchPoints = shared.touchPoints)
    (soloPoints : alone'.touchPoints = solo.touchPoints) (fresh : shared.findTouchPoint d touchId = none)
    {mode modeAlone : TouchPointMode} (native : mode = .native ↔ modeAlone = .native)
    (backed : modeAlone = .native → (alone'.getPoint touchId).isSome = true)
    (others : ∀ other, other ≠ touchId → alone'.getPoint other = solo.getPoint other) (x y : Rat) :
    Alone d (entered.pushPoint d touchId mode x y) (alone'.pushPoint d touchId modeAlone x y) := by
  -- a finger without an entry in the shared run has none in the device's own
  have absent : solo.findTouchPoint d touchId = none := by
    have matched := alone.entries touchId
    rw [fresh] at matched
    generalize solo.findTouchPoint d touchId = found at matched
    cases matched
    rfl
  have ne : ∀ {points : List TouchPoint}, points.find? (isPoint d touchId) = none →
      ∀ old ∈ points, old.finger ≠ (d, touchId) :=
    fun none old listed same => List.find?_eq_none.mp none old listed (isPoint_iff.mpr same)
  refine ⟨⟨seat.points, seat.received⟩, ?_, ?_, ?_, ?_, ?_⟩
  · simp only [pushPoint, sharedPoints]
    exact nodup_push alone.sharedDistinct (ne fresh)
  · simp only [pushPoint, soloPoints]
    exact nodup_push alone.soloDistinct (ne absent)
  · intro en mem
    simp only [pushPoint, soloPoints, List.mem_append, List.mem_singleton] at mem
    rcases mem with old | rfl
    · exact alone.mine en old
    · rfl
  · intro en mem
    simp only [pushPoint, soloPoints, List.mem_append, List.mem_singleton] at mem
    rcases mem with old | rfl
    · intro kept
      have apart : en.touchId ≠ touchId :=
        fun same => ne absent en old (Prod.ext (alone.mine en old) same)
      show (alone'.getPoint en.touchId).isSome = true
      rw [others _ apart]
      exact alone.backed en old kept
    · exact backed
  · intro other
    simp only [findTouchPoint, pushPoint, sharedPoints, soloPoints, List.find?_append] at fresh absent ⊢
    by_cases same : other = touchId
    · subst same
      rw [fresh, absent]
      have matched : ∀ mode, isPoint d other ⟨d, other, mode, x, y⟩ = true := fun _ => by simp [isPoint]
      simp only [List.find?_cons, matched, Option.none_or]
      exact .both rfl rfl native
    · have apart : ∀ mode, isPoint d other ⟨d, touchId, mode, x, y⟩ = false :=
        fun _ => by simp [isPoint, Ne.symm same]
      simp only [List.find?_cons, apart, List.find?_nil, Option.or_none]
      show Matches (alone'.getPoint other) _ _
      rw [others other same]
      exact alone.entries other

theorem Alone.seat (seat : SeatAlone d entered alone') (sharedPoints : entered.touchPoints = shared.touchPoints)
    (soloPoints : alone'.touchPoints = solo.touchPoints)
    (present : ∀ touchId, (alone'.getPoint touchId).isSome = (solo.getPoint touchId).isSome) :
    Alone d entered alone' := by
  refine ⟨seat, ?_, ?_, ?_, ?_, ?_⟩
  · rw [sharedPoints]
    exact alone.sharedDistinct
  · rw [soloPoints]
    exact alone.soloDistinct
  · rw [soloPoints]
    exact alone.mine
  · intro en mem native
    rw [soloPoints] at mem
    rw [present]
    exact alone.backed en mem native
  · intro touchId
    have matched := alone.entries touchId
    simp only [findTouchPoint, sharedPoints, soloPoints] at matched ⊢
    generalize shared.touchPoints.find? (isPoint d touchId) = en at matched ⊢
    generalize solo.touchPoints.find? (isPoint d touchId) = entryAlone at matched ⊢
    cases matched with
    | none => exact .none
    | both first second native => exact .both first second native
    | stale native gone =>
      refine .stale native ?_
      have none := present touchId
      rw [gone] at none
      simpa using none

theorem Alone.move (i : Int) (x y : Rat) : Alone d
      { shared with touchPoints := update (isPoint d i) (·.moveTo x y) shared.touchPoints }
      { solo with touchPoints := update (isPoint d i) (·.moveTo x y) solo.touchPoints } := by
  refine ⟨⟨alone.points, alone.received⟩, ?_, ?_, ?_, ?_, ?_⟩
  · rw [map_update (by intro _; rfl)]
    exact alone.sharedDistinct
  · rw [map_update (by intro _; rfl)]
    exact alone.soloDistinct
  · intro en mem
    obtain ⟨old, listed, rfl | rfl⟩ := mem_update mem
    · exact alone.mine _ listed
    · exact alone.mine old listed
  · intro en mem native
    obtain ⟨old, listed, rfl | rfl⟩ := mem_update mem
    · exact alone.backed _ listed native
    · exact alone.backed old listed native
  · intro other
    show Matches (solo.getPoint other) _ _
    have matched := alone.entries other
    unfold findTouchPoint at matched ⊢
    by_cases same : other = i
    · subst same
      rw [find?_update (by intro _; rfl), find?_update (by intro _; rfl)]
      generalize shared.touchPoints.find? (isPoint d other) = en at matched ⊢
      generalize solo.touchPoints.find? (isPoint d other) = entryAlone at matched ⊢
      cases matched with
      | none => exact .none
      | both _ _ native => exact .both rfl rfl native
      | stale native gone => exact .stale native gone
    · have apart : ∀ point, isPoint d i point = true → isPoint d other point = false := by
        intro point found
        have id := (Bool.and_eq_true_iff.mp found).2
        rw [beq_iff_eq] at id
        simp [isPoint, id, Ne.symm same]
      rw [find?_update_of_not apart (by intro _; rfl), find?_update_of_not apart (by intro _; rfl)]
      exact matched

theorem alone_onTouchDown (hit : TouchHit) (fresh : shared.findTouchPoint d touchId = none) :
    Alone d (shared.onTouchDown d touchId hit) (solo.onTouchDown d touchId hit) := by
  -- an overlay takes the touch, or the pointer does, in each run in its own way
  have aside : ∀ {entered alone' : TouchState} {mode modeAlone : TouchPointMode}, SeatAlone d entered alone' →
      entered.touchPoints = shared.touchPoints → alone'.touchPoints = solo.touchPoints →
      alone'.seatPoints = solo.seatPoints → mode ≠ .native → modeAlone ≠ .native →
      Alone d (entered.pushPoint d touchId mode hit.x hit.y) (alone'.pushPoint d touchId modeAlone hit.x hit.y) := by
    intro entered alone' mode modeAlone seat sharedPoints soloPoints same plain plainAlone
    refine alone.push seat sharedPoints soloPoints fresh (iff_of_false plain plainAlone)
      (fun native => absurd native plainAlone) (fun other _ => ?_) hit.x hit.y
    unfold getPoint
    rw [same]
  have seat := alone.toSeatAlone
  unfold onTouchDown
  split
  · exact aside seat rfl rfl rfl (by decide) (by decide)
  · split
    · exact aside seat rfl rfl rfl (by decide) (by decide)
    · split
      · exact aside seat rfl rfl rfl (by decide) (by decide)
      · split
        · rename_i target _
          refine alone.push (seat.notifyDown rfl) rfl rfl fresh Iff.rfl (fun _ => ?_) (fun other ne => ?_) hit.x hit.y
          · simp [getPoint, notifyDown, tell]
          · simp [getPoint, notifyDown, tell, Ne.symm ne]
        · split
          · split
            · exact aside seat rfl rfl rfl (by decide) (by decide)
            · exact aside ⟨seat.points, seat.received⟩ rfl rfl rfl (by decide) (by decide)
          · split
            · exact aside ⟨seat.points, seat.received⟩ rfl rfl rfl (by decide) (by decide)
            · exact aside ⟨seat.points, seat.received⟩ rfl rfl rfl (by decide) (by decide)

omit alone in
theorem getPoint_notifyMotion (s : TouchState) (i other : Int) (sx sy : Rat) :
    ((s.notifyMotion i sx sy).getPoint other).isSome = (s.getPoint other).isSome := by
  unfold notifyMotion
  split
  · rfl
  · unfold getPoint tell
    by_cases same : other = i
    · subst same
      rw [find?_update (by intro _; rfl), Option.isSome_map]
    · rw [find?_update_of_not ?_ (by intro _; rfl)]
      intro point found
      rw [beq_iff_eq] at found
      simp [found, Ne.symm same]

/-- How the two runs may know a finger: not at all, in the shared run alone when its
point is gone from the seat, or both. -/
theorem Alone.known (i : Int) (own : shared.isNative d i = true → shared.findsOwn d i = true) :
    shared.findTouchPoint d i = none ∧ solo.findTouchPoint d i = none ∨
    (∃ en, shared.findTouchPoint d i = some en ∧ solo.findTouchPoint d i = none ∧
      en.mode = .native ∧ shared.getPoint i = none) ∨
    ∃ en entryAlone, shared.findTouchPoint d i = some en ∧
      solo.findTouchPoint d i = some entryAlone ∧ en.lastX = entryAlone.lastX ∧
      en.lastY = entryAlone.lastY ∧ (en.mode = .native ↔ entryAlone.mode = .native) := by
  have matched := alone.entries i
  unfold isNative at own
  generalize shared.findTouchPoint d i = found at matched own ⊢
  generalize solo.findTouchPoint d i = there at matched ⊢
  cases matched with
  | none => exact .inl ⟨rfl, rfl⟩
  | @stale en native gone =>
    refine .inr (.inl ⟨en, rfl, rfl, native, ?_⟩)
    rw [← alone.getPoint (own (by simp [native]))]
    exact gone
  | @both en entryAlone sameX sameY native => exact .inr (.inr ⟨en, entryAlone, rfl, rfl, sameX, sameY, native⟩)

theorem alone_onTouchMotion (x y sc : Rat) (safe : shared.touchSafe d (.motion touchId x y sc) = true) :
    Alone d (shared.onTouchMotion d touchId x y sc) (solo.onTouchMotion d touchId x y sc) := by
  have moved := alone.move touchId x y
  have own := findsOwn_of_safe safe
  unfold onTouchMotion
  obtain ⟨found, there⟩ | ⟨en, found, there, native, none⟩ | ⟨en, entryAlone, found, there, sameX, sameY, native⟩ :=
    alone.known touchId own
  · rw [found, there]
    exact alone
  · -- the seat has no point of this finger any more
    rw [update_of_none there] at moved
    simp only [found, there, native, none, if_true]
    exact moved
  · rw [found, there]
    dsimp only
    by_cases seatTold : en.mode = .native
    · have own := own (isNative_iff.mpr ⟨en, found, seatTold⟩)
      rw [if_pos seatTold, if_pos (native.mp seatTold), alone.getPoint own]
      split
      · exact moved
      · rw [sameX, sameY]
        refine moved.seat (moved.notifyMotion own _ _) ?_ ?_ fun other => ?_
        · exact (seatOnly_notifyMotion _ touchId _ _).1
        · exact (seatOnly_notifyMotion _ touchId _ _).1
        · exact getPoint_notifyMotion _ touchId other _ _
    · rw [if_neg seatTold, if_neg fun told => seatTold (native.mpr told)]
      exact moved

omit alone in
theorem getPoint_notifyUp (s : TouchState) (ne : other ≠ touchId) :
    (s.notifyUp touchId).getPoint other = s.getPoint other := by
  unfold notifyUp
  split
  · rfl
  · refine find?_eraseP_of_not fun point found => ?_
    rw [beq_iff_eq] at found
    simp [found, Ne.symm ne]

omit alone in
theorem findTouchPoint_isPoint (found : s.findTouchPoint touch touchId = some point) :
    point.touch = touch ∧ point.touchId = touchId :=
  Prod.mk.injEq .. ▸ isPoint_iff.mp (List.find?_some found)

theorem Alone.lift (seat : SeatAlone d ended alone') (sharedPoints : ended.touchPoints = shared.touchPoints)
    (soloPoints : alone'.touchPoints = solo.touchPoints)
    (others : ∀ other, other ≠ touchId → alone'.getPoint other = solo.getPoint other) :
    Alone d { ended with touchPoints := ended.touchPoints.filter (!isPoint d touchId ·) }
      { alone' with touchPoints := alone'.touchPoints.filter (!isPoint d touchId ·) } := by
  refine alone.leave seat sharedPoints soloPoints _ _ (fun other => ?_) fun en mem kept native => ?_
  · have lifted : ∀ s : TouchState, (s.findTouchPoint d other).filter (!isPoint d touchId ·) =
        if other = touchId then none else s.findTouchPoint d other := by
      intro s
      cases found : s.findTouchPoint d other with
      | none => split <;> rfl
      | some =>
        obtain ⟨mine, id⟩ := findTouchPoint_isPoint found
        by_cases same : other = touchId
        · rw [if_pos same, Option.filter_some_neg (by simp [isPoint, mine, id, same])]
        · rw [if_neg same, Option.filter_some_pos (by simp [isPoint, id, same])]
    rw [lifted, lifted]
    by_cases same : other = touchId
    · rw [if_pos same, if_pos same]
      exact .none
    · rw [if_neg same, if_neg same, others other same]
      exact alone.entries other
  · have ne : en.touchId ≠ touchId := by
      intro same
      simp [isPoint, alone.mine en mem, same] at kept
    rw [others _ ne]
    exact alone.backed en mem native

end

structure Silent (state ended : TouchState) : Prop where
  table : ended.touchPoints = state.touchPoints
  points : ended.seatPoints = state.seatPoints
  received : ended.received = state.received

theorem Silent.getPoint (silent : Silent s ended) (other : Int) : ended.getPoint other = s.getPoint other := by
  unfold TouchState.getPoint
  rw [silent.points]

theorem Alone.silent (alone : Alone d shared solo) (left : Silent shared ended) (right : Silent solo alone') :
    SeatAlone d ended alone' := by
  refine ⟨?_, ?_⟩
  · rw [left.points, right.points]
    exact alone.points
  · rw [left.received, right.received]
    exact alone.received

theorem silent_send (s : TouchState) (i : Int) {mode : TouchPointMode} (plain : mode ≠ .native) :
    Silent s (s.sendUp i mode) ∧ Silent s (s.sendCancel i mode) := by
  cases mode with
  | native => exact absurd rfl plain
  | _ => exact ⟨⟨rfl, rfl, rfl⟩, ⟨rfl, rfl, rfl⟩⟩

theorem alone_onTouchUp (alone : Alone d shared solo) (safe : shared.touchSafe d (.up touchId) = true) :
    Alone d (shared.onTouchUp d touchId) (solo.onTouchUp d touchId) := by
  have own := findsOwn_of_safe safe
  unfold onTouchUp
  obtain ⟨found, there⟩ | ⟨en, found, there, native, none⟩ | ⟨en, entryAlone, found, there, _, _, native⟩ :=
    alone.known touchId own
  · rw [found, there]
    exact alone
  · have unchanged : solo.touchPoints.filter (!isPoint d touchId ·) = solo.touchPoints :=
      List.filter_eq_self.mpr fun point mem => by simpa using List.find?_eq_none.mp there point mem
    have lifted := alone.lift alone.toSeatAlone rfl rfl fun other (_ : other ≠ touchId) => rfl
    rw [unchanged] at lifted
    simp only [found, there, native, sendUp, notifyUp, none]
    exact lifted
  · rw [found, there]
    dsimp only
    by_cases seatTold : en.mode = .native
    · have own := own (isNative_iff.mpr ⟨en, found, seatTold⟩)
      rw [seatTold, native.mp seatTold]
      refine alone.lift (alone.notifyUp own) ?_ ?_ fun other ne => ?_
      · exact (seatOnly_notifyUp shared touchId).1
      · exact (seatOnly_notifyUp solo touchId).1
      · exact getPoint_notifyUp solo ne
    · have left := (silent_send shared touchId seatTold).1
      have right := (silent_send solo touchId fun told => seatTold (native.mpr told)).1
      exact alone.lift (alone.silent left right) left.1 right.1 fun other _ => right.getPoint other

theorem leavesWith_other (ended : TouchState) {point : TouchPoint} (found : s.findTouchPoint d other = some point)
    (ne : other ≠ touchId) :
    ended.leavesWith d touchId point = (point.mode == .native && (ended.getPoint other).isNone) := by
  obtain ⟨mine, id⟩ := findTouchPoint_isPoint found
  simp [leavesWith, mine, id, ne]

theorem leavesWith_self (found : s.findTouchPoint d touchId = some point) :
    ended.leavesWith d touchId point = true := by
  obtain ⟨mine, id⟩ := findTouchPoint_isPoint found
  simp [leavesWith, mine, id]

theorem Alone.cancel (alone : Alone d shared solo) (i : Int) (seat : SeatAlone d ended alone')
    (sharedPoints : ended.touchPoints = shared.touchPoints) (soloPoints : alone'.touchPoints = solo.touchPoints)
    (fewer : ∀ other, solo.getPoint other = none → alone'.getPoint other = none) :
    Alone d { ended with touchPoints := ended.touchPoints.filter (!ended.leavesWith d i ·) }
      { alone' with touchPoints := alone'.touchPoints.filter (!alone'.leavesWith d i ·) } := by
  refine alone.leave seat sharedPoints soloPoints _ _ (fun other => ?_) fun en mem kept native => ?_
  · have matched := alone.entries other
    by_cases same : other = i
    · -- the cancelled finger leaves both tables
      have gone : ∀ s ended : TouchState, (s.findTouchPoint d other).filter (!ended.leavesWith d i ·) = none := by
        intro s ended
        subst same
        cases found : s.findTouchPoint d other with
        | none => rfl
        | some => rw [Option.filter_some_neg (by simp [leavesWith_self found])]
      rw [gone, gone]
      exact .none
    · cases found : shared.findTouchPoint d other with
      | none =>
        rw [found] at matched
        generalize solo.findTouchPoint d other = entryAlone at matched ⊢
        cases matched
        exact .none
      | some en =>
        have left := leavesWith_other ended found same
        rw [found] at matched
        cases there : solo.findTouchPoint d other with
        | none =>
          rw [there] at matched
          cases matched with
          | stale native gone =>
            rw [Option.filter_none]
            cases leaves : ended.leavesWith d i en with
            | true =>
              rw [Option.filter_some_neg (by simp [leaves])]
              exact .none
            | false =>
              rw [Option.filter_some_pos (by simp [leaves])]
              exact .stale native (fewer other gone)
        | some entryAlone =>
          have right := leavesWith_other alone' there same
          rw [there] at matched
          cases matched with
          | both sameX sameY native =>
            cases leaves : ended.leavesWith d i en with
            | true =>
              -- then the seat has no point for it in the device's own run either
              rw [Option.filter_some_neg (by simp [leaves])]
              rw [left, Bool.and_eq_true, beq_iff_eq, Option.isNone_iff_eq_none] at leaves
              have gone : alone'.leavesWith d i entryAlone = true := by
                simp [right, native.mp leaves.1, seat.getPoint_none leaves.2]
              rw [Option.filter_some_neg (by simp [gone])]
              exact .none
            | false =>
              rw [Option.filter_some_pos (by simp [leaves])]
              cases gone : alone'.leavesWith d i entryAlone with
              | false =>
                rw [Option.filter_some_pos (by simp [gone])]
                exact .both sameX sameY native
              | true =>
                -- in the shared run another device's point with this identifier keeps the entry
                rw [Option.filter_some_neg (by simp [gone])]
                rw [right, Bool.and_eq_true, beq_iff_eq] at gone
                exact .stale (native.mpr gone.1) (Option.isNone_iff_eq_none.mp gone.2)
  · have stays : alone'.leavesWith d i en = false := by simpa using kept
    simp only [leavesWith, alone.mine en mem, native, beq_self_eq_true, Bool.true_and, Bool.or_eq_false_iff] at stays
    simpa using stays.2

theorem getPoint_notifyCancel (s : TouchState) (cl : Nat) (absent : s.getPoint other = none) :
    (s.notifyCancel cl).getPoint other = none :=
  find?_filter_of_none absent

theorem alone_onTouchCancel (alone : Alone d shared solo) (safe : shared.touchSafe d (.cancel touchId) = true) :
    Alone d (shared.onTouchCancel d touchId) (solo.onTouchCancel d touchId) := by
  have own : shared.isNative d touchId = true → shared.findsOwn d touchId = true := by
    intro told
    obtain ⟨en, found, native⟩ := isNative_iff.mp told
    exact (cancelsOwn_of_native found native safe).1
  unfold onTouchCancel
  obtain ⟨found, there⟩ | ⟨en, found, there, native, none⟩ | ⟨en, entryAlone, found, there, _, _, native⟩ :=
    alone.known touchId own
  · rw [found, there]
    exact alone
  · -- alone, the device has no entry without a point
    have unchanged : solo.touchPoints.filter (!solo.leavesWith d touchId ·) = solo.touchPoints := by
      refine List.filter_eq_self.mpr fun point mem => ?_
      have differs : point.touchId ≠ touchId := fun same =>
        List.find?_eq_none.mp there point mem (isPoint_iff.mpr (Prod.ext (alone.mine point mem) same))
      cases mode : point.mode with
      | native => simp [leavesWith, differs, alone.backed point mem mode]
      | _ => simp [leavesWith, differs, mode]
    have cancelled := alone.cancel touchId alone.toSeatAlone rfl rfl fun _ absent => absent
    rw [unchanged] at cancelled
    simp only [found, there, native, sendCancel, none]
    exact cancelled
  · rw [found, there]
    dsimp only
    by_cases seatTold : en.mode = .native
    · rw [seatTold, native.mp seatTold]
      unfold sendCancel
      dsimp only
      rw [alone.getPoint (own (isNative_iff.mpr ⟨en, found, seatTold⟩))]
      split
      · exact alone.cancel touchId alone.toSeatAlone rfl rfl fun _ absent => absent
      · exact alone.cancel touchId (alone.notifyCancel _) rfl rfl fun _ absent => getPoint_notifyCancel solo _ absent
    · have left := (silent_send shared touchId seatTold).2
      have right := (silent_send solo touchId fun told => seatTold (native.mpr told)).2
      exact alone.cancel touchId (alone.silent left right) left.1 right.1 fun other absent =>
        (right.getPoint other).trans absent

theorem alone_onTouch (alone : Alone d shared solo) (e : TouchEvent) (safe : shared.touchSafe d e = true) :
    Alone d (shared.onTouch d e) (solo.onTouch d e) := by
  cases e with
  | down touchId hit => exact alone_onTouchDown alone hit (Option.isNone_iff_eq_none.mp safe)
  | motion touchId x y sc => exact alone_onTouchMotion alone x y sc safe
  | up => exact alone_onTouchUp alone safe
  | cancel => exact alone_onTouchCancel alone safe

end

end TouchState
end FlakeWM.Input
