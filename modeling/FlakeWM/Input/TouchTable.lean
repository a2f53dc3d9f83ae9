import FlakeWM.Input.Touch
import Mathlib.Data.List.Nodup

/-! The compositor's table of touch points.

At most one point stands in for the pointer. Its press is made up when it is
entered and its release when it leaves, in whichever way it leaves. -/

set_option autoImplicit false

namespace FlakeWM.Input

def TouchPoint.finger (point : TouchPoint) : Nat × Int := (point.touch, point.touchId)

def fingersAfter (fingers : List (Nat × Int)) : TouchState.Event → List (Nat × Int)
  | .touch touch (.down touchId _) => (touch, touchId) :: fingers
  | .touch touch (.up touchId) | .touch touch (.cancel touchId) => fingers.filter (· != (touch, touchId))
  | .destroyTouch touch => fingers.filter (·.1 != touch)
  | _ => fingers

def freshDown (fingers : List (Nat × Int)) : TouchState.Event → Prop
  | .touch touch (.down touchId _) => (touch, touchId) ∉ fingers
  | _ => True

instance : (fingers : List (Nat × Int)) → (event : TouchState.Event) → Decidable (freshDown fingers event)
  | fingers, .touch touch (.down touchId _) => inferInstanceAs (Decidable ((touch, touchId) ∉ fingers))
  | _, .touch _ (.motion ..) | _, .touch _ (.up _) | _, .touch _ (.cancel _) | _, .addTouch _ | _, .destroyTouch _
  | _, .lockRequest _ | _, .clientGone _ => .isTrue trivial

def WellFormedTouches (events : List TouchState.Event) : Prop := Transition.Along fingersAfter freshDown [] events

instance (events : List TouchState.Event) : Decidable (WellFormedTouches events) :=
  inferInstanceAs (Decidable (Transition.Along fingersAfter freshDown [] events))

namespace TouchState

open TouchPoint

def pointerPoints (state : TouchState) : Nat := state.touchPoints.countP (·.mode == .pointer)

/-- One entry at most for each finger, one at most for the pointer, and a press for
that one which has no release yet. -/
def TableOk (state : TouchState) : Prop :=
  (∀ touch touchId, state.touchPoints.countP (isPoint touch touchId) ≤ 1) ∧ state.pointerPoints ≤ 1 ∧
    (state.presses : Int) - state.releases = state.pointerPoints

/-- What holds while the given fingers are down. -/
structure Balanced (fingers : List (Nat × Int)) (state : TouchState) : Prop where
  distinct : (state.touchPoints.map TouchPoint.finger).Nodup
  held : ∀ point ∈ state.touchPoints, point.finger ∈ fingers
  single : state.pointerPoints ≤ 1
  pressed : state.presses = state.releases + state.pointerPoints

section

variable {fingers : List (Nat × Int)} {s next : TouchState}

theorem isPoint_iff {touch : Nat} {i : Int} {point : TouchPoint} :
    isPoint touch i point = true ↔ point.finger = (touch, i) := by
  simp [isPoint, finger]

theorem Balanced.tableOk (balanced : Balanced fingers s) : s.TableOk := by
  refine ⟨fun touch i => ?_, balanced.single, ?_⟩
  · have once := List.nodup_iff_count_le_one.mp balanced.distinct (touch, i)
    rw [List.count, List.countP_map] at once
    refine le_of_eq_of_le (List.countP_congr fun point _ => ?_) once
    simp [isPoint, finger]
  · have pressed := balanced.pressed
    omega

def SeatOnly (state next : TouchState) : Prop :=
  next.touchPoints = state.touchPoints ∧ next.presses = state.presses ∧ next.releases = state.releases

theorem seatOnly_notifyUp (s : TouchState) (i : Int) : SeatOnly s (s.notifyUp i) := by
  unfold notifyUp
  split <;> exact ⟨rfl, rfl, rfl⟩

theorem seatOnly_notifyMotion (s : TouchState) (i : Int) (sx sy : Rat) : SeatOnly s (s.notifyMotion i sx sy) := by
  unfold notifyMotion
  split <;> exact ⟨rfl, rfl, rfl⟩

theorem seatOnly_notifyCancel (clients : List Nat) (s : TouchState) : SeatOnly s (clients.foldl notifyCancel s) := by
  induction clients generalizing s with
  | nil => exact ⟨rfl, rfl, rfl⟩
  | cons cl rest ih => exact ih (s.notifyCancel cl)

theorem Balanced.seatOnly (balanced : Balanced fingers s) (seat : SeatOnly s next) : Balanced fingers next := by
  obtain ⟨points, presses, releases⟩ := seat
  have count : next.pointerPoints = s.pointerPoints := by rw [pointerPoints, points]; rfl
  refine ⟨?_, ?_, ?_, ?_⟩
  · rw [points]
    exact balanced.distinct
  · rw [points]
    exact balanced.held
  · rw [count]
    exact balanced.single
  · rw [count, presses, releases]
    exact balanced.pressed

theorem nodup_push {points : List TouchPoint} (distinct : (points.map finger).Nodup) {point : TouchPoint}
    (fresh : ∀ old ∈ points, old.finger ≠ point.finger) : ((points ++ [point]).map finger).Nodup := by
  rw [List.map_append, List.nodup_append]
  refine ⟨distinct, by simp, ?_⟩
  intro finger mem other last same
  obtain ⟨old, listed, rfl⟩ := List.mem_map.mp mem
  rw [List.map_singleton, List.mem_singleton] at last
  exact fresh old listed (same.trans last)

theorem Balanced.push (balanced : Balanced fingers s) (point : TouchPoint) (fresh : point.finger ∉ fingers)
    (free : point.mode = .pointer → s.pointerPoints = 0)
    (points : next.touchPoints = s.touchPoints ++ [point])
    (presses : next.presses = s.presses + if point.mode = .pointer then 1 else 0)
    (releases : next.releases = s.releases) : Balanced (point.finger :: fingers) next := by
  have count : next.pointerPoints = s.pointerPoints + if point.mode = .pointer then 1 else 0 := by
    rw [pointerPoints, points, List.countP_append, pointerPoints]
    simp [List.countP_cons]
  refine ⟨?_, ?_, ?_, ?_⟩
  · rw [points]
    exact nodup_push balanced.distinct fun old listed same => fresh (same ▸ balanced.held old listed)
  · intro other mem
    rw [points, List.mem_append, List.mem_singleton] at mem
    rcases mem with old | rfl
    · exact .tail _ (balanced.held other old)
    · exact .head _
  · rw [count]
    have single := balanced.single
    split
    · rename_i ptr
      have none := free ptr
      omega
    · exact single
  · rw [count, presses, releases, balanced.pressed]
    omega

theorem Balanced.drop (balanced : Balanced fingers s) (keep : TouchPoint → Bool) (released : Bool)
    {remaining : List (Nat × Int)} (points : next.touchPoints = s.touchPoints.filter keep)
    (presses : next.presses = s.presses)
    (releases : next.releases = s.releases + if released then 1 else 0)
    (exactly : released = true ↔ ∃ point ∈ s.touchPoints, keep point = false ∧ point.mode = .pointer)
    (held : ∀ point ∈ s.touchPoints, keep point = true → point.finger ∈ remaining) : Balanced remaining next := by
  have total : s.pointerPoints =
      next.pointerPoints + (s.touchPoints.filter fun point => !keep point).countP (·.mode == .pointer) := by
    rw [pointerPoints, pointerPoints, points]
    exact List.countP_eq_countP_filter_add ..
  have single := balanced.single
  -- one at most was there, so at most one can leave
  have dropped : (s.touchPoints.filter fun point => !keep point).countP (·.mode == .pointer) =
      if released then 1 else 0 := by
    split
    · rename_i one
      obtain ⟨point, mem, gone, ptr⟩ := exactly.mp one
      have positive : 0 < (s.touchPoints.filter fun point => !keep point).countP (·.mode == .pointer) :=
        List.countP_pos_iff.mpr ⟨point, List.mem_filter.mpr ⟨mem, by simp [gone]⟩, by simp [ptr]⟩
      omega
    · rename_i none
      rw [List.countP_eq_zero]
      intro point mem
      obtain ⟨mem, gone⟩ := List.mem_filter.mp mem
      intro ptr
      exact none (exactly.mpr ⟨point, mem, by simpa using gone, by simpa using ptr⟩)
  refine ⟨?_, ?_, by omega, ?_⟩
  · rw [points]
    exact balanced.distinct.sublist ((List.filter_sublist (p := keep)).map _)
  · intro point mem
    rw [points] at mem
    obtain ⟨mem, kept⟩ := List.mem_filter.mp mem
    exact held point mem kept
  · rw [presses, releases, balanced.pressed, total, dropped]
    omega

/-- The entry found for a finger is the only one. -/
theorem Balanced.only (balanced : Balanced fingers s) {touch : Nat} {i : Int} {point other : TouchPoint}
    (found : s.findTouchPoint touch i = some point) (mem : other ∈ s.touchPoints)
    (same : isPoint touch i other = true) : other = point := by
  have matched : isPoint touch i point = true := List.find?_some found
  refine List.inj_on_of_nodup_map balanced.distinct mem (List.mem_of_find?_eq_some found) ?_
  rw [isPoint_iff.mp same, isPoint_iff.mp matched]

section

variable (balanced : Balanced fingers s)

include balanced

theorem balanced_onTouchDown {touch : Nat} {i : Int} (fresh : (touch, i) ∉ fingers) (hit : TouchHit) :
    Balanced ((touch, i) :: fingers) (s.onTouchDown touch i hit) := by
  have plain : ∀ {entered : TouchState} {mode : TouchPointMode}, SeatOnly s entered → mode ≠ .pointer →
      Balanced ((touch, i) :: fingers) (entered.pushPoint touch i mode hit.x hit.y) := by
    intro entered mode seat apart
    refine (balanced.seatOnly seat).push ⟨touch, i, mode, hit.x, hit.y⟩ fresh (fun ptr => absurd ptr apart) rfl ?_ rfl
    rw [if_neg apart]
    rfl
  have same : SeatOnly s s := ⟨rfl, rfl, rfl⟩
  unfold onTouchDown
  split
  · exact plain same (by decide)
  · split
    · exact plain same (by decide)
    · split
      · exact plain same (by decide)
      · split
        · exact plain ⟨rfl, rfl, rfl⟩ (by decide)
        · split
          · exact plain same (by decide)
          · rename_i free
            refine balanced.push ⟨touch, i, .pointer, hit.x, hit.y⟩ fresh (fun _ => ?_) rfl rfl rfl
            rw [pointerPoints, List.countP_eq_zero]
            simpa [pointerInUse] using free

theorem balanced_onTouchMotion (touch : Nat) (i : Int) (x y sc : Rat) :
    Balanced fingers (s.onTouchMotion touch i x y sc) := by
  unfold onTouchMotion
  split
  · exact balanced
  · have moved : Balanced fingers { s with
        touchPoints := FirstMatch.update (isPoint touch i) (·.moveTo x y) s.touchPoints } := by
      have modes : ∀ points : List TouchPoint, points.countP (·.mode == .pointer) =
          (points.map (·.mode)).countP (· == .pointer) := fun points => by rw [List.countP_map]; rfl
      have count : pointerPoints { s with
          touchPoints := FirstMatch.update (isPoint touch i) (·.moveTo x y) s.touchPoints } =
          s.pointerPoints := by
        rw [pointerPoints, pointerPoints, modes, modes]
        exact congrArg _ (FirstMatch.map_update fun _ => rfl)
      have fingers_ : (FirstMatch.update (isPoint touch i) (·.moveTo x y) s.touchPoints).map
          finger = s.touchPoints.map finger := FirstMatch.map_update fun _ => rfl
      refine ⟨?_, ?_, ?_, ?_⟩
      · dsimp only
        rw [fingers_]
        exact balanced.distinct
      · intro point mem
        have listed : point.finger ∈ s.touchPoints.map finger := by
          rw [← fingers_]
          exact List.mem_map_of_mem mem
        obtain ⟨old, there, same⟩ := List.mem_map.mp listed
        rw [← same]
        exact balanced.held old there
      · rw [count]
        exact balanced.single
      · rw [count]
        exact balanced.pressed
    split
    · split
      · exact moved
      · exact moved.seatOnly (seatOnly_notifyMotion _ i _ _)
    · exact moved

theorem Balanced.lift {touch : Nat} {i : Int} {point : TouchPoint}
    (found : s.findTouchPoint touch i = some point) (keep : TouchPoint → Bool)
    (leaves : ∀ other, isPoint touch i other = true → keep other = false)
    (stays : ∀ other, other.mode = .pointer → isPoint touch i other = false → keep other = true)
    (points : next.touchPoints = s.touchPoints) (presses : next.presses = s.presses)
    (releases : next.releases = s.releases + if point.mode == .pointer then 1 else 0) :
    Balanced (fingers.filter (· != (touch, i))) { next with touchPoints := next.touchPoints.filter keep } := by
  have matched : isPoint touch i point = true := List.find?_some found
  refine balanced.drop keep (point.mode == .pointer) (congrArg _ points) presses releases ⟨fun ptr => ?_, ?_⟩
    fun other mem kept => ?_
  · exact ⟨point, List.mem_of_find?_eq_some found, leaves point matched, by simpa using ptr⟩
  · rintro ⟨other, mem, gone, ptr⟩
    by_cases same : isPoint touch i other = true
    · rw [← balanced.only found mem same, ptr]
      rfl
    · rw [stays other ptr (by simpa using same)] at gone
      cases gone
  · refine List.mem_filter.mpr ⟨balanced.held other mem, ?_⟩
    rw [bne_iff_ne]
    intro same
    rw [leaves other (isPoint_iff.mpr same)] at kept
    cases kept

theorem Balanced.absent {touch : Nat} {i : Int} (none : s.findTouchPoint touch i = none) :
    Balanced (fingers.filter (· != (touch, i))) s := by
  refine { balanced with held := fun point mem => List.mem_filter.mpr ⟨balanced.held point mem, ?_⟩ }
  rw [bne_iff_ne]
  intro same
  exact List.find?_eq_none.mp none point mem (isPoint_iff.mpr same)

theorem balanced_onTouchUp (touch : Nat) (i : Int) :
    Balanced (fingers.filter (· != (touch, i))) (s.onTouchUp touch i) := by
  unfold onTouchUp
  split
  · rename_i none
    exact balanced.absent none
  · rename_i point found
    have leaves : ∀ other, isPoint touch i other = true → (!isPoint touch i other) = false :=
      fun other same => by rw [same]; rfl
    have stays : ∀ other, isPoint touch i other = false → (!isPoint touch i other) = true :=
      fun other apart => by rw [apart]; rfl
    cases mode : point.mode with
    | native =>
      obtain ⟨points, presses, releases⟩ := seatOnly_notifyUp s i
      exact balanced.lift found _ leaves (fun other _ => stays other) points presses (by simp [releases, mode, sendUp])
    | _ => exact balanced.lift found _ leaves (fun other _ => stays other) rfl rfl (by simp [mode, sendUp, sendPointerTouchButton])

theorem balanced_onTouchCancel (touch : Nat) (i : Int) :
    Balanced (fingers.filter (· != (touch, i))) (s.onTouchCancel touch i) := by
  unfold onTouchCancel
  split
  · rename_i none
    exact balanced.absent none
  · rename_i point found
    have leaves : ∀ (ended : TouchState) other, isPoint touch i other = true → (!ended.leavesWith touch i other) = false := by
      intro ended other same
      obtain ⟨d, id⟩ := Bool.and_eq_true_iff.mp same
      simp [leavesWith, d, id]
    have stays : ∀ (ended : TouchState) other, other.mode = .pointer → isPoint touch i other = false →
        (!ended.leavesWith touch i other) = true := by
      intro ended other ptr apart
      simp only [isPoint, Bool.and_eq_false_iff] at apart
      rcases apart with d | id
      · simp [leavesWith, d]
      · simp [leavesWith, id, ptr]
    dsimp only
    cases mode : point.mode with
    | native =>
      unfold sendCancel
      dsimp only
      split
      · exact balanced.lift found _ (leaves _) (stays _) rfl rfl (by simp [mode])
      · exact balanced.lift found _ (leaves _) (stays _) rfl rfl (by simp [mode, notifyCancel])
    | _ =>
      exact balanced.lift found _ (leaves _) (stays _) rfl rfl (by simp [mode, sendCancel, sendPointerTouchButton])

theorem balanced_cancelTouchDevice (touch : Nat) :
    Balanced (fingers.filter (·.1 != touch)) (s.cancelTouchDevice touch) := by
  obtain ⟨points, presses, releases⟩ := seatOnly_notifyCancel (s.touchClients touch) s
  have kept : ∀ point ∈ s.touchPoints, (point.touch != touch) = true → point.finger ∈ fingers.filter (·.1 != touch) :=
    fun point mem apart => List.mem_filter.mpr ⟨balanced.held point mem, apart⟩
  have exactly : (s.touchPoints.any fun point => point.touch == touch && point.mode == .pointer) = true ↔
      ∃ point ∈ s.touchPoints, (point.touch != touch) = false ∧ point.mode = .pointer := by
    simp [List.any_eq_true]
  unfold cancelTouchDevice
  split
  · rename_i ptr
    refine balanced.drop (·.touch != touch) true ?_ presses ?_ ⟨fun _ => exactly.mp ptr, fun _ => rfl⟩ kept
    · exact congrArg _ points
    · exact congrArg (· + 1) releases
  · rename_i none
    refine balanced.drop (·.touch != touch) false ?_ presses releases ⟨fun one => (nomatch one), fun some_ => ?_⟩ kept
    · exact congrArg _ points
    · exact absurd (exactly.mpr some_) none

end

theorem Balanced.forget {keep : Nat × Int → Bool} (balanced : Balanced (fingers.filter keep) s) : Balanced fingers s :=
  { balanced with held := fun point mem => List.mem_of_mem_filter (balanced.held point mem) }

theorem balanced_lock (balanced : Balanced fingers s) (devices : List Nat) :
    Balanced fingers (devices.foldl cancelTouchDevice s) := by
  induction devices generalizing s with
  | nil => exact balanced
  | cons touch rest ih => exact ih (balanced_cancelTouchDevice balanced touch).forget

theorem balanced_step (s : TouchState) (e : Event) (balanced : Balanced fingers s)
    (fresh : freshDown fingers e) : Balanced (fingersAfter fingers e) (s.step e) := by
  cases e with
  | touch touch e =>
    cases e with
    | down i hit => exact balanced_onTouchDown balanced fresh hit
    | motion i x y sc => exact balanced_onTouchMotion balanced touch i x y sc
    | up i => exact balanced_onTouchUp balanced touch i
    | cancel i => exact balanced_onTouchCancel balanced touch i
  | destroyTouch touch => exact (balanced_cancelTouchDevice balanced touch).seatOnly ⟨rfl, rfl, rfl⟩
  | lockRequest =>
    unfold step
    dsimp only
    split
    · exact balanced
    · exact balanced_lock balanced s.touchDevices
  | addTouch | clientGone => exact balanced.seatOnly ⟨rfl, rfl, rfl⟩

theorem balanced_initial : Balanced [] initial where
  distinct := List.nodup_nil
  held := fun _ mem => (nomatch mem)
  single := Nat.zero_le 1
  pressed := rfl

theorem balanced_run {events : List Event} (balanced : Balanced fingers s)
    (wellFormed : Transition.Along fingersAfter freshDown fingers events) :
    Transition.Throughout step TableOk s events := by
  induction events generalizing s fingers with
  | nil => exact balanced.tableOk
  | cons e rest ih => exact ⟨balanced.tableOk, ih (balanced_step s e balanced wellFormed.1) wellFormed.2⟩

end

end TouchState

/-- Whatever the order of the events, as long as no finger goes down twice, the table
has one entry at most for each finger and one at most for the pointer, whose press
is the only one without a release. -/
theorem touch_table_balanced (events : List TouchState.Event) (wellFormed : WellFormedTouches events) :
    Transition.Throughout TouchState.step TouchState.TableOk TouchState.initial events :=
  TouchState.balanced_run TouchState.balanced_initial wellFormed

/-- Two devices touch with the same identifiers, one of them stands in for the
pointer until the session is locked, and then the other. -/
theorem touch_table_balanced_session :
    let bare : TouchHit := ⟨false, false, false, 5, 5, none⟩
    let events : List TouchState.Event := [.addTouch 0, .addTouch 1, .touch 0 (.down 0 bare), .touch 1 (.down 0 bare),
      .touch 0 (.motion 0 6 6 1), .lockRequest false, .touch 1 (.up 0), .touch 1 (.down 0 bare), .destroyTouch 0]
    (Transition.run TouchState.step TouchState.initial events).pointerPoints = 1 ∧
      Transition.Throughout TouchState.step TouchState.TableOk TouchState.initial events :=
  ⟨by decide +kernel, touch_table_balanced _ (by decide +kernel)⟩

end FlakeWM.Input
