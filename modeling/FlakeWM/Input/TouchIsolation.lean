import FlakeWM.Input.TouchAlone

/-! Touch devices that use the same identifiers.

What clients are told of one device's points is compared with a run in which that
device is the only one. A device may end or move the points of another. -/

set_option autoImplicit false

namespace FlakeWM.Input
namespace TouchState

open Transition

/-- A touch event of a device. -/
def touched (state : TouchState) (event : Nat × TouchEvent) : TouchState := state.onTouch event.1 event.2

def sequence (state : TouchState) (device : Nat) : List TouchReceipt :=
  state.received.filter (·.device == device)

def ofDevice (events : List (Nat × TouchEvent)) (device : Nat) : List (Nat × TouchEvent) :=
  events.filter (·.1 == device)

def freshTouch (state : TouchState) (touch : Nat) : TouchEvent → Bool
  | .down touchId _ => (state.findTouchPoint touch touchId).isNone
  | _ => true

section

variable {device touch : Nat} {i : Int} {shared solo s : TouchState}

theorem touchSafe_fresh {e : TouchEvent} (safe : s.touchSafe touch e = true) : s.freshTouch touch e = true := by
  cases e with
  | down => exact safe
  | _ => rfl

theorem not_findsOwn (misses : s.findsOwn touch i = false) :
    ∃ point, s.getPoint i = some point ∧ point.device ≠ touch := by
  simpa [findsOwn, Option.all_eq_false] using misses

theorem unsafe_received {e : TouchEvent} (fresh : s.freshTouch touch e = true) (harms : s.touchSafe touch e = false) :
    ∃ device, device ≠ touch ∧ (s.sequence device).length < ((s.onTouch touch e).sequence device).length := by
  have told : ∀ {next : TouchState} {receipts : List TouchReceipt} {receipt : TouchReceipt},
      next.received = s.received ++ receipts → receipt ∈ receipts → receipt.device ≠ touch →
      ∃ device, device ≠ touch ∧ (s.sequence device).length < (next.sequence device).length := by
    intro next receipts receipt received mem apart
    refine ⟨receipt.device, apart, ?_⟩
    have kept : receipt ∈ receipts.filter (·.device == receipt.device) := List.mem_filter.mpr ⟨mem, by simp⟩
    have some_ := List.length_pos_of_mem kept
    simp only [sequence, received, List.filter_append, List.length_append]
    omega
  cases e with
  | down i hit =>
    rw [show s.freshTouch touch (.down i hit) = s.touchSafe touch (.down i hit) from rfl, harms] at fresh
    cases fresh
  | motion i x y sc =>
    rw [touchSafe, Bool.or_eq_false_iff, Bool.not_eq_false'] at harms
    obtain ⟨en, found, native⟩ := isNative_iff.mp harms.1
    obtain ⟨point, there, apart⟩ := not_findsOwn harms.2
    have moved : ∀ points : List TouchPoint, getPoint { s with touchPoints := points } i = some point :=
      fun _ => there
    obtain ⟨notice, received⟩ : ∃ notice, (s.onTouch touch (.motion i x y sc)).received =
        s.received ++ [⟨point.device, point.touchId, point.client, notice⟩] := by
      simp only [onTouch, onTouchMotion, found, native, there, if_true, notifyMotion, moved]
      exact ⟨_, rfl⟩
    exact told received (List.mem_singleton.mpr rfl) apart
  | up i =>
    rw [touchSafe, Bool.or_eq_false_iff, Bool.not_eq_false'] at harms
    obtain ⟨en, found, native⟩ := isNative_iff.mp harms.1
    obtain ⟨point, there, apart⟩ := not_findsOwn harms.2
    have received : (s.onTouch touch (.up i)).received =
        s.received ++ [⟨point.device, point.touchId, point.client, .up⟩] := by
      simp only [onTouch, onTouchUp, found, native, sendUp, notifyUp, there]
      rfl
    exact told received (List.mem_singleton.mpr rfl) apart
  | cancel i =>
    rw [touchSafe, Bool.or_eq_false_iff, Bool.not_eq_false', Bool.and_eq_false_iff] at harms
    obtain ⟨en, found, native⟩ := isNative_iff.mp harms.1
    obtain ⟨point, there, hurt, mem, same, apart⟩ : ∃ point, s.getPoint i = some point ∧
        ∃ hurt ∈ s.seatPoints, hurt.client = point.client ∧ hurt.device ≠ touch := by
      rcases harms.2 with misses | reaches
      · obtain ⟨point, there, apart⟩ := not_findsOwn misses
        exact ⟨point, there, point, List.mem_of_find?_eq_some there, rfl, apart⟩
      · simpa [cancelsOwn, Option.all_eq_false] using reaches
    have received : (s.onTouch touch (.cancel i)).received = s.received ++
        (s.seatPoints.filter (·.client == point.client)).map fun point =>
          ⟨point.device, point.touchId, point.client, .cancel⟩ := by
      simp only [onTouch, onTouchCancel, found, native, sendCancel, there]
      rfl
    exact told received (List.mem_map_of_mem (List.mem_filter.mpr ⟨mem, beq_iff_eq.mpr same⟩)) apart

/-- What clients are told of each device is what they are told when it is alone. -/
def Isolated (events : List (Nat × TouchEvent)) : Prop :=
  ∀ device, sequence (Transition.run touched initial events) device =
    sequence (Transition.run touched initial (ofDevice events device)) device

theorem Alone.sequence (alone : Alone device shared solo) : shared.sequence device = solo.sequence device := by
  rw [TouchState.sequence, TouchState.sequence, alone.received, List.filter_filter]
  simp

theorem isolated_from {alone : Nat → TouchState} (matching : ∀ device, Alone device shared (alone device))
    (events : List (Nat × TouchEvent)) :
    (∀ first, first <+: events → ∀ device, sequence (run touched shared first) device =
        sequence (run touched (alone device) (ofDevice first device)) device) ∧
      Along touched (fun s e => s.freshTouch e.1 e.2 = true) shared events ↔
    Along touched (fun s e => s.touchSafe e.1 e.2 = true) shared events := by
  -- along the shared run, with every device's own run moving on beside it
  induction events generalizing shared alone with
  | nil =>
    refine iff_of_true ⟨fun first within device => ?_, trivial⟩ trivial
    rw [List.prefix_nil.mp within]
    exact (matching device).sequence
  | cons e rest ih =>
    obtain ⟨touch, e⟩ := e
    let alone' : Nat → TouchState := fun device =>
      if touch = device then touched (alone device) (touch, e) else alone device
    -- the device's own run takes the step if it is the device's
    have own : ∀ device, run touched (alone device) (ofDevice [(touch, e)] device) = alone' device := by
      intro device
      by_cases same : touch = device
      · simp [ofDevice, alone', same]
      · simp [ofDevice, alone', same]
    have later : ∀ first device, run touched (alone device) (ofDevice ((touch, e) :: first) device) =
        run touched (alone' device) (ofDevice first device) := by
      intro first device
      rw [← own device, ← run_append, ofDevice, ofDevice, ofDevice, ← List.filter_append]
      rfl
    have next : shared.touchSafe touch e = true →
        ∀ device, Alone device (touched shared (touch, e)) (alone' device) := by
      intro safe device
      by_cases same : touch = device
      · subst same
        simp only [alone', if_true]
        exact alone_onTouch (matching touch) e safe
      · simp only [alone', if_neg same]
        exact (matching device).untouched (untouched_onTouch same e safe)
          (alone_onTouch (matching touch) e safe).sharedDistinct
    constructor
    · rintro ⟨isolated, fresh⟩
      have safe : shared.touchSafe touch e = true := by
        -- otherwise another device is told of something its own run knows nothing of
        by_contra harms
        obtain ⟨device, apart, longer⟩ := unsafe_received fresh.1 (by simpa using harms)
        have same := isolated [(touch, e)] (by simp) device
        rw [own device] at same
        simp only [alone', if_neg (Ne.symm apart)] at same
        rw [← (matching device).sequence] at same
        exact absurd (congrArg List.length same) (Nat.ne_of_gt longer)
      refine ⟨safe, (ih (next safe)).mp ⟨fun first within device => ?_, fresh.2⟩⟩
      rw [← later]
      exact isolated _ (List.cons_prefix_cons.mpr ⟨rfl, within⟩) device
    · rintro ⟨safe, rest_⟩
      obtain ⟨isolated, fresh⟩ := (ih (next safe)).mpr rest_
      refine ⟨fun first within device => ?_, touchSafe_fresh safe, fresh⟩
      cases first with
      | nil => exact (matching device).sequence
      | cons head tail =>
        obtain ⟨rfl, inner⟩ := List.cons_prefix_cons.mp within
        rw [later]
        exact isolated tail inner device

theorem alone_initial (d : Nat) : Alone d initial initial where
  points := rfl
  received := rfl
  sharedDistinct := List.nodup_nil
  soloDistinct := List.nodup_nil
  mine := fun _ mem => (nomatch mem)
  backed := fun _ mem => (nomatch mem)
  entries := fun _ => .none

end

end TouchState

/-- In exactly those interleavings of fresh touches in which every device keeps to
its own points, clients are told of each device, at every moment, what they would
be told if the others were idle. -/
theorem touch_devices_isolated_iff (events : List (Nat × TouchEvent)) :
    (∀ first, first <+: events → TouchState.Isolated first) ∧
      Transition.Along TouchState.touched (fun state event => state.freshTouch event.1 event.2 = true)
        TouchState.initial events ↔
    Transition.Along TouchState.touched (fun state event => state.touchSafe event.1 event.2 = true)
      TouchState.initial events :=
  TouchState.isolated_from TouchState.alone_initial events

/-- Two devices hold a finger with the same identifier, and the first lifts its own. -/
theorem lifted_finger_ends_another :
    let hit : TouchHit := ⟨false, false, false, 5, 5, some ⟨7, false, true, 1, 1⟩⟩
    ¬ TouchState.Isolated [(0, .down 0 hit), (1, .down 0 { hit with target := some ⟨8, false, true, 2, 2⟩ }),
      (0, .up 0)] := by
  intro hit isolated
  have told := isolated 1
  revert told
  decide +kernel

end FlakeWM.Input
