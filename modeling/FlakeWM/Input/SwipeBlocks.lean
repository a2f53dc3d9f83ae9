import FlakeWM.Input.Gestures

/-! The swipe calls of a source come in blocks.

A block is a trigger, what follows it and one stop with the trigger's direction and
finger count. The manager has a swipe open between the two. It forgets an open swipe
when another gesture begins, when a swipe of fewer than three fingers ends and when
another touch screen is touched; and it takes a hold that was reported for a swipe. -/

set_option autoImplicit false

namespace FlakeWM.Input.Gestures

variable {F : Type}

def GestureState.openSwipe (gesture : GestureState F) : Option (Direction × UInt32) :=
  if gesture.type = .swipe ∧ gesture.triggered = true then some (gesture.direction, gesture.fingers) else none

namespace Call

def mark (call : Call F) : Brackets.Mark (Direction × UInt32) :=
  match call.stage with
  | .trigger => .opens (call.direction, call.fingers)
  | .after => .within
  | .stop => .closes (· == (call.direction, call.fingers))

def isSwipe (source : Source) (call : Call F) : Bool := call.name == .swipe && call.device == source

def swipes (source : Source) (calls : List (Call F)) : List (Brackets.Mark (Direction × UInt32)) :=
  (calls.filter (isSwipe source)).map mark

def reported (source : Source) (calls : List (Call F)) : Option (Option (Direction × UInt32)) :=
  Brackets.scanAll none (swipes source calls)

variable {source : Source} {calls : List (Call F)} {call : Call F} {now : Option (Direction × UInt32)}

theorem reported_swipe (before : reported source calls = some now) (swipe : call.isSwipe source = true) :
    reported source (calls ++ [call]) = Brackets.scan now call.mark := by
  have more : swipes source (calls ++ [call]) = swipes source calls ++ [call.mark] := by
    simp [swipes, List.filter_append, swipe]
  rw [reported, more]
  exact Brackets.scanAll_concat before call.mark

theorem reported_other (noSwipe : call.isSwipe source = false) :
    reported source (calls ++ [call]) = reported source calls := by
  simp [reported, swipes, List.filter_append, noSwipe]

end Call

namespace TouchpadManager

open Brackets

open Call

def InBlocks (manager : TouchpadManager F) : Prop :=
  ∀ source, Brackets.Bracketed (swipes source manager.calls)

instance (manager : TouchpadManager F) : Decidable manager.InBlocks :=
  decidable_of_iff (Brackets.Bracketed (swipes .touchpad manager.calls) ∧
      Brackets.Bracketed (swipes .touch manager.calls)) (by
    constructor
    · rintro ⟨touchpad, touch⟩ source
      cases source with
      | touchpad => exact touchpad
      | touch => exact touch
    · exact fun blocks => ⟨blocks .touchpad, blocks .touch⟩)

/-- The open blocks are the swipes the manager has open. -/
structure Agrees (manager : TouchpadManager F) : Prop where
  touchpad : reported .touchpad manager.calls = some manager.gesture.openSwipe
  touch : reported .touch manager.calls = some manager.touchGesture.openSwipe

def Counted (manager : TouchpadManager F) : Prop :=
  manager.touchGesture.type = .swipe → manager.touchGesture.fingers = UInt32.ofNat manager.touchPoints.length

section

variable {m next : TouchpadManager F} {gesture : GestureState F} {call : Call F}

theorem openSwipe_of_idle (idle : gesture.triggered = false) : gesture.openSwipe = none := by
  simp [GestureState.openSwipe, idle]

theorem openSwipe_of_triggered (type : gesture.type = .swipe) (triggered : gesture.triggered = true) :
    gesture.openSwipe = some (gesture.direction, gesture.fingers) :=
  if_pos ⟨type, triggered⟩

theorem openSwipe_followed [Coordinate F] (handled : Bool) (gesture : GestureState F) :
    (gesture.followed handled).openSwipe = gesture.openSwipe := by
  cases handled <;> rfl

theorem openSwipe_of_type (type : gesture.type ≠ .swipe) : gesture.openSwipe = none :=
  if_neg fun both => type both.1

section

variable (agrees : m.Agrees)

include agrees

theorem Agrees.inBlocks : m.InBlocks := by
  intro source
  cases source with
  | touchpad => exact bracketed_of_scanAll agrees.touchpad
  | touch => exact bracketed_of_scanAll agrees.touch

theorem Agrees.silent_iff (calls : next.calls = m.calls) : next.Agrees ↔ next.gesture.openSwipe = m.gesture.openSwipe ∧
      next.touchGesture.openSwipe = m.touchGesture.openSwipe := by
  constructor
  · rintro ⟨touchpad, d⟩
    rw [calls, agrees.touchpad] at touchpad
    rw [calls, agrees.touch] at d
    exact ⟨(Option.some.inj touchpad).symm, (Option.some.inj d).symm⟩
  · rintro ⟨touchpad, d⟩
    exact ⟨by rw [calls, touchpad, agrees.touchpad], by rw [calls, d, agrees.touch]⟩

theorem Agrees.silent (calls : next.calls = m.calls) (touchpad : next.gesture.openSwipe = m.gesture.openSwipe)
    (d : next.touchGesture.openSwipe = m.touchGesture.openSwipe) : next.Agrees :=
  (agrees.silent_iff calls).mpr ⟨touchpad, d⟩

theorem Agrees.touchpadCall_iff (swipe : call.isSwipe .touchpad = true) (calls : next.calls = m.calls ++ [call])
    (d : next.touchGesture.openSwipe = m.touchGesture.openSwipe) :
    next.Agrees ↔ scan m.gesture.openSwipe call.mark = some next.gesture.openSwipe := by
  have noSwipe : call.isSwipe .touch = false := by
    simp only [isSwipe, Bool.and_eq_true, beq_iff_eq] at swipe
    simp [isSwipe, swipe.2]
  have said := reported_swipe agrees.touchpad swipe
  constructor
  · intro after
    rw [← said, ← calls, after.touchpad]
  · intro fits
    exact ⟨by rw [calls, said, fits], by rw [calls, reported_other noSwipe, agrees.touch, d]⟩

theorem Agrees.touchCall_iff (swipe : call.isSwipe .touch = true) (calls : next.calls = m.calls ++ [call])
    (touchpad : next.gesture.openSwipe = m.gesture.openSwipe) :
    next.Agrees ↔ scan m.touchGesture.openSwipe call.mark = some next.touchGesture.openSwipe := by
  have noSwipe : call.isSwipe .touchpad = false := by
    simp only [isSwipe, Bool.and_eq_true, beq_iff_eq] at swipe
    simp [isSwipe, swipe.2]
  have said := reported_swipe agrees.touch swipe
  constructor
  · intro after
    rw [← said, ← calls, after.touch]
  · intro fits
    exact ⟨by rw [calls, reported_other noSwipe, agrees.touchpad, touchpad], by rw [calls, said, fits]⟩

theorem Agrees.otherCall (name : call.name ≠ .swipe) (calls : next.calls = m.calls ++ [call])
    (touchpad : next.gesture.openSwipe = m.gesture.openSwipe)
    (d : next.touchGesture.openSwipe = m.touchGesture.openSwipe) : next.Agrees := by
  have noSwipe (source : Source) : call.isSwipe source = false := by simp [isSwipe, name]
  constructor
  · rw [calls, reported_other (noSwipe _), touchpad, agrees.touchpad]
  · rw [calls, reported_other (noSwipe _), d, agrees.touch]

end

end

section Touchpad

variable [Coordinate F]
variable (f : Handler F) {m : TouchpadManager F}

section

variable (agrees : m.Agrees)

include agrees

theorem Agrees.begin_iff (type : GestureType) (fingers : UInt32) :
    Agrees { m with gesture := .begin type fingers } ↔ m.gesture.openSwipe = none := by
  have idle : (GestureState.begin type fingers : GestureState F).openSwipe = none := openSwipe_of_idle rfl
  refine .trans (agrees.silent_iff rfl) ?_
  rw [idle, eq_comm]
  exact and_iff_left rfl

theorem Agrees.triggerSwipe (gesture : GestureState F) (idle : m.gesture.openSwipe = none)
    (type : gesture.type = .swipe) : (m.triggerSwipe f gesture).Agrees := by
  have opened : (m.triggerSwipe f gesture).gesture.openSwipe =
      some (swipeDirection gesture.deltaX gesture.deltaY, gesture.fingers) :=
    openSwipe_of_triggered type rfl
  refine Iff.mpr (agrees.touchpadCall_iff rfl rfl rfl) ?_
  rw [idle, opened]
  rfl

theorem Agrees.followSwipe (gesture : GestureState F) (same : gesture.openSwipe = m.gesture.openSwipe)
    (opened : m.gesture.openSwipe ≠ none) (deltaX deltaY : F) :
    (m.followSwipe f gesture deltaX deltaY).Agrees := by
  have still : (m.followSwipe f gesture deltaX deltaY).gesture.openSwipe = gesture.openSwipe :=
    openSwipe_followed _ (gesture.follow deltaX deltaY)
  obtain ⟨label, found⟩ := Option.ne_none_iff_exists'.mp opened
  refine Iff.mpr (agrees.touchpadCall_iff rfl rfl rfl) ?_
  rw [still, same, found]
  rfl

theorem Agrees.updateSwipe (deltaX deltaY : F) : (m.updateSwipe f deltaX deltaY).Agrees := by
  unfold TouchpadManager.updateSwipe
  split
  case isFalse => exact agrees
  case isTrue type =>
    dsimp only
    split
    case isTrue begins =>
      have triggered := agrees.triggerSwipe f (m.gesture.move deltaX deltaY) (openSwipe_of_idle begins.1) type
      exact triggered.silent rfl rfl rfl
    case isFalse =>
      split
      case isTrue triggered =>
        have opened : m.gesture.openSwipe ≠ none := by simp [openSwipe_of_triggered type triggered]
        exact agrees.followSwipe f (m.gesture.move deltaX deltaY) rfl opened deltaX deltaY
      case isFalse => exact agrees.silent rfl rfl rfl

theorem Agrees.stopSwipe (type : m.gesture.type = .swipe) (triggered : m.gesture.triggered = true) :
    (m.stopSwipe f).1.resetGesture.Agrees := by
  refine Iff.mpr (agrees.touchpadCall_iff rfl rfl rfl) ?_
  rw [openSwipe_of_triggered type triggered]
  simp [touchpadSwipe, Call.mark, scan, resetGesture, openSwipe_of_idle, GestureState.begin]

theorem Agrees.endSwipe_iff (cancelled : Bool) : (m.endSwipe f cancelled).1.Agrees ↔
      m.gesture.openSwipe = none ∨ ¬ m.gesture.fingers < 3 := by
  unfold TouchpadManager.endSwipe
  split
  case isFalse type => exact iff_of_true agrees (.inl (openSwipe_of_type type))
  case isTrue type =>
    split
    case isTrue few =>
      simp only [few, not_true, or_false]
      exact agrees.begin_iff .none 0
    case isFalse enough =>
      refine iff_of_true ?_ (.inr enough)
      cases triggered : m.gesture.triggered with
      | true =>
        have stopped := agrees.stopSwipe f type triggered
        cases cancelled <;> exact stopped
      | false =>
        have idle := openSwipe_of_idle triggered
        cases cancelled with
        | true => exact (agrees.begin_iff .none 0).mpr idle
        | false => exact (agrees.triggerSwipe f m.gesture idle type).stopSwipe f type rfl

theorem Agrees.updatePinch (sc rotation : F) : (m.updatePinch sc rotation).Agrees := by
  unfold TouchpadManager.updatePinch
  split
  case isTrue => exact agrees.silent rfl rfl rfl
  case isFalse => exact agrees

theorem Agrees.resetOther (type : m.gesture.type ≠ .swipe) : m.resetGesture.Agrees :=
  (agrees.begin_iff .none 0).mpr (openSwipe_of_type type)

theorem Agrees.endOther {type : GestureType} (apart : type ≠ .swipe) {dropped : Prop} [Decidable dropped]
    {call : Call F} (name : call.name ≠ .swipe) :
    (if m.gesture.type = type then
      if dropped then (m.resetGesture, false) else m.resetGesture.executeGesture f call
      else (m, false)).1.Agrees := by
  split
  case isFalse => exact agrees
  case isTrue same =>
    have reset := agrees.resetOther (same ▸ apart)
    split
    case isTrue => exact reset
    case isFalse => exact reset.otherCall name rfl rfl rfl

theorem Agrees.endPinch (cancelled : Bool) : (m.endPinch f cancelled).1.Agrees :=
  agrees.endOther f (by decide) (by simp)

theorem Agrees.endHold (cancelled : Bool) : (m.endHold f cancelled).1.Agrees :=
  agrees.endOther f (by decide) (by simp)

end

end Touchpad

section Touch

variable [Coordinate F]
variable (handler : Handler F) {manager : TouchpadManager F}

section

variable (agrees : manager.Agrees)

include agrees

theorem Agrees.triggerTouch (idle : manager.touchGesture.openSwipe = none) (type : manager.touchGesture.type = .swipe)
    (dx dy : F) : (manager.triggerTouch handler dx dy).Agrees := by
  have opened : (manager.triggerTouch handler dx dy).touchGesture.openSwipe =
      some (swipeDirection dx dy, manager.touchGesture.fingers) :=
    openSwipe_of_triggered type rfl
  refine Iff.mpr (agrees.touchCall_iff rfl rfl rfl) ?_
  rw [idle, opened]
  rfl

theorem Agrees.followTouch (opened : manager.touchGesture.openSwipe ≠ none) (followX followY : F) :
    (manager.followTouch handler followX followY).Agrees := by
  have still : (manager.followTouch handler followX followY).touchGesture.openSwipe = manager.touchGesture.openSwipe :=
    openSwipe_followed _ (manager.touchGesture.follow followX followY)
  obtain ⟨label, found⟩ := Option.ne_none_iff_exists'.mp opened
  refine Iff.mpr (agrees.touchCall_iff rfl rfl rfl) ?_
  rw [still, found]
  rfl

theorem Agrees.stopTouch_iff {next : TouchpadManager F} (calls : next.calls = (manager.stopTouch handler).calls)
    (touchpad : next.gesture = manager.gesture) (ended : next.touchGesture.openSwipe = none) :
    next.Agrees ↔ manager.touchGesture.openSwipe ≠ none := by
  rw [agrees.touchCall_iff rfl calls (congrArg GestureState.openSwipe touchpad), ended]
  by_cases opened : manager.touchGesture.type = .swipe ∧ manager.touchGesture.triggered = true
  · simp [GestureState.openSwipe, opened, scan, Call.mark, touchCall]
  · simp [GestureState.openSwipe, opened, scan, Call.mark, touchCall]

theorem Agrees.touchDown_iff (d : Nat) (id : Int) (x y : F) : (manager.touchDown handler d id x y).Agrees ↔
      if manager.otherDevice d then manager.touchGesture.openSwipe = none
      else manager.touchGesture.triggered = true → manager.touchGesture.type = .swipe := by
  have held : (manager.touchDown handler d id x y).touchGesture.openSwipe = none := openSwipe_of_idle rfl
  by_cases foreign : manager.otherDevice d = true
  · have calls : (manager.touchDown handler d id x y).calls = manager.calls := by
      simp [TouchpadManager.touchDown, foreign, resetTouchGesture, GestureState.begin]
    have touchpad : (manager.touchDown handler d id x y).gesture = manager.gesture := by
      simp [TouchpadManager.touchDown, foreign, resetTouchGesture, GestureState.begin]
    rw [if_pos foreign, agrees.silent_iff calls, touchpad, held, eq_comm (a := none)]
    exact and_iff_right rfl
  · rw [if_neg foreign]
    cases triggered : manager.touchGesture.triggered with
    | true =>
      rw [agrees.stopTouch_iff handler (by simp [TouchpadManager.touchDown, foreign, triggered])
        (by simp [TouchpadManager.touchDown, foreign, triggered, stopTouch, executeGesture]) held]
      simp [GestureState.openSwipe, triggered]
    | false =>
      refine iff_of_true (agrees.silent ?_ ?_ (held.trans (openSwipe_of_idle triggered).symm)) nofun
      · simp [TouchpadManager.touchDown, foreign, triggered]
      · simp [TouchpadManager.touchDown, foreign, triggered]

theorem Agrees.swipeTouch_iff (counted : manager.Counted) : (manager.swipeTouch handler).Agrees ↔
      (manager.touchGesture.triggered = true → manager.touchGesture.type = .swipe) := by
  unfold swipeTouch
  dsimp only
  cases triggered : manager.touchGesture.triggered with
  | false =>
    have idle : manager.turnSwipe.touchGesture.openSwipe = none := openSwipe_of_idle triggered
    have turned : manager.turnSwipe.Agrees := agrees.silent rfl rfl (idle.trans (openSwipe_of_idle triggered).symm)
    refine iff_of_true ?_ nofun
    split
    case isTrue => exact turned.triggerTouch handler idle rfl _ _
    case isFalse =>
      split
      case isTrue again => exact absurd (triggered.symm.trans again) nofun
      case isFalse => exact turned
  | true =>
    have now : manager.turnSwipe.touchGesture.triggered = true := triggered
    rw [if_neg (by simp [now]), if_pos now]
    by_cases type : manager.touchGesture.type = .swipe
    · have opened : manager.turnSwipe.touchGesture.openSwipe =
          some (manager.touchGesture.direction, UInt32.ofNat manager.touchPoints.length) :=
        openSwipe_of_triggered rfl now
      have same : manager.turnSwipe.touchGesture.openSwipe = manager.touchGesture.openSwipe := by
        rw [opened, openSwipe_of_triggered type triggered, counted type]
      have turned : manager.turnSwipe.Agrees := agrees.silent rfl rfl same
      exact iff_of_true (turned.followTouch handler (by simp [opened]) _ _) fun _ => type
    · -- The hold was reported as such: no swipe is open that could be followed.
      refine iff_of_false (fun after => ?_) fun swipe => type (swipe rfl)
      have out := (reported_swipe agrees.touch rfl).symm.trans after.touch
      rw [openSwipe_of_type type] at out
      exact absurd out nofun

end

theorem movePoint_same {moved : TouchpadManager F} {d : Nat} {id : Int} {x y : F}
    (found : manager.movePoint d id x y = some moved) :
    moved.calls = manager.calls ∧ moved.gesture = manager.gesture ∧ moved.touchGesture = manager.touchGesture ∧
      moved.touchPoints.length = manager.touchPoints.length := by
  obtain ⟨point, _, rfl⟩ := Option.map_eq_some_iff.mp found
  simp

theorem Counted.of_moved (counted : manager.Counted) {moved : TouchpadManager F} {d : Nat} {id : Int} {x y : F}
    (found : manager.movePoint d id x y = some moved) : moved.Counted := by
  obtain ⟨_, _, touchGesture, length⟩ := movePoint_same found
  unfold Counted
  rw [touchGesture, length]
  exact counted

section

variable (agrees : manager.Agrees)

include agrees

theorem Agrees.touchMotion_iff (counted : manager.Counted) (d : Nat) (id : Int) (x y : F) :
    (manager.touchMotion handler d id x y).Agrees ↔
      ((manager.movePoint d id x y).any (·.touchPoints.all (·.moved)) = true →
        manager.touchGesture.triggered = true → manager.touchGesture.type = .swipe) := by
  unfold touchMotion
  cases found : manager.movePoint d id x y with
  | none => exact iff_of_true agrees nofun
  | some moved =>
    obtain ⟨calls, gesture, touchGesture, _⟩ := movePoint_same found
    have still : moved.Agrees := agrees.silent calls (by rw [gesture]) (by rw [touchGesture])
    dsimp only
    split
    case isTrue swiped =>
      rw [still.swipeTouch_iff handler (counted.of_moved found), touchGesture]
      simp [swiped]
    case isFalse staying => exact iff_of_true still fun swiped => absurd swiped staying

theorem Agrees.resetTouchGesture (idle : manager.touchGesture.openSwipe = none) : manager.resetTouchGesture.Agrees :=
  agrees.silent rfl rfl ((openSwipe_of_idle rfl).trans idle.symm)

theorem Agrees.endTouch (type : manager.touchGesture.type = .swipe) :
    (if manager.touchGesture.triggered then manager.stopTouch handler else manager).resetTouchGesture.Agrees := by
  split
  case isTrue triggered =>
    refine Iff.mpr (agrees.stopTouch_iff handler rfl rfl (openSwipe_of_idle rfl)) ?_
    simp [openSwipe_of_triggered type triggered]
  case isFalse idle => exact agrees.resetTouchGesture (openSwipe_of_idle (by simpa using idle))

theorem Agrees.touchUp (d : Nat) (id : Int) (cancelled : Bool) : (manager.touchUp handler d id cancelled).Agrees := by
  unfold TouchpadManager.touchUp
  split
  case h_1 => exact agrees
  case h_2 =>
    split
    case isFalse type => exact agrees.resetTouchGesture (openSwipe_of_type type)
    case isTrue type =>
      split
      case isTrue late => exact (agrees.triggerTouch handler (openSwipe_of_idle late.2) type _ _).endTouch handler type
      case isFalse => exact agrees.endTouch handler type

theorem Agrees.touchHoldTimeout : (manager.touchHoldTimeout handler).Agrees := by
  unfold TouchpadManager.touchHoldTimeout
  split
  case isFalse => exact agrees
  case isTrue =>
    dsimp only
    split
    case isTrue => exact agrees.silent rfl rfl rfl
    case isFalse held =>
      have type : manager.touchGesture.type = .hold := by
        by_contra apart
        exact held (.inl apart)
      have before : manager.touchGesture.openSwipe = none := openSwipe_of_type (by simp [type])
      refine agrees.otherCall ?_ rfl rfl (Eq.trans (openSwipe_of_type ?_) before.symm)
      · simp
      · simp [executeGesture, type]

end

theorem counted_swipeTouch : (manager.swipeTouch handler).Counted := by
  intro _
  unfold swipeTouch
  dsimp only
  split
  case isTrue => rfl
  case isFalse =>
    split
    case isTrue =>
      unfold TouchpadManager.followTouch GestureState.followed
      dsimp only
      split <;> rfl
    case isFalse => rfl

theorem Counted.touchMotion (counted : manager.Counted) (d : Nat) (id : Int) (x y : F) :
    (manager.touchMotion handler d id x y).Counted := by
  unfold TouchpadManager.touchMotion
  cases found : manager.movePoint d id x y with
  | none => exact counted
  | some =>
    dsimp only
    split
    case isTrue => exact counted_swipeTouch handler
    case isFalse => exact counted.of_moved found

theorem Counted.step (counted : manager.Counted) (e : GestureEvent F) : (manager.step handler e).Counted := by
  cases e with
  | beginSwipe | beginPinch | beginHold => exact counted
  | updateSwipe =>
    simp only [TouchpadManager.step, TouchpadManager.updateSwipe]
    split_ifs <;> exact counted
  | endSwipe =>
    simp only [TouchpadManager.step, TouchpadManager.endSwipe]
    split_ifs <;> exact counted
  | updatePinch =>
    simp only [TouchpadManager.step, TouchpadManager.updatePinch]
    split_ifs <;> exact counted
  | endPinch =>
    simp only [TouchpadManager.step, TouchpadManager.endPinch]
    split_ifs <;> exact counted
  | endHold =>
    simp only [TouchpadManager.step, TouchpadManager.endHold]
    split_ifs <;> exact counted
  | touchDown => exact fun swipe => absurd (show GestureType.hold = .swipe from swipe) nofun
  | touchMotion d id x y => exact counted.touchMotion handler d id x y
  | touchUp =>
    simp only [TouchpadManager.step, TouchpadManager.touchUp]
    split
    · exact counted
    · exact fun swipe => absurd (show GestureType.none = .swipe from swipe) nofun
  | touchHoldTimeout =>
    simp only [TouchpadManager.step, TouchpadManager.touchHoldTimeout]
    split_ifs <;> exact counted

/-- Events that do not drop an open swipe and do not take a reported hold for one. -/
def keepsBlocks (manager : TouchpadManager F) : GestureEvent F → Bool
  | .beginSwipe _ | .beginPinch _ | .beginHold _ => manager.gesture.openSwipe.isNone
  | .endSwipe _ => manager.gesture.openSwipe.isNone || !decide (manager.gesture.fingers < 3)
  | .touchDown touch _ _ _ =>
    if manager.otherDevice touch then manager.touchGesture.openSwipe.isNone
    else !manager.touchGesture.triggered || manager.touchGesture.type == .swipe
  | .touchMotion touch id x y =>
    !(manager.movePoint touch id x y).any (·.touchPoints.all (·.moved)) ||
      (!manager.touchGesture.triggered || manager.touchGesture.type == .swipe)
  | _ => true

/-- The condition is exact: any other event leaves a block that is not the manager's
open swipe, or breaks the blocks at once. -/
theorem Agrees.step_iff (agrees : manager.Agrees) (counted : manager.Counted) (e : GestureEvent F) :
    (manager.step handler e).Agrees ↔ manager.keepsBlocks e = true := by
  cases e with
  | beginSwipe fingers => exact (agrees.begin_iff .swipe fingers).trans Option.isNone_iff_eq_none.symm
  | beginPinch fingers => exact (agrees.begin_iff .pinch fingers).trans Option.isNone_iff_eq_none.symm
  | beginHold fingers => exact (agrees.begin_iff .hold fingers).trans Option.isNone_iff_eq_none.symm
  | updateSwipe deltaX deltaY => exact iff_of_true (agrees.updateSwipe handler deltaX deltaY) rfl
  | endSwipe cancelled =>
    refine (agrees.endSwipe_iff handler cancelled).trans ?_
    simp [keepsBlocks]
  | updatePinch sc rotation => exact iff_of_true (agrees.updatePinch sc rotation) rfl
  | endPinch cancelled => exact iff_of_true (agrees.endPinch handler cancelled) rfl
  | endHold cancelled => exact iff_of_true (agrees.endHold handler cancelled) rfl
  | touchDown d id x y =>
    refine (agrees.touchDown_iff handler d id x y).trans ?_
    by_cases foreign : manager.otherDevice d = true
    · simp [keepsBlocks, foreign]
    · cases triggered : manager.touchGesture.triggered <;> simp [keepsBlocks, foreign, triggered]
  | touchMotion d id x y =>
    refine (agrees.touchMotion_iff handler counted d id x y).trans ?_
    unfold keepsBlocks
    cases manager.touchGesture.triggered <;> simp [imp_iff_not_or]
  | touchUp d id cancelled => exact iff_of_true (agrees.touchUp handler d id cancelled) rfl
  | touchHoldTimeout => exact iff_of_true (agrees.touchHoldTimeout handler) rfl

/-- For every handler and every sequence of events, of which none drops an open swipe
or takes a hold for one, the swipe callbacks of each source form blocks. -/
theorem throughout_inBlocks (events : List (GestureEvent F))
    (kept : Transition.Along (step handler) (fun manager event => manager.keepsBlocks event = true) create events) :
    Transition.Throughout (step handler) InBlocks create events := by
  have steps : ∀ (manager : TouchpadManager F) (event : GestureEvent F), manager.Agrees ∧ manager.Counted →
      manager.keepsBlocks event = true → (manager.step handler event).Agrees ∧ (manager.step handler event).Counted := by
    rintro manager event ⟨agrees, counted⟩ keeps
    exact ⟨(agrees.step_iff handler counted event).mpr keeps, counted.step handler event⟩
  have start : (create : TouchpadManager F).Agrees ∧ (create : TouchpadManager F).Counted := ⟨⟨rfl, rfl⟩, nofun⟩
  exact (Transition.along_invariant steps start kept).mono fun _ both => both.1.inBlocks

end Touch

/-- A handler that leaves everything to the service, which is not there. -/
def unheard : Handler ℚ := ⟨fun _ _ => false, fun _ _ => false⟩

theorem throughout_inBlocks_once :
    let events : List (GestureEvent ℚ) :=
      [.beginSwipe 3, .updateSwipe 60 0, .updateSwipe 1 0, .endSwipe false,
        .touchDown 1 0 (1 / 2) (1 / 2), .touchMotion 1 0 (3 / 4) (1 / 2), .touchUp 1 0 false]
    Transition.Along (step unheard) (fun manager event => manager.keepsBlocks event = true) create events ∧
      Transition.Throughout (step unheard) InBlocks create events :=
  ⟨by decide +kernel, throughout_inBlocks unheard _ (by decide +kernel)⟩

/-- A second finger after a hold, the motion of a held finger, two swipes of two
fingers, a touch on another device during a swipe, and a swipe that begins during
another. -/
theorem not_inBlocks_of_dropped :
    (¬ InBlocks (Transition.run (step unheard) create
      [.touchDown 1 0 (1 / 2) (1 / 2), .touchHoldTimeout, .touchDown 1 1 (1 / 2) (1 / 2)])) ∧
    (¬ InBlocks (Transition.run (step unheard) create
      [.touchDown 1 0 (1 / 2) (1 / 2), .touchHoldTimeout, .touchMotion 1 0 (3 / 4) (1 / 2)])) ∧
    (¬ InBlocks (Transition.run (step unheard) create
      [.beginSwipe 2, .updateSwipe 60 0, .endSwipe false, .beginSwipe 2, .updateSwipe 60 0])) ∧
    (¬ InBlocks (Transition.run (step unheard) create
      [.touchDown 1 0 (1 / 2) (1 / 2), .touchMotion 1 0 (3 / 4) (1 / 2), .touchDown 2 0 (1 / 2) (1 / 2),
        .touchMotion 2 0 (3 / 4) (1 / 2)])) ∧
    (¬ InBlocks (Transition.run (step unheard) create
      [.beginSwipe 3, .updateSwipe 60 0, .beginSwipe 3, .updateSwipe 60 0])) := by
  decide +kernel

end TouchpadManager

end FlakeWM.Input.Gestures
