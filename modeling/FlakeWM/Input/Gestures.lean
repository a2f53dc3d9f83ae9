import FlakeWM.Lib.Brackets
import FlakeWM.Lib.Transition
import Mathlib.Algebra.Order.Field.Rat

/-! Touchpad and touch-screen gestures.

The manager follows one gesture of the touchpads and one of the touch screens, and
reports each to the gesture handler. The arithmetic of the coordinates is a
parameter, so that rounding and what is not a number are covered. -/

set_option autoImplicit false

namespace FlakeWM.Input.Gestures

inductive GestureType where
  | none
  | swipe
  | pinch
  | hold
  deriving DecidableEq, Repr

inductive Direction where
  | none
  | right
  | left
  | down
  | up
  | inward
  | outward
  deriving DecidableEq, Repr

inductive Stage where
  | trigger
  | after
  | stop
  deriving DecidableEq, Repr

inductive Edge where
  | none
  | bottom
  | right
  | left
  | top
  deriving DecidableEq, Repr

/-- The device named to the handler. -/
inductive Source where
  | touchpad
  | touch
  deriving DecidableEq, Repr

/-- A call of the gesture handler. -/
structure Call (F : Type) where
  name : GestureType
  device : Source
  direction : Direction
  fingers : UInt32
  edge : Edge
  stage : Stage
  followDirection : Direction
  dx : F
  dy : F

structure GestureState (F : Type) where
  type : GestureType
  fingers : UInt32
  deltaX : F
  deltaY : F
  scale : F
  rotation : F
  followDx : F
  followDy : F
  direction : Direction
  triggered : Bool
  handled : Bool

structure TouchPoint (F : Type) where
  touch : Nat
  id : Int
  initialX : F
  initialY : F
  x : F
  y : F
  lastX : F
  lastY : F
  moved : Bool

structure TouchpadManager (F : Type) where
  gesture : GestureState F
  touchGesture : GestureState F
  touchPoints : List (TouchPoint F)
  /-- The hold timer is running. -/
  touchHoldTimer : Bool
  /-- What the handler was called with, oldest first. -/
  calls : List (Call F)

/-- What is done with coordinates: no law is asked for, as with machine floats. -/
class Coordinate (F : Type) extends Add F, Sub F, Neg F, Div F, NatCast F, LT F, LE F where
  decidableLT : DecidableLT F
  decidableLE : DecidableLE F

variable {F : Type} [Coordinate F]

instance Coordinate.instDecidableLT : DecidableLT F := Coordinate.decidableLT

instance Coordinate.instDecidableLE : DecidableLE F := Coordinate.decidableLE

instance : Coordinate ℚ where
  decidableLT := inferInstance
  decidableLE := inferInstance

def abs (value : F) : F := if value < (0 : Nat) then -value else value

def max (first second : F) : F := if first < second then second else first

def swipeDirection (deltaX deltaY : F) : Direction :=
  if abs deltaY < abs deltaX then
    if ((0 : Nat) : F) < deltaX then .right else .left
  else if ((0 : Nat) : F) < deltaY then .down else .up

namespace GestureState

def begin (type : GestureType) (fingers : UInt32) : GestureState F where
  type
  fingers
  deltaX := (0 : Nat)
  deltaY := (0 : Nat)
  scale := (1 : Nat)
  rotation := (0 : Nat)
  followDx := (0 : Nat)
  followDy := (0 : Nat)
  direction := .none
  triggered := false
  handled := false

def move (gesture : GestureState F) (deltaX deltaY : F) : GestureState F :=
  { gesture with deltaX := gesture.deltaX + deltaX, deltaY := gesture.deltaY + deltaY }

def trigger (gesture : GestureState F) (direction : Direction) : GestureState F :=
  { gesture with triggered := true, direction }

def follow (gesture : GestureState F) (deltaX deltaY : F) : GestureState F :=
  { gesture with followDx := gesture.followDx + deltaX, followDy := gesture.followDy + deltaY }

def resetFollow (gesture : GestureState F) : GestureState F :=
  { gesture with followDx := (0 : Nat), followDy := (0 : Nat) }

def handle (gesture : GestureState F) (handled : Bool) : GestureState F :=
  { gesture with handled := gesture.handled || handled }

def followed (gesture : GestureState F) (handled : Bool) : GestureState F :=
  if handled then (gesture.handle true).resetFollow else gesture

end GestureState

namespace TouchPoint

def pressed (touch : Nat) (id : Int) (x y : F) : TouchPoint F := ⟨touch, id, x, y, x, y, x, y, false⟩

def isPoint (touch : Nat) (id : Int) (point : TouchPoint F) : Bool := point.touch == touch && point.id == id

def moveTo (point : TouchPoint F) (x y : F) : TouchPoint F :=
  let slop : F := (1 : Nat) / (100 : Nat)
  { point with
    lastX := point.x
    lastY := point.y
    x := x
    y := y
    moved := decide (slop < abs (x - point.initialX)) || decide (slop < abs (y - point.initialY)) }

def mean (points : List (TouchPoint F)) (value : TouchPoint F → F) : F :=
  points.foldl (fun total point => total + value point) ((0 : Nat) : F) / (points.length : F)

end TouchPoint

namespace TouchpadManager

def create : TouchpadManager F := ⟨.begin .none 0, .begin .none 0, [], false, []⟩

/-- The gesture handler, and behind it the gesture service, which is asked about
triggers only: the answer may depend on all that was reported before. -/
structure Handler (F : Type) where
  handles : List (Call F) → Call F → Bool
  serviceTakes : List (Call F) → Call F → Bool

variable (handler : Handler F)

def executeGesture (manager : TouchpadManager F) (call : Call F) : TouchpadManager F × Bool :=
  ({ manager with calls := manager.calls ++ [call] },
    handler.handles manager.calls call || (call.stage == .trigger && handler.serviceTakes manager.calls call))

def resetGesture (manager : TouchpadManager F) : TouchpadManager F := { manager with gesture := .begin .none 0 }

def touchpadSwipe (gesture : GestureState F) (stage : Stage) (follow : Direction) (dx dy : F) : Call F :=
  ⟨.swipe, .touchpad, gesture.direction, gesture.fingers, .none, stage, follow, dx, dy⟩

def beginSwipe (manager : TouchpadManager F) (fingers : UInt32) : TouchpadManager F :=
  { manager with gesture := .begin .swipe fingers }

def triggerSwipe (manager : TouchpadManager F) (gesture : GestureState F) : TouchpadManager F :=
  let gesture := gesture.trigger (swipeDirection gesture.deltaX gesture.deltaY)
  let (manager, handled) := manager.executeGesture handler
    (touchpadSwipe gesture .trigger .none gesture.deltaX gesture.deltaY)
  { manager with gesture := gesture.handle handled }

def followSwipe (manager : TouchpadManager F) (gesture : GestureState F) (deltaX deltaY : F) : TouchpadManager F :=
  let gesture := gesture.follow deltaX deltaY
  let (manager, handled) := manager.executeGesture handler
    (touchpadSwipe gesture .after (swipeDirection deltaX deltaY) gesture.followDx gesture.followDy)
  { manager with gesture := gesture.followed handled }

def updateSwipe (manager : TouchpadManager F) (deltaX deltaY : F) : TouchpadManager F :=
  if manager.gesture.type = .swipe then
    let gesture := manager.gesture.move deltaX deltaY
    if gesture.triggered = false ∧ ((50 : Nat) : F) ≤ max (abs gesture.deltaX) (abs gesture.deltaY) then
      let manager := manager.triggerSwipe handler gesture
      { manager with gesture := manager.gesture.resetFollow }
    else if gesture.triggered then manager.followSwipe handler gesture deltaX deltaY
    else { manager with gesture }
  else manager

def stopSwipe (manager : TouchpadManager F) : TouchpadManager F × Bool :=
  manager.executeGesture handler (touchpadSwipe manager.gesture .stop .none (0 : Nat) (0 : Nat))

/-- The answer tells whether the end of the swipe is kept from the clients. -/
def endSwipe (manager : TouchpadManager F) (cancelled : Bool) : TouchpadManager F × Bool :=
  if manager.gesture.type = .swipe then
    if manager.gesture.fingers < 3 then (manager.resetGesture, false)
    else if cancelled then
      let manager := if manager.gesture.triggered then (manager.stopSwipe handler).1 else manager
      (manager.resetGesture, false)
    else
      let manager := if manager.gesture.triggered then manager else manager.triggerSwipe handler manager.gesture
      let (stopped, handled) := manager.stopSwipe handler
      (stopped.resetGesture, manager.gesture.handled || handled)
  else (manager, false)

def beginPinch (manager : TouchpadManager F) (fingers : UInt32) : TouchpadManager F :=
  { manager with gesture := .begin .pinch fingers }

def updatePinch (manager : TouchpadManager F) (scale rotation : F) : TouchpadManager F :=
  if manager.gesture.type = .pinch then
    { manager with gesture := { manager.gesture with scale, rotation := manager.gesture.rotation + rotation } }
  else manager

def pinchDirection (scale : F) : Direction :=
  let threshold : F := (1 : Nat) / (10 : Nat)
  if ((1 : Nat) : F) + threshold < scale then .outward
  else if scale < ((1 : Nat) : F) - threshold then .inward
  else .none

def endPinch (manager : TouchpadManager F) (cancelled : Bool) : TouchpadManager F × Bool :=
  if manager.gesture.type = .pinch then
    if cancelled = true ∨ manager.gesture.fingers < 3 then (manager.resetGesture, false)
    else manager.resetGesture.executeGesture handler
      ⟨.pinch, .touchpad, pinchDirection manager.gesture.scale, manager.gesture.fingers, .none, .trigger, .none,
        (0 : Nat), (0 : Nat)⟩
  else (manager, false)

def beginHold (manager : TouchpadManager F) (fingers : UInt32) : TouchpadManager F :=
  { manager with gesture := .begin .hold fingers }

def endHold (manager : TouchpadManager F) (cancelled : Bool) : TouchpadManager F × Bool :=
  if manager.gesture.type = .hold then
    if cancelled = true ∨ manager.gesture.fingers < 3 then (manager.resetGesture, false)
    else manager.resetGesture.executeGesture handler
      ⟨.hold, .touchpad, .none, manager.gesture.fingers, .none, .trigger, .none, (0 : Nat), (0 : Nat)⟩
  else (manager, false)

def touchEdge (manager : TouchpadManager F) : Edge :=
  if manager.touchPoints.isEmpty then .none
  else
    let x := TouchPoint.mean manager.touchPoints (·.initialX)
    let y := TouchPoint.mean manager.touchPoints (·.initialY)
    let near : F := (5 : Nat) / (100 : Nat)
    let far : F := (95 : Nat) / (100 : Nat)
    if far ≤ y then .bottom
    else if far ≤ x then .right
    else if x ≤ near then .left
    else if y ≤ near then .top
    else .none

def resetTouchGesture (manager : TouchpadManager F) : TouchpadManager F :=
  { manager with touchHoldTimer := false, touchPoints := [], touchGesture := .begin .none 0 }

def touchCall (manager : TouchpadManager F) (name : GestureType) (stage : Stage) (follow : Direction) (dx dy : F) :
    Call F :=
  ⟨name, .touch, manager.touchGesture.direction, manager.touchGesture.fingers, manager.touchEdge, stage, follow,
    dx, dy⟩

def stopTouch (manager : TouchpadManager F) : TouchpadManager F :=
  (manager.executeGesture handler (manager.touchCall .swipe .stop .none (0 : Nat) (0 : Nat))).1

def otherDevice (manager : TouchpadManager F) (touch : Nat) : Bool :=
  manager.touchPoints.head?.any (·.touch != touch)

def touchDown (manager : TouchpadManager F) (touch : Nat) (id : Int) (x y : F) : TouchpadManager F :=
  let manager := if manager.otherDevice touch then manager.resetTouchGesture else manager
  -- The flag is the hold timer's, too: what is stopped as a swipe may be a hold.
  let manager := if manager.touchGesture.triggered then manager.stopTouch handler else manager
  let touchPoints := manager.touchPoints ++ [TouchPoint.pressed touch id x y]
  { manager with
    touchPoints, touchGesture := .begin .hold (UInt32.ofNat touchPoints.length), touchHoldTimer := true }

def movePoint (manager : TouchpadManager F) (touch : Nat) (id : Int) (x y : F) : Option (TouchpadManager F) :=
  (manager.touchPoints.find? (TouchPoint.isPoint touch id)).map fun point =>
    let moved := point.moveTo x y
    { manager with
      touchPoints := manager.touchPoints.set (manager.touchPoints.findIdx (TouchPoint.isPoint touch id)) moved
      touchHoldTimer := manager.touchHoldTimer && !moved.moved }

def triggerTouch (manager : TouchpadManager F) (dx dy : F) : TouchpadManager F :=
  let manager := { manager with touchGesture := manager.touchGesture.trigger (swipeDirection dx dy) }
  let (manager, handled) := manager.executeGesture handler (manager.touchCall .swipe .trigger .none dx dy)
  { manager with touchGesture := manager.touchGesture.handle handled }

def followTouch (manager : TouchpadManager F) (followX followY : F) : TouchpadManager F :=
  let manager := { manager with touchGesture := manager.touchGesture.follow followX followY }
  let (manager, handled) := manager.executeGesture handler (manager.touchCall .swipe .after
    (swipeDirection followX followY) manager.touchGesture.followDx manager.touchGesture.followDy)
  { manager with touchGesture := manager.touchGesture.followed handled }

def turnSwipe (manager : TouchpadManager F) : TouchpadManager F :=
  { manager with touchGesture :=
      { manager.touchGesture with type := .swipe, fingers := UInt32.ofNat manager.touchPoints.length } }

def swipeTouch (manager : TouchpadManager F) : TouchpadManager F :=
  let points := manager.touchPoints
  let manager := manager.turnSwipe
  let totalX := TouchPoint.mean points fun point => point.x - point.initialX
  let totalY := TouchPoint.mean points fun point => point.y - point.initialY
  if manager.touchGesture.triggered = false ∧
      ((15 : Nat) : F) / ((100 : Nat) : F) ≤ max (abs totalX) (abs totalY) then
    manager.triggerTouch handler totalX totalY
  else if manager.touchGesture.triggered then
    manager.followTouch handler (TouchPoint.mean points fun point => point.x - point.lastX)
      (TouchPoint.mean points fun point => point.y - point.lastY)
  else manager

def touchMotion (manager : TouchpadManager F) (touch : Nat) (id : Int) (x y : F) : TouchpadManager F :=
  match manager.movePoint touch id x y with
  | none => manager
  | some moved => if moved.touchPoints.all (·.moved) then moved.swipeTouch handler else moved

def touchUp (manager : TouchpadManager F) (touch : Nat) (id : Int) (cancelled : Bool) : TouchpadManager F :=
  match manager.touchPoints.find? (TouchPoint.isPoint touch id) with
  | none => manager
  | some _ =>
    let manager :=
      if manager.touchGesture.type = .swipe then
        let manager :=
          if cancelled = false ∧ manager.touchGesture.triggered = false then
            manager.triggerTouch handler (TouchPoint.mean manager.touchPoints fun point => point.x - point.initialX)
              (TouchPoint.mean manager.touchPoints fun point => point.y - point.initialY)
          else manager
        if manager.touchGesture.triggered then manager.stopTouch handler else manager
      else manager
    manager.resetTouchGesture

/-- The single-shot timer fires. -/
def touchHoldTimeout (manager : TouchpadManager F) : TouchpadManager F :=
  if manager.touchHoldTimer then
    let manager := { manager with touchHoldTimer := false }
    if manager.touchGesture.type ≠ .hold ∨ manager.touchPoints.isEmpty = true then manager
    else
      let manager := { manager with touchGesture := { manager.touchGesture with triggered := true } }
      let (manager, handled) := manager.executeGesture handler
        ⟨.hold, .touch, .none, manager.touchGesture.fingers, manager.touchEdge, .trigger, .none, (0 : Nat), (0 : Nat)⟩
      { manager with touchGesture := { manager.touchGesture with handled } }
  else manager

inductive GestureEvent (F : Type) where
  | beginSwipe (fingers : UInt32)
  | updateSwipe (deltaX deltaY : F)
  | endSwipe (cancelled : Bool)
  | beginPinch (fingers : UInt32)
  | updatePinch (scale rotation : F)
  | endPinch (cancelled : Bool)
  | beginHold (fingers : UInt32)
  | endHold (cancelled : Bool)
  | touchDown (touch : Nat) (id : Int) (x y : F)
  | touchMotion (touch : Nat) (id : Int) (x y : F)
  | touchUp (touch : Nat) (id : Int) (cancelled : Bool)
  | touchHoldTimeout

def step (manager : TouchpadManager F) : GestureEvent F → TouchpadManager F
  | .beginSwipe fingers => manager.beginSwipe fingers
  | .updateSwipe deltaX deltaY => manager.updateSwipe handler deltaX deltaY
  | .endSwipe cancelled => (manager.endSwipe handler cancelled).1
  | .beginPinch fingers => manager.beginPinch fingers
  | .updatePinch scale rotation => manager.updatePinch scale rotation
  | .endPinch cancelled => (manager.endPinch handler cancelled).1
  | .beginHold fingers => manager.beginHold fingers
  | .endHold cancelled => (manager.endHold handler cancelled).1
  | .touchDown touch id x y => manager.touchDown handler touch id x y
  | .touchMotion touch id x y => manager.touchMotion handler touch id x y
  | .touchUp touch id cancelled => manager.touchUp handler touch id cancelled
  | .touchHoldTimeout => manager.touchHoldTimeout handler

end TouchpadManager

end FlakeWM.Input.Gestures
