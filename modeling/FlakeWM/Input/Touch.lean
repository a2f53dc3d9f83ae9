import FlakeWM.Lib.FirstMatch
import FlakeWM.Lib.Transition

/-! Touch points in the compositor and at the seat.

The compositor keeps its points by device and touch identifier. The seat is told
the identifier only and looks a point up by that, the newest first. Where the
cursor ends up, what lies under it and whether an overlay is open is part of the
event. -/

set_option autoImplicit false

namespace FlakeWM.Input

inductive TouchPointMode where
  | native
  | pointer
  | selector
  | multitasking
  | windowPreviews
  | ignored
  deriving DecidableEq, Repr

structure TouchPoint where
  touch : Nat
  touchId : Int
  mode : TouchPointMode
  lastX : Rat
  lastY : Rat
  deriving DecidableEq, Repr

def TouchPoint.moveTo (x y : Rat) (point : TouchPoint) : TouchPoint := { point with lastX := x, lastY := y }

/-- A `wlr_touch_point`. The seat does not know the device of the finger it stands
for, which is kept here to tell the points apart. -/
structure SeatPoint where
  device : Nat
  touchId : Int
  client : Nat
  /-- Its surface is one of Xwayland's. -/
  xwayland : Bool
  sx : Rat
  sy : Rat
  deriving DecidableEq, Repr

def SeatPoint.moveTo (sx sy : Rat) (point : SeatPoint) : SeatPoint := { point with sx := sx, sy := sy }

inductive TouchNotice where
  | down (sx sy : Rat)
  | motion (sx sy : Rat)
  | up
  | cancel
  deriving DecidableEq, Repr

structure TouchReceipt where
  device : Nat
  touchId : Int
  client : Nat
  notice : TouchNotice
  deriving DecidableEq, Repr

/-- The surface under a new point. `accepted` says whether the seat's grab lets the
client have it; the position is in the units of the surface. -/
structure TouchTarget where
  client : Nat
  xwayland : Bool
  accepted : Bool
  sx : Rat
  sy : Rat
  deriving DecidableEq, Repr

/-- Where a finger goes down: the overlays that are open, the cursor and the surface
under it, if one takes touches. -/
structure TouchHit where
  multitasking : Bool
  windowPreviews : Bool
  selector : Bool
  x : Rat
  y : Rat
  target : Option TouchTarget
  deriving DecidableEq, Repr

inductive TouchEvent where
  | down (touchId : Int) (hit : TouchHit)
  /-- `scale` is that of Xwayland. -/
  | motion (touchId : Int) (x y scale : Rat)
  | up (touchId : Int)
  | cancel (touchId : Int)
  deriving DecidableEq, Repr

structure TouchState where
  touchDevices : List Nat
  touchPoints : List TouchPoint
  /-- The seat's points, newest first. -/
  seatPoints : List SeatPoint
  received : List TouchReceipt
  /-- Left-button events made up by `SendPointerTouchButton`. -/
  presses : Nat
  releases : Nat
  deriving DecidableEq, Repr

namespace TouchState

def initial : TouchState := ⟨[], [], [], [], 0, 0⟩

/-- `wlr_seat_touch_get_point`. -/
def getPoint (state : TouchState) (touchId : Int) : Option SeatPoint :=
  state.seatPoints.find? (·.touchId == touchId)

def tell (state : TouchState) (point : SeatPoint) (notice : TouchNotice) : TouchState :=
  { state with received := state.received ++ [⟨point.device, point.touchId, point.client, notice⟩] }

/-- `wlr_seat_touch_notify_down`, where it returns a serial. -/
def notifyDown (state : TouchState) (point : SeatPoint) : TouchState :=
  { state with seatPoints := point :: state.seatPoints }.tell point (.down point.sx point.sy)

/-- `wlr_seat_touch_notify_up`. -/
def notifyUp (state : TouchState) (touchId : Int) : TouchState :=
  match state.getPoint touchId with
  | none => state
  | some point => { state with seatPoints := state.seatPoints.eraseP (·.touchId == touchId) }.tell point .up

/-- `wlr_seat_touch_notify_motion`. -/
def notifyMotion (state : TouchState) (touchId : Int) (sx sy : Rat) : TouchState :=
  match state.getPoint touchId with
  | none => state
  | some point =>
    let moved := FirstMatch.update (·.touchId == touchId) (·.moveTo sx sy) state.seatPoints
    { state with seatPoints := moved }.tell point (.motion sx sy)

/-- `wlr_seat_touch_notify_cancel`: all of the client's points end. -/
def notifyCancel (state : TouchState) (client : Nat) : TouchState :=
  { state with
    seatPoints := state.seatPoints.filter (·.client != client)
    received := state.received ++ (state.seatPoints.filter (·.client == client)).map fun point =>
      ⟨point.device, point.touchId, point.client, .cancel⟩ }

def isPoint (touch : Nat) (touchId : Int) (point : TouchPoint) : Bool :=
  point.touch == touch && point.touchId == touchId

def findTouchPoint (state : TouchState) (touch : Nat) (touchId : Int) : Option TouchPoint :=
  state.touchPoints.find? (isPoint touch touchId)

def sendPointerTouchButton (state : TouchState) (pressed : Bool) : TouchState :=
  if pressed then { state with presses := state.presses + 1 } else { state with releases := state.releases + 1 }

def pushPoint (state : TouchState) (touch : Nat) (touchId : Int) (mode : TouchPointMode) (x y : Rat) : TouchState :=
  { state with touchPoints := state.touchPoints ++ [⟨touch, touchId, mode, x, y⟩] }

def pointerInUse (state : TouchState) : Bool := state.touchPoints.any (·.mode == .pointer)

def onTouchDown (state : TouchState) (touch : Nat) (touchId : Int) (hit : TouchHit) : TouchState :=
  if hit.multitasking then state.pushPoint touch touchId .multitasking hit.x hit.y
  else if hit.windowPreviews then state.pushPoint touch touchId .windowPreviews hit.x hit.y
  else if hit.selector then state.pushPoint touch touchId .selector hit.x hit.y
  else
    match hit.target.filter (·.accepted) with
    | some target =>
      (state.notifyDown ⟨touch, touchId, target.client, target.xwayland, target.sx, target.sy⟩).pushPoint
        touch touchId .native hit.x hit.y
    | none =>
      if state.pointerInUse then state.pushPoint touch touchId .ignored hit.x hit.y
      else (state.sendPointerTouchButton true).pushPoint touch touchId .pointer hit.x hit.y

/-- What `OnTouchUp` does outside the table. The overlays get a release of their own. -/
def sendUp (state : TouchState) (touchId : Int) : TouchPointMode → TouchState
  | .native => state.notifyUp touchId
  | .pointer => state.sendPointerTouchButton false
  | _ => state

def onTouchUp (state : TouchState) (touch : Nat) (touchId : Int) : TouchState :=
  match state.findTouchPoint touch touchId with
  | none => state
  | some point =>
    let ended := state.sendUp touchId point.mode
    { ended with touchPoints := ended.touchPoints.filter (!isPoint touch touchId ·) }

def onTouchMotion (state : TouchState) (touch : Nat) (touchId : Int) (x y scale : Rat) : TouchState :=
  match state.findTouchPoint touch touchId with
  | none => state
  | some point =>
    let moved :=
      { state with touchPoints := FirstMatch.update (isPoint touch touchId) (·.moveTo x y) state.touchPoints }
    if point.mode = .native then
      match state.getPoint touchId with
      | none => moved
      | some seatPoint =>
        let factor := if seatPoint.xwayland then scale else 1
        moved.notifyMotion touchId (seatPoint.sx + (x - point.lastX) * factor)
          (seatPoint.sy + (y - point.lastY) * factor)
    else moved

/-- The points that leave the table with a cancelled touch: the device's others may
have ended at the seat with it. -/
def leavesWith (ended : TouchState) (touch : Nat) (touchId : Int) (candidate : TouchPoint) : Bool :=
  candidate.touch == touch && (candidate.touchId == touchId ||
    candidate.mode == .native && (ended.getPoint candidate.touchId).isNone)

/-- What `OnTouchCancel` does outside the table. The overlays are closed. -/
def sendCancel (state : TouchState) (touchId : Int) : TouchPointMode → TouchState
  | .native =>
    match state.getPoint touchId with
    | none => state
    | some seatPoint => state.notifyCancel seatPoint.client
  | .pointer => state.sendPointerTouchButton false
  | _ => state

def onTouchCancel (state : TouchState) (touch : Nat) (touchId : Int) : TouchState :=
  match state.findTouchPoint touch touchId with
  | none => state
  | some point =>
    let ended := state.sendCancel touchId point.mode
    { ended with touchPoints := ended.touchPoints.filter (!ended.leavesWith touch touchId ·) }

def touchClients (state : TouchState) (touch : Nat) : List Nat :=
  state.touchPoints.foldl (fun clients point =>
    if point.touch == touch && point.mode == .native then
      match state.getPoint point.touchId with
      | none => clients
      | some seatPoint => if clients.contains seatPoint.client then clients else clients ++ [seatPoint.client]
    else clients) []

def cancelTouchDevice (state : TouchState) (touch : Nat) : TouchState :=
  let cancelled := (state.touchClients touch).foldl notifyCancel state
  let released :=
    if state.touchPoints.any fun point => point.touch == touch && point.mode == .pointer then
      cancelled.sendPointerTouchButton false
    else cancelled
  { released with touchPoints := released.touchPoints.filter (·.touch != touch) }

def onTouch (state : TouchState) (touch : Nat) : TouchEvent → TouchState
  | .down touchId hit => state.onTouchDown touch touchId hit
  | .motion touchId x y scale => state.onTouchMotion touch touchId x y scale
  | .up touchId => state.onTouchUp touch touchId
  | .cancel touchId => state.onTouchCancel touch touchId

inductive Event where
  | touch (touch : Nat) (event : TouchEvent)
  | addTouch (touch : Nat)
  | destroyTouch (touch : Nat)
  /-- A client asks for the session lock; `held` says whether there is one already. -/
  | lockRequest (held : Bool)
  | clientGone (client : Nat)
  deriving DecidableEq, Repr

def step (state : TouchState) : Event → TouchState
  | .touch touch event => state.onTouch touch event
  | .addTouch touch => { state with touchDevices := state.touchDevices ++ [touch] }
  | .destroyTouch touch =>
    let cancelled := state.cancelTouchDevice touch
    { cancelled with touchDevices := cancelled.touchDevices.erase touch }
  | .lockRequest held => if held then state else state.touchDevices.foldl cancelTouchDevice state
  | .clientGone client => { state with seatPoints := state.seatPoints.filter (·.client != client) }

end TouchState

end FlakeWM.Input
