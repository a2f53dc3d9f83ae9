import FlakeWM.Lib.Transition
import FlakeWM.Input.TextInput

/-! The input-method relay.

It joins the text inputs of a seat with one input method. Text inputs are named by
the number they were created with. The relay's own pointers are the focused
surface, the active and the pending text input; of what is sent to the input method
the activate and deactivate events are kept, in a list that starts when the input
method appears. -/

set_option autoImplicit false

namespace FlakeWM.Input.Text

inductive MethodMessage where
  | activate
  | deactivate
  deriving DecidableEq, Repr

structure Relay where
  seat : Nat
  focusedSurface : Option Surface
  textInputs : List TextInput
  /-- What the present input method was sent. -/
  inputMethod : Option (List MethodMessage)
  active : Option Nat
  pending : Option Nat
  created : Nat
  deriving DecidableEq, Repr

namespace Relay

/-- The relay starts with the surface that has the keyboard focus. -/
def initial (seat : Nat) (focusedSurface : Option Surface) : Relay where
  seat := seat
  focusedSurface := focusedSurface
  textInputs := []
  inputMethod := none
  active := none
  pending := none
  created := 0

def find (relay : Relay) (id : Nat) : Option TextInput := relay.textInputs.find? (·.id == id)

def modify (relay : Relay) (id : Nat) (change : TextInput → TextInput) : Relay :=
  { relay with textInputs := relay.textInputs.map fun input => if input.id = id then change input else input }

def sendMethod (relay : Relay) (message : MethodMessage) : Relay :=
  { relay with inputMethod := relay.inputMethod.map (· ++ [message]) }

def deactivate (relay : Relay) (id : Nat) : Relay :=
  if relay.active = some id then { relay.sendMethod .deactivate with active := none } else relay

def activate (relay : Relay) (input : TextInput) : Relay :=
  if relay.focusedSurface = none ∨ input.enabled = false ∨ input.relayFocused ≠ relay.focusedSurface then relay
  else if relay.inputMethod = none then { relay with pending := some input.id }
  else
    let relay := match relay.active with
      | some other => if other ≠ input.id then relay.deactivate other else relay
      | none => relay
    { relay.sendMethod .activate with active := some input.id, pending := none }

def acceptsFocus (relay : Relay) (input : TextInput) (surface : Surface) : Bool :=
  (input.seat == none || input.seat == some relay.seat) && input.matchesSurface surface

def leaves (surface : Option Surface) (input : TextInput) : Bool :=
  input.relayFocused != none && input.relayFocused != surface

def enters (relay : Relay) (surface : Option Surface) (input : TextInput) : Option Surface :=
  match surface with
  | some surface => if input.relayFocused = none ∧ relay.acceptsFocus input surface = true then some surface else none
  | none => none

/-- The first loop of `UpdateFocus`. Its body changes the input it looks at and,
where that is the active one, the relay's pointers. -/
def leaveOthers (relay : Relay) (surface : Option Surface) : Relay :=
  let left := relay.textInputs.foldl
    (fun relay input => if leaves surface input then relay.deactivate input.id else relay) relay
  { left with textInputs := relay.textInputs.map fun input => if leaves surface input then input.leave else input }

/-- The second loop of `UpdateFocus`, without its search for a candidate. -/
def enterAccepting (relay : Relay) (surface : Option Surface) : Relay :=
  { relay with
    textInputs := relay.textInputs.map fun input =>
      match relay.enters surface input with
      | some surface => input.enter surface
      | none => input }

def candidate (relay : Relay) (surface : Option Surface) : Option TextInput :=
  relay.textInputs.find? fun input => input.enabled && input.relayFocused == surface

def activateCandidate (relay : Relay) (surface : Option Surface) : Relay :=
  match relay.candidate surface with
  | some input => if surface ≠ none ∧ relay.active ≠ some input.id then relay.activate input else relay
  | none => relay

def updateFocus (relay : Relay) (surface : Option Surface) : Relay :=
  ((({ relay with focusedSurface := surface }).leaveOthers surface).enterAccepting surface).activateCandidate surface

/-- What `AddTextInput` makes of an input while a surface is focused. -/
def greet (relay : Relay) (input : TextInput) : TextInput :=
  match relay.focusedSurface with
  | some surface => if input.matchesSurface surface then input.enter surface else input
  | none => input

def addTextInput (relay : Relay) (input : TextInput) : Relay :=
  if input.seat ≠ none ∧ input.seat ≠ some relay.seat then relay
  else { relay with textInputs := relay.textInputs ++ [relay.greet input] }

/-- A v1 object has no seat before it is activated. -/
def create (relay : Relay) (version : Version) (client seat : Nat) : Relay :=
  ({ relay with created := relay.created + 1 }).addTextInput
    (TextInput.create relay.created version client (if version = Version.v1 then none else some seat))

def handleEnable (relay : Relay) (id : Nat) : Relay :=
  let relay := relay.updateFocus relay.focusedSurface
  match relay.find id with
  | some input => if input.relayFocused ≠ relay.focusedSurface then relay else relay.activate input
  | none => relay

def handleDisable (relay : Relay) (id : Nat) : Relay :=
  let relay := if relay.pending = some id then { relay with pending := none } else relay
  relay.deactivate id

def handleDestroy (relay : Relay) (id : Nat) : Relay :=
  let relay := relay.handleDisable id
  { relay with textInputs := relay.textInputs.filter (·.id != id) }

/-- A second input method is told that it is unavailable, one of another seat is not
looked at. -/
def newInputMethod (relay : Relay) (seat : Nat) : Relay :=
  if seat ≠ relay.seat ∨ relay.inputMethod ≠ none then relay
  else
    let relay := ({ relay with inputMethod := some [] }).updateFocus relay.focusedSurface
    let candidate := match relay.pending with
      | some id => relay.find id
      | none => relay.candidate relay.focusedSurface
    let relay := { relay with pending := none }
    match candidate with
    | some input => relay.activate input
    | none => relay

def inputMethodDestroyed (relay : Relay) : Relay :=
  if relay.inputMethod = none then relay
  else { relay with inputMethod := none, pending := relay.active, active := none }

end Relay

/-- `activate` and `deactivate` are requests of v1, `enable` and `disable` those of v2;
a v3 input changes when its client commits. `commitState` is what v1 and v2 call a
commit. `destroyed` is the end of a text input, by its client or with the seat;
`surfaceDestroyed` says that the input hears of the end of its surface. The keyboard
focus then moves by an event of its own, before or after that. -/
inductive RelayEvent where
  | create (version : Version) (client seat : Nat)
  | activate (id : Nat) (seat : Option Nat) (surface : Surface)
  | deactivate (id : Nat) (seat : Option Nat)
  | enable (id : Nat) (surface : Surface)
  | disable (id : Nat) (surface : Surface)
  | enableV3 (id : Nat)
  | disableV3 (id : Nat)
  | commitV3 (id : Nat)
  | commitState (id : Nat)
  | destroyed (id : Nat)
  | surfaceDestroyed (id : Nat)
  | focusChange (surface : Option Surface)
  | newInputMethod (seat : Nat)
  | inputMethodDestroyed
  deriving DecidableEq, Repr

namespace Relay

def asked (relay : Relay) (id : Nat) (version : Version) : Option TextInput :=
  (relay.find id).filter (·.version == version)

def activateV1 (relay : Relay) (id : Nat) (seat : Option Nat) (surface : Surface) : Relay :=
  match relay.asked id .v1 with
  | some input =>
    if seat = none ∨ surface.client ≠ input.client then relay
    else (relay.modify id fun input => { input with seat := seat, surface := some surface, enabled := true }).handleEnable id
  | none => relay

def deactivateV1 (relay : Relay) (id : Nat) (seat : Option Nat) : Relay :=
  match relay.asked id .v1 with
  | some input =>
    if seat = none ∨ input.seat ≠ seat then relay
    else ((relay.modify id fun input => { input with enabled := false }).handleDisable id).modify id
      fun input => { input with seat := none, surface := none }
  | none => relay

def enableV2 (relay : Relay) (id : Nat) (surface : Surface) : Relay :=
  match relay.asked id .v2 with
  | some input =>
    if surface.client ≠ input.client then relay
    else (relay.modify id fun input => { input with surface := some surface, enabled := true }).handleEnable id
  | none => relay

def disableV2 (relay : Relay) (id : Nat) (surface : Surface) : Relay :=
  match relay.asked id .v2 with
  | some input =>
    if input.surface ≠ some surface then relay
    else ((relay.modify id fun input => { input with enabled := false }).handleDisable id).modify id
      fun input => { input with surface := none }
  | none => relay

def setPendingV3 (relay : Relay) (id : Nat) (enabled : Bool) : Relay :=
  match relay.asked id .v3 with
  | some _ => relay.modify id fun input => { input with pendingEnabled := enabled }
  | none => relay

def commitV3 (relay : Relay) (id : Nat) : Relay :=
  match relay.asked id .v3 with
  | some input =>
    let committed := relay.modify id fun input => { input with enabled := input.pendingEnabled }
    if input.enabled = false ∧ input.pendingEnabled = true then committed.handleEnable id
    else if input.enabled = true ∧ input.pendingEnabled = false then committed.handleDisable id
    else committed
  | none => relay

def surfaceDestroyed (relay : Relay) (id : Nat) : Relay :=
  match relay.find id with
  | some input =>
    if input.surface = none then relay
    else if input.version = .v1 then relay.handleDestroy id
    else relay.modify id fun input => { input with surface := none }
  | none => relay

/-- A commit sends the input's state on to the input method and changes nothing of
what is modelled. -/
def step (relay : Relay) : RelayEvent → Relay
  | .create version client seat => relay.create version client seat
  | .activate id seat surface => relay.activateV1 id seat surface
  | .deactivate id seat => relay.deactivateV1 id seat
  | .enable id surface => relay.enableV2 id surface
  | .disable id surface => relay.disableV2 id surface
  | .enableV3 id => relay.setPendingV3 id true
  | .disableV3 id => relay.setPendingV3 id false
  | .commitV3 id => relay.commitV3 id
  | .commitState _ => relay
  | .destroyed id => relay.handleDestroy id
  | .surfaceDestroyed id => relay.surfaceDestroyed id
  | .focusChange surface => relay.updateFocus surface
  | .newInputMethod seat => relay.newInputMethod seat
  | .inputMethodDestroyed => relay.inputMethodDestroyed

end Relay

end FlakeWM.Input.Text
