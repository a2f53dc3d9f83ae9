import FlakeWM.Lib.Brackets

/-! Text inputs of the three protocol versions.

A v1 or v2 object remembers the surface its client activated or enabled it for; a
v3 object the surface it was told to have entered. The input-method relay keeps a
surface of its own at every text input, its relay focus. Of what is sent to the
client the enter and leave events are kept. -/

set_option autoImplicit false

namespace FlakeWM.Input.Text

structure Surface where
  id : Nat
  client : Nat
  deriving DecidableEq, Repr

inductive Version where
  | v1
  | v2
  | v3
  deriving DecidableEq, Repr

/-- The leave event of v1 names no surface. -/
inductive FocusMessage where
  | enter (surface : Surface)
  | leave (surface : Option Surface)
  deriving DecidableEq, Repr

def FocusMessage.mark : FocusMessage → Brackets.Mark Surface
  | .enter surface => .opens surface
  | .leave none => .closes fun _ => true
  | .leave (some surface) => .closes fun entered => entered == surface

/-- `surface` is `surface_` of v1 and v2 and the handle's `focused_surface` of v3;
`enabled` is `activated_`, `enabled_` and `current_enabled`. Only v3 has a pending
state. -/
structure TextInput where
  id : Nat
  version : Version
  client : Nat
  seat : Option Nat
  surface : Option Surface
  enabled : Bool
  pendingEnabled : Bool
  relayFocused : Option Surface
  sent : List FocusMessage
  deriving DecidableEq, Repr

namespace TextInput

def create (id : Nat) (version : Version) (client : Nat) (seat : Option Nat) : TextInput where
  id := id
  version := version
  client := client
  seat := seat
  surface := none
  enabled := false
  pendingEnabled := false
  relayFocused := none
  sent := []

def matchesSurface (input : TextInput) (surface : Surface) : Bool :=
  match input.version with
  | .v1 | .v2 => input.surface == some surface
  | .v3 => input.client == surface.client

def send (input : TextInput) (message : FocusMessage) : TextInput := { input with sent := input.sent ++ [message] }

def sendEnter (input : TextInput) (surface : Surface) : TextInput :=
  match input.version with
  | .v1 => if input.surface = some surface then input.send (.enter surface) else input
  | .v2 => input.send (.enter surface)
  | .v3 => { input.send (.enter surface) with surface := some surface }

def sendLeave (input : TextInput) : TextInput :=
  match input.surface with
  | none => input
  | some surface =>
    { input.send (.leave (if input.version = .v1 then none else some surface)) with surface := none }

def leave (input : TextInput) : TextInput := { input.sendLeave with relayFocused := none }

def enter (input : TextInput) (surface : Surface) : TextInput :=
  { input.sendEnter surface with relayFocused := some surface }

section

variable (n : TextInput) (x : Surface)

@[simp] theorem enter_id : (n.enter x).id = n.id := by
  unfold enter sendEnter send
  split
  · split <;> rfl
  · rfl
  · rfl

@[simp] theorem enter_relayFocused : (n.enter x).relayFocused = some x := rfl

@[simp] theorem leave_id : n.leave.id = n.id := by
  unfold leave sendLeave
  split <;> rfl

end

end TextInput

end FlakeWM.Input.Text
