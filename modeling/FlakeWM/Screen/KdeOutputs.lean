import FlakeWM.Lib.Transition
import FlakeWM.Screen.Layout

/-! Output configurations of the KDE protocol.

A client creates a configuration, fills it and applies it. The configuration holds
the primary output of the moment it was created and, for each output it mentions, all
settings of the moment it first did so; applying it writes all of them. Outputs are
numbered in the order they appear and keep their number. What other parts of the
compositor do with the outputs meanwhile are events of their own. -/

set_option autoImplicit false

namespace FlakeWM.Screen

open Pixels

/-- What the manager reads and writes of an output. `listed` says that the mode is one
of the output's own, and not a custom one. -/
structure Device (F : Type) where
  name : String
  enabled : Bool
  mode : Mode
  listed : Bool
  transform : Transform
  scale : F
  adaptiveSyncSupported : Bool
  adaptiveSync : Bool

inductive Property where
  | enabled
  | mode
  | transform
  | scale
  | adaptiveSync
  | position
  deriving DecidableEq, Repr

/-- The settings of one output. `asked` is not kept by the manager: it tells which of
them the client has set. -/
structure ConfigurationHead (F : Type) where
  output : Nat
  enabled : Bool
  mode : Option Mode
  transform : Transform
  scale : F
  adaptiveSync : Bool
  x : Int
  y : Int
  asked : List Property

structure Configuration (F : Type) where
  id : Nat
  heads : List (ConfigurationHead F)
  primary : Option Nat
  askedPrimary : Bool
  applied : Bool

structure KdeOutputs (F : Type) where
  devices : List (Device F)
  layout : List LayoutOutput
  outputs : List Nat
  primary : Option Nat
  configurations : List (Configuration F)

variable {F : Type}

namespace Device

def output (device : Device F) : Output F :=
  ⟨device.name, [], device.enabled, device.mode.width, device.mode.height, device.mode.refresh, device.scale,
    device.transform⟩

def currentMode (device : Device F) : Option Mode := if device.listed then some device.mode else none

/-- The output state of a head, once the backend has accepted it. -/
def commit (device : Device F) (head : ConfigurationHead F) : Device F :=
  { device with
    enabled := head.enabled
    mode := head.mode.getD device.mode
    listed := head.mode.isSome || device.listed
    transform := head.transform
    scale := head.scale
    adaptiveSync := if device.adaptiveSyncSupported then head.adaptiveSync else device.adaptiveSync }

end Device

namespace ConfigurationHead

def ask (head : ConfigurationHead F) (property : Property) : ConfigurationHead F :=
  { head with asked := property :: head.asked }

def setEnabled (enabled : Int) (head : ConfigurationHead F) : ConfigurationHead F :=
  { head with enabled := decide (enabled ≠ 0) }.ask .enabled

def setMode (mode : Option (Nat × Mode)) (head : ConfigurationHead F) : ConfigurationHead F :=
  match mode with
  | some (owner, mode) => if owner = head.output then { head with mode := some mode }.ask .mode else head
  | none => head

def setTransform (transform : Int) (head : ConfigurationHead F) : ConfigurationHead F :=
  if 0 ≤ transform ∧ transform ≤ 7 then { head with transform := Transform.ofCode transform }.ask .transform else head

def kMaximumSceneCoordinate : Int := 2147483647 / 4

def clamp (value : Int) : Int := max (-kMaximumSceneCoordinate) (min value kMaximumSceneCoordinate)

def setPosition (x y : Int) (head : ConfigurationHead F) : ConfigurationHead F :=
  { head with x := clamp x, y := clamp y }.ask .position

def setScale [ScaleFormat F] (scale : Int) (head : ConfigurationHead F) : ConfigurationHead F :=
  if 0 < scale then { head with scale := ScaleFormat.ofDouble (scale / 256) }.ask .scale else head

def setVrrPolicy (policy : Nat) (head : ConfigurationHead F) : ConfigurationHead F :=
  { head with adaptiveSync := decide (policy ≠ 0) }.ask .adaptiveSync

end ConfigurationHead

namespace KdeOutputs

def create : KdeOutputs F := ⟨[], [], [], none, []⟩

def isOn (kde : KdeOutputs F) (output : Nat) : Bool := kde.devices[output]?.any (·.enabled)

def firstOn (kde : KdeOutputs F) : Option Nat := kde.outputs.find? kde.isOn

def choosePrimary (kde : KdeOutputs F) (primary : Option Nat) : Option Nat :=
  if primary.any kde.isOn then primary else kde.firstOn

def setPrimary (kde : KdeOutputs F) (primary : Option Nat) : KdeOutputs F := { kde with primary }

def updateOutputs (kde : KdeOutputs F) : KdeOutputs F := { kde with primary := kde.choosePrimary kde.primary }

def configuration (kde : KdeOutputs F) (id : Nat) : Option (Configuration F) :=
  kde.configurations.find? (·.id == id)

def modifyConfiguration (kde : KdeOutputs F) (id : Nat) (change : Configuration F → Configuration F) : KdeOutputs F :=
  { kde with configurations := FirstMatch.update (·.id == id) change kde.configurations }

def addOutput (kde : KdeOutputs F) (device : Device F) : KdeOutputs F :=
  { kde with
    devices := kde.devices ++ [device]
    outputs := kde.outputs ++ [kde.devices.length]
    primary := if kde.primary = none ∧ device.enabled = true then some kde.devices.length else kde.primary }

def createConfiguration (kde : KdeOutputs F) (id : Nat) : KdeOutputs F :=
  if (kde.configuration id).isSome then kde
  else { kde with configurations := kde.configurations ++ [⟨id, [], kde.primary, false, false⟩] }

def destroyConfiguration (kde : KdeOutputs F) (id : Nat) : KdeOutputs F :=
  { kde with configurations := kde.configurations.eraseP (·.id == id) }

def dropOutput (output : Nat) (configuration : Configuration F) : Configuration F :=
  { configuration with
    heads := configuration.heads.filter (·.output != output)
    primary := if configuration.primary = some output then none else configuration.primary }

section

variable [ScaleFormat F]

/-- The outputs as the layout sees them. -/
def shown (kde : KdeOutputs F) : List (Output F) := kde.devices.map Device.output

def position (kde : KdeOutputs F) (output : Nat) : Int × Int :=
  let box := layoutBox kde.shown kde.layout output
  (box.x, box.y)

/-- The layout follows the sizes of the outputs it shows. -/
def commit (kde : KdeOutputs F) (output : Nat) (change : Device F → Device F) : KdeOutputs F :=
  let next := { kde with devices := kde.devices.modify output change }
  if (entryOf kde.layout output).isSome then { next with layout := reconfigure next.shown kde.layout } else next

def place (kde : KdeOutputs F) (output : Nat) (x y : Int) (auto : Bool) : KdeOutputs F :=
  { kde with layout := layoutAdd kde.shown kde.layout output x y auto }

def unplace (kde : KdeOutputs F) (output : Nat) : KdeOutputs F :=
  { kde with layout := layoutRemove kde.shown kde.layout output }

def removeOutput (kde : KdeOutputs F) (output : Nat) : KdeOutputs F :=
  if kde.outputs.contains output then
    let next := { kde.unplace output with
      configurations := kde.configurations.map (dropOutput output)
      outputs := kde.outputs.erase output }
    if kde.primary = some output then { next with primary := next.firstOn } else next
  else kde

def setDpms (kde : KdeOutputs F) (output : Nat) (on accepted : Bool) : KdeOutputs F :=
  if kde.outputs.contains output then
    let switched := kde.devices.modify output fun device => { device with enabled := on }
    updateOutputs { kde with devices := if accepted then switched else kde.devices }
  else kde

def capture (kde : KdeOutputs F) (output : Nat) (device : Device F) : ConfigurationHead F :=
  ⟨output, device.enabled, device.currentMode, device.transform, device.scale, device.adaptiveSync,
    (kde.position output).1, (kde.position output).2, []⟩

def getHead (kde : KdeOutputs F) (configuration : Configuration F) (output : Nat) (device : Device F) :
    Configuration F :=
  if configuration.heads.any (·.output == output) then configuration
  else { configuration with heads := configuration.heads ++ [kde.capture output device] }

def device (kde : KdeOutputs F) (output : Nat) : Option (Device F) :=
  if kde.outputs.contains output then kde.devices[output]? else none

def configure (kde : KdeOutputs F) (id output : Nat) (change : ConfigurationHead F → ConfigurationHead F) :
    KdeOutputs F :=
  match kde.device output with
  | none => kde
  | some device => kde.modifyConfiguration id fun configuration =>
    let configuration := kde.getHead configuration output device
    { configuration with heads := FirstMatch.update (·.output == output) change configuration.heads }

def configurePrimary (kde : KdeOutputs F) (id output : Nat) : KdeOutputs F :=
  if kde.outputs.contains output then
    kde.modifyConfiguration id fun configuration =>
      { configuration with primary := some output, askedPrimary := true }
  else kde

def commitHeads (kde : KdeOutputs F) (heads : List (ConfigurationHead F)) : KdeOutputs F :=
  heads.foldl (fun kde head => kde.commit head.output (·.commit head)) kde

def placeHeads (kde : KdeOutputs F) (heads : List (ConfigurationHead F)) : KdeOutputs F :=
  heads.foldl (fun kde head => kde.place head.output head.x head.y false) kde

def writeHeads (kde : KdeOutputs F) (heads : List (ConfigurationHead F)) : KdeOutputs F :=
  (kde.commitHeads heads).placeHeads heads

/-- The backend accepts the outputs if `refused` is empty, and is not asked about none. Else
this is how many of them it has committed before the one that it refuses. -/
def applyConfiguration (kde : KdeOutputs F) (configuration : Configuration F) (refused : Option Nat) :
    KdeOutputs F :=
  match if configuration.heads.isEmpty then none else refused with
  | none => ((kde.writeHeads configuration.heads).setPrimary configuration.primary).updateOutputs
  | some committed => kde.commitHeads (configuration.heads.take committed)

def configureApply (kde : KdeOutputs F) (id : Nat) (refused : Option Nat) : KdeOutputs F :=
  match kde.configuration id with
  | none => kde
  | some configuration =>
    if configuration.applied then kde
    else
      -- The mark is set first; applying does not read it.
      (kde.applyConfiguration configuration refused).modifyConfiguration id
        fun configuration => { configuration with applied := true }

end

end KdeOutputs

/-- The first seven are the rest of the compositor and the backend, the others are
requests of clients. -/
inductive KdeEvent (F : Type) where
  | addOutput (device : Device F)
  | removeOutput (output : Nat)
  | commit (output : Nat) (device : Device F)
  | place (output : Nat) (x y : Int) (auto : Bool)
  | unplace (output : Nat)
  | updateOutputs
  | setDpms (output : Nat) (on accepted : Bool)
  | createConfiguration (id : Nat)
  | destroyConfiguration (id : Nat)
  | configureEnable (id output : Nat) (enabled : Int)
  | configureMode (id output : Nat) (mode : Option (Nat × Mode))
  | configureTransform (id output : Nat) (transform : Int)
  | configurePosition (id output : Nat) (x y : Int)
  | configureScale (id output : Nat) (scale : Int)
  | configureVrr (id output : Nat) (policy : Nat)
  | configurePrimary (id output : Nat)
  | configureApply (id : Nat) (refused : Option Nat)

namespace KdeOutputs

variable [ScaleFormat F]

def step (kde : KdeOutputs F) : KdeEvent F → KdeOutputs F
  | .addOutput device => kde.addOutput device
  | .removeOutput output => kde.removeOutput output
  | .commit output device => kde.commit output fun _ => device
  | .place output x y auto => kde.place output x y auto
  | .unplace output => kde.unplace output
  | .updateOutputs => kde.updateOutputs
  | .setDpms output on accepted => kde.setDpms output on accepted
  | .createConfiguration id => kde.createConfiguration id
  | .destroyConfiguration id => kde.destroyConfiguration id
  | .configureEnable id output enabled => kde.configure id output (.setEnabled enabled)
  | .configureMode id output mode => kde.configure id output (.setMode mode)
  | .configureTransform id output transform => kde.configure id output (.setTransform transform)
  | .configurePosition id output x y => kde.configure id output (.setPosition x y)
  | .configureScale id output scale => kde.configure id output (.setScale scale)
  | .configureVrr id output policy => kde.configure id output (.setVrrPolicy policy)
  | .configurePrimary id output => kde.configurePrimary id output
  | .configureApply id refused => kde.configureApply id refused

end KdeOutputs

end FlakeWM.Screen
