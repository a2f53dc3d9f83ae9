import Mathlib.Data.List.Basic
import Mathlib.Logic.Function.Basic

/-! Key events and the key-binding manager.

What xkbcommon makes of a key in the keyboard's state of the moment is part of
the event; its case folding and its keysym names are the parameter `Xkb`. A
binding's action is opaque here. A press that triggers a binding runs the action
first and records the key afterwards, so one call is split at that point: the
`Handled` it returns holds the manager the action starts from, the action, and
the key to be recorded when the action has returned. -/

set_option autoImplicit false

namespace FlakeWM.Input

abbrev Keysym := Nat

namespace Keysym

def isoLeftTab : Keysym := 0xfe20
def backSpace : Keysym := 0xff08
def tab : Keysym := 0xff09
def returnKey : Keysym := 0xff0d
def escape : Keysym := 0xff1b
def home : Keysym := 0xff50
def left : Keysym := 0xff51
def up : Keysym := 0xff52
def right : Keysym := 0xff53
def down : Keysym := 0xff54
def pageUp : Keysym := 0xff55
def pageDown : Keysym := 0xff56
def endKey : Keysym := 0xff57
def numLock : Keysym := 0xff7f
def kpEnter : Keysym := 0xff8d
def f3 : Keysym := 0xffc0
def shiftL : Keysym := 0xffe1
def shiftR : Keysym := 0xffe2
def controlL : Keysym := 0xffe3
def controlR : Keysym := 0xffe4
def capsLock : Keysym := 0xffe5
def metaL : Keysym := 0xffe7
def metaR : Keysym := 0xffe8
def altL : Keysym := 0xffe9
def altR : Keysym := 0xffea
def superL : Keysym := 0xffeb
def superR : Keysym := 0xffec
def delete : Keysym := 0xffff
def upperA : Keysym := 0x41
def upperS : Keysym := 0x53
def lowerA : Keysym := 0x61
def lowerS : Keysym := 0x73

end Keysym

abbrev Modifiers := BitVec 32

namespace Modifiers

def shift : Modifiers := 1
def caps : Modifiers := 2
def ctrl : Modifiers := 4
def alt : Modifiers := 8
def mod2 : Modifiers := 16
def mod3 : Modifiers := 32
def logo : Modifiers := 64
def mod5 : Modifiers := 128

def has (modifiers modifier : Modifiers) : Bool := modifiers &&& modifier != 0

end Modifiers

/-- `toLower` is `xkb_keysym_to_lower`; `name` is empty where `xkb_keysym_get_name` fails. -/
structure Xkb where
  toLower : Keysym → Keysym
  name : Keysym → String

structure Key where
  keyboard : Nat
  keycode : Nat
  deriving DecidableEq, Repr

/-- `hasState` is false while the keyboard has no xkb state. `symbol`, `keysyms`
and `text` are what that state makes of the key, `modifiers` the keyboard's. -/
structure KeyEvent where
  key : Key
  pressed : Bool
  hasState : Bool
  symbol : Keysym
  keysyms : List Keysym
  text : List Char
  modifiers : Modifiers
  deriving DecidableEq, Repr

inductive KeyBindingType where
  | custom
  | windowSwitch
  | windowMinimize
  | windowMaximize
  | windowClose
  | windowMenu
  deriving DecidableEq, Repr

structure ParsedShortcut where
  modifiers : Modifiers
  keysym : Keysym
  noRepeat : Bool
  deriving DecidableEq, Repr

variable {α : Type}

structure Binding (α : Type) where
  id : Nat
  parsed : ParsedShortcut
  type : KeyBindingType
  action : α
  deriving DecidableEq, Repr

structure ActiveKey where
  key : Key
  bindingId : Nat
  deriving DecidableEq, Repr

/-- `off` while no capture callback is set, `captured` once a key has been taken for it. -/
inductive Grab where
  | off
  | waiting
  | captured (key : Key) (shortcut : String)
  deriving DecidableEq, Repr

structure KeyBindingManager (α : Type) where
  bindings : List (Binding α)
  activeKeys : List ActiveKey
  typeBlockCounts : KeyBindingType → Nat
  nextId : Nat
  blockCount : Nat
  grab : Grab

/-- One call of `handleKey`, up to where the action runs. `records` is the key
that becomes active when the action has returned; `callback` is the call of the
capture callback. -/
structure Handled (α : Type) where
  manager : KeyBindingManager α
  consumed : Bool
  action : Option α
  records : Option ActiveKey
  callback : Option (Bool × String)

namespace KeyBindingManager

def initial : KeyBindingManager α where
  bindings := []
  activeKeys := []
  typeBlockCounts := fun _ => 0
  nextId := 1
  blockCount := 0
  grab := .off

def duplicate (bindings : List (Binding α)) (parsed : ParsedShortcut) : Bool :=
  bindings.any fun binding =>
    binding.parsed.keysym == parsed.keysym && binding.parsed.modifiers == parsed.modifiers

/-- `parsed` is what `ParseShortcut` makes of the text, `action` is empty for an empty function. -/
def register (manager : KeyBindingManager α) (parsed : Option ParsedShortcut) (type : KeyBindingType)
    (action : Option α) : KeyBindingManager α × Option Nat :=
  match parsed, action with
  | some parsed, some action =>
    if duplicate manager.bindings parsed then (manager, none)
    else
      ({ manager with
          bindings := manager.bindings ++ [⟨manager.nextId, parsed, type, action⟩]
          nextId := manager.nextId + 1 },
        some manager.nextId)
  | _, _ => (manager, none)

def replaceParsed (id : Nat) (parsed : ParsedShortcut) : List (Binding α) → List (Binding α)
  | [] => []
  | binding :: rest =>
    if binding.id = id then { binding with parsed := parsed } :: rest
    else binding :: replaceParsed id parsed rest

def update (manager : KeyBindingManager α) (id : Nat) (parsed : Option ParsedShortcut) :
    KeyBindingManager α × Bool :=
  match parsed with
  | none => (manager, false)
  | some parsed =>
    if !manager.bindings.any (fun binding => binding.id == id) then (manager, false)
    else if duplicate (manager.bindings.filter fun binding => binding.id != id) parsed then (manager, false)
    else ({ manager with bindings := replaceParsed id parsed manager.bindings }, true)

def unregister (manager : KeyBindingManager α) (id : Nat) : KeyBindingManager α × Bool :=
  let bindings := manager.bindings.filter fun binding => binding.id != id
  ({ manager with bindings := bindings }, bindings.length != manager.bindings.length)

def grabNextKey (manager : KeyBindingManager α) : KeyBindingManager α := { manager with grab := .waiting }

def cancelGrab (manager : KeyBindingManager α) : KeyBindingManager α := { manager with grab := .off }

def isGrabbingKey (manager : KeyBindingManager α) : Bool := manager.grab != .off

def blockAll (manager : KeyBindingManager α) (blocked : Bool) : KeyBindingManager α :=
  { manager with blockCount := if blocked then manager.blockCount + 1 else manager.blockCount - 1 }

def blockType (manager : KeyBindingManager α) (type : KeyBindingType) (blocked : Bool) : KeyBindingManager α :=
  let count := manager.typeBlockCounts type
  { manager with
    typeBlockCounts :=
      Function.update manager.typeBlockCounts type (if blocked then count + 1 else count - 1) }

def isTypeBlocked (manager : KeyBindingManager α) (type : KeyBindingType) : Bool :=
  0 < manager.typeBlockCounts type

def isModifierKeysym (keysym : Keysym) : Bool :=
  [Keysym.shiftL, Keysym.shiftR, Keysym.controlL, Keysym.controlR, Keysym.altL, Keysym.altR,
    Keysym.superL, Keysym.superR, Keysym.metaL, Keysym.metaR, Keysym.capsLock, Keysym.numLock].contains keysym

def modifierNames : List (Modifiers × String) :=
  [(.shift, "Shift"), (.caps, "Caps"), (.ctrl, "Ctrl"), (.alt, "Alt"),
    (.mod2, "Mod2"), (.mod3, "Mod3"), (.logo, "Win"), (.mod5, "Mod5")]

/-- The parts joined by `+`; empty when the keysym has no name. -/
def buildShortcut (xkb : Xkb) (modifiers : Modifiers) (keysym : Keysym) : String :=
  let name := xkb.name (xkb.toLower keysym)
  if name.isEmpty then ""
  else
    let names := (modifierNames.filter fun entry => modifiers.has entry.1).map Prod.snd
    "+".intercalate (names ++ [name])

def modifiersMatch (active required : Modifiers) : Bool :=
  let ignored := (Modifiers.caps ||| Modifiers.mod2) &&& ~~~required
  active &&& ~~~ignored == required

/-- The call changes the manager at most and runs no action. -/
def answer (manager : KeyBindingManager α) (consumed : Bool) : Handled α :=
  ⟨manager, consumed, none, none, none⟩

def handleCapturedKey (xkb : Xkb) (manager : KeyBindingManager α) (event : KeyEvent) : Handled α :=
  match event.keysyms with
  | [] => manager.answer true
  | first :: _ =>
    let keysym := xkb.toLower first
    if event.pressed then
      match manager.grab with
      | .waiting =>
        let shortcut := buildShortcut xkb event.modifiers keysym
        if isModifierKeysym keysym || shortcut.isEmpty then manager.answer true
        else
          { ({ manager with grab := .captured event.key shortcut } : KeyBindingManager α).answer true with
            callback := some (true, shortcut) }
      | _ => manager.answer true
    else
      match manager.grab with
      | .captured key shortcut =>
        if key = event.key then { manager.cancelGrab.answer true with callback := some (false, shortcut) }
        else manager.answer true
      | _ => manager.answer true

def isActive (manager : KeyBindingManager α) (key : Key) : Bool :=
  manager.activeKeys.any fun active => active.key == key

def eraseActive (manager : KeyBindingManager α) (key : Key) : KeyBindingManager α :=
  { manager with activeKeys := manager.activeKeys.eraseP fun active => active.key == key }

def foldKeysym (xkb : Xkb) (keysym : Keysym) : Keysym :=
  if keysym = Keysym.isoLeftTab then Keysym.tab else xkb.toLower keysym

def bindingFor (xkb : Xkb) (manager : KeyBindingManager α) (event : KeyEvent) : Option (Binding α) :=
  event.keysyms.findSome? fun keysym =>
    manager.bindings.find? fun binding =>
      !manager.isTypeBlocked binding.type && binding.parsed.keysym == foldKeysym xkb keysym &&
        modifiersMatch event.modifiers binding.parsed.modifiers

def repeatAction (manager : KeyBindingManager α) (active : ActiveKey) (inhibited : Bool) : Option α :=
  match manager.bindings.find? fun binding => binding.id == active.bindingId with
  | none => none
  | some binding =>
    if !binding.parsed.noRepeat && !inhibited && manager.blockCount == 0 && !manager.isTypeBlocked binding.type then
      some binding.action
    else none

def handleKey (xkb : Xkb) (manager : KeyBindingManager α) (event : KeyEvent) (inhibited : Bool) : Handled α :=
  if !event.hasState then manager.answer false
  else if !event.pressed then
    if manager.isActive event.key then (manager.eraseActive event.key).answer true
    else if manager.isGrabbingKey then manager.handleCapturedKey xkb event
    else manager.answer false
  else if manager.isGrabbingKey then manager.handleCapturedKey xkb event
  else
    match manager.activeKeys.find? fun active => active.key == event.key with
    | some active => { manager.answer true with action := manager.repeatAction active inhibited }
    | none =>
      if inhibited || 0 < manager.blockCount then manager.answer false
      else
        match manager.bindingFor xkb event with
        | none => manager.answer false
        | some binding =>
          { manager.answer true with
            action := some binding.action
            records := some ⟨event.key, binding.id⟩ }

/-- What `handleKey` still does once the action has returned. -/
def record (manager : KeyBindingManager α) (records : Option ActiveKey) : KeyBindingManager α :=
  { manager with activeKeys := manager.activeKeys ++ records.toList }

@[simp] theorem record_none (m : KeyBindingManager α) : m.record none = m := by
  simp [record]

def forgetKeyboard (manager : KeyBindingManager α) (keyboard : Nat) : KeyBindingManager α :=
  { manager with
    activeKeys := manager.activeKeys.filter fun active => active.key.keyboard != keyboard
    grab :=
      match manager.grab with
      | .captured key _ => if key.keyboard = keyboard then .off else manager.grab
      | _ => manager.grab }

def endsGrab (manager : KeyBindingManager α) (event : KeyEvent) : Bool :=
  event.hasState && !event.pressed && !event.keysyms.isEmpty && !manager.isActive event.key &&
    match manager.grab with
    | .captured key _ => key == event.key
    | _ => false

def triggers (xkb : Xkb) (manager : KeyBindingManager α) (event : KeyEvent) (inhibited : Bool) : Bool :=
  !(inhibited || 0 < manager.blockCount) && (manager.bindingFor xkb event).isSome

def spelledBy (xkb : Xkb) (event : KeyEvent) (binding : Binding α) : Bool :=
  (event.keysyms.any fun keysym => binding.parsed.keysym == foldKeysym xkb keysym) &&
    modifiersMatch event.modifiers binding.parsed.modifiers

/-- What a call of `handleKey` can do. -/
inductive Outcome (xkb : Xkb) (manager : KeyBindingManager α) (event : KeyEvent) (inhibited : Bool) :
    Handled α → Prop where
  /-- The keyboard has no xkb state. -/
  | stateless (missing : event.hasState = false) : Outcome xkb manager event inhibited (manager.answer false)
  | released (stated : event.hasState = true) (up : event.pressed = false)
      (active : manager.isActive event.key = true) :
      Outcome xkb manager event inhibited ((manager.eraseActive event.key).answer true)
  /-- The grab takes the event; only the release of the captured key ends it. -/
  | captured (stated : event.hasState = true) (grabbing : manager.isGrabbingKey = true) (grab : Grab)
      (callback : Option (Bool × String)) (inactive : event.pressed = false → manager.isActive event.key = false)
      (ends : grab = .off ↔ manager.endsGrab event = true) :
      Outcome xkb manager event inhibited ⟨{ manager with grab := grab }, true, none, none, callback⟩
  | repeated (stated : event.hasState = true) (down : event.pressed = true)
      (free : manager.isGrabbingKey = false) (active : manager.isActive event.key = true) (action : Option α)
      (bound : ∀ chosen, action = some chosen → ∃ binding ∈ manager.bindings, binding.action = chosen ∧
        ⟨event.key, binding.id⟩ ∈ manager.activeKeys) :
      Outcome xkb manager event inhibited ⟨manager, true, action, none, none⟩
  | passed (stated : event.hasState = true) (free : manager.isGrabbingKey = false)
      (inactive : manager.isActive event.key = false)
      (untriggered : event.pressed = true → manager.triggers xkb event inhibited = false) :
      Outcome xkb manager event inhibited (manager.answer false)
  | triggered (stated : event.hasState = true) (down : event.pressed = true)
      (free : manager.isGrabbingKey = false) (inactive : manager.isActive event.key = false)
      (triggers : manager.triggers xkb event inhibited = true) (binding : Binding α)
      (found : manager.bindingFor xkb event = some binding) :
      Outcome xkb manager event inhibited
        ⟨manager, true, some binding.action, some ⟨event.key, binding.id⟩, none⟩

theorem isActive_iff_find {m : KeyBindingManager α} {key : Key} :
    m.isActive key = (m.activeKeys.find? fun active => active.key == key).isSome := by
  rw [isActive, Bool.eq_iff_iff, List.find?_isSome, List.any_eq_true]

theorem isActive_iff {m : KeyBindingManager α} {key : Key} :
    m.isActive key = true ↔ ∃ active ∈ m.activeKeys, active.key = key := by
  simp [isActive]

theorem repeatAction_bound {m : KeyBindingManager α} {active : ActiveKey} {inhibited : Bool} {chosen : α}
    (again : m.repeatAction active inhibited = some chosen) :
    ∃ b ∈ m.bindings, b.action = chosen ∧ b.id = active.bindingId := by
  unfold repeatAction at again
  split at again
  · cases again
  · rename_i b found
    have same : b.id = active.bindingId := by simpa using List.find?_some found
    split at again
    · exact ⟨b, List.mem_of_find?_eq_some found, Option.some.inj again, same⟩
    · cases again

theorem bindingFor_spelled {xkb : Xkb} {m : KeyBindingManager α} {e : KeyEvent} {b : Binding α}
    (found : m.bindingFor xkb e = some b) :
    b ∈ m.bindings ∧ spelledBy xkb e b = true := by
  obtain ⟨sym, typed, first⟩ := List.exists_of_findSome?_eq_some found
  have fits := List.find?_some first
  simp only [Bool.and_eq_true] at fits
  obtain ⟨⟨_, same⟩, mods⟩ := fits
  refine ⟨List.mem_of_find?_eq_some first, ?_⟩
  rw [spelledBy, Bool.and_eq_true, List.any_eq_true]
  exact ⟨⟨sym, typed, same⟩, mods⟩

section

variable (xkb : Xkb) (m : KeyBindingManager α) (e : KeyEvent) (inhibited : Bool)

theorem handleCapturedKey_outcome (stated : e.hasState = true) (grabbing : m.isGrabbingKey = true)
    (inactive : e.pressed = false → m.isActive e.key = false) :
    Outcome xkb m e inhibited (m.handleCapturedKey xkb e) := by
  have kept (stays : m.endsGrab e = false) : Outcome xkb m e inhibited (m.answer true) := by
    refine .captured stated grabbing m.grab none inactive ?_
    refine iff_of_false ?_ (Bool.eq_false_iff.mp stays)
    intro off
    simp [isGrabbingKey, off] at grabbing
  unfold handleCapturedKey
  split
  · rename_i untyped
    exact kept (by simp [endsGrab, untyped])
  · rename_i first rest typed
    dsimp only
    cases direction : e.pressed with
    | true =>
      have stays : m.endsGrab e = false := by simp [endsGrab, direction]
      rw [if_pos rfl]
      split
      · split
        · exact kept stays
        · refine .captured stated grabbing _ _ inactive (iff_of_false ?_ (Bool.eq_false_iff.mp stays))
          exact fun off => nomatch off
      · exact kept stays
    | false =>
      rw [if_neg (by decide)]
      -- Releases are swallowed; the one of the captured key ends the grab.
      split
      · rename_i key shortcut captured
        split
        · rename_i same
          have ends : m.endsGrab e = true := by
            simp [endsGrab, stated, direction, typed, inactive direction, captured, same]
          exact .captured stated grabbing .off _ inactive (iff_of_true rfl ends)
        · rename_i id'
          exact kept (by simp [endsGrab, captured, id'])
      · rename_i uncaptured
        refine kept ?_
        unfold endsGrab
        split
        · rename_i key shortcut captured
          exact absurd captured (uncaptured key shortcut)
        · simp

theorem handleKey_outcome : Outcome xkb m e inhibited (m.handleKey xkb e inhibited) := by
  unfold handleKey
  cases s : e.hasState with
  | false => exact .stateless s
  | true =>
    cases direction : e.pressed with
    | false =>
      cases active : m.isActive e.key with
      | true => exact .released s direction active
      | false =>
        cases grabbing : m.isGrabbingKey with
        | true => exact handleCapturedKey_outcome xkb m e inhibited s grabbing (fun _ => active)
        | false => exact .passed s grabbing active (by simp [direction])
    | true =>
      cases grabbing : m.isGrabbingKey with
      | true => exact handleCapturedKey_outcome xkb m e inhibited s grabbing (by simp [direction])
      | false =>
        -- A key that is active repeats its binding whatever it types now.
        have known := @isActive_iff_find α m e.key
        cases found : m.activeKeys.find? fun active => active.key == e.key with
        | some active =>
          rw [found] at known
          have same : active.key = e.key := by simpa using List.find?_some found
          refine .repeated s direction grabbing known _ ?_
          intro chosen again
          obtain ⟨b, mem, runs, id⟩ := repeatAction_bound again
          refine ⟨b, mem, runs, ?_⟩
          rw [← same, id]
          exact List.mem_of_find?_eq_some found
        | none =>
          rw [found] at known
          simp only [Bool.not_true, Bool.false_eq_true, if_false]
          split
          · rename_i blocked
            exact .passed s grabbing known (by simp [triggers, blocked])
          · rename_i unblocked
            cases triggered : m.bindingFor xkb e with
            | none => exact .passed s grabbing known (by simp [triggers, triggered])
            | some b =>
              refine .triggered s direction grabbing known ?_ b triggered
              simp [triggers, triggered, unblocked]

end

section
variable {xkb : Xkb} {m : KeyBindingManager α} {e : KeyEvent} {inhibited : Bool} {handled : Handled α}

section

variable (outcome : Outcome xkb m e inhibited handled)

include outcome

theorem Outcome.consumed_eq : handled.consumed = (e.hasState && (m.isGrabbingKey || m.isActive e.key ||
        (e.pressed && m.triggers xkb e inhibited))) := by
  cases outcome with
  | stateless missing => simp [missing, answer]
  | released stated up active => simp [stated, active, answer]
  | captured stated grabbing => simp [stated, grabbing]
  | repeated stated down free active => simp [stated, active]
  | passed stated free inactive untriggered =>
    cases direction : e.pressed with
    | false => simp [free, inactive, answer]
    | true => simp [free, inactive, untriggered direction, answer]
  | triggered stated down free inactive triggers => simp [stated, down, triggers]

theorem Outcome.grabbing_eq : handled.manager.isGrabbingKey = (m.isGrabbingKey && !m.endsGrab e) := by
  cases outcome with
  | stateless missing => simp [endsGrab, missing, answer]
  | released stated up active => simp [endsGrab, active, answer, isGrabbingKey, eraseActive]
  | captured stated grabbing grab callback inactive ends =>
    rw [grabbing, Bool.true_and, Bool.eq_iff_iff]
    simpa [isGrabbingKey] using not_congr ends
  | repeated stated down free => simp [free]
  | passed stated free => simp [free, answer]
  | triggered stated down free => simp [free]

theorem Outcome.isActive_eq {key : Key} (kept : e.pressed = true ∨ key ≠ e.key) :
    handled.manager.isActive key = m.isActive key := by
  cases outcome with
  | released stated up =>
    rcases kept with down | apart
    · simp [up] at down
    · have listed : ∀ en : ActiveKey, en.key = key →
          (en ∈ (m.eraseActive e.key).activeKeys ↔ en ∈ m.activeKeys) := by
        intro en same
        refine List.mem_eraseP_of_neg ?_
        simpa [same] using apart
      rw [Bool.eq_iff_iff, isActive_iff, isActive_iff]
      constructor
      · rintro ⟨en, mem, same⟩
        exact ⟨en, (listed en same).mp mem, same⟩
      · rintro ⟨en, mem, same⟩
        exact ⟨en, (listed en same).mpr mem, same⟩
  | _ => rfl

theorem Outcome.bindings_eq : handled.manager.bindings = m.bindings := by
  cases outcome <;> rfl

theorem Outcome.activeKeys_subset : handled.manager.activeKeys ⊆ m.activeKeys := by
  cases outcome with
  | released => exact List.eraseP_subset
  | _ => exact List.Subset.refl _

/-- Only the action of a binding is run, on the press of a key that is active for
it or types its shortcut. -/
theorem Outcome.action_bound {chosen : α} (runs : handled.action = some chosen) :
    e.pressed = true ∧ ∃ b ∈ m.bindings, b.action = chosen ∧
      (⟨e.key, b.id⟩ ∈ m.activeKeys ∨ spelledBy xkb e b = true) := by
  cases outcome with
  | repeated stated down free active act bound =>
    obtain ⟨b, mem, same, recorded⟩ := bound chosen runs
    exact ⟨down, b, mem, same, .inl recorded⟩
  | triggered stated down free inactive triggers b found =>
    obtain ⟨mem, spelled⟩ := bindingFor_spelled found
    exact ⟨down, b, mem, Option.some.inj runs, .inr spelled⟩
  | _ => cases runs

theorem Outcome.records_bound {active : ActiveKey} (records : handled.records = some active) :
    e.pressed = true ∧ active.key = e.key ∧ ∃ b ∈ m.bindings, b.id = active.bindingId ∧ spelledBy xkb e b = true := by
  cases outcome with
  | triggered stated down free inactive triggers b found =>
    obtain ⟨mem, spelled⟩ := bindingFor_spelled found
    cases records
    exact ⟨down, rfl, b, mem, rfl, spelled⟩
  | _ => cases records

theorem Outcome.records_eq : handled.records.map ActiveKey.key =
      if e.hasState && e.pressed && !m.isGrabbingKey && !m.isActive e.key && m.triggers xkb e inhibited then some e.key
      else none := by
  cases outcome with
  | stateless missing => simp [missing, answer]
  | released stated up active => simp [active, answer]
  | captured stated grabbing => simp [grabbing]
  | repeated stated down free active => simp [active]
  | passed stated free inactive untriggered =>
    cases direction : e.pressed with
    | false => simp [answer]
    | true => simp [untriggered direction, answer]
  | triggered stated down free inactive triggers => simp [stated, down, free, inactive, triggers]

end

end

end KeyBindingManager

/-- A call of the manager other than a key event. -/
inductive ManagerCall (α : Type) where
  | register (parsed : Option ParsedShortcut) (type : KeyBindingType) (action : Option α)
  | update (id : Nat) (parsed : Option ParsedShortcut)
  | unregister (id : Nat)
  | blockAll (blocked : Bool)
  | blockType (type : KeyBindingType) (blocked : Bool)
  | grabNextKey
  | cancelGrab
  deriving DecidableEq, Repr

namespace KeyBindingManager

def apply (manager : KeyBindingManager α) : ManagerCall α → KeyBindingManager α
  | .register parsed type action => (manager.register parsed type action).1
  | .update id parsed => (manager.update id parsed).1
  | .unregister id => (manager.unregister id).1
  | .blockAll blocked => manager.blockAll blocked
  | .blockType type blocked => manager.blockType type blocked
  | .grabNextKey => manager.grabNextKey
  | .cancelGrab => manager.cancelGrab

section

variable (m : KeyBindingManager α)

theorem register_frame (ps : Option ParsedShortcut) (type : KeyBindingType) (act : Option α) :
    (m.register ps type act).1.activeKeys = m.activeKeys ∧ (m.register ps type act).1.grab = m.grab := by
  unfold register
  split
  · split <;> exact ⟨rfl, rfl⟩
  · exact ⟨rfl, rfl⟩

theorem update_frame (id : Nat) (ps : Option ParsedShortcut) : (m.update id ps).1.activeKeys = m.activeKeys ∧
      (m.update id ps).1.grab = m.grab := by
  unfold update
  split
  · exact ⟨rfl, rfl⟩
  · split
    · exact ⟨rfl, rfl⟩
    · split <;> exact ⟨rfl, rfl⟩

theorem apply_activeKeys (call : ManagerCall α) : (m.apply call).activeKeys = m.activeKeys := by
  cases call with
  | register ps type act => exact (register_frame m ps type act).1
  | update id ps => exact (update_frame m id ps).1
  | _ => rfl

/-- Only `grabNextKey` and `cancelGrab` touch the grab. -/
theorem apply_grab (call : ManagerCall α) : (m.apply call).grab = match call with
      | .grabNextKey => .waiting
      | .cancelGrab => .off
      | _ => m.grab := by
  cases call with
  | register ps type act => exact (register_frame m ps type act).2
  | update id ps => exact (update_frame m id ps).2
  | _ => rfl

end

end KeyBindingManager

end FlakeWM.Input
