import FlakeWM.Input.Shortcut

/-! A captured key and the binding its text is registered for. -/

set_option autoImplicit false

namespace FlakeWM.Input

namespace KeyBindingManager

open Shortcut

variable {α : Type}

/-- Nothing but the new binding decides what a press of the key does. -/
structure Ready (xkb : Xkb) (manager : KeyBindingManager α) (event : KeyEvent) (type : KeyBindingType) : Prop where
  free : manager.isGrabbingKey = false
  inactive : manager.isActive event.key = false
  unblocked : manager.blockCount = 0
  enabled : manager.isTypeBlocked type = false
  unused : ∀ binding ∈ manager.bindings, spelledBy xkb event binding = false

/-- The text is registered, and a press of the key triggers the action. -/
structure RoundTrip (names : KeysymNames) (manager : KeyBindingManager α) (shortcut : String) (event : KeyEvent)
    (type : KeyBindingType) (action : α) : Prop where
  registers : (manager.register (parseShortcut names shortcut) type (some action)).2 = some manager.nextId
  runs : ((manager.register (parseShortcut names shortcut) type (some action)).1.handleKey names.toXkb event
    false).action = some action
  records : ((manager.register (parseShortcut names shortcut) type (some action)).1.handleKey names.toXkb event
    false).records = some ⟨event.key, manager.nextId⟩

/-- The text of the captured key is read as a keysym the press types, and no modifier
is left out of it. -/
def returns (names : KeysymNames) (event : KeyEvent) : Bool :=
  (event.keysyms.head?.any fun first =>
    (reads names (names.toLower (names.toLower first))).any fun keysym =>
      event.keysyms.any fun typed => keysym == foldKeysym names.toXkb typed) &&
  known event.modifiers == event.modifiers

section

variable {xkb : Xkb} {m : KeyBindingManager α} {e : KeyEvent}

theorem handleCapturedKey_captured {shortcut : String}
    (captured : (m.handleCapturedKey xkb e).callback = some (true, shortcut)) :
    e.pressed = true ∧ ∃ first rest, e.keysyms = first :: rest ∧
      buildShortcut xkb e.modifiers (xkb.toLower first) = shortcut ∧ shortcut.isEmpty = false := by
  unfold handleCapturedKey at captured
  split at captured
  · cases captured
  · rename_i first rest typed
    dsimp only at captured
    split at captured
    · rename_i pressed
      split at captured
      · split at captured
        · cases captured
        · rename_i kept
          obtain rfl : buildShortcut xkb e.modifiers (xkb.toLower first) = shortcut := by
            simpa using captured
          simp only [Bool.or_eq_true, not_or, Bool.not_eq_true] at kept
          exact ⟨pressed, first, rest, typed, rfl, kept.2⟩
      · cases captured
    · split at captured
      · split at captured <;> cases captured
      · cases captured

theorem handleKey_captured {inhibited : Bool} {shortcut : String}
    (captured : (m.handleKey xkb e inhibited).callback = some (true, shortcut)) :
    e.hasState = true ∧ (m.handleCapturedKey xkb e).callback = some (true, shortcut) := by
  unfold handleKey at captured
  cases stated : e.hasState with
  | false => simp [stated, answer] at captured
  | true =>
    refine ⟨rfl, ?_⟩
    simp only [stated, Bool.not_true, Bool.false_eq_true, if_false] at captured
    split at captured
    · split at captured
      · cases captured
      · split at captured
        · exact captured
        · cases captured
    · split at captured
      · exact captured
      · -- Without a grab no call of the manager calls back.
        split at captured
        · cases captured
        · split at captured
          · cases captured
          · split at captured <;> cases captured

theorem buildShortcut_named {mods : Modifiers} {sym : Keysym}
    (filled : (buildShortcut xkb mods sym).isEmpty = false) : xkb.name (xkb.toLower sym) ≠ "" := by
  intro unnamed
  simp [buildShortcut, unnamed] at filled

theorem modifiersMatch_known (mods : Modifiers) : modifiersMatch mods (known mods) = (known mods == mods) := by
  have named : (Modifiers.caps ||| Modifiers.mod2) &&& union modifierNames = Modifiers.caps ||| Modifiers.mod2 := by
    decide
  have heeded : mods &&& ~~~((Modifiers.caps ||| Modifiers.mod2) &&& ~~~known mods) = mods := by
    unfold known
    rw [← named]
    ext i inside
    simp only [BitVec.getElem_and, BitVec.getElem_not]
    cases mods[i] <;> cases (union modifierNames)[i] <;> simp
  rw [modifiersMatch, heeded, Bool.eq_iff_iff, beq_iff_eq, beq_iff_eq, eq_comm]

theorem findSome?_eq_ite {κ β : Type} {keys : List κ} {find : κ → Option β} {fits : κ → Bool} {found : β}
    (each : ∀ key ∈ keys, find key = if fits key then some found else none) :
    keys.findSome? find = if keys.any fits then some found else none := by
  induction keys with
  | nil => rfl
  | cons key rest ih =>
    rw [List.findSome?_cons, each key (.head _), ih fun other mem => each other (.tail _ mem)]
    cases fit : fits key <;> simp [fit]

theorem Ready.bindingFor_register {type : KeyBindingType} (ready : m.Ready xkb e type) (ps : ParsedShortcut) (act : α) :
    bindingFor xkb { m with
        bindings := m.bindings ++ [⟨m.nextId, ps, type, act⟩]
        nextId := m.nextId + 1 } e =
      if spelledBy xkb e ⟨m.nextId, ps, type, act⟩ then some ⟨m.nextId, ps, type, act⟩
      else none := by
  have spelled : spelledBy xkb e (⟨m.nextId, ps, type, act⟩ : Binding α) = e.keysyms.any fun sym =>
        ps.keysym == foldKeysym xkb sym && modifiersMatch e.modifiers ps.modifiers := by
    unfold spelledBy
    cases modifiersMatch e.modifiers ps.modifiers <;> simp
  rw [spelled]
  refine findSome?_eq_ite fun sym typed => ?_
  have old : m.bindings.find? (fun b =>
      !m.isTypeBlocked b.type && b.parsed.keysym == foldKeysym xkb sym &&
        modifiersMatch e.modifiers b.parsed.modifiers) = none := by
    rw [List.find?_eq_none]
    intro b mem fits
    simp only [Bool.and_eq_true] at fits
    have spells : spelledBy xkb e b = true := by
      rw [spelledBy, Bool.and_eq_true, List.any_eq_true]
      exact ⟨⟨sym, typed, fits.1.2⟩, fits.2⟩
    simp [ready.unused b mem] at spells
  have enabled := ready.enabled
  unfold isTypeBlocked at old enabled ⊢
  rw [List.find?_append, old, Option.none_or, List.find?_singleton]
  simp only [enabled, Bool.not_false, Bool.true_and]

theorem Ready.not_duplicate {type : KeyBindingType} (ready : m.Ready xkb e type) {b : Binding α}
    (spelled : spelledBy xkb e b = true) : duplicate m.bindings b.parsed = false := by
  by_contra again
  obtain ⟨old, mem, same⟩ := List.any_eq_true.mp (Bool.not_eq_false _ ▸ again)
  simp only [Bool.and_eq_true, beq_iff_eq] at same
  have spells : spelledBy xkb e old = true := by
    unfold spelledBy at spelled ⊢
    rwa [same.1, same.2]
  simp [ready.unused old mem] at spells

theorem handleKey_press (xkb : Xkb) (m : KeyBindingManager α) (stated : e.hasState = true) (pressed : e.pressed = true)
    (free : m.isGrabbingKey = false) (inactive : m.isActive e.key = false)
    (unblocked : m.blockCount = 0) :
    m.handleKey xkb e false = match m.bindingFor xkb e with
      | none => m.answer false
      | some b =>
        { m.answer true with action := some b.action, records := some ⟨e.key, b.id⟩ } := by
  have unknown : (m.activeKeys.find? fun active => active.key == e.key) = none := by
    rw [isActive_iff_find] at inactive
    simpa using inactive
  unfold handleKey
  cases m.bindingFor xkb e with
  | none | some => simp [stated, pressed, free, unknown, unblocked]

theorem Ready.roundTrip_iff {names : KeysymNames} {type : KeyBindingType}
    (ready : m.Ready names.toXkb e type) (stated : e.hasState = true)
    (pressed : e.pressed = true)
    (shortcut : String) (act : α) :
    RoundTrip names m shortcut e type act ↔ ∃ ps, parseShortcut names shortcut = some ps ∧
        spelledBy names.toXkb e ⟨m.nextId, ps, type, act⟩ = true := by
  cases parse : parseShortcut names shortcut with
  | none =>
    refine iff_of_false ?_ nofun
    rintro ⟨registers, _, _⟩
    simp [register, parse] at registers
  | some ps =>
    have press := handleKey_press names.toXkb { m with
      bindings := m.bindings ++ [⟨m.nextId, ps, type, act⟩]
      nextId := m.nextId + 1 } stated pressed ready.free ready.inactive ready.unblocked
    rw [ready.bindingFor_register] at press
    cases spelled : spelledBy names.toXkb e (⟨m.nextId, ps, type, act⟩ : Binding α) with
    | true =>
      have new : duplicate m.bindings ps = false := ready.not_duplicate spelled
      rw [spelled] at press
      refine iff_of_true ⟨?_, ?_, ?_⟩ ⟨ps, rfl, spelled⟩
      all_goals simp [register, parse, new, press]
    | false =>
      rw [spelled] at press
      refine iff_of_false ?_ (by simp [spelled])
      rintro ⟨registers, runs, _⟩
      cases again : duplicate m.bindings ps with
      | true => simp [register, parse, again] at registers
      | false => simp [register, parse, again, press, answer] at runs

end

/-- For every captured key, every manager in which nothing else stands in the way and
every action: the text is registered and the key triggers it exactly if the text is
read as a keysym the press types and names every modifier. -/
theorem roundTrip_iff_returns (names : KeysymNames) (capturing : KeyBindingManager α) (event : KeyEvent)
    (inhibited : Bool) (shortcut : String)
    (captured : (capturing.handleKey names.toXkb event inhibited).callback = some (true, shortcut))
    (manager : KeyBindingManager α) (type : KeyBindingType) (ready : manager.Ready names.toXkb event type)
    (action : α) :
    RoundTrip names manager shortcut event type action ↔ returns names event = true := by
  obtain ⟨stated, calls⟩ := handleKey_captured captured
  obtain ⟨pressed, first, rest, typed, rfl, filled⟩ := handleCapturedKey_captured calls
  rw [ready.roundTrip_iff stated pressed, parseShortcut_build names _ _ (buildShortcut_named filled)]
  cases read : reads names (names.toLower (names.toLower first)) with
  | none => simp [returns, typed, read]
  | some => simp [returns, typed, read, spelledBy, modifiersMatch_known]

end KeyBindingManager

def keysymTable : List (Keysym × String) :=
  [(Keysym.lowerA, "a"), (Keysym.tab, "Tab"), (Keysym.isoLeftTab, "ISO_Left_Tab"), (0xfe03, "ISO_Level3_Shift")]

def keysymNames : KeysymNames where
  toLower keysym := if keysym = Keysym.upperA then Keysym.lowerA else keysym
  name keysym := ((keysymTable.find? fun entry => entry.1 == keysym).map Prod.snd).getD ""
  fromName text :=
    ((keysymTable.find? fun entry => Shortcut.equalsIgnoringCase text.toList entry.2.toList).map Prod.fst).getD
      Keysym.noSymbol
  fromName_name keysym named := by
    cases found : keysymTable.find? fun entry => entry.1 == keysym with
    | none => simp [found] at named
    | some entry =>
      have back : ∀ entry ∈ keysymTable, ((keysymTable.find? fun other => Shortcut.equalsIgnoringCase
          entry.2.toList other.2.toList).map Prod.fst).getD Keysym.noSymbol = entry.1 := by decide
      obtain rfl : entry.1 = keysym := by simpa using List.find?_some found
      exact back entry (List.mem_of_find?_eq_some found)
  name_word keysym named := by
    cases found : keysymTable.find? fun entry => entry.1 == keysym with
    | none => simp [found] at named
    | some entry =>
      have words : ∀ entry ∈ keysymTable, Shortcut.Word entry.2.toList := by decide
      exact words entry (List.mem_of_find?_eq_some found)

namespace KeyBindingManager

/-- A press on a keyboard with Caps Lock on. -/
theorem roundTrip_iff_returns_locked :
    let event : KeyEvent := ⟨⟨0, 30⟩, true, true, Keysym.upperA, [Keysym.upperA], [], .ctrl ||| .caps⟩
    ((grabNextKey (initial : KeyBindingManager Unit)).handleKey keysymNames.toXkb event false).callback =
        some (true, "Caps+Ctrl+a") ∧
      RoundTrip keysymNames initial "Caps+Ctrl+a" event .custom () := by
  refine ⟨by decide, ?_⟩
  exact (roundTrip_iff_returns keysymNames (grabNextKey (initial : KeyBindingManager Unit)) _ false _ (by decide)
    initial .custom
    ⟨rfl, rfl, rfl, rfl, nofun⟩ ()).mpr (by decide)

/-- Shift and Tab is captured as a keysym that a press never types, and the level-three
shift as a modifier. -/
theorem not_roundTrip_of_spelling :
    let backTab : KeyEvent := ⟨⟨0, 15⟩, true, true, Keysym.isoLeftTab, [Keysym.isoLeftTab], [], .shift⟩
    let levelThree : KeyEvent := ⟨⟨0, 100⟩, true, true, 0xfe03, [0xfe03], [], 0⟩
    (((grabNextKey (initial : KeyBindingManager Unit)).handleKey keysymNames.toXkb backTab false).callback =
        some (true, "Shift+ISO_Left_Tab") ∧
      ¬ RoundTrip keysymNames initial "Shift+ISO_Left_Tab" backTab .custom ()) ∧
    (((grabNextKey (initial : KeyBindingManager Unit)).handleKey keysymNames.toXkb levelThree false).callback =
        some (true, "ISO_Level3_Shift") ∧
      ¬ RoundTrip keysymNames initial "ISO_Level3_Shift" levelThree .custom ()) := by
  refine ⟨⟨by decide, ?_⟩, by decide, ?_⟩
  · intro trip
    exact absurd trip.runs (by decide)
  · intro trip
    exact absurd trip.registers (by decide)

end KeyBindingManager

end FlakeWM.Input
