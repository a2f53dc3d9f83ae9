import FlakeWM.Input.Keyboard
import FlakeWM.Lib.Nesting

/-! Custom input actions and the keys they synthesize.

A synthesized key is delivered through `Keyboard::OnKey` before the call that
synthesizes it returns, and may itself trigger a binding, so the handling of one
key is a nest of actions. It is run here one key at a time: `send` stands for a
call of `wlr_keyboard_notify_key`, which first delivers the key and then updates
the keyboard's xkb state; behind the keys of an action stands what remains to be
done when it has returned. -/

set_option autoImplicit false

namespace FlakeWM.Input

open KeyBindingManager

open FlakeWM.View Nesting

/-- The Linux key codes of the accepted names; there is none for `j`. -/
def keycodes : List (List Char × Nat) :=
  [(['a'], 30), (['b'], 48), (['c'], 46), (['d'], 32), (['e'], 18), (['f'], 33), (['g'], 34), (['h'], 35),
    (['i'], 23), (['k'], 37), (['l'], 38), (['m'], 50), (['n'], 49), (['o'], 24), (['p'], 25), (['q'], 16),
    (['r'], 19), (['s'], 31), (['t'], 20), (['u'], 22), (['v'], 47), (['w'], 17), (['x'], 45), (['y'], 21),
    (['z'], 44), (['t', 'a', 'b'], 15), (['s', 'u', 'p', 'e', 'r', '_', 'l'], 125),
    (['a', 'l', 't', '_', 'l'], 56), (['l', 'e', 'f', 't'], 105), (['r', 'i', 'g', 'h', 't'], 106),
    (['d', 'o', 'w', 'n'], 108), (['u', 'p'], 103), (['s', 'h', 'i', 'f', 't', '_', 'l'], 42),
    (['c', 'o', 'n', 't', 'r', 'o', 'l', '_', 'r'], 97), (['c', 'o', 'n', 't', 'r', 'o', 'l', '_', 'l'], 29),
    (['a', 'l', 't', '_', 'r'], 100), (['s', 'u', 'p', 'e', 'r', '_', 'r'], 126),
    (['s', 'h', 'i', 'f', 't', '_', 'r'], 54)]

def foldCase (character : Char) : Char :=
  if character = Char.ofNat 0x212a then 'k' else character.toLower

def keycodeOf (name : List Char) : Option Nat := keycodes.lookup (name.map foldCase)

structure KeyList where
  codes : List Nat
  press : Bool
  release : Bool
  deriving DecidableEq, Repr

/-- Names joined by `+`, and at most one suffix that makes the stroke one-sided;
an unknown suffix is ignored, and so is any when there are several. -/
def KeyList.parse (raw : List Char) : KeyList :=
  let parts := raw.splitOn ':'
  let suffix := if parts.length = 2 then parts.getLast? else none
  { codes := ((parts.headD []).splitOn '+').filterMap keycodeOf
    press := suffix != some ['r', 'e', 'l', 'e', 'a', 's', 'e']
    release := suffix != some ['p', 'r', 'e', 's', 's'] }

/-- What a binding runs. Commands, D-Bus calls and buttons are handed on and
deliver no key; `builtin` are the compositor's own actions. -/
inductive InputAction where
  | command (command : List Char)
  | dbus (service path interface method : List Char) (system : Bool)
  | button (name : List Char)
  | key (modifiers keys : List Char)
  | builtin (index : Nat)
  deriving DecidableEq, Repr

def InputAction.strokes : InputAction → List (Nat × Bool)
  | .key modifiers keys =>
    let modifiers := KeyList.parse modifiers
    let keys := KeyList.parse keys
    (if modifiers.press then modifiers.codes.map (·, true) else []) ++
      (if keys.press then keys.codes.map (·, true) else []) ++
      (if modifiers.release then modifiers.codes.map (·, false) else []) ++
      (if keys.release then keys.codes.map (·, false) else [])
  | _ => []

/-- What the handling of keys depends on: how a keyboard state `κ` types a key
and is updated by it, which keyboard synthesized keys go to (without one they go
to the seat and are not handled), and, at each moment, what the rest of the
compositor contributes and what its own actions do to the overlays. -/
structure KeyWorld (κ : Type) where
  xkb : Xkb
  target : Option Nat
  typed : κ → Key → Bool → KeyEvent
  update : κ → Key → Bool → κ
  context : Nat → KeyContext
  builtin : Nat → Nat → Overlays → Overlays

/-- A key to be sent, with its direction. -/
abbrev Stroke := Key × Bool

/-- What remains when an action has returned: the key that triggered it is
recorded and its own keyboard updated. -/
structure AfterAction where
  records : Option ActiveKey
  stroke : Stroke
  deriving DecidableEq, Repr

structure ActionRun (κ : Type) where
  keys : KeyState InputAction
  board : κ
  tasks : List (Task Stroke InputAction AfterAction)
  clock : Nat

variable {κ : Type}

namespace KeyWorld

def event (world : KeyWorld κ) (run : ActionRun κ) (stroke : Stroke) : KeyEvent :=
  { world.typed run.board stroke.1 stroke.2 with key := stroke.1, pressed := stroke.2 }

def result (world : KeyWorld κ) (run : ActionRun κ) (stroke : Stroke) : KeyResult InputAction :=
  run.keys.onKey world.xkb (world.event run stroke) (world.context run.clock)

def jobs (world : KeyWorld κ) (action : InputAction) : List Stroke :=
  match world.target with
  | none => []
  | some keyboard => action.strokes.map fun stroke => (⟨keyboard, stroke.1⟩, stroke.2)

def overlaysAfter (world : KeyWorld κ) (run : ActionRun κ) (action : InputAction) (overlays : Overlays) : Overlays :=
  match action with
  | .builtin index => world.builtin run.clock index overlays
  | _ => overlays

def send (world : KeyWorld κ) (run : ActionRun κ) (stroke : Stroke)
    (rest : List (Task Stroke InputAction AfterAction)) : ActionRun κ :=
  let result := world.result run stroke
  let keys := { run.keys with overlays := result.overlays, manager := result.handled.manager }
  match result.handled.action with
  | none => { keys := keys, board := world.update run.board stroke.1 stroke.2, tasks := rest, clock := run.clock + 1 }
  | some action =>
    { keys := { keys with overlays := world.overlaysAfter run action keys.overlays }
      board := run.board
      tasks := (world.jobs action).map Task.work ++ .close action ⟨result.handled.records, stroke⟩ :: rest
      clock := run.clock + 1 }

def step (world : KeyWorld κ) (run : ActionRun κ) : ActionRun κ :=
  match run.tasks with
  | [] => run
  | .work stroke :: rest => world.send run stroke rest
  | .close _ after :: rest =>
    { keys := { run.keys with manager := run.keys.manager.record after.records }
      board := world.update run.board after.stroke.1 after.stroke.2
      tasks := rest
      clock := run.clock + 1 }

/-- The next step does not start an action that is still running. -/
def startsFresh (world : KeyWorld κ) (run : ActionRun κ) : Bool :=
  match run.tasks with
  | .work stroke :: rest =>
    match (world.result run stroke).handled.action with
    | none => true
    | some action => action ∉ running rest
  | _ => true

section
variable (w : KeyWorld κ) {run : ActionRun κ}

def callees (run : ActionRun κ) : List InputAction := run.keys.manager.bindings.map Binding.action

variable (stroke : Stroke)

theorem result_outcome : (w.result run stroke).handled = run.keys.manager.answer false ∨
      Outcome w.xkb run.keys.manager (w.event run stroke)
        (w.context run.clock).shortcutsInhibited (w.result run stroke).handled := by
  unfold result
  rw [KeyState.onKey_handled]
  split
  · exact .inl rfl
  · exact .inr (handleKey_outcome _ _ _ _)

theorem result_bindings : (w.result run stroke).handled.manager.bindings = run.keys.manager.bindings := by
  rcases w.result_outcome stroke with passed | outcome
  · rw [passed]
    rfl
  · exact outcome.bindings_eq

theorem result_activeKeys_subset : (w.result run stroke).handled.manager.activeKeys ⊆ run.keys.manager.activeKeys := by
  rcases w.result_outcome stroke with passed | outcome
  · rw [passed]
    exact List.Subset.refl _
  · exact outcome.activeKeys_subset

variable {stroke : Stroke}

theorem result_action_bound {act : InputAction} (runs : (w.result run stroke).handled.action = some act) :
    stroke.2 = true ∧ ∃ b ∈ run.keys.manager.bindings, b.action = act ∧
      (⟨stroke.1, b.id⟩ ∈ run.keys.manager.activeKeys ∨ spelledBy w.xkb (w.event run stroke) b = true) := by
  rcases w.result_outcome stroke with passed | outcome
  · rw [passed] at runs
    cases runs
  · exact outcome.action_bound runs

theorem result_records_bound {active : ActiveKey} (records : (w.result run stroke).handled.records = some active) :
    stroke.2 = true ∧ active.key = stroke.1 ∧ ∃ b ∈ run.keys.manager.bindings, b.id = active.bindingId ∧
        spelledBy w.xkb (w.event run stroke) b = true := by
  rcases w.result_outcome stroke with passed | outcome
  · rw [passed] at records
    cases records
  · exact outcome.records_bound records

theorem result_action_mem {act : InputAction} (runs : (w.result run stroke).handled.action = some act) :
    act ∈ callees run := by
  obtain ⟨_, b, mem, same, _⟩ := w.result_action_bound runs
  exact List.mem_map.mpr ⟨b, mem, same⟩

theorem step_bindings (run : ActionRun κ) : (w.step run).keys.manager.bindings = run.keys.manager.bindings := by
  unfold step
  split
  · rfl
  · rename_i stroke rest tasks
    unfold send
    dsimp only
    split
    · exact w.result_bindings stroke
    · exact w.result_bindings stroke
  · rfl

theorem step_load {width : Nat} (short : ∀ act ∈ callees run, (w.jobs act).length ≤ width)
    (fresh : w.startsFresh run = true) (busy : run.tasks ≠ []) :
    load (callees run) width (w.step run).tasks < load (callees run) width run.tasks := by
  unfold step
  unfold startsFresh at fresh
  split
  · rename_i done
    exact absurd done busy
  · rename_i stroke rest tasks
    simp only [tasks] at fresh
    unfold send
    dsimp only
    cases runs : (w.result run stroke).handled.action with
    | none =>
      rw [tasks]
      exact load_drop _ _ _ _
    | some act =>
      rw [runs] at fresh
      have started := w.result_action_mem runs
      rw [tasks]
      exact load_start stroke _ started (short act started) (by simpa using fresh)
  · rename_i act after rest tasks
    rw [tasks]
    exact load_drop _ _ _ _

theorem iterate_callees (run : ActionRun κ) (count : Nat) : callees (w.step^[count] run) = callees run := by
  induction count with
  | zero => rfl
  | succ count ih => rw [Function.iterate_succ_apply', callees, step_bindings, ← callees, ih]

theorem step_done (done : run.tasks = []) : w.step run = run := by
  unfold step
  rw [done]

theorem iterate_done {first later : Nat} (order : first ≤ later) (done : (w.step^[first] run).tasks = []) :
    (w.step^[later] run).tasks = [] := by
  induction later, order using Nat.le_induction with
  | base => exact done
  | succ later _ ih =>
    rw [Function.iterate_succ_apply', w.step_done ih]
    exact ih

theorem returns_of_fresh {start : Nat} (fresh : ∀ count, start ≤ count → w.startsFresh (w.step^[count] run) = true) :
    ∃ count, (w.step^[count] run).tasks = [] := by
  obtain ⟨width, short⟩ := exists_width w.jobs (callees run)
  -- The bindings never change, so one measure serves the whole run.
  have descends : ∀ count, start ≤ count → ¬ (w.step^[count] run).tasks = [] →
      load (callees run) width (w.step (w.step^[count] run)).tasks <
        load (callees run) width (w.step^[count] run).tasks := by
    intro count order busy
    have same := w.iterate_callees run count
    have nearer := w.step_load (by rw [same]; exact short) (fresh count order) busy
    rwa [same] at nearer
  exact iterate_reaches (fun s : ActionRun κ => load (callees run) width s.tasks) (fun s => s.tasks = []) descends

end

def spells (world : KeyWorld κ) (key : Key) (binding : Binding InputAction) : Prop :=
  ∃ board, KeyBindingManager.spelledBy world.xkb (world.typed board key true) binding = true

def mayRecord (world : KeyWorld κ) (run : ActionRun κ) (active : ActiveKey) : Prop :=
  active ∈ run.keys.manager.activeKeys ∨
    ∃ binding ∈ run.keys.manager.bindings, binding.id = active.bindingId ∧ world.spells active.key binding

def mayStart (world : KeyWorld κ) (run : ActionRun κ) (key : Key) (action : InputAction) : Prop :=
  ∃ binding ∈ run.keys.manager.bindings, binding.action = action ∧ world.mayRecord run ⟨key, binding.id⟩

/-- The action presses a key that may start the other one. -/
def calls (world : KeyWorld κ) (run : ActionRun κ) (action other : InputAction) : Prop :=
  ∃ key, (key, true) ∈ world.jobs action ∧ world.mayStart run key other

def Acyclic (world : KeyWorld κ) (run : ActionRun κ) : Prop :=
  ∀ action, ¬ Relation.TransGen (world.calls run) action action

/-- What the steps keep of the state `origin` a run began in. -/
structure Follows (world : KeyWorld κ) (origin run : ActionRun κ) : Prop where
  bindings : run.keys.manager.bindings = origin.keys.manager.bindings
  active : ∀ active ∈ run.keys.manager.activeKeys, world.mayRecord origin active
  pending : ∀ action after, Task.close action after ∈ run.tasks →
    ∀ active, after.records = some active → world.mayRecord origin active
  nested : Nested (world.calls origin) world.jobs run.tasks

section
variable {w : KeyWorld κ} {origin run : ActionRun κ}

theorem Follows.start {stroke : Stroke} (single : origin.tasks = [.work stroke]) : w.Follows origin origin where
  bindings := rfl
  active := fun _ mem => .inl mem
  pending := by
    intro act after mem
    rw [single] at mem
    simp at mem
  nested := by
    rw [single]
    exact ⟨fun _ mem => (by cases mem), trivial⟩

theorem event_spells {stroke : Stroke} {b : Binding InputAction} (down : stroke.2 = true)
    (spelled : spelledBy w.xkb (w.event run stroke) b = true) :
    w.spells stroke.1 b := by
  have typed : spelledBy w.xkb (w.typed run.board stroke.1 stroke.2) b = true := spelled
  rw [down] at typed
  exact ⟨run.board, typed⟩

section

variable (follows : w.Follows origin run)

include follows

theorem Follows.records {stroke : Stroke} {active : ActiveKey}
    (records : (w.result run stroke).handled.records = some active) : w.mayRecord origin active := by
  obtain ⟨down, same, b, mem, id, spelled⟩ := w.result_records_bound records
  rw [follows.bindings] at mem
  refine .inr ⟨b, mem, id, ?_⟩
  rw [same]
  exact event_spells down spelled

theorem Follows.called {stroke : Stroke} {act : InputAction} (runs : (w.result run stroke).handled.action = some act) :
    ∀ caller, stroke ∈ w.jobs caller → w.calls origin caller act := by
  obtain ⟨down, b, mem, same, known⟩ := w.result_action_bound runs
  have recorded : w.mayRecord origin ⟨stroke.1, b.id⟩ := by
    rcases known with listed | spelled
    · exact follows.active _ listed
    · exact .inr ⟨b, follows.bindings ▸ mem, rfl, event_spells down spelled⟩
  intro caller sent
  refine ⟨stroke.1, ?_, b, follows.bindings ▸ mem, same, recorded⟩
  rw [← down]
  exact sent

theorem Follows.send {stroke : Stroke} {rest : List (Task Stroke InputAction AfterAction)}
    (tasks : run.tasks = .work stroke :: rest) :
    w.Follows origin (w.send run stroke rest) := by
  have bindings := (w.result_bindings stroke).trans follows.bindings
  have active : ∀ active ∈ (w.result run stroke).handled.manager.activeKeys, w.mayRecord origin active :=
    fun active mem => follows.active active (w.result_activeKeys_subset stroke mem)
  have pending : ∀ act after, Task.close act after ∈ rest →
      ∀ active, after.records = some active → w.mayRecord origin active := by
    intro act after mem
    exact follows.pending act after (by rw [tasks]; exact List.mem_cons_of_mem _ mem)
  have nested := follows.nested
  rw [tasks] at nested
  unfold KeyWorld.send
  dsimp only
  cases runs : (w.result run stroke).handled.action with
  | none => exact ⟨bindings, active, pending, nested.2⟩
  | some =>
    refine ⟨bindings, active, ?_, nested.start (follows.called runs) _⟩
    intro other after mem
    rcases List.mem_append.mp mem with job | closing
    · simp at job
    · rcases List.mem_cons.mp closing with same | later
      · cases same
        exact fun active records => follows.records records
      · exact pending other after later

theorem Follows.step : w.Follows origin (w.step run) := by
  unfold KeyWorld.step
  split
  · exact follows
  · rename_i stroke rest tasks
    exact follows.send tasks
  · rename_i act after rest tasks
    have nested := follows.nested
    rw [tasks] at nested
    refine ⟨follows.bindings, ?_, ?_, nested.2⟩
    · intro active mem
      rcases List.mem_append.mp mem with listed | recorded
      · exact follows.active active listed
      · refine follows.pending act after (by rw [tasks]; exact List.mem_cons_self) active ?_
        simpa using recorded
    · intro other later mem
      exact follows.pending other later (by rw [tasks]; exact List.mem_cons_of_mem _ mem)

theorem Follows.fresh (acyclic : w.Acyclic origin) : w.startsFresh run = true := by
  have nested := follows.nested
  unfold startsFresh
  split
  · rename_i stroke rest tasks
    rw [tasks] at nested
    split
    · rfl
    · rename_i act runs
      simpa using nested.fresh (follows.called runs) (acyclic act)
  · rfl

end

theorem returns_of_acyclic (acyclic : w.Acyclic origin) {stroke : Stroke}
    (single : origin.tasks = [.work stroke]) : ∃ count, (w.step^[count] origin).tasks = [] := by
  have follows : ∀ count, w.Follows origin (w.step^[count] origin) := by
    intro count
    induction count with
    | zero => exact .start single
    | succ count ih =>
      rw [Function.iterate_succ_apply']
      exact ih.step
  have fresh : ∀ count, 0 ≤ count → w.startsFresh (w.step^[count] origin) = true :=
    fun count _ => (follows count).fresh acyclic
  exact w.returns_of_fresh fresh

end

end KeyWorld

/-- The handling of a key returns exactly when only finitely often an action is
started while it is already running; so it does for every key when no action of
the bindings can start itself again through the keys it presses. -/
theorem key_handling_returns_iff (world : KeyWorld κ) (run : ActionRun κ) :
    ((∃ count, (world.step^[count] run).tasks = []) ↔
      ∃ start, ∀ count, start ≤ count → world.startsFresh (world.step^[count] run) = true) ∧
    ∀ stroke, run.tasks = [.work stroke] → world.Acyclic run → ∃ count, (world.step^[count] run).tasks = [] := by
  refine ⟨⟨?_, ?_⟩, ?_⟩
  · rintro ⟨count, done⟩
    refine ⟨count, ?_⟩
    intro later order
    unfold KeyWorld.startsFresh
    rw [world.iterate_done order done]
  · rintro ⟨start, fresh⟩
    exact world.returns_of_fresh fresh
  · intro stroke single acyclic
    exact KeyWorld.returns_of_acyclic acyclic single

section
-- The key `a` is bound to an action that types another key, or `a` itself.

def typingWorld : KeyWorld Unit where
  xkb := plainXkb
  target := some 0
  typed := fun _ key pressed =>
    plainKey key.keycode pressed (if key.keycode = 30 then Keysym.lowerA else Keysym.lowerS) 0
  update := fun _ _ _ => ()
  context := fun _ => plainContext
  builtin := fun _ _ overlays => overlays

def typingManager (name : Char) : KeyBindingManager InputAction :=
  KeyBindingManager.initial.apply (.register (some ⟨0, Keysym.lowerA, true⟩) .custom (some (.key [] [name])))

def typingPress (name : Char) : ActionRun Unit :=
  ⟨⟨false, .initial, typingManager name⟩, (), [.work (⟨0, 30⟩, true)], 0⟩

end

/-- Only the key `a` starts anything. -/
theorem typing_starts {key : Key} {act : InputAction} (starts : typingWorld.mayStart (typingPress 's') key act) :
    act = .key [] ['s'] ∧ key.keycode = 30 := by
  have bindings : (typingPress 's').keys.manager.bindings =
      [⟨1, ⟨0, Keysym.lowerA, true⟩, .custom, .key [] ['s']⟩] := rfl
  obtain ⟨b, mem, same, recorded⟩ := starts
  rw [bindings, List.mem_singleton] at mem
  rw [mem] at same
  refine ⟨same.symm, ?_⟩
  rcases recorded with listed | ⟨typed, known, _, board, spelled⟩
  · cases listed
  · rw [bindings, List.mem_singleton] at known
    rw [known] at spelled
    by_contra apart
    simp only [typingWorld, if_neg apart, spelledBy, plainKey] at spelled
    exact absurd spelled (by decide)

theorem typing_s_returns : ∃ count, (typingWorld.step^[count] (typingPress 's')).tasks = [] := by
  refine (key_handling_returns_iff typingWorld (typingPress 's')).2 (⟨0, 30⟩, true) rfl ?_
  intro action cycle
  -- The action is started by a key, so it is the one that types `s`, and `s` starts nothing.
  obtain ⟨_, _, _, _, last⟩ := Relation.TransGen.tail'_iff.mp cycle
  obtain ⟨_, ⟨key, sent, first⟩, _⟩ := Relation.TransGen.head'_iff.mp cycle
  obtain ⟨rfl, _⟩ := typing_starts last
  have jobs : typingWorld.jobs (.key [] ['s']) = [(⟨0, 31⟩, true), (⟨0, 31⟩, false)] := by decide
  have pressed : key = ⟨0, 31⟩ := by simpa [jobs] using sent
  have code := (typing_starts first).2
  rw [pressed] at code
  exact absurd code (by decide)

/-- The press starts the action, whose own press starts it again before the first
one is recorded as active: the handling never returns. -/
theorem echo_never_returns : ¬ ∃ count, (typingWorld.step^[count] (typingPress 'a')).tasks = [] := by
  have stuck : ∀ count, ∃ rest clock, typingWorld.step^[count] (typingPress 'a') =
      ⟨⟨false, .initial, typingManager 'a'⟩, (), .work (⟨0, 30⟩, true) :: rest, clock⟩ := by
    intro count
    induction count with
    | zero => exact ⟨[], 0, rfl⟩
    | succ count ih =>
      obtain ⟨rest, clock, same⟩ := ih
      rw [Function.iterate_succ_apply', same]
      exact ⟨_, _, by with_unfolding_all rfl⟩
  rintro ⟨count, done⟩
  obtain ⟨rest, clock, same⟩ := stuck count
  rw [same] at done
  cases done

end FlakeWM.Input
