import FlakeWM.Lib.Attempt
import FlakeWM.Screen.Layout

/-! The D-Bus manager's control of the outputs.

Each change of an output is a commit that the backend may refuse, followed by a
change of the layout and of the saved configuration. The calls that set up all
outputs make such changes one after the other. -/

set_option autoImplicit false

namespace FlakeWM.Screen

structure Saved where
  enabled : Option Bool
  width : Option Int
  height : Option Int
  refresh : Option Int
  scale : Option ℚ
  transform : Option Int
  lx : Option Int
  ly : Option Int
  primary : Option Bool
  deriving DecidableEq, Repr

def Saved.empty : Saved := ⟨none, none, none, none, none, none, none, none, none⟩

/-- The saved outputs by name, in the order of the names. -/
abbrev Config := List (String × Saved)

namespace Config

def value (config : Config) (name : String) : Option Saved := (config.find? (·.1 == name)).map (·.2)

def insert (config : Config) (name : String) (saved : Saved) : Config :=
  match config with
  | [] => [(name, saved)]
  | (key, old) :: rest =>
    if name = key then (name, saved) :: rest
    else if name < key then (name, saved) :: (key, old) :: rest
    else (key, old) :: Config.insert rest name saved

/-- `PrimaryOutputName`: empty if no output is primary. -/
def primaryOutputName (config : Config) : String :=
  ((config.find? fun entry => entry.2.primary.getD false).map (·.1)).getD ""

def setPrimaryOutputName (config : Config) (name : String) : Config :=
  let known := if name ≠ "" ∧ config.value name = none then config.insert name .empty else config
  known.map fun entry => (entry.1, { entry.2 with primary := some (entry.1 == name) })

end Config

structure Screens (F : Type) where
  outputs : List (Output F)
  layout : List LayoutOutput
  config : Config
  deriving DecidableEq, Repr

/-- What a call of `ConfigureOutput` asks for. Sizes that are not positive ask for
no mode, a refresh rate that is not positive for any. -/
structure Request where
  enabled : Option Bool
  scale : Option ℚ
  transform : Option Transform
  width : Int
  height : Int
  refresh : Int
  deriving DecidableEq, Repr

/-- The mode is of the size asked for and near the refresh rate asked for. -/
def Request.accepts (request : Request) (mode : Mode) : Bool :=
  decide ((mode.width : Int) = request.width) && decide ((mode.height : Int) = request.height) &&
    (decide (request.refresh ≤ 0) || decide (|mode.refresh - request.refresh| ≤ 500))

def Request.bestMode (request : Request) (modes : List Mode) : Option Mode :=
  modes.foldl (fun best mode =>
    if request.accepts mode then
      match best with
      | none => some mode
      | some found => if found.refresh < mode.refresh then some mode else some found
    else best) none

/-- The mode to set: `none` if none is offered, `some none` if none is asked for. -/
def Request.chooseMode (request : Request) (modes : List Mode) : Option (Option Mode) :=
  if 0 < request.width ∧ 0 < request.height then (request.bestMode modes).map some else some none

variable {F : Type} [ScaleFormat F]

def Output.commit (output : Output F) (request : Request) (mode : Option Mode) : Output F :=
  { output with
    enabled := request.enabled.getD output.enabled
    scale := (request.scale.map ScaleFormat.ofDouble).getD output.scale
    transform := request.transform.getD output.transform
    width := (mode.map (·.width)).getD output.width
    height := (mode.map (·.height)).getD output.height
    refresh := (mode.map (·.refresh)).getD output.refresh }

namespace Screens

def findOutput (screens : Screens F) (name : String) : Option Nat := screens.outputs.findIdx? (·.name == name)

def box (screens : Screens F) (id : Nat) : Pixels.Box := layoutBox screens.outputs screens.layout id

def persistOutput (screens : Screens F) (id : Nat) : Screens F :=
  match screens.outputs[id]? with
  | none => screens
  | some output =>
    let old := (screens.config.value output.name).getD .empty
    let box := if output.enabled then screens.box id else ⟨0, 0, 0, 0⟩
    -- A disabled output has no place; the last one it had is kept.
    let placed := output.enabled || old.lx.isNone
    let saved : Saved := {
      enabled := some output.enabled
      width := some output.width
      height := some output.height
      refresh := some output.refresh
      scale := some (ScaleFormat.toDouble output.scale)
      transform := some output.transform.code
      lx := if placed then some box.x else old.lx
      ly := if placed then some box.y else old.ly
      primary := some (screens.config.primaryOutputName == output.name) }
    { screens with config := screens.config.insert output.name saved }

def commitOutput (screens : Screens F) (id : Nat) (request : Request) (mode : Option Mode) : Screens F :=
  let outputs := screens.outputs.modify id (·.commit request mode)
  { screens with
    outputs := outputs
    layout :=
      if (entryOf screens.layout id).isSome && (request.scale.isSome || request.transform.isSome || mode.isSome) then
        reconfigure outputs screens.layout
      else screens.layout }

def showOutput (screens : Screens F) (id : Nat) (enabled : Option Bool) : Screens F :=
  match enabled, entryOf screens.layout id with
  | some true, none => { screens with layout := layoutAdd screens.outputs screens.layout id 0 0 true }
  | some false, some _ => { screens with layout := layoutRemove screens.outputs screens.layout id }
  | _, _ => screens

/-- `ConfigureOutput`; `accepted` is the backend's answer. Nothing has changed when
it fails. -/
def configureOutput (screens : Screens F) (id : Nat) (request : Request) (accepted : Bool) : Option (Screens F) :=
  match screens.outputs[id]? with
  | none => none
  | some output =>
    match request.chooseMode output.modes with
    | none => none
    | some mode =>
      if accepted then
        some (((screens.commitOutput id request mode).showOutput id request.enabled).persistOutput id)
      else none

def moveOutput (screens : Screens F) (id : Nat) (x y : Int) : Option (Screens F) :=
  if screens.outputs[id]?.any (·.enabled) then
    some ({ screens with layout := layoutAdd screens.outputs screens.layout id x y false }.persistOutput id)
  else none

/-- `AddOutput`, once the output is in the compositor's list. -/
def addOutput (screens : Screens F) (id : Nat) (accepted : Bool) : Screens F :=
  match screens.outputs[id]? with
  | none => screens
  | some output =>
    let saved := (screens.config.value output.name).getD .empty
    let known :=
      if screens.config.primaryOutputName = "" then
        { screens with config := screens.config.setPrimaryOutputName output.name }
      else screens
    let restored :=
      -- An output that was never saved keeps what its backend gave it.
      if saved = .empty then known
      else
        let enabled := saved.enabled.getD true
        let request : Request := {
          enabled := some enabled
          scale := some (saved.scale.getD (ScaleFormat.toDouble output.scale))
          transform := some (.ofCode (saved.transform.getD output.transform.code))
          width := saved.width.getD 0
          height := saved.height.getD 0
          refresh := saved.refresh.getD 0 }
        -- The two results are not looked at: a refused commit does not keep the output from being moved.
        let configured := (known.configureOutput id request accepted).getD known
        if enabled then (configured.moveOutput id (saved.lx.getD 0) (saved.ly.getD 0)).getD configured
        else configured
    restored.persistOutput id

inductive Reply where
  | done
  | error (name text : String)
  deriving DecidableEq, Repr

/-- The only error of the two calls below. -/
def Reply.fail : Reply :=
  .error "org.freedesktop.DBus.Error.InvalidArgs" "Invalid or unsupported output configuration."

def Reply.of (success : Bool) : Reply := if success then .done else .fail

def duplicateSize (outputs : List (Output F)) : Nat × Nat :=
  match outputs with
  | [] => (0, 0)
  | front :: _ =>
    front.modes.foldl (fun best candidate =>
      if candidate.width * candidate.height ≤ best.1 * best.2 then best
      else if outputs.all fun output => output.modes.any fun mode =>
          mode.width == candidate.width && mode.height == candidate.height then
        (candidate.width, candidate.height)
      else best) (0, 0)

def duplicateSearch (outputs : List (Output F)) : Option (Nat × Nat) :=
  if outputs.length < 2 || outputs.head?.all (·.modes.isEmpty) then none
  else
    let size := duplicateSize outputs
    if size.1 = 0 ∨ size.2 = 0 then none else some size

inductive ScreenMode where
  | duplicate
  | extend
  | only (name : String)
  deriving DecidableEq, Repr

def ScreenMode.enables (mode : ScreenMode) (output : Output F) : Bool :=
  match mode with
  | .only name => output.name == name
  | _ => true

def ScreenMode.request (mode : ScreenMode) (size : Nat × Nat) (output : Output F) : Request where
  enabled := some (mode.enables output)
  scale := none
  transform := none
  width := if mode = .duplicate then size.1 else 0
  height := if mode = .duplicate then size.2 else 0
  refresh := 0

def advance (output : Output F) : Int := ⌈ScaleFormat.divide output.width output.scale⌉

/-- One round of the loop over the outputs; the second part of the state is where
the next output of an extended desktop goes. -/
def modeStep (mode : ScreenMode) (size : Nat × Nat) (accepts : Nat → Bool) (state : Screens F × Int) (id : Nat) :
    (Screens F × Int) × Bool :=
  let (screens, x) := state
  match screens.outputs[id]? with
  | none => ((screens, x), true)
  | some output =>
    match screens.configureOutput id (mode.request size output) (accepts id) with
    -- The loop returns here; what it did to the outputs before stays.
    | none => ((screens, x), false)
    | some configured =>
      if mode.enables output then
        match configured.moveOutput id (if mode = .duplicate then 0 else x) 0 with
        | none => ((configured, x), false)
        | some moved =>
            -- The width is that of the mode, whatever the transform.
            let next := if mode = .extend then x + (moved.outputs[id]?.map advance).getD 0 else x
            ((moved, next), true)
      else ((configured, x), true)

/-- The changes of `SetScreenMode`, and whether all of them were made. -/
def applyMode (screens : Screens F) (mode : ScreenMode) (size : Nat × Nat) (accepts : Nat → Bool) :
    Screens F × Bool :=
  let applied := Attempt.run (modeStep mode size accepts) (screens, 0) (List.range screens.outputs.length)
  (applied.1.1, applied.2)

/-- `SetScreenMode` with the number of its arguments, the mode and the name. -/
def setScreenMode (screens : Screens F) (arguments mode : Nat) (only : String) (accepts : Nat → Bool) :
    Screens F × Reply :=
  if arguments ≠ 2 then (screens, .fail)
  else match mode with
    | 0 =>
      match duplicateSearch screens.outputs with
      | none => (screens, .fail)
      | some size =>
        let applied := screens.applyMode .duplicate size accepts
        (applied.1, .of applied.2)
    | 1 =>
      let applied := screens.applyMode .extend (0, 0) accepts
      (applied.1, .of applied.2)
    | 2 =>
      if only = "" ∨ screens.findOutput only = none then (screens, .fail)
      else
        let applied := screens.applyMode (.only only) (0, 0) accepts
        let named := { applied.1 with config := applied.1.config.setPrimaryOutputName only }
        (if applied.2 then named else applied.1, .of applied.2)
    | _ => (screens, .fail)

variable {sc configured moved : Screens F} {id id' : Nat} {q : Request} {accepted : Bool} {x y : Int}
  {o : Output F} {en : LayoutOutput}

section

variable (sc : Screens F) (id : Nat)

@[simp] theorem persistOutput_outputs : (sc.persistOutput id).outputs = sc.outputs := by
  rw [persistOutput]
  cases sc.outputs[id]? <;> rfl

@[simp] theorem persistOutput_layout : (sc.persistOutput id).layout = sc.layout := by
  rw [persistOutput]
  cases sc.outputs[id]? <;> rfl

@[simp] theorem showOutput_outputs (enabled : Option Bool) : (sc.showOutput id enabled).outputs = sc.outputs := by
  unfold showOutput
  split <;> rfl

end

theorem configureOutput_eq_some (done : sc.configureOutput id q accepted = some configured) :
    ∃ o mode, sc.outputs[id]? = some o ∧ q.chooseMode o.modes = some mode ∧ accepted = true ∧
      configured = ((sc.commitOutput id q mode).showOutput id q.enabled).persistOutput id := by
  unfold configureOutput at done
  cases found : sc.outputs[id]? with
  | none => simp [found] at done
  | some o =>
    cases chosen : q.chooseMode o.modes with
    | none => simp [found, chosen] at done
    | some mode =>
      cases accepted with
      | false => simp [found, chosen] at done
      | true =>
        simp only [found, chosen, if_true, Option.some.injEq] at done
        exact ⟨o, mode, rfl, chosen, rfl, done.symm⟩

theorem configureOutput_eq_none (found : sc.outputs[id]? = some o) : sc.configureOutput id q accepted = none ↔
      accepted = false ∨ q.chooseMode o.modes = none := by
  unfold configureOutput
  simp only [found]
  cases q.chooseMode o.modes <;> cases accepted <;> simp

theorem moveOutput_eq_some (done : sc.moveOutput id x y = some moved) :
    moved.outputs = sc.outputs ∧ moved.layout = layoutAdd sc.outputs sc.layout id x y false := by
  unfold moveOutput at done
  split at done
  · cases done
    simp
  · cases done

section

variable (done : sc.configureOutput id q accepted = some configured)

include done

theorem configureOutput_outputs : ∃ o mode, sc.outputs[id]? = some o ∧ q.chooseMode o.modes = some mode ∧
      configured.outputs = sc.outputs.modify id (·.commit q mode) := by
  obtain ⟨o, mode, found, chosen, -, rfl⟩ := configureOutput_eq_some done
  refine ⟨o, mode, found, chosen, ?_⟩
  rw [persistOutput_outputs, showOutput_outputs]
  rfl

theorem configureOutput_keeps (apart : id' ≠ id) (found : entryOf sc.layout id' = some en)
    (manual : en.autoConfigured = false) : entryOf configured.layout id' = some en := by
  obtain ⟨o, mode, -, -, -, rfl⟩ := configureOutput_eq_some done
  have committed : entryOf (sc.commitOutput id q mode).layout id' = some en := by
    simp only [commitOutput]
    split
    · exact reconfigure_keeps found manual
    · exact found
  rw [persistOutput_layout]
  unfold showOutput
  split
  · exact layoutAdd_other _ apart committed manual _ _ _
  · exact layoutRemove_other _ apart committed manual
  · exact committed

theorem moveOutput_configured (enabled : q.enabled = some true) (x y : Int) :
    ∃ moved, configured.moveOutput id x y = some moved := by
  obtain ⟨o, mode, found, -, os⟩ := configureOutput_outputs done
  have on : configured.outputs[id]?.any (·.enabled) = true := by
    simp [os, found, Output.commit, enabled]
  simp only [moveOutput, on, if_true]
  exact ⟨_, rfl⟩

end

variable {mode : ScreenMode} {size : Nat × Nat} {accepts : Nat → Bool}

theorem modeStep_configured (x : Int) (found : sc.outputs[id]? = some o)
    (done : sc.configureOutput id (mode.request size o) (accepts id) = some configured) :
    (mode.enables o = false ∧ modeStep mode size accepts (sc, x) id = ((configured, x), true)) ∨
      (mode.enables o = true ∧ ∃ moved, configured.moveOutput id (if mode = .duplicate then 0 else x) 0 = some moved ∧
          modeStep mode size accepts (sc, x) id =
            ((moved, if mode = .extend then x + (moved.outputs[id]?.map advance).getD 0 else x), true)) := by
  unfold modeStep
  simp only [found, done]
  cases wanted : mode.enables o with
  | false => exact .inl ⟨rfl, by simp⟩
  | true =>
    obtain ⟨moved, there⟩ := moveOutput_configured done (by simp [ScreenMode.request, wanted])
      (if mode = .duplicate then 0 else x) 0
    exact .inr ⟨rfl, moved, there, by simp [there]⟩

theorem modeStep_refused (found : sc.outputs[id]? = some o) : (modeStep mode size accepts (sc, x) id).2 = false ↔
      sc.configureOutput id (mode.request size o) (accepts id) = none := by
  cases done : sc.configureOutput id (mode.request size o) (accepts id) with
  | none => simp [modeStep, found, done]
  | some =>
    obtain ⟨-, taken⟩ | ⟨-, moved, -, taken⟩ := modeStep_configured x found done
    · simp [taken]
    · simp [taken]

end Screens

end FlakeWM.Screen
