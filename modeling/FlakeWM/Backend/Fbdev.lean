import FlakeWM.Lib.Transition

/-! Commits of a framebuffer output.

The framebuffer is memory of the driver that is mapped while the output is enabled. A
commit sets the mode, enables or disables the output, and copies the damaged part of a
buffer. Each system call may fail; what the calls answer is given with the commit. -/

set_option autoImplicit false

namespace FlakeWM.Backend

/-- What `ModesEqual` compares, and where the visible part starts. `timings` are the
lengths of the colors, the margins and the synchronization. -/
structure VarInfo where
  xres : Nat
  yres : Nat
  xresVirtual : Nat
  yresVirtual : Nat
  xoffset : Nat
  yoffset : Nat
  bitsPerPixel : Nat
  timings : List Nat
  deriving DecidableEq, Repr

def modesEqual (current requested : VarInfo) : Bool :=
  decide (requested.xresVirtual ≤ current.xresVirtual) && decide (requested.yresVirtual ≤ current.yresVirtual) &&
    current.bitsPerPixel == requested.bitsPerPixel && current.xres == requested.xres &&
    current.yres == requested.yres && current.timings == requested.timings

/-- `pixelFormat` is empty for a format that is not supported. -/
structure ScreenInfo where
  current : VarInfo
  bufferLength : Nat
  lineLength : Nat
  pixelFormat : Option Nat
  deriving DecidableEq, Repr

namespace ScreenInfo

def bytesPerPixel (screen : ScreenInfo) : Nat := screen.current.bitsPerPixel / 8

def xOffset (screen : ScreenInfo) : Nat := screen.current.xoffset * screen.bytesPerPixel

def address (screen : ScreenInfo) (row byte : Nat) : Nat :=
  (row + screen.current.yoffset) * screen.lineLength + screen.xOffset + byte

end ScreenInfo

abbrev Memory := Nat → UInt8

structure Buffer where
  width : Nat
  height : Nat
  stride : Nat
  format : Nat
  bytes : Memory

structure Rect where
  x1 : Int
  y1 : Int
  x2 : Int
  y2 : Int
  deriving DecidableEq, Repr

/-- The parts of an output state. `supported` says that it has no others and that the mode
is the output's own; a buffer that is committed may be null. -/
structure Request where
  supported : Bool
  mode : Bool
  enabled : Option Bool
  buffer : Option (Option Buffer)
  damage : Option (List Rect)

/-- What the system calls answer; `query` is the screen information that is read. -/
structure Calls where
  setMode : Bool
  query : Option ScreenInfo
  dpms : Bool
  map : Bool
  timer : Bool
  access : Bool

structure FbdevOutput where
  active : Bool
  enabled : Bool
  mapped : Bool
  timer : Bool
  mode : VarInfo
  screen : ScreenInfo
  memory : Memory

namespace FbdevOutput

variable (output : FbdevOutput) (calls : Calls)

def queryScreenInfo : Bool × FbdevOutput :=
  match calls.query with
  | none => (false, output)
  | some screen => (screen.pixelFormat.isSome, { output with screen := screen })

def setMode : Bool × FbdevOutput :=
  if !modesEqual output.screen.current output.mode && !calls.setMode then (false, output)
  else output.queryScreenInfo calls

def enable : Bool × FbdevOutput :=
  if output.enabled then (true, output)
  else if calls.map then
    if calls.timer then (true, { output with mapped := true, timer := true, enabled := true })
    else (false, { output with mapped := false, timer := false })
  else (false, { output with mapped := false })

def clear (screen : ScreenInfo) (memory : Memory) : Memory :=
  fun address => if address < screen.bufferLength then 0 else memory address

def disable (clearScreen : Bool) : FbdevOutput :=
  if output.enabled then
    { output with
      memory := if clearScreen && !calls.dpms && output.mapped then clear output.screen output.memory else output.memory
      timer := false
      mapped := false
      enabled := false }
  else output

def copyWidth (screen : ScreenInfo) (buffer : Buffer) : Nat := min screen.current.xres buffer.width

def copyHeight (screen : ScreenInfo) (buffer : Buffer) : Nat := min screen.current.yres buffer.height

def fits (screen : ScreenInfo) (buffer : Buffer) : Bool :=
  screen.pixelFormat == some buffer.format && screen.bytesPerPixel != 0 &&
    decide (copyWidth screen buffer * screen.bytesPerPixel ≤ buffer.stride) &&
    decide (screen.xOffset + copyWidth screen buffer * screen.bytesPerPixel ≤ screen.lineLength) &&
    decide ((screen.current.yoffset + copyHeight screen buffer) * screen.lineLength ≤ screen.bufferLength)

structure Span where
  row : Nat
  first : Nat
  last : Nat
  deriving DecidableEq, Repr

def spans (width height : Nat) : Option (List Rect) → List Span
  | none => (List.range height).map fun row => ⟨row, 0, width⟩
  | some rects => rects.flatMap fun rect =>
    (List.range' rect.y1.toNat (min height rect.y2.toNat - rect.y1.toNat)).map fun row =>
      ⟨row, rect.x1.toNat, min width rect.x2.toNat⟩

def copyRow (screen : ScreenInfo) (buffer : Buffer) (memory : Memory) (span : Span) : Memory := fun address =>
  let target := screen.address span.row (span.first * screen.bytesPerPixel)
  let source := span.row * buffer.stride + span.first * screen.bytesPerPixel
  if target ≤ address ∧ address < target + (span.last - span.first) * screen.bytesPerPixel then
    buffer.bytes (source + (address - target))
  else memory address

def copyBuffer (buffer : Option Buffer) (damage : Option (List Rect)) : Bool × FbdevOutput :=
  match buffer with
  | none => (false, output)
  | some buffer =>
    if output.mapped && calls.access && fits output.screen buffer then
      let rows := spans (copyWidth output.screen buffer) (copyHeight output.screen buffer) damage
      (true, { output with memory := rows.foldl (copyRow output.screen buffer) output.memory })
    else (false, output)

def commitBuffer (request : Request) : Bool × FbdevOutput :=
  match request.buffer with
  | none => (true, output)
  | some buffer =>
    if request.enabled.getD output.enabled then output.copyBuffer calls buffer request.damage else (true, output)

def commitEnabled (request : Request) : Bool × FbdevOutput :=
  match request.enabled with
  | some true =>
    let (done, enabled) := output.enable calls
    if done then enabled.commitBuffer calls request else (false, enabled)
  | some false => if output.enabled then (true, output.disable calls true) else output.commitBuffer calls request
  | none => output.commitBuffer calls request

def commit (request : Request) : Bool × FbdevOutput :=
  if output.active && request.supported then
    if request.mode then
      let (done, moded) := output.setMode calls
      if done then moded.commitEnabled calls request else (false, moded)
    else output.commitEnabled calls request
  else (false, output)

/-- The framebuffer is mapped and the frame timer runs exactly while it is enabled. -/
def Consistent : Prop := output.mapped = output.enabled ∧ output.timer = output.enabled

def rereads (request : Request) : Bool :=
  request.mode && (modesEqual output.screen.current output.mode || calls.setMode) &&
    calls.query.any (· ≠ output.screen)

def switchesOn (request : Request) : Bool :=
  request.enabled == some true && !output.enabled && calls.map && calls.timer

def keepsAll (request : Request) : Bool :=
  !(output.active && request.supported) ||
    !(output.rereads calls request || (!request.mode || (output.setMode calls).1) && output.switchesOn calls request)

variable {output calls} {request : Request}

theorem commitBuffer_of_failed (failed : (output.commitBuffer calls request).1 = false) :
    (output.commitBuffer calls request).2 = output := by
  unfold commitBuffer copyBuffer at *
  split
  · rfl
  · split
    · split
      · rfl
      · split
        · simp_all
        · rfl
    · rfl

theorem enable_eq (consistent : output.Consistent) : output.enable calls = if output.enabled then (true, output)
    else if calls.map && calls.timer then (true, { output with mapped := true, timer := true, enabled := true })
    else (false, output) := by
  obtain ⟨mapped, timer⟩ := consistent
  unfold enable
  cases output
  cases calls.map <;> cases calls.timer <;> simp_all

theorem setMode_cases : output.setMode calls = (false, output) ∧
        ((modesEqual output.screen.current output.mode || calls.setMode) && calls.query.isSome) = false ∨
      ∃ s, (modesEqual output.screen.current output.mode || calls.setMode) = true ∧ calls.query = some s ∧
        output.setMode calls = (s.pixelFormat.isSome, { output with screen := s }) := by
  unfold setMode queryScreenInfo
  cases modesEqual output.screen.current output.mode <;> cases calls.setMode <;> cases calls.query <;> simp

section

variable (consistent : output.Consistent)

include consistent

theorem Consistent.enable : (output.enable calls).2.Consistent := by
  rw [enable_eq consistent]
  split
  · exact consistent
  · split
    · exact ⟨rfl, rfl⟩
    · exact consistent

theorem Consistent.disable (clearScreen : Bool) : (output.disable calls clearScreen).Consistent := by
  unfold FbdevOutput.disable
  split
  · exact ⟨rfl, rfl⟩
  · exact consistent

theorem Consistent.setMode : (output.setMode calls).2.Consistent := by
  rcases @setMode_cases output calls with ⟨unset, _⟩ | ⟨screen, _, _, stored⟩
  · rwa [unset]
  · rwa [stored]

-- only the memory is written
theorem Consistent.commitBuffer : (output.commitBuffer calls request).2.Consistent := by
  unfold FbdevOutput.commitBuffer copyBuffer
  repeat' split
  all_goals exact consistent

theorem Consistent.commitEnabled : (output.commitEnabled calls request).2.Consistent := by
  unfold FbdevOutput.commitEnabled
  split
  · dsimp only
    split
    · exact consistent.enable.commitBuffer
    · exact consistent.enable
  · split
    · exact consistent.disable true
    · exact consistent.commitBuffer
  · exact consistent.commitBuffer

theorem Consistent.commit : (output.commit calls request).2.Consistent := by
  unfold FbdevOutput.commit
  split
  · split
    · dsimp only
      split
      · exact consistent.setMode.commitEnabled
      · exact consistent.setMode
    · exact consistent.commitEnabled
  · exact consistent

/-- Whatever the system calls answer, commits keep the mapping and the timer with the output. -/
theorem consistent_commits (commits : List (Calls × Request)) :
    (Transition.run (fun output (calls, request) => (output.commit calls request).2) output commits).Consistent :=
  Transition.run_invariant (fun _ _ kept => kept.commit) consistent commits

end

theorem commitEnabled_of_failed (consistent : output.Consistent)
    (failed : (output.commitEnabled calls request).1 = false) :
    (output.commitEnabled calls request).2 =
      if output.switchesOn calls request then { output with mapped := true, timer := true, enabled := true }
      else output := by
  unfold commitEnabled switchesOn at *
  rw [enable_eq consistent] at *
  cases asked : request.enabled with
  | none =>
    rw [asked] at failed
    exact commitBuffer_of_failed failed
  | some wanted =>
    rw [asked] at failed
    cases wanted with
    | false =>
      dsimp only at failed ⊢
      split at failed
      · contradiction
      · rename_i off
        rw [if_neg off]
        exact commitBuffer_of_failed failed
    | true =>
      by_cases on : output.enabled = true
      · simp only [on, if_true] at failed ⊢
        exact commitBuffer_of_failed failed
      · by_cases live : (calls.map && calls.timer) = true
        · simp only [on, live, if_true, if_false, Bool.false_eq_true] at failed ⊢
          rw [commitBuffer_of_failed failed, if_pos (by simp_all)]
        · have dark : (calls.map && calls.timer) = false := Bool.eq_false_iff.mpr live
          simp only [on, dark, Bool.false_eq_true, if_false]
          rw [if_neg (by simp [dark])]

/-- A commit that fails leaves the output as it was, unless it has read new screen
information or has switched the output on before. -/
theorem commit_failed_iff (consistent : output.Consistent) (failed : (output.commit calls request).1 = false) :
    (output.commit calls request).2 = output ↔ output.keepsAll calls request = true := by
  have changed : ∀ screen, ({ output with screen := screen } : FbdevOutput) = output ↔ screen = output.screen := by
    intro screen
    cases output
    simp
  have lit : output.switchesOn calls request = true → ∀ screen,
      ({ output with screen := screen, mapped := true, timer := true, enabled := true } : FbdevOutput) ≠ output := by
    intro on screen same
    have enabled := congrArg FbdevOutput.enabled same
    simp [switchesOn, ← enabled] at on
  unfold commit keepsAll at *
  by_cases taken : (output.active && request.supported) = true
  · rw [if_pos taken] at failed ⊢
    rw [taken, Bool.not_true, Bool.false_or]
    by_cases moded : request.mode = true
    · rw [if_pos moded] at failed ⊢
      rcases @setMode_cases output calls with ⟨unset, unread⟩ | ⟨screen, set, read, stored⟩
      · have unread' : output.rereads calls request = false := by
          unfold rereads
          cases read : calls.query <;> simp_all
        rw [unset, unread', moded]
        exact iff_of_true rfl rfl
      · have read' : output.rereads calls request = decide (screen ≠ output.screen) := by
          unfold rereads
          rw [moded, set, read]
          rfl
        rw [stored] at failed ⊢
        rw [read', moded]
        cases known : screen.pixelFormat.isSome with
        | false => simpa using changed screen
        | true =>
          rw [known] at failed
          have same : ({ output with screen := screen } : FbdevOutput).switchesOn calls request =
            output.switchesOn calls request := rfl
          have kept := @commitEnabled_of_failed { output with screen := screen } calls request consistent failed
          simp only [if_true, kept, same]
          split
          · rename_i on
            simp [on, lit on screen]
          · rename_i off
            simpa [off] using changed screen
    · rw [if_neg moded] at failed ⊢
      rw [commitEnabled_of_failed consistent failed]
      split
      · rename_i on
        simp [on, moded, lit on output.screen]
      · rename_i off
        simp [off, moded, rereads]
  · rw [if_neg taken]
    simp [taken]

def dark : FbdevOutput where
  active := true
  enabled := false
  mapped := false
  timer := false
  mode := ⟨2, 1, 2, 1, 0, 0, 8, []⟩
  screen := ⟨⟨2, 1, 2, 1, 0, 0, 8, []⟩, 2, 2, some 0⟩
  memory := fun _ => 7

def succeed (screen : ScreenInfo) : Calls := ⟨true, some screen, true, true, true, true⟩

/-- The timer fails, and the mapping is undone. -/
theorem commit_failed_timer :
    (dark.commit { succeed dark.screen with timer := false } ⟨true, true, some true, none, none⟩).2 = dark :=
  (commit_failed_iff ⟨rfl, rfl⟩ (by decide)).mpr (by decide)

/-- The output is switched on, and then the buffer has the wrong format. A mode is set, and
the screen that is read is not supported. -/
theorem commit_failed_changes :
    let buffer : Buffer := ⟨2, 1, 2, 1, fun _ => 9⟩
    let lit := dark.commit (succeed dark.screen) ⟨true, false, some true, some buffer, none⟩
    let moded := dark.commit (succeed { dark.screen with pixelFormat := none }) ⟨true, true, none, none, none⟩
    (lit.1 = false ∧ lit.2.enabled = true ∧ lit.2.mapped = true ∧ lit.2.timer = true) ∧
      moded.1 = false ∧ moded.2.screen ≠ dark.screen := by
  decide

end FbdevOutput

end FlakeWM.Backend
