import FlakeWM.Lib.Splice
import FlakeWM.Input.TextInput

/-! What a commit of the input method does to the text of a client.

The relay passes the commit on to the active text input, each version of which has
its own events. A client of v1 or v2 keeps a deletion until the next commit string,
a client of v3 keeps everything until the done event. Lengths and indices on the
wire are counted in bytes and have 32 bits. -/

set_option autoImplicit false

namespace FlakeWM.Input.Text

abbrev Bytes := List UInt8

/-- What the input method has committed; a missing text is not the empty one. -/
structure MethodState where
  preedit : Option (Bytes × Int × Int)
  commitText : Option Bytes
  beforeLength : UInt32
  afterLength : UInt32
  deriving DecidableEq, Repr

/-- The two numbers of a deletion are an index and a length in v1, two lengths in the
other versions. -/
inductive EditMessage where
  | preeditCursor (index : Int)
  | preeditStyling (index length : Nat)
  | preeditString (text : Bytes) (cursorBegin cursorEnd : Option Int)
  | commitString (text : Bytes)
  | deleteSurroundingText (first second : UInt32)
  | done
  deriving DecidableEq, Repr

section

variable (version : Version)

def sendPreedit (text : Bytes) (cursorBegin cursorEnd : Int) : List EditMessage :=
  match version with
  | .v1 | .v2 => [.preeditCursor cursorBegin, .preeditStyling 0 text.length, .preeditString text none none]
  | .v3 => [.preeditString text (some cursorBegin) (some cursorEnd)]

/-- `surrounding` is the text the client has sent with the text input. -/
def sendDelete (surrounding : Bytes) (beforeLength afterLength : UInt32) : EditMessage :=
  match version with
  | .v1 | .v2 =>
    let size := UInt32.ofNat surrounding.length
    let index := if size > beforeLength then size - beforeLength else 0
    .deleteSurroundingText index (beforeLength + afterLength)
  | .v3 => .deleteSurroundingText beforeLength afterLength

def sendDone : List EditMessage :=
  match version with
  | .v1 | .v2 => []
  | .v3 => [.done]

def onInputMethodCommit (surrounding : Bytes) (state : MethodState) : List EditMessage :=
  (match state.preedit with
    | some (text, cursorBegin, cursorEnd) => sendPreedit version text cursorBegin cursorEnd
    | none => []) ++
  (match state.commitText with
    | some text => [.commitString text]
    | none => []) ++
  (if state.beforeLength ≠ 0 ∨ state.afterLength ≠ 0 then
    [sendDelete version surrounding state.beforeLength state.afterLength] else []) ++
  sendDone version

end

/-- The text of a client, with what it keeps for later: the ends of a deletion,
counted from the cursor, and a text to be inserted. -/
structure Editor where
  text : Bytes
  cursor : Nat
  deletion : Option (Int × Int)
  insertion : Bytes
  deriving DecidableEq, Repr

namespace Editor

def idle (text : Bytes) (cursor : Nat) : Editor := ⟨text, cursor, none, []⟩

def remove (editor : Editor) (first last : Nat) : Editor :=
  if first < last then
    { editor with
      text := Splice.replace editor.text first last []
      cursor :=
        if editor.cursor ≤ first then editor.cursor
        else if editor.cursor ≤ last then first
        else editor.cursor - (last - first) }
  else editor

def edit (editor : Editor) (inserted : Bytes) : Editor :=
  let removed := match editor.deletion with
    | some (start, stop) => editor.remove (editor.cursor + start).toNat (editor.cursor + stop).toNat
    | none => editor
  { text := Splice.replace removed.text removed.cursor removed.cursor inserted
    cursor := removed.cursor + inserted.length
    deletion := none
    insertion := [] }

def receive (version : Version) (editor : Editor) (message : EditMessage) : Editor :=
  match version, message with
  | .v1, .deleteSurroundingText index length =>
    { editor with deletion := some (index.toInt32.toInt, index.toInt32.toInt + length.toNat) }
  | _, .deleteSurroundingText before after => { editor with deletion := some (-before.toNat, after.toNat) }
  | .v3, .commitString text => { editor with insertion := text }
  | _, .commitString text => editor.edit text
  | .v3, .done => editor.edit editor.insertion
  | _, _ => editor

def receiveAll (version : Version) (editor : Editor) (messages : List EditMessage) : Editor :=
  messages.foldl (receive version) editor

end Editor

/-- The client's text after the commit. -/
def committedText (version : Version) (text : Bytes) (cursor : Nat) (surrounding : Bytes) (state : MethodState) : Bytes :=
  ((Editor.idle text cursor).receiveAll version (onInputMethodCommit version surrounding state)).text

/-- The bytes from the cursor minus before to the cursor plus after are removed and
the commit text stands there. -/
def expectedText (text : Bytes) (cursor : Nat) (state : MethodState) : Bytes :=
  Splice.replace text (cursor - state.beforeLength.toNat) (cursor + state.afterLength.toNat) (state.commitText.getD [])

namespace Editor

section

variable (version : Version) (editor : Editor)

theorem receiveAll_preedit (preedit : Option (Bytes × Int × Int)) : editor.receiveAll version (match preedit with
      | some (text, cursorBegin, cursorEnd) => sendPreedit version text cursorBegin cursorEnd
      | none => []) = editor := by
  cases preedit with
  | none => rfl
  | some => cases version <;> rfl

theorem receiveAll_append (first second : List EditMessage) :
    editor.receiveAll version (first ++ second) = (editor.receiveAll version first).receiveAll version second :=
  List.foldl_append

theorem receiveAll_done : editor.receiveAll version (sendDone version) =
      if version = .v3 then editor.edit editor.insertion else editor := by
  cases version <;> rfl

end

theorem edit_around (text inserted : Bytes) {cursor : Nat} (inside : cursor ≤ text.length) (before after : Nat)
    (insertion : Bytes) :
    ((Editor.mk text cursor (some (-before, after)) insertion).edit inserted).text =
      Splice.replace text (cursor - before) (cursor + after) inserted := by
  have first : ((cursor : Int) + -(before : Int)).toNat = cursor - before := by omega
  have last : ((cursor : Int) + (after : Int)).toNat = cursor + after := by omega
  unfold edit remove
  simp only [first, last]
  by_cases some : cursor - before < cursor + after
  · have moved : (if cursor ≤ cursor - before then cursor
        else if cursor ≤ cursor + after then cursor - before
        else cursor - (cursor + after - (cursor - before))) = cursor - before := by
      split
      · omega
      · rw [if_pos (by omega)]
    simp only [if_pos some, moved]
    exact Splice.replace_replace text inserted (by omega)
  · have same : cursor - before = cursor := by omega
    have last : cursor + after = cursor := by omega
    rw [if_neg some, same, last]

end Editor

section

variable (text surrounding : Bytes) (state : MethodState)

theorem committedText_v3 {cursor : Nat} (inside : cursor ≤ text.length) :
    committedText .v3 text cursor surrounding state = expectedText text cursor state := by
  have kept : (Editor.idle text cursor).receiveAll .v3 (match state.commitText with
      | some text => [.commitString text]
      | none => []) = ⟨text, cursor, none, state.commitText.getD []⟩ := by
    cases state.commitText with
    | none | some => rfl
  unfold committedText onInputMethodCommit expectedText
  rw [Editor.receiveAll_append, Editor.receiveAll_append, Editor.receiveAll_append, Editor.receiveAll_preedit, kept,
    Editor.receiveAll_done, if_pos rfl]
  by_cases some : state.beforeLength ≠ 0 ∨ state.afterLength ≠ 0
  · rw [if_pos some]
    exact Editor.edit_around text _ inside _ _ _
  · rw [if_neg some]
    rw [not_or, not_not, not_not] at some
    rw [some.1, some.2]
    rfl

theorem committedText_old {version : Version} (old : version ≠ .v3) (cursor : Nat) :
    committedText version text cursor surrounding state =
      Splice.replace text cursor cursor (state.commitText.getD []) := by
  have inserted : ((Editor.idle text cursor).receiveAll version (match state.commitText with
      | some text => [.commitString text]
      | none => [])).text = Splice.replace text cursor cursor (state.commitText.getD []) := by
    cases version with
    | v1 | v2 =>
      cases state.commitText with
      | none => exact (Splice.replace_nil text cursor).symm
      | some => rfl
    | v3 => exact absurd rfl old
  have deletion : ∀ (editor : Editor) (msg : EditMessage),
      msg = sendDelete version surrounding state.beforeLength state.afterLength →
      (editor.receive version msg).text = editor.text := by
    rintro editor msg rfl
    cases version <;> rfl
  unfold committedText onInputMethodCommit
  rw [Editor.receiveAll_append, Editor.receiveAll_append, Editor.receiveAll_append, Editor.receiveAll_preedit,
    Editor.receiveAll_done, if_neg old]
  by_cases some : state.beforeLength ≠ 0 ∨ state.afterLength ≠ 0
  · rw [if_pos some, ← inserted]
    exact deletion _ _ rfl
  · rw [if_neg some]
    exact inserted

/-- There is no byte in the part of the text that the deletion is about. -/
def RemovesNothing (cursor : Nat) : Prop :=
  (state.beforeLength = 0 ∨ cursor = 0) ∧ (state.afterLength = 0 ∨ cursor = text.length)

theorem committedText_old_iff {version : Version} (old : version ≠ .v3) {cursor : Nat} (inside : cursor ≤ text.length) :
    committedText version text cursor surrounding state = expectedText text cursor state ↔
      RemovesNothing text state cursor := by
  have zero : ∀ length : UInt32, length = 0 ↔ length.toNat = 0 := fun length => UInt32.toNat_inj.symm
  rw [committedText_old text surrounding state old cursor, expectedText, eq_comm,
    Splice.replace_eq_insert_iff text _ (Nat.sub_le _ _) (Nat.le_add_right _ _) inside, RemovesNothing, zero, zero]
  omega

/-- For every text, every cursor in it and everything an input method commits, the
client of v1 and the one of v2 end up with the text of the v3 client exactly if the
deletion removes nothing. -/
theorem committedText_same_iff (cursor : Fin (text.length + 1)) :
    committedText .v3 text cursor surrounding state = expectedText text cursor state ∧
      (committedText .v1 text cursor surrounding state = committedText .v3 text cursor surrounding state ↔
        RemovesNothing text state cursor) ∧
      (committedText .v2 text cursor surrounding state = committedText .v3 text cursor surrounding state ↔
        RemovesNothing text state cursor) := by
  have inside : (cursor : Nat) ≤ text.length := Nat.le_of_lt_succ cursor.isLt
  have expected := committedText_v3 text surrounding state inside
  rw [expected]
  refine ⟨rfl, ?_, ?_⟩
  · exact committedText_old_iff text surrounding state (by decide) inside
  · exact committedText_old_iff text surrounding state (by decide) inside

/-- The cursor is behind "ab", one byte before it is to be deleted and "c" inserted. -/
theorem committedText_keeps_deleted :
    let state : MethodState := ⟨none, some [99], 1, 0⟩
    committedText .v1 [97, 98] 2 [97, 98] state = [97, 98, 99] ∧
      committedText .v2 [97, 98] 2 [97, 98] state = [97, 98, 99] ∧
      committedText .v3 [97, 98] 2 [97, 98] state = [97, 99] := by
  decide

end

end FlakeWM.Input.Text
