import FlakeWM.Lib.FirstMatch
import FlakeWM.Lib.Transition

/-! The clipboard that outlives its owner.

While a client owns the selection, the compositor reads every type of it into a copy
of its own. When the seat has no selection any more, an idle callback is asked for,
which finishes the reading, drops the types that are not complete, and makes the copy
the seat's selection. Readers of the copy are served through pipes that may accept
only part of it at a time.

What the calls on the descriptors return is part of the events. Of the owner the
state keeps what it has written to its pipes, of a reader what it has received and
why its pipe was closed, and of the selection who held it last; the compositor reads
none of these. -/

set_option autoImplicit false

namespace FlakeWM.Input

def kMaxSelectionSize : Nat := 64 * 1024 * 1024

def kIgnoredMimeTypes : List String :=
  ["TARGETS", "MULTIPLE", "SAVE_TARGETS", "TIMESTAMP", "DELETE", "INSERT_SELECTION", "INSERT_PROPERTY"]

/-- The size of the buffer of `Drain`. -/
def chunkSize : Nat := 16384

/-- What a call on a descriptor that does not block returns. Calls are given by the
list of their results, and where the list ends the next call would block. A transfer
of `bytes count` is one of `count + 1` bytes, or of as many as there are. -/
inductive Result where
  | bytes (count : Nat)
  | interrupted
  | error
  deriving DecidableEq, Repr

/-- A pipe as the owner of the selection sees it: all it has written to it, and
whether no write end is open any more. -/
structure Pipe where
  written : List UInt8
  closed : Bool
  deriving DecidableEq, Repr

structure Writer where
  fd : Nat
  offset : Nat
  deriving DecidableEq, Repr

/-- One type of the selection. `reading` says that the read end is open. -/
structure Entry where
  mimeType : String
  pipe : Pipe
  data : List UInt8
  complete : Bool
  failed : Bool
  reading : Bool
  writers : List Writer
  deriving DecidableEq, Repr

/-- The copy of the selection with the number `copies`. `owned` says that it is
installed, `install` that the idle callback is pending, and `mimeTypes` are those it
offers. -/
structure Selection where
  copies : Nat
  entries : List Entry
  total : Nat
  owned : Bool
  install : Bool
  mimeTypes : List String
  deriving DecidableEq, Repr

/-- Why the compositor has closed the pipe of a reader: there was nothing left to
send, the reader closed it or a write failed, the event loop would not watch it, or the
copy was destroyed. -/
inductive Fate where
  | waiting
  | sent
  | broken
  | unwatched
  | replaced
  deriving DecidableEq, Repr

structure Reader where
  stream : List UInt8
  received : List UInt8
  fate : Fate
  deriving DecidableEq, Repr

/-- `selection_source` of the seat: the source of a client, or the copy. -/
inductive Source where
  | client (owner : Nat)
  | copy
  deriving DecidableEq, Repr

/-- What became of the client that was the last to select something: it still holds
the selection, it went away with it, or the selection was taken back while it lived. -/
inductive Holder where
  | nobody
  | holding
  | gone
  | cleared
  deriving DecidableEq, Repr

/-- How `FlushWriter` ends; it returns true unless it is blocked. -/
inductive Flush where
  | all
  | error
  | blocked
  deriving DecidableEq, Repr

/-- What becomes of a reader whose writer is flushed, given what becomes of one for whom
there is more to send. -/
def Flush.fate (blocked : Fate) : Flush → Fate
  | .all => .sent
  | .error => .broken
  | .blocked => blocked

structure Flushed where
  offset : Nat
  sent : List UInt8
  ended : Flush
  deriving DecidableEq, Repr

def flushWriter (data : List UInt8) (offset : Nat) : List Result → Flushed
  | [] => ⟨offset, [], if offset < data.length then .blocked else .all⟩
  | result :: rest =>
    if offset < data.length then
      match result with
      | .bytes count =>
        let chunk := (data.drop offset).take (count + 1)
        let flushed := flushWriter data (offset + chunk.length) rest
        { flushed with sent := chunk ++ flushed.sent }
      -- A write that a signal has interrupted is made again.
      | .interrupted => flushWriter data offset rest
      | .error => ⟨offset, [], .error⟩
    else ⟨offset, [], .all⟩

/-- What one call of `read` takes from the pipe. -/
def Pipe.next (pipe : Pipe) (offset count : Nat) : List UInt8 :=
  (pipe.written.drop offset).take (min (count + 1) chunkSize)

/-- `Drain`, with the total size of the selection. -/
def drain (entry : Entry) (total : Nat) : List Result → Entry × Nat
  | [] => (entry, total)
  | result :: rest =>
    if entry.reading then
      match result with
      | .bytes count =>
        let chunk := entry.pipe.next entry.data.length count
        if chunk = [] then
          -- An empty pipe ends where nobody can write to it, and blocks otherwise.
          if entry.pipe.closed then ({ entry with complete := true, failed := false, reading := false }, total)
          else (entry, total)
        -- The limit is for all types of the selection together.
        else if total + chunk.length > kMaxSelectionSize then
          ({ entry with failed := true, reading := false }, total)
        else drain { entry with data := entry.data ++ chunk } (total + chunk.length) rest
      | .interrupted => drain entry total rest
      | .error => ({ entry with complete := false, failed := true, reading := false }, total)
    else (entry, total)

def drainEach : List Entry → Nat → List (List Result) → List Entry × Nat
  | [], total, _ => ([], total)
  | entry :: rest, total, reads =>
    let drained := drain entry total (reads.headD [])
    let others := drainEach rest drained.2 reads.tail
    (drained.1 :: others.1, others.2)

def Entry.opened (mimeType : String) : Entry where
  mimeType := mimeType
  pipe := ⟨[], false⟩
  data := []
  complete := false
  failed := false
  reading := true
  writers := []

/-- `CreateSelection`. With each type comes whether a pipe could be made for it and
watched. -/
def createSelection (copies : Nat) (types : List (String × Bool)) : Option Selection :=
  let entries := types.filterMap fun type =>
    if type.1 ∈ kIgnoredMimeTypes then none
    else if type.2 then some (Entry.opened type.1)
    else none
  if entries = [] then none
  else some { copies := copies, entries := entries, total := 0, owned := false, install := false, mimeTypes := [] }

/-- The entries that `Install` keeps. -/
def Entry.keep (entry : Entry) : Bool := entry.complete && !entry.failed && !entry.data.isEmpty

namespace Selection

def writers (selection : Selection) : List Writer := selection.entries.flatMap (·.writers)

def writer? (selection : Selection) (fd : Nat) : Option (Entry × Writer) :=
  selection.entries.findSome? fun entry => (entry.writers.find? (·.fd == fd)).map (entry, ·)

def changeEntry (selection : Selection) (index : Nat) (change : Entry → Entry) : Selection :=
  { selection with entries := selection.entries.modify index change }

def advanceWriter (selection : Selection) (fd offset : Nat) : Selection :=
  let advance (writer : Writer) : Writer := if writer.fd == fd then { writer with offset := offset } else writer
  { selection with entries := selection.entries.map fun entry => { entry with writers := entry.writers.map advance } }

def destroyWriter (selection : Selection) (fd : Nat) : Selection :=
  { selection with entries := selection.entries.map fun entry =>
      { entry with writers := entry.writers.filter fun writer => writer.fd != fd } }

def addWriter (selection : Selection) (mimeType : String) (writer : Writer) : Selection :=
  let add (entry : Entry) : Entry := { entry with writers := entry.writers ++ [writer] }
  { selection with entries := FirstMatch.update (·.mimeType == mimeType) add selection.entries }

def onReadable (selection : Selection) (index : Nat) (reads : List Result) : Selection :=
  match selection.entries[index]? with
  | none => selection
  | some entry =>
    let drained := drain entry selection.total reads
    { selection with entries := selection.entries.set index drained.1, total := drained.2 }

/-- What `Install` makes of the copy: it reads what is left, and keeps and offers what is
complete. `slots` is for how many types there is memory to offer them. -/
def finish (selection : Selection) (reads : List (List Result)) (slots : Nat) : Selection :=
  let drained := drainEach selection.entries selection.total reads
  let kept := drained.1.filter Entry.keep
  { selection with
    entries := kept
    total := drained.2
    install := false
    mimeTypes := (kept.map (·.mimeType)).take slots }

/-- The writers that `Install` destroys with the entries it does not keep. -/
def dropped (selection : Selection) (reads : List (List Result)) : List Writer :=
  ((drainEach selection.entries selection.total reads).1.filter fun entry => !entry.keep).flatMap (·.writers)

end Selection

structure Clipboard where
  seat : Option Source
  cache : Option Selection
  selections : Nat
  holder : Holder
  readers : List Reader
  deriving DecidableEq, Repr

namespace Clipboard

def initial : Clipboard := { seat := none, cache := none, selections := 0, holder := .nobody, readers := [] }

def closeReaders (readers : List Reader) (writers : List Writer) : List Reader :=
  writers.foldl (fun readers writer => readers.modify writer.fd fun reader => { reader with fate := .replaced }) readers

/-- `DestroySelection` of the copy, which `ForgetSelection` takes from the cache. -/
def destroySelection (clipboard : Clipboard) : Clipboard :=
  match clipboard.cache with
  | none => clipboard
  | some selection =>
    { clipboard with cache := none, readers := closeReaders clipboard.readers selection.writers }

def leaveSeat (clipboard : Clipboard) : Clipboard :=
  match clipboard.seat with
  | some .copy => { clipboard.destroySelection with seat := none }
  | _ => { clipboard with seat := none }

/-- `OnSetSelection` for a seat without selection. -/
def onSelectionLost (clipboard : Clipboard) : Clipboard :=
  { clipboard with cache := clipboard.cache.map fun selection =>
      if !selection.owned && !selection.install then { selection with install := true } else selection }

/-- `OnSetSelection` for the source of a client. -/
def onSelectionTaken (clipboard : Clipboard) (types : List (String × Bool)) : Clipboard :=
  { clipboard.destroySelection with cache := createSelection clipboard.selections types }

def setSelection (clipboard : Clipboard) (client : Nat) (types : List (String × Bool)) : Clipboard :=
  onSelectionTaken
    { clipboard.leaveSeat with seat := some (.client client), selections := clipboard.selections + 1, holder := .holding }
    types

def loseSelection (clipboard : Clipboard) (holder : Holder) : Clipboard :=
  if clipboard.seat = none then clipboard
  else onSelectionLost { clipboard.leaveSeat with holder := holder }

/-- `Install`. -/
def install (clipboard : Clipboard) (reads : List (List Result)) (slots : Nat) : Clipboard :=
  match clipboard.cache with
  | none => clipboard
  | some selection =>
    if !selection.install then clipboard
    -- Somebody has selected something since the callback was asked for.
    else if clipboard.seat ≠ none then { clipboard with cache := some { selection with install := false } }
    else
      let copy := selection.finish reads slots
      let readers := closeReaders clipboard.readers (selection.dropped reads)
      if copy.mimeTypes = [] then destroySelection { clipboard with cache := some copy, readers := readers }
      else { clipboard with seat := some .copy, cache := some { copy with owned := true }, readers := readers }

/-- `SendSelection`, which the seat calls for a reader of the copy. `watched` says whether
the event loop agrees to watch the descriptor. -/
def sendSelection (clipboard : Clipboard) (mimeType : String) (writes : List Result) (watched : Bool) : Clipboard :=
  match clipboard.cache with
  | none => clipboard
  | some selection =>
    match selection.entries.find? (·.mimeType == mimeType) with
    -- A type that is not kept: the pipe is closed at once.
    | none => { clipboard with readers := clipboard.readers ++ [⟨[], [], .sent⟩] }
    | some entry =>
      let flushed := flushWriter entry.data 0 writes
      let fate := flushed.ended.fate (if watched then .waiting else .unwatched)
      { clipboard with
        cache := some (if fate = .waiting then
          selection.addWriter mimeType ⟨clipboard.readers.length, flushed.offset⟩ else selection)
        readers := clipboard.readers ++ [⟨entry.pipe.written, flushed.sent, fate⟩] }

/-- `OnWritable`. `hangup` says that the loop reports a hangup or an error. -/
def onWritable (clipboard : Clipboard) (fd : Nat) (writes : List Result) (hangup : Bool) : Clipboard :=
  match clipboard.cache with
  | none => clipboard
  | some selection =>
    match selection.writer? fd with
    | none => clipboard
    | some (entry, writer) =>
      let flushed := flushWriter entry.data writer.offset writes
      let fate := flushed.ended.fate (if hangup then .broken else .waiting)
      { clipboard with
        cache := some (if fate = .waiting then selection.advanceWriter fd flushed.offset
          else selection.destroyWriter fd)
        readers := clipboard.readers.modify fd fun reader =>
          { reader with received := reader.received ++ flushed.sent, fate := fate } }

end Clipboard

/-- A client selects something, some client takes the selection back, the client that
holds it destroys its source or goes away; the idle callback runs; the owner writes to a
pipe or closes it; and the descriptors become ready. -/
inductive ClipboardEvent where
  | setSelection (client : Nat) (types : List (String × Bool))
  | clearSelection
  | destroySource
  | disconnect (client : Nat)
  | idle (reads : List (List Result)) (slots : Nat)
  | ownerWrites (index : Nat) (bytes : List UInt8)
  | ownerCloses (index : Nat)
  | readable (index : Nat) (reads : List Result)
  | receive (mimeType : String) (writes : List Result) (watched : Bool)
  | writable (fd : Nat) (writes : List Result) (hangup : Bool)
  deriving DecidableEq, Repr

def Pipe.write (pipe : Pipe) (bytes : List UInt8) : Pipe :=
  if pipe.closed then pipe else { pipe with written := pipe.written ++ bytes }

namespace Clipboard

def changeCache (clipboard : Clipboard) (change : Selection → Selection) : Clipboard :=
  { clipboard with cache := clipboard.cache.map change }

def step (clipboard : Clipboard) : ClipboardEvent → Clipboard
  | .setSelection client types => clipboard.setSelection client types
  | .clearSelection => clipboard.loseSelection .cleared
  | .destroySource =>
    match clipboard.seat with
    | some (.client _) => clipboard.loseSelection .cleared
    | _ => clipboard
  | .disconnect client => if clipboard.seat = some (.client client) then clipboard.loseSelection .gone else clipboard
  | .idle reads slots => clipboard.install reads slots
  | .ownerWrites index bytes =>
    clipboard.changeCache (·.changeEntry index fun entry => { entry with pipe := entry.pipe.write bytes })
  | .ownerCloses index =>
    clipboard.changeCache (·.changeEntry index fun entry => { entry with pipe := { entry.pipe with closed := true } })
  | .readable index reads => clipboard.changeCache (·.onReadable index reads)
  | .receive mimeType writes watched =>
    if clipboard.seat = some .copy then clipboard.sendSelection mimeType writes watched else clipboard
  | .writable fd writes hangup => clipboard.onWritable fd writes hangup

section

variable (c : Clipboard)

theorem destroySelection_of_none {c : Clipboard} (empty : c.cache = none) : c.destroySelection = c := by
  simp [destroySelection, empty]

@[simp] theorem destroySelection_seat : c.destroySelection.seat = c.seat := by
  unfold destroySelection
  split <;> rfl

@[simp] theorem destroySelection_holder : c.destroySelection.holder = c.holder := by
  unfold destroySelection
  split <;> rfl

@[simp] theorem destroySelection_selections : c.destroySelection.selections = c.selections := by
  unfold destroySelection
  split <;> rfl

@[simp] theorem destroySelection_cache : c.destroySelection.cache = none := by
  unfold destroySelection
  split
  · assumption
  · rfl

@[simp] theorem leaveSeat_seat : c.leaveSeat.seat = none := by
  unfold leaveSeat
  split <;> rfl

@[simp] theorem leaveSeat_selections : c.leaveSeat.selections = c.selections := by
  unfold leaveSeat
  split <;> simp

theorem sendSelection_seat (mimeType : String) (writes : List Result) (watched : Bool) :
    (c.sendSelection mimeType writes watched).seat = c.seat := by
  unfold sendSelection
  split
  · rfl
  · split <;> rfl

theorem sendSelection_holder (mimeType : String) (writes : List Result) (watched : Bool) :
    (c.sendSelection mimeType writes watched).holder = c.holder := by
  unfold sendSelection
  split
  · rfl
  · split <;> rfl

theorem onWritable_seat (fd : Nat) (writes : List Result) (hangup : Bool) :
    (c.onWritable fd writes hangup).seat = c.seat := by
  unfold onWritable
  split
  · rfl
  · split <;> rfl

theorem onWritable_holder (fd : Nat) (writes : List Result) (hangup : Bool) :
    (c.onWritable fd writes hangup).holder = c.holder := by
  unfold onWritable
  split
  · rfl
  · split <;> rfl

end

theorem install_pending {c : Clipboard} {sel : Selection} (cached : c.cache = some sel)
    (pending : sel.install = true) (empty : c.seat = none) (reads : List (List Result)) (slots : Nat) :
    c.install reads slots = let readers := closeReaders c.readers (sel.dropped reads)
      if (sel.finish reads slots).mimeTypes = [] then
        destroySelection { c with cache := some (sel.finish reads slots), readers := readers }
      else
        { c with
          seat := some .copy
          cache := some { sel.finish reads slots with owned := true }
          readers := readers } := by
  simp [install, cached, pending, empty]

/-- The types that the idle callback finds to offer, if it is pending. -/
def found (clipboard : Clipboard) (reads : List (List Result)) (slots : Nat) : List String :=
  match clipboard.cache with
  | none => []
  | some selection =>
    if selection.install then (selection.finish reads slots).mimeTypes else []

section

variable (c : Clipboard) (reads : List (List Result)) (slots : Nat)

theorem install_seat : (c.install reads slots).seat =
      if c.seat = none ∧ c.found reads slots ≠ [] then some .copy else c.seat := by
  unfold install found
  cases c.cache with
  | none => simp
  | some sel =>
    cases pending : sel.install with
    | false => simp [pending]
    | true =>
      cases empty : c.seat with
      | some => simp [pending]
      | none =>
        by_cases nothing : (sel.finish reads slots).mimeTypes = []
        · simp [pending, nothing]
        · simp [pending, nothing]

theorem install_holder : (c.install reads slots).holder = c.holder := by
  unfold install
  cases c.cache with
  | none => rfl
  | some =>
    simp only
    repeat' split
    all_goals simp

theorem loseSelection_seat (holder : Holder) : (c.loseSelection holder).seat = none := by
  unfold loseSelection
  split
  · assumption
  · simp [onSelectionLost]

theorem loseSelection_holder (holder : Holder) :
    (c.loseSelection holder).holder = if c.seat = none then c.holder else holder := by
  unfold loseSelection
  split
  · rfl
  · simp [onSelectionLost]

theorem setSelection_seat (cl : Nat) (types : List (String × Bool)) :
    (c.setSelection cl types).seat = some (.client cl) := by
  simp [setSelection, onSelectionTaken]

theorem setSelection_holder (cl : Nat) (types : List (String × Bool)) :
    (c.setSelection cl types).holder = .holding := by
  simp [setSelection, onSelectionTaken]

end

end Clipboard

end FlakeWM.Input
