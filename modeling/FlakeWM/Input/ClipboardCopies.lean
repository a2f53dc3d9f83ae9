import FlakeWM.Input.ClipboardStreams

/-! The copies of the clipboard over whole runs.

In every state the copy is that of the newest selection, an installed one holds what
the owner wrote, and no copy is larger than the limit. Every reader has received the
beginning of the stream it asked for. -/

set_option autoImplicit false

namespace FlakeWM.Input.Clipboard

structure Sound (clipboard : Clipboard) : Prop extends Streams clipboard where
  newest : ∀ selection ∈ clipboard.cache, selection.copies = clipboard.selections
  installed : clipboard.seat = some .copy ↔ ∃ selection ∈ clipboard.cache, selection.owned = true

def face (clipboard : Clipboard) : Option Source × Nat × Option (Nat × Bool) :=
  (clipboard.seat, clipboard.selections, clipboard.cache.map fun selection => (selection.copies, selection.owned))

theorem Sound.of_face {before after : Clipboard} (sound : before.Sound) (streams : after.Streams)
    (same : after.face = before.face) : after.Sound := by
  obtain ⟨seat, selections, caches⟩ : after.seat = before.seat ∧ after.selections = before.selections ∧
      after.cache.map (fun sel => (sel.copies, sel.owned)) = before.cache.map fun sel => (sel.copies, sel.owned) := by
    simpa [face] using same
  have old (sel : Selection) (cached : sel ∈ after.cache) :
      ∃ earlier ∈ before.cache, earlier.copies = sel.copies ∧ earlier.owned = sel.owned := by
    have listed : before.cache.map (fun sel => (sel.copies, sel.owned)) = some (sel.copies, sel.owned) := by
      rw [← caches, cached, Option.map_some]
    obtain ⟨earlier, there, pair⟩ := Option.map_eq_some_iff.mp listed
    exact ⟨earlier, there, (Prod.mk.inj pair).1, (Prod.mk.inj pair).2⟩
  have new (sel : Selection) (cached : sel ∈ before.cache) : ∃ later ∈ after.cache, later.owned = sel.owned := by
    have listed : after.cache.map (fun sel => (sel.copies, sel.owned)) = some (sel.copies, sel.owned) := by
      rw [caches, cached, Option.map_some]
    obtain ⟨later, there, pair⟩ := Option.map_eq_some_iff.mp listed
    exact ⟨later, there, (Prod.mk.inj pair).2⟩
  refine ⟨streams, ?_, ?_⟩
  · intro sel cached
    obtain ⟨earlier, there, copies, _⟩ := old sel cached
    rw [← copies, sound.newest earlier there, selections]
  · rw [seat, sound.installed]
    constructor
    · rintro ⟨sel, cached, owned⟩
      obtain ⟨later, there, same⟩ := new sel cached
      exact ⟨later, there, same.trans owned⟩
    · rintro ⟨sel, cached, owned⟩
      obtain ⟨earlier, there, _, same⟩ := old sel cached
      exact ⟨earlier, there, same.trans owned⟩

theorem face_changeCache (c : Clipboard) {f : Selection → Selection} (copies : ∀ sel, (f sel).copies = sel.copies)
    (owned : ∀ sel, (f sel).owned = sel.owned) :
    (c.changeCache f).face = c.face := by
  simp [face, changeCache, Function.comp_def, copies, owned]

theorem sound_initial : initial.Sound := by
  refine ⟨⟨by simp [initial], by simp [initial], by simp [initial], by simp [initial], by simp [initial]⟩, ?_, ?_⟩
  · simp [initial]
  · simp [initial]

variable {c : Clipboard}

theorem Sound.unowned (sound : c.Sound) (apart : c.seat ≠ some .copy) (sel : Selection)
    (cached : sel ∈ c.cache) : sel.owned = false := by
  rw [Bool.eq_false_iff]
  exact fun owned => apart (sound.installed.mpr ⟨sel, cached, owned⟩)

theorem sound_setSelection (sound : c.Sound) (cl : Nat) (types : List (String × Bool)) :
    (c.setSelection cl types).Sound := by
  have left := streams_leaveSeat sound.toStreams
  have taken : Streams { c.leaveSeat with
      seat := some (.client cl), selections := c.selections + 1, holder := .holding } :=
    ⟨left.selection, left.served, left.waiting, left.received, left.sent⟩
  refine ⟨(streams_destroySelection taken).create (destroySelection_cache _) _ types, ?_, ?_⟩
  · intro sel created
    rw [(createSelection_sound created).2.1]
    simp [setSelection, onSelectionTaken]
  · constructor
    · intro seated
      simp [setSelection, onSelectionTaken] at seated
    · rintro ⟨sel, created, owned⟩
      rw [(createSelection_sound created).2.2] at owned
      cases owned

theorem leaveSeat_cache (c : Clipboard) : c.leaveSeat.cache = if c.seat = some .copy then none else c.cache := by
  unfold leaveSeat
  split
  · rename_i copy
    simp [copy]
  · rename_i id'
    rw [if_neg id']

theorem sound_loseSelection (sound : c.Sound) (holder : Holder) : (c.loseSelection holder).Sound := by
  unfold loseSelection
  split
  · exact sound
  · have left := streams_leaveSeat sound.toStreams
    have lost : Sound { c.leaveSeat with holder := holder } := by
      refine ⟨⟨left.selection, left.served, left.waiting, left.received, left.sent⟩, ?_, ?_⟩
      · intro sel cached
        have there : sel ∈ c.cache := by
          rw [leaveSeat_cache] at cached
          split at cached
          · cases cached
          · exact cached
        simpa using sound.newest sel there
      · refine iff_of_false (by simp) ?_
        rintro ⟨sel, cached, owned⟩
        rw [leaveSeat_cache] at cached
        split at cached
        · cases cached
        · rename_i id'
          rw [sound.unowned id' sel cached] at owned
          cases owned
    refine lost.of_face (streams_onSelectionLost lost.toStreams) (face_changeCache _ ?_ ?_)
    · intro sel
      split <;> rfl
    · intro sel
      split <;> rfl

theorem sound_install (sound : c.Sound) (reads : List (List Result)) (slots : Nat) : (c.install reads slots).Sound := by
  have streams := streams_install sound.toStreams reads slots
  cases cached : c.cache with
  | none =>
    have same : c.install reads slots = c := by simp [install, cached]
    rw [same]
    exact sound
  | some sel =>
    cases pending : sel.install with
    | false =>
      have same : c.install reads slots = c := by simp [install, cached, pending]
      rw [same]
      exact sound
    | true =>
      by_cases seated : c.seat = none
      · refine ⟨streams, ?_, ?_⟩
        · intro next there
          rw [install_pending cached pending seated] at there ⊢
          split at there
          · simp at there
          · rename_i something
            rw [if_neg something]
            obtain rfl := Option.some.inj there
            exact sound.newest sel cached
        · rw [install_pending cached pending seated]
          split
          · simp [seated]
          · exact iff_of_true rfl ⟨_, rfl, rfl⟩
      · refine sound.of_face streams ?_
        simp [install, cached, pending, seated, face]

theorem sendSelection_face (c : Clipboard) (mimeType : String) (writes : List Result) (watched : Bool) :
    (c.sendSelection mimeType writes watched).face = c.face := by
  cases cached : c.cache with
  | none => simp [sendSelection, cached]
  | some =>
    simp only [sendSelection, cached]
    split
    · simp [face, cached]
    · simp only [face, cached, Option.map_some]
      split <;> split <;> rfl

theorem onWritable_face (c : Clipboard) (fd : Nat) (writes : List Result) (hangup : Bool) :
    (c.onWritable fd writes hangup).face = c.face := by
  cases cached : c.cache with
  | none => simp [onWritable, cached]
  | some =>
    simp only [onWritable, cached]
    split
    · rfl
    · simp only [face, cached, Option.map_some]
      split <;> split <;> rfl

theorem sound_step (c : Clipboard) (e : ClipboardEvent) (sound : c.Sound) : (c.step e).Sound := by
  have streams := sound.toStreams
  cases e with
  | setSelection cl types => exact sound_setSelection sound cl types
  | clearSelection => exact sound_loseSelection sound .cleared
  | destroySource =>
    simp only [step]
    split
    · exact sound_loseSelection sound .cleared
    · exact sound
  | disconnect =>
    simp only [step]
    split
    · exact sound_loseSelection sound .gone
    · exact sound
  | idle reads slots => exact sound_install sound reads slots
  | ownerWrites i bytes =>
    apply sound.of_face
    · exact streams_changeEntry streams i (fun _ => rfl) (fun _ => rfl) (fun _ => rfl) fun _ before => before.write bytes
    · exact face_changeCache _ (fun _ => rfl) fun _ => rfl
  | ownerCloses i =>
    apply sound.of_face
    · exact streams_changeEntry streams i (fun _ => rfl) (fun _ => rfl) (fun _ => rfl) fun _ before => before.close
    · exact face_changeCache _ (fun _ => rfl) fun _ => rfl
  | readable i reads =>
    apply sound.of_face
    · exact streams_onReadable streams i reads
    · apply face_changeCache
      · intro sel
        unfold Selection.onReadable
        split <;> rfl
      · intro sel
        unfold Selection.onReadable
        split <;> rfl
  | receive mimeType writes watched =>
    simp only [step]
    split
    · rename_i seated
      have owned (sel : Selection) (cached : sel ∈ c.cache) : sel.owned = true := by
        obtain ⟨same, there, owned⟩ := sound.installed.mp seated
        obtain rfl : sel = same := Option.some.inj (cached.symm.trans there)
        exact owned
      exact sound.of_face (streams_sendSelection streams owned mimeType writes watched) (sendSelection_face _ _ _ _)
    · exact sound
  | writable fd writes hangup =>
    exact sound.of_face (streams_onWritable streams fd writes hangup) (onWritable_face _ _ _ _)

structure Follows (reader : Reader) (gained : Nat) (next : Reader) : Prop where
  stream : next.stream = reader.stream
  ended : reader.fate ≠ .waiting → next = reader
  grows : next.fate = .waiting → reader.received.length + gained ≤ next.received.length
  watched : next.fate = .unwatched → next = reader

theorem Follows.refl (rd : Reader) : Follows rd 0 rd :=
  ⟨rfl, fun _ => rfl, fun _ => Nat.le_refl _, fun _ => rfl⟩

section

variable (streams : c.Streams)

include streams

theorem Streams.waits {sel : Selection} (cached : c.cache = some sel) {writer : Writer}
    (mem : writer ∈ sel.writers) {rd : Reader} (found : c.readers[writer.fd]? = some rd) :
    rd.fate = .waiting := by
  obtain ⟨en, listed, serving⟩ := Selection.mem_writers.mp mem
  have here := (streams.served sel cached en listed writer serving).2
  rw [found] at here
  rw [Option.some.inj here]

theorem follows_destroySelection {fd : Nat} {rd : Reader} (found : c.readers[fd]? = some rd) :
    ∃ next, c.destroySelection.readers[fd]? = some next ∧ Follows rd 0 next := by
  cases cached : c.cache with
  | none =>
    rw [destroySelection_of_none cached]
    exact ⟨rd, found, .refl rd⟩
  | some sel =>
    simp only [destroySelection, cached, closeReaders_get, found, Option.map_some]
    refine ⟨_, rfl, ?_⟩
    split
    · rename_i served
      obtain ⟨writer, mem, rfl⟩ := List.mem_map.mp served
      have waiting := streams.waits cached mem found
      refine ⟨rfl, fun ended => absurd waiting ended, ?_, ?_⟩
      · intro still
        cases still
      · intro unwatched
        cases unwatched
    · exact .refl rd

theorem install_readers (reads : List (List Result)) (slots : Nat) : (c.install reads slots).readers = c.readers := by
  cases cached : c.cache with
  | none => simp [install, cached]
  | some sel =>
    have sound := streams.selection sel cached
    cases pending : sel.install with
    | false => simp [install, cached, pending]
    | true =>
      have free := sound.pending pending
      by_cases seated : c.seat = none
      · rw [install_pending cached pending seated, close_dropped sound free]
        split
        · -- what is not installed has no readers yet
          have nobody : (sel.finish reads slots).writers = [] :=
            writers_of_fresh ((finish_sound sound free reads slots false).fresh rfl)
          simp [destroySelection, nobody, closeReaders]
        · rfl
      · simp [install, cached, pending, seated]

end

theorem setSelection_readers (c : Clipboard) (cl : Nat) (types : List (String × Bool)) :
    (c.setSelection cl types).readers = c.destroySelection.readers := by
  simp only [setSelection, onSelectionTaken, leaveSeat]
  split
  · cases cached : c.cache <;> simp [destroySelection, cached]
  · cases cached : c.cache <;> simp [destroySelection, cached]

/-- What happens to the readers when none is admitted or served: nothing, or the end of
the copy. -/
def Ends (before after : Clipboard) : Prop :=
  after.readers = before.readers ∨ after.readers = before.destroySelection.readers

def serves : ClipboardEvent → Bool
  | .receive .. | .writable .. => true
  | _ => false

theorem loseSelection_ends (c : Clipboard) (holder : Holder) : Ends c (c.loseSelection holder) := by
  unfold loseSelection leaveSeat
  split
  · exact .inl rfl
  · split
    · exact .inr rfl
    · exact .inl rfl

theorem step_ends (streams : c.Streams) (e : ClipboardEvent) (quiet : serves e = false) : Ends c (c.step e) := by
  cases e with
  | setSelection cl types => exact .inr (setSelection_readers c cl types)
  | clearSelection => exact loseSelection_ends c .cleared
  | destroySource | disconnect =>
    simp only [step]
    split
    · exact loseSelection_ends c _
    · exact .inl rfl
  | idle reads slots => exact .inl (install_readers streams reads slots)
  | ownerWrites | ownerCloses | readable => exact .inl rfl
  | receive | writable => cases quiet

theorem follows_sendSelection (c : Clipboard) (mimeType : String) (writes : List Result) (watched : Bool)
    {fd : Nat} {rd : Reader} (found : c.readers[fd]? = some rd) :
    ∃ next, (c.sendSelection mimeType writes watched).readers[fd]? = some next ∧ Follows rd 0 next := by
  have kept (last : Reader) : (c.readers ++ [last])[fd]? = some rd := by
    rw [List.getElem?_append_left (List.getElem?_eq_some_iff.mp found).1]
    exact found
  refine ⟨rd, ?_, .refl rd⟩
  unfold sendSelection
  split
  · exact found
  · split
    · exact kept _
    · exact kept _

/-- The event lets the reader accept something. -/
def accepts (fd : Nat) : ClipboardEvent → Bool
  | .writable other (.bytes _ :: _) _ => other == fd
  | _ => false

def gain (fd : Nat) (event : ClipboardEvent) : Nat := if accepts fd event then 1 else 0

theorem gain_other {fd id' : Nat} (apart : id' ≠ fd) (writes : List Result) (hangup : Bool) :
    gain fd (.writable id' writes hangup) = 0 := by
  cases writes with
  | nil => rfl
  | cons result => cases result <;> simp [gain, accepts, apart]

theorem flushWriter_gain {data : List UInt8} {offset : Nat} (more : offset < data.length) (fd id' : Nat)
    (writes : List Result) (hangup : Bool) :
    offset + gain fd (.writable id' writes hangup) ≤ (flushWriter data offset writes).offset := by
  have grows := (flushWriter_continues (Nat.le_of_lt more) writes).grows
  cases writes with
  | nil => simpa [gain, accepts] using grows
  | cons result rest =>
    cases result with
    | bytes count =>
      have advances := flushWriter_advances more count rest
      have one : gain fd (.writable id' (.bytes count :: rest) hangup) ≤ 1 := by
        unfold gain
        split <;> omega
      omega
    | interrupted | error => simpa [gain, accepts] using grows

theorem follows_onWritable (streams : c.Streams) (id' : Nat) (writes : List Result) (hangup : Bool) {fd : Nat}
    {rd : Reader} (found : c.readers[fd]? = some rd) :
    ∃ next, (c.onWritable id' writes hangup).readers[fd]? = some next ∧
      Follows rd (gain fd (.writable id' writes hangup)) next := by
  -- A descriptor without writer has no waiting reader.
  have idle (none : ∀ sel ∈ c.cache, ∀ writer ∈ sel.writers, writer.fd ≠ id') :
      Follows rd (gain fd (.writable id' writes hangup)) rd := by
    refine ⟨rfl, fun _ => rfl, fun waiting => ?_, fun _ => rfl⟩
    obtain ⟨sel, cached, writer, mem, number⟩ := streams.waiting fd rd found waiting
    have apart : id' ≠ fd := number ▸ (none sel cached writer mem).symm
    rw [gain_other apart]
    exact Nat.le_refl _
  cases cached : c.cache with
  | none =>
    refine ⟨rd, ?_, idle (by simp [cached])⟩
    simpa [onWritable, cached] using found
  | some sel =>
    cases served : sel.writer? id' with
    | none =>
      refine ⟨rd, ?_, idle ?_⟩
      · simpa [onWritable, cached, served] using found
      · rintro same there
        obtain rfl : sel = same := Option.some.inj (cached.symm.trans there)
        exact writer?_eq_none served
    | some pair =>
      obtain ⟨en, writer⟩ := pair
      obtain ⟨listed, serving, rfl⟩ := writer?_eq_some served
      obtain ⟨more, here⟩ := streams.served sel cached en listed writer serving
      have continues := flushWriter_continues (Nat.le_of_lt more) writes
      simp only [onWritable, cached, served, List.getElem?_modify, found]
      refine ⟨_, rfl, ?_⟩
      split
      · rename_i same
        rw [same, found] at here
        obtain rfl := Option.some.inj here
        refine ⟨rfl, fun ended => absurd rfl ended, fun _ => ?_, fun unwatched => ?_⟩
        · have gains := flushWriter_gain more fd writer.fd writes hangup
          have within := continues.within
          simp only [continues.sent, List.length_take]
          omega
        · revert unwatched
          cases (flushWriter en.data writer.offset writes).ended <;> cases hangup <;> simp [Flush.fate]
      · rename_i apart
        rw [gain_other apart]
        exact .refl rd

theorem follows_step (sound : c.Sound) (e : ClipboardEvent) {fd : Nat} {rd : Reader}
    (found : c.readers[fd]? = some rd) :
    ∃ next, (c.step e).readers[fd]? = some next ∧ Follows rd (gain fd e) next := by
  have streams := sound.toStreams
  have quiet (none : serves e = false) : ∃ next, (c.step e).readers[fd]? = some next ∧ Follows rd 0 next := by
    rcases step_ends streams e none with same | ended
    · exact ⟨rd, by rw [same, found], .refl rd⟩
    · rw [ended]
      exact follows_destroySelection streams found
  cases e with
  | receive mimeType writes watched =>
    simp only [step]
    split
    · exact follows_sendSelection c mimeType writes watched found
    · exact ⟨rd, found, .refl rd⟩
  | writable id' writes hangup => exact follows_onWritable streams id' writes hangup found
  | _ => exact quiet rfl

theorem Streams.short (streams : c.Streams) {fd : Nat} {rd : Reader}
    (found : c.readers[fd]? = some rd) (waiting : rd.fate = .waiting) :
    rd.received.length < rd.stream.length := by
  obtain ⟨sel, cached, writer, mem, rfl⟩ := streams.waiting fd rd found waiting
  obtain ⟨en, listed, serving⟩ := Selection.mem_writers.mp mem
  obtain ⟨more, here⟩ := streams.served sel cached en listed writer serving
  rw [found] at here
  obtain rfl := Option.some.inj here
  simp only [List.length_take]
  omega

theorem run_served (sound : c.Sound) (events : List ClipboardEvent) {fd : Nat} {rd : Reader}
    (found : c.readers[fd]? = some rd)
    (enough : rd.fate = .waiting → rd.stream.length ≤ rd.received.length + events.countP (accepts fd)) :
    ∃ next, (Transition.run step c events).readers[fd]? = some next ∧ next.stream = rd.stream ∧
      next.fate ≠ .waiting := by
  induction events generalizing c rd with
  | nil =>
    refine ⟨rd, found, rfl, fun waiting => ?_⟩
    have short := sound.toStreams.short found waiting
    have all := enough waiting
    simp only [List.countP_nil] at all
    omega
  | cons e rest ih =>
    obtain ⟨next, there, follows⟩ := follows_step sound e found
    have later : next.fate = .waiting → next.stream.length ≤ next.received.length + rest.countP (accepts fd) := by
      intro waiting
      have before : rd.fate = .waiting := by
        by_contra ended
        rw [follows.ended ended] at waiting
        exact ended waiting
      have all := enough before
      have grows := follows.grows waiting
      rw [List.countP_cons] at all
      rw [follows.stream]
      unfold gain at grows
      omega
    obtain ⟨last, reached, stream, ended⟩ := ih (sound_step c e sound) there later
    exact ⟨last, reached, stream.trans follows.stream, ended⟩

theorem closeReaders_length (readers : List Reader) (writers : List Writer) :
    (closeReaders readers writers).length = readers.length := by
  induction writers generalizing readers with
  | nil => rfl
  | cons first rest ih =>
    have later := ih (readers.modify first.fd fun rd => { rd with fate := .replaced })
    rw [List.length_modify] at later
    exact later

section

variable (c : Clipboard)

theorem destroySelection_length : c.destroySelection.readers.length = c.readers.length := by
  unfold destroySelection
  split
  · rfl
  · exact closeReaders_length _ _

theorem onWritable_length (fd : Nat) (writes : List Result) (hangup : Bool) :
    (c.onWritable fd writes hangup).readers.length = c.readers.length := by
  unfold onWritable
  split
  · rfl
  · split
    · rfl
    · exact List.length_modify _ _ _

end

/-- The first calls of `write` for a reader of this type would not send everything. -/
def Blocks (clipboard : Clipboard) (mimeType : String) (writes : List Result) : Prop :=
  clipboard.seat = some .copy ∧ ∃ selection ∈ clipboard.cache, ∃ entry,
    selection.entries.find? (·.mimeType == mimeType) = some entry ∧ (flushWriter entry.data 0 writes).ended = .blocked

/-- The event loop watches the pipe of a reader who cannot be sent everything at once. -/
def watchSafe (clipboard : Clipboard) : ClipboardEvent → Prop
  | .receive mimeType writes watched => clipboard.Blocks mimeType writes → watched = true
  | _ => True

/-- A reader of the copy comes in addition to those there were, and it is not watched
exactly if there is something left to send and the event loop refuses. -/
theorem sendSelection_readers (sound : c.Sound) (seated : c.seat = some .copy) (mimeType : String)
    (writes : List Result) (watched : Bool) :
    ∃ last, (c.sendSelection mimeType writes watched).readers = c.readers ++ [last] ∧
      (last.fate = .unwatched ↔ c.Blocks mimeType writes ∧ watched = false) ∧
      (last.fate = .unwatched → last.received ≠ last.stream) := by
  obtain ⟨sel, cached, owned⟩ := sound.installed.mp seated
  have copy := sound.selection sel cached
  simp only [sendSelection, show c.cache = some sel from cached]
  cases found : sel.entries.find? (·.mimeType == mimeType) with
  | none =>
    refine ⟨_, rfl, iff_of_false ?_ ?_, ?_⟩
    · intro unwatched
      cases unwatched
    · rintro ⟨⟨_, same, there, en, listed, _⟩, _⟩
      obtain rfl : sel = same := Option.some.inj (cached.symm.trans there)
      rw [found] at listed
      cases listed
    · intro unwatched
      cases unwatched
  | some en =>
    have listed := List.mem_of_find?_eq_some found
    have complete := (copy.entries en listed).complete (copy.owned owned en listed)
    have continues := flushWriter_continues (Nat.zero_le en.data.length) writes
    have unwatched_iff : (flushWriter en.data 0 writes).ended.fate (if watched = true then .waiting else .unwatched) =
        .unwatched ↔ (flushWriter en.data 0 writes).ended = .blocked ∧ watched = false := by
      cases (flushWriter en.data 0 writes).ended <;> cases watched <;> simp [Flush.fate]
    refine ⟨_, rfl, ?_, ?_⟩
    · rw [unwatched_iff]
      constructor
      · rintro ⟨blocked, refused⟩
        exact ⟨⟨seated, sel, cached, en, found, blocked⟩, refused⟩
      · rintro ⟨⟨_, same, there, other, first, blocked⟩, refused⟩
        obtain rfl : sel = same := Option.some.inj (cached.symm.trans there)
        obtain rfl : en = other := Option.some.inj (found.symm.trans first)
        exact ⟨blocked, refused⟩
    · intro unwatched all
      have blocked := (unwatched_iff.mp unwatched).1
      have short : (flushWriter en.data 0 writes).offset ≠ en.data.length := by
        intro done
        rw [continues.ended.mpr done] at blocked
        cases blocked
      have sent : (flushWriter en.data 0 writes).sent = en.data.take (flushWriter en.data 0 writes).offset := by
        simpa using continues.sent
      have lengths := congrArg List.length all
      simp only [sent, ← complete.1, List.length_take] at lengths
      have within := continues.within
      omega

def Watched (clipboard : Clipboard) (fd : Nat) (reader : Reader) : Prop :=
  ∃ selection ∈ clipboard.cache, ∃ entry ∈ selection.entries, ∃ writer ∈ entry.writers,
    writer.fd = fd ∧ entry.data = reader.stream ∧ writer.offset = reader.received.length

/-- The reader has the beginning of the stream, and all of it unless it failed, or the
copy was destroyed, or the rest is on its way. -/
def Delivered (clipboard : Clipboard) (fd : Nat) (reader : Reader) : Prop :=
  reader.received <+: reader.stream ∧
    (reader.received = reader.stream ∨ reader.fate = .broken ∨ reader.fate = .replaced ∨
      reader.fate = .waiting ∧ clipboard.Watched fd reader)

structure Intact (clipboard : Clipboard) : Prop where
  kept : clipboard.seat = some .copy → ∃ selection ∈ clipboard.cache, ∀ entry ∈ selection.entries,
    entry.pipe.closed = true ∧ entry.data = entry.pipe.written
  bounded : ∀ selection ∈ clipboard.cache, selection.held ≤ kMaxSelectionSize
  newest : ∀ selection ∈ clipboard.cache, selection.copies = clipboard.selections
  delivered : ∀ fd reader, clipboard.readers[fd]? = some reader → clipboard.Delivered fd reader

/-- The copy does not take the seat from a selection. -/
def Yields (clipboard : Clipboard) (event : ClipboardEvent) : Prop :=
  (clipboard.step event).seat = some .copy → clipboard.seat = some .copy ∨ clipboard.seat = none

theorem yields (c : Clipboard) (e : ClipboardEvent) : c.Yields e := by
  intro copy
  cases e with
  | setSelection => simp [step, setSelection_seat] at copy
  | clearSelection => simp [step, loseSelection_seat] at copy
  | destroySource | disconnect =>
    simp only [step] at copy
    split at copy
    · simp [loseSelection_seat] at copy
    · exact .inl copy
  | idle reads slots =>
    simp only [step, install_seat] at copy
    split at copy
    · rename_i installed
      exact .inr installed.1
    · exact .inl copy
  | ownerWrites | ownerCloses | readable => exact .inl copy
  | receive mimeType writes watched =>
    simp only [step] at copy
    split at copy
    · rename_i seated
      exact .inl seated
    · exact .inl copy
  | writable => exact .inl (by simpa [step, onWritable_seat] using copy)

theorem Sound.delivered (sound : c.Sound) {fd : Nat} {rd : Reader} (found : c.readers[fd]? = some rd)
    (watched : rd.fate = .unwatched → rd.received = rd.stream) :
    c.Delivered fd rd := by
  have mem := List.mem_of_getElem? found
  refine ⟨sound.received rd mem, ?_⟩
  cases fate : rd.fate with
  | waiting =>
    obtain ⟨sel, cached, writer, serving, rfl⟩ := sound.waiting fd rd found fate
    obtain ⟨en, listed, serves⟩ := Selection.mem_writers.mp serving
    obtain ⟨more, here⟩ := sound.served sel cached en listed writer serves
    obtain rfl := Option.some.inj (found.symm.trans here)
    refine .inr (.inr (.inr ⟨rfl, sel, cached, en, listed, writer, serves, rfl, rfl, ?_⟩))
    simp only [List.length_take]
    omega
  | sent => exact .inl (sound.sent rd mem fate)
  | broken => exact .inr (.inl rfl)
  | unwatched => exact .inl (watched fate)
  | replaced => exact .inr (.inr (.inl rfl))

theorem Sound.intact (sound : c.Sound) (delivered : ∀ fd rd, c.readers[fd]? = some rd → c.Delivered fd rd) :
    c.Intact := by
  refine ⟨?_, ?_, sound.newest, delivered⟩
  · intro seated
    obtain ⟨sel, cached, owned⟩ := sound.installed.mp seated
    have copy := sound.selection sel cached
    refine ⟨sel, cached, fun en mem => ?_⟩
    have complete := (copy.entries en mem).complete (copy.owned owned en mem)
    exact ⟨complete.2, complete.1⟩
  · intro sel cached
    have copy := sound.selection sel cached
    exact Nat.le_trans copy.held copy.bounded

theorem unwatched_step (sound : c.Sound) {e : ClipboardEvent} (safe : c.watchSafe e) {fd : Nat}
    {rd : Reader} (found : (c.step e).readers[fd]? = some rd) (unwatched : rd.fate = .unwatched) :
    c.readers[fd]? = some rd := by
  have follows {before : Reader} (there : c.readers[fd]? = some before) : c.readers[fd]? = some rd := by
    obtain ⟨next, after, follow⟩ := follows_step sound e there
    obtain rfl : rd = next := Option.some.inj (found.symm.trans after)
    rw [follow.watched unwatched]
    exact there
  have old (length : (c.step e).readers.length = c.readers.length) : c.readers[fd]? = some rd := by
    have within := (List.getElem?_eq_some_iff.mp found).1
    exact follows (List.getElem?_eq_getElem (length ▸ within))
  have quiet (none : serves e = false) : (c.step e).readers.length = c.readers.length := by
    rcases step_ends sound.toStreams e none with same | ended
    · rw [same]
    · rw [ended, destroySelection_length]
  cases e with
  | receive mimeType writes watched =>
    by_cases seated : c.seat = some .copy
    · obtain ⟨last, readers, refused, _⟩ := sendSelection_readers sound seated mimeType writes watched
      simp only [step, if_pos seated, readers] at found
      rcases getElem?_append_one found with there | ⟨_, rfl⟩
      · exact there
      · obtain ⟨blocked, none⟩ := refused.mp unwatched
        exact absurd (safe blocked) (by simp [none])
    · simp only [step, if_neg seated] at found
      exact found
  | writable => exact old (onWritable_length _ _ _ _)
  | _ => exact old (quiet rfl)

theorem intact_step_iff (c : Clipboard) (e : ClipboardEvent) (sound : c.Sound) (intact : c.Intact) :
    (c.step e).Intact ∧ c.Yields e ↔ c.watchSafe e := by
  have next := sound_step c e sound
  constructor
  · rintro ⟨after, _⟩
    cases e with
    | receive mimeType writes watched =>
      intro blocks
      obtain ⟨last, readers, refused, short⟩ := sendSelection_readers sound blocks.1 mimeType writes watched
      by_contra none
      have unwatched := refused.mpr ⟨blocks, by simpa using none⟩
      have there : (c.step (.receive mimeType writes watched)).readers[c.readers.length]? = some last := by
        simp [step, blocks.1, readers]
      rcases (after.delivered _ last there).2 with all | broken | replaced | waiting
      · exact short unwatched all
      · simp [unwatched] at broken
      · simp [unwatched] at replaced
      · simp [unwatched] at waiting
    | _ => trivial
  · intro safe
    refine ⟨next.intact fun fd rd found => next.delivered found fun unwatched => ?_, yields c e⟩
    have there := unwatched_step sound safe found unwatched
    rcases (intact.delivered fd rd there).2 with all | broken | replaced | waiting
    · exact all
    · simp [unwatched] at broken
    · simp [unwatched] at replaced
    · simp [unwatched] at waiting

theorem intact_initial : initial.Intact :=
  sound_initial.intact fun fd rd found => by simp [initial] at found

/-- The types kept are what the owner wrote, no copy is too large, an older one never
replaces a newer selection, and every reader gets all of the stream unless it fails or
the copy is destroyed, exactly if the event loop watches the pipe of every reader who
cannot be sent everything at once. A watched reader does not wait for ever. -/
theorem intact_iff (events : List ClipboardEvent) :
    (Transition.Throughout step Intact initial events ∧ Transition.Along step Yields initial events ↔
        Transition.Along step watchSafe initial events) ∧
      ∀ later fd reader, (Transition.run step initial events).readers[fd]? = some reader →
        reader.stream.length ≤ reader.received.length + later.countP (accepts fd) →
        ∃ next, (Transition.run step (Transition.run step initial events) later).readers[fd]? = some next ∧
          next.stream = reader.stream ∧ next.fate ≠ .waiting := by
  constructor
  · exact Transition.throughout_along_iff sound_step intact_step_iff sound_initial intact_initial events
  · intro later fd reader found enough
    have sound : (Transition.run step initial events).Sound := Transition.run_invariant sound_step sound_initial events
    exact run_served sound later found fun _ => enough

/-- Whether or not pipes are watched, what a reader has received is the beginning of what
was copied, and a reader who waits has a writer that goes on at the right place. -/
theorem readers_served (events : List ClipboardEvent) :
    Transition.Throughout step (fun clipboard =>
      (∀ reader ∈ clipboard.readers, reader.received <+: reader.stream) ∧
      ∀ fd reader, clipboard.readers[fd]? = some reader → reader.fate = .waiting →
        ∃ selection ∈ clipboard.cache, ∃ entry ∈ selection.entries, ∃ writer ∈ entry.writers, writer.fd = fd ∧
          Serves clipboard.readers entry writer) initial events := by
  refine (Transition.throughout_invariant sound_step sound_initial events).mono fun clipboard sound => ?_
  refine ⟨sound.received, fun fd reader found waiting => ?_⟩
  obtain ⟨selection, cached, writer, mem, same⟩ := sound.waiting fd reader found waiting
  obtain ⟨entry, kept, held⟩ := List.mem_flatMap.mp mem
  exact ⟨selection, cached, entry, kept, writer, held, same, sound.served selection cached entry kept writer held⟩

/-- A text is kept after its owner went away. A reader asks for it with a pipe that is
full, and the event loop does not watch the pipe. -/
def refusedReader : List ClipboardEvent :=
  [.setSelection 1 [("text/plain", true)], .ownerWrites 0 [104, 105], .ownerCloses 0, .disconnect 1,
    .idle [[.bytes 99, .bytes 0]] 1, .receive "text/plain" [] false]

/-- The pipe of the reader is closed, who has received nothing of the two bytes. -/
theorem refusedReader_cut :
    (Transition.run step initial refusedReader).seat = some .copy ∧
      (Transition.run step initial refusedReader).readers = [⟨[104, 105], [], .unwatched⟩] ∧
      ¬ Transition.Throughout step Intact initial refusedReader := by
  have readers : (Transition.run step initial refusedReader).readers = [⟨[104, 105], [], .unwatched⟩] := by decide +kernel
  refine ⟨by decide +kernel, readers, fun visited => ?_⟩
  have last : (Transition.run step initial refusedReader).Intact := visited.last
  have cut := (last.delivered 0 _ (by rw [readers]; rfl)).2
  simp at cut

end FlakeWM.Input.Clipboard
