import FlakeWM.Input.Clipboard
import Mathlib.Algebra.Order.BigOperators.Group.List
import Mathlib.Algebra.Order.Ring.Nat

/-! What is read from the owner of a selection and what the readers of its copy get.

A type is kept only if it was read to the end of the pipe, so that the copy has all
the owner wrote. The offset of a writer counts what its reader has received; a reader
that is not served to the end has closed its pipe, or the copy was destroyed, or the
event loop would not watch the pipe. -/

set_option autoImplicit false

namespace FlakeWM.Input

open Selection

structure Flushed.Continues (data : List UInt8) (offset : Nat) (flushed : Flushed) : Prop where
  grows : offset ≤ flushed.offset
  within : flushed.offset ≤ data.length
  sent : data.take offset ++ flushed.sent = data.take flushed.offset
  ended : flushed.ended = .all ↔ flushed.offset = data.length

theorem take_append_chunk (data : List UInt8) (offset count : Nat) : data.take offset ++ (data.drop offset).take count =
      data.take (offset + ((data.drop offset).take count).length) := by
  rw [← List.take_add, List.length_take, List.length_drop]
  rcases Nat.le_total count (data.length - offset) with less | more
  · rw [Nat.min_eq_left less]
  · rw [Nat.min_eq_right more, List.take_of_length_le (by omega), List.take_of_length_le (by omega)]

variable {data : List UInt8} {offset : Nat} {entries : List Entry} {readers : List Reader} {c : Clipboard}
  {selection : Selection} {fd : Nat} {entry : Entry} {writer : Writer}

theorem chunk_size (within : offset ≤ data.length) (count : Nat) :
    ((data.drop offset).take count).length = min count (data.length - offset) ∧
      offset + ((data.drop offset).take count).length ≤ data.length := by
  rw [List.length_take, List.length_drop]
  omega

theorem flushWriter_done (done : ¬ offset < data.length) (results : List Result) :
    flushWriter data offset results = ⟨offset, [], .all⟩ := by
  cases results with
  | nil => rw [flushWriter, if_neg done]
  | cons result => cases result <;> rw [flushWriter, if_neg done]

theorem flushWriter_continues (within : offset ≤ data.length) (results : List Result) :
    (flushWriter data offset results).Continues data offset := by
  induction results generalizing offset with
  | nil =>
    refine ⟨Nat.le_refl _, within, List.append_nil _, ?_⟩
    simp only [flushWriter]
    split <;> simp <;> omega
  | cons result rest ih =>
    by_cases more : offset < data.length
    · cases result with
      | bytes count =>
        rw [flushWriter, if_pos more]
        obtain ⟨grows, within, sent, ended⟩ := ih (chunk_size within (count + 1)).2
        refine ⟨Nat.le_trans (Nat.le_add_right _ _) grows, within, ?_, ended⟩
        rw [← sent, ← take_append_chunk data offset (count + 1), List.append_assoc]
      | interrupted =>
        rw [flushWriter, if_pos more]
        exact ih within
      | error =>
        rw [flushWriter, if_pos more]
        refine ⟨Nat.le_refl _, within, List.append_nil _, ?_⟩
        simp
        omega
    · rw [flushWriter_done more]
      refine ⟨Nat.le_refl _, within, List.append_nil _, ?_⟩
      simp
      omega

theorem flushWriter_advances (more : offset < data.length) (count : Nat) (rest : List Result) :
    offset < (flushWriter data offset (.bytes count :: rest)).offset := by
  rw [flushWriter, if_pos more]
  have ⟨size, fits⟩ := chunk_size more.le (count + 1)
  have grows := (flushWriter_continues fits rest).grows
  dsimp only
  omega

structure Entry.Sound (entry : Entry) : Prop where
  read : entry.data <+: entry.pipe.written
  complete : entry.complete = true → entry.data = entry.pipe.written ∧ entry.pipe.closed = true
  ended : entry.complete = true → entry.reading = false

structure Drained (before after : Entry × Nat) : Prop where
  pipe : after.1.pipe = before.1.pipe
  writers : after.1.writers = before.1.writers
  sound : before.1.Sound → after.1.Sound
  size : after.1.data.length + before.2 = before.1.data.length + after.2
  bounded : before.2 ≤ kMaxSelectionSize → after.2 ≤ kMaxSelectionSize

theorem Entry.Sound.append (sound : entry.Sound) (reading : entry.reading = true) (count : Nat) :
    { entry with data := entry.data ++ entry.pipe.next entry.data.length count }.Sound := by
  have open_ : entry.complete ≠ true := fun complete => by simp [sound.ended complete] at reading
  refine ⟨?_, fun complete => absurd complete open_, fun complete => absurd complete open_⟩
  show entry.data ++ entry.pipe.next entry.data.length count <+: entry.pipe.written
  have first := List.prefix_iff_eq_take.mp sound.read
  unfold Pipe.next
  rw [List.prefix_iff_eq_take, List.length_append, ← take_append_chunk, ← first]

theorem Entry.Sound.write (sound : entry.Sound) (bytes : List UInt8) :
    { entry with pipe := entry.pipe.write bytes }.Sound := by
  cases closed : entry.pipe.closed with
  | true =>
    have same : entry.pipe.write bytes = entry.pipe := by simp [Pipe.write, closed]
    rw [same]
    exact sound
  | false =>
    have open_ : entry.complete ≠ true := fun complete => by simp [(sound.complete complete).2] at closed
    refine ⟨?_, fun complete => absurd complete open_, sound.ended⟩
    simp only [Pipe.write, closed, Bool.false_eq_true, if_false]
    exact sound.read.trans (List.prefix_append _ _)

theorem Entry.Sound.close (sound : entry.Sound) : { entry with pipe := { entry.pipe with closed := true } }.Sound :=
  ⟨sound.read, fun complete => ⟨(sound.complete complete).1, rfl⟩, sound.ended⟩

theorem Entry.Sound.eq_written (sound : entry.Sound) {count : Nat}
    (empty : entry.pipe.next entry.data.length count = []) : entry.data = entry.pipe.written := by
  have first := List.prefix_iff_eq_take.mp sound.read
  have size : 0 < min (count + 1) chunkSize := by
    unfold chunkSize
    omega
  have nothing : entry.pipe.written.length ≤ entry.data.length := by
    have length := congrArg List.length empty
    simp only [Pipe.next, List.length_take, List.length_drop, List.length_nil] at length
    omega
  rw [first, List.take_of_length_le nothing]

theorem drain_ended (ended : entry.reading = false) (total : Nat) (results : List Result) :
    drain entry total results = (entry, total) := by
  cases results with
  | nil => rfl
  | cons result => cases result <;> rw [drain, if_neg (by simp [ended])]

theorem Drained.refl (en : Entry) (total : Nat) : Drained (en, total) (en, total) :=
  ⟨rfl, rfl, id, rfl, id⟩

theorem drain_drained (en : Entry) (total : Nat) (results : List Result) :
    Drained (en, total) (drain en total results) := by
  induction results generalizing en total with
  | nil => exact .refl en total
  | cons result rest ih =>
    cases reading : en.reading with
    | false =>
      rw [drain_ended reading]
      exact .refl en total
    | true =>
      cases result with
      | bytes count =>
        rw [drain, if_pos reading]
        simp only
        split
        · rename_i empty
          split
          · rename_i closed
            exact ⟨rfl, rfl, fun sound => ⟨sound.read, fun _ => ⟨sound.eq_written empty, closed⟩, fun _ => rfl⟩, rfl, id⟩
          · exact .refl en total
        · split
          · exact ⟨rfl, rfl, fun sound => ⟨sound.read, sound.complete, fun _ => rfl⟩, rfl, id⟩
          · rename_i fits
            obtain ⟨pipe, writers, sound, size, bounded⟩ :=
              ih { en with data := en.data ++ en.pipe.next en.data.length count }
                (total + (en.pipe.next en.data.length count).length)
            refine ⟨pipe, writers, fun before => sound (before.append reading count), ?_, fun _ => bounded ?_⟩
            · simp only [List.length_append] at size
              simp only
              omega
            · simpa using fits
      | interrupted =>
        rw [drain, if_pos reading]
        exact ih en total
      | error =>
        rw [drain, if_pos reading]
        exact ⟨rfl, rfl, fun sound => ⟨sound.read, (fun complete => nomatch complete), fun _ => rfl⟩, rfl, id⟩

namespace Selection

def held (selection : Selection) : Nat := (selection.entries.map (·.data.length)).sum

structure Sound (selection : Selection) : Prop where
  entries : ∀ entry ∈ selection.entries, entry.Sound
  held : selection.held ≤ selection.total
  bounded : selection.total ≤ kMaxSelectionSize
  owned : selection.owned = true → ∀ entry ∈ selection.entries, entry.complete = true
  fresh : selection.owned = false → ∀ entry ∈ selection.entries, entry.writers = []
  pending : selection.install = true → selection.owned = false

end Selection

theorem mem_drainEach {total : Nat} {reads : List (List Result)} {en : Entry}
    (mem : en ∈ (drainEach entries total reads).1) :
    ∃ before ∈ entries, ∃ total results, en = (drain before total results).1 := by
  induction entries generalizing total reads with
  | nil => simp [drainEach] at mem
  | cons first rest ih =>
    rw [drainEach, List.mem_cons] at mem
    rcases mem with rfl | later
    · exact ⟨first, .head _, total, reads.headD [], rfl⟩
    · obtain ⟨before, listed, drained⟩ := ih later
      exact ⟨before, .tail _ listed, drained⟩

theorem drainEach_sound (total : Nat) (reads : List (List Result)) (sound : ∀ entry ∈ entries, entry.Sound) :
    ∀ entry ∈ (drainEach entries total reads).1, entry.Sound := by
  intro entry mem
  obtain ⟨before, listed, total, results, rfl⟩ := mem_drainEach mem
  exact (drain_drained before total results).sound (sound before listed)

theorem drainEach_writers (total : Nat) (reads : List (List Result)) (fresh : ∀ entry ∈ entries, entry.writers = []) :
    ∀ entry ∈ (drainEach entries total reads).1, entry.writers = [] := by
  intro entry mem
  obtain ⟨before, listed, total, results, rfl⟩ := mem_drainEach mem
  rw [(drain_drained before total results).writers]
  exact fresh before listed

theorem drainEach_size (entries : List Entry) (total : Nat) (reads : List (List Result)) :
    ((drainEach entries total reads).1.map (·.data.length)).sum + total =
        (entries.map (·.data.length)).sum + (drainEach entries total reads).2 ∧
      (total ≤ kMaxSelectionSize → (drainEach entries total reads).2 ≤ kMaxSelectionSize) := by
  induction entries generalizing total reads with
  | nil => exact ⟨rfl, id⟩
  | cons first rest ih =>
    have drained := drain_drained first total (reads.headD [])
    obtain ⟨size, bounded⟩ := ih (drain first total (reads.headD [])).2 reads.tail
    have here := drained.size
    simp only [drainEach, List.map_cons, List.sum_cons]
    refine ⟨?_, fun fits => bounded (drained.bounded fits)⟩
    simp only at here
    omega

theorem sum_map_set {α : Type} (size : α → Nat) {items : List α} {i : Nat} {item : α}
    (found : items[i]? = some item) (other : α) :
    ((items.set i other).map size).sum + size item = (items.map size).sum + size other := by
  induction items generalizing i with
  | nil => simp at found
  | cons first rest ih =>
    cases i with
    | zero =>
      obtain rfl : first = item := by simpa using found
      simp only [List.set_cons_zero, List.map_cons, List.sum_cons]
      omega
    | succ i =>
      have later := ih (by simpa using found)
      simp only [List.set_cons_succ, List.map_cons, List.sum_cons]
      omega

namespace Clipboard

def Serves (readers : List Reader) (entry : Entry) (writer : Writer) : Prop :=
  writer.offset < entry.data.length ∧
    readers[writer.fd]? = some ⟨entry.data, entry.data.take writer.offset, .waiting⟩

structure Streams (clipboard : Clipboard) : Prop where
  selection : ∀ selection ∈ clipboard.cache, selection.Sound
  served : ∀ selection ∈ clipboard.cache, ∀ entry ∈ selection.entries, ∀ writer ∈ entry.writers,
    Serves clipboard.readers entry writer
  waiting : ∀ fd reader, clipboard.readers[fd]? = some reader → reader.fate = .waiting →
    ∃ selection ∈ clipboard.cache, ∃ writer ∈ selection.writers, writer.fd = fd
  received : ∀ reader ∈ clipboard.readers, reader.received <+: reader.stream
  sent : ∀ reader ∈ clipboard.readers, reader.fate = .sent → reader.received = reader.stream

theorem closeReaders_get (readers : List Reader) (writers : List Writer) (fd : Nat) :
    (closeReaders readers writers)[fd]? = readers[fd]?.map fun rd =>
      if fd ∈ writers.map (·.fd) then { rd with fate := .replaced } else rd := by
  induction writers generalizing readers with
  | nil => simp [closeReaders]
  | cons first rest ih =>
    have later := ih (readers.modify first.fd fun rd => { rd with fate := .replaced })
    rw [closeReaders, List.foldl_cons]
    rw [closeReaders] at later
    rw [later, List.getElem?_modify]
    by_cases here : first.fd = fd
    · cases readers[fd]? <;> simp [here]
    · have apart : fd ≠ first.fd := Ne.symm here
      cases readers[fd]? <;> simp [here, apart]

theorem streams_destroySelection (streams : c.Streams) : c.destroySelection.Streams := by
  cases empty : c.cache with
  | none =>
    rw [destroySelection_of_none empty]
    exact streams
  | some selection =>
    have readers : c.destroySelection.readers = closeReaders c.readers selection.writers := by
      simp [destroySelection, empty]
    have old (rd : Reader) (mem : rd ∈ c.destroySelection.readers) :
        rd ∈ c.readers ∨ ∃ before ∈ c.readers, rd = { before with fate := .replaced } := by
      obtain ⟨fd, listed⟩ := List.mem_iff_getElem?.mp mem
      rw [readers, closeReaders_get, Option.map_eq_some_iff] at listed
      obtain ⟨before, found, rfl⟩ := listed
      have mem := List.mem_of_getElem? found
      split
      · exact .inr ⟨before, mem, rfl⟩
      · exact .inl mem
    refine ⟨by simp, by simp, ?_, ?_, ?_⟩
    · intro fd rd found waiting
      rw [readers, closeReaders_get, Option.map_eq_some_iff] at found
      obtain ⟨before, found, rfl⟩ := found
      split at waiting
      · cases waiting
      · rename_i free
        obtain ⟨same, cached, writer, mem, rfl⟩ := streams.waiting fd before found waiting
        obtain rfl : selection = same := Option.some.inj (empty.symm.trans cached)
        exact absurd (List.mem_map_of_mem mem) free
    · intro rd mem
      rcases old rd mem with same | ⟨before, same, rfl⟩
      · exact streams.received rd same
      · exact streams.received before same
    · intro rd mem sent
      rcases old rd mem with same | ⟨before, same, rfl⟩
      · exact streams.sent rd same sent
      · cases sent

theorem Streams.change (streams : c.Streams) {sel next : Selection} (cached : c.cache = some sel) (sound : next.Sound)
    (data : ∀ entry ∈ next.entries, ∀ writer ∈ entry.writers,
      ∃ same ∈ sel.entries, same.data = entry.data ∧ writer ∈ same.writers)
    (writers : next.writers = sel.writers) : { c with cache := some next }.Streams := by
  refine ⟨?_, ?_, ?_, streams.received, streams.sent⟩
  · rintro _ ⟨⟩
    exact sound
  · rintro _ ⟨⟩ entry mem writer serving
    obtain ⟨same, listed, equal, old⟩ := data entry mem writer serving
    have serves := streams.served sel cached same listed writer old
    rw [Serves, equal] at serves
    exact serves
  · intro fd rd found waiting
    obtain ⟨same, there, writer, mem, number⟩ := streams.waiting fd rd found waiting
    obtain rfl : sel = same := Option.some.inj (cached.symm.trans there)
    exact ⟨next, rfl, writer, writers ▸ mem, number⟩

theorem writers_of_fresh (fresh : ∀ entry ∈ entries, entry.writers = []) : entries.flatMap (·.writers) = [] :=
  List.flatMap_eq_nil_iff.mpr fresh

theorem createSelection_sound {copies : Nat} {types : List (String × Bool)} {sel : Selection}
    (created : createSelection copies types = some sel) :
    sel.Sound ∧ sel.copies = copies ∧ sel.owned = false := by
  simp only [createSelection] at created
  split at created
  · cases created
  · obtain rfl := Option.some.inj created
    have opened : ∀ entry ∈ types.filterMap (fun type =>
        if type.1 ∈ kIgnoredMimeTypes then none else if type.2 then some (Entry.opened type.1) else none),
        ∃ mimeType, entry = Entry.opened mimeType := by
      intro entry mem
      obtain ⟨type, _, chosen⟩ := List.mem_filterMap.mp mem
      split at chosen
      · cases chosen
      · split at chosen
        · exact ⟨type.1, (Option.some.inj chosen).symm⟩
        · cases chosen
    refine ⟨⟨?_, ?_, Nat.zero_le _, (fun owned => nomatch owned), ?_, (fun pending => nomatch pending)⟩, rfl, rfl⟩
    · intro entry mem
      obtain ⟨mimeType, rfl⟩ := opened entry mem
      exact ⟨List.nil_prefix, (fun complete => nomatch complete), fun complete => nomatch complete⟩
    · rw [held, List.sum_eq_zero]
      intro size mem
      obtain ⟨entry, listed, rfl⟩ := List.mem_map.mp mem
      obtain ⟨mimeType, rfl⟩ := opened entry listed
      rfl
    · intro _ entry mem
      obtain ⟨mimeType, rfl⟩ := opened entry mem
      rfl

/-- What `Install` makes of a copy that is not installed is as it should be, installed or
not. -/
theorem finish_sound (sound : selection.Sound) (free : selection.owned = false) (reads : List (List Result))
    (slots : Nat) (owned : Bool) :
    { selection.finish reads slots with owned := owned }.Sound := by
  have drained := drainEach_size selection.entries selection.total reads
  have fresh := drainEach_writers selection.total reads (sound.fresh free)
  refine ⟨?_, ?_, drained.2 sound.bounded, ?_, ?_, (fun pending => nomatch pending)⟩
  · intro entry mem
    exact drainEach_sound selection.total reads sound.entries entry (List.mem_of_mem_filter mem)
  · have less : ((selection.finish reads slots).entries.map (·.data.length)).sum ≤
        ((drainEach selection.entries selection.total reads).1.map (·.data.length)).sum :=
      (List.filter_sublist.map _).sum_le_sum (fun size _ => Nat.zero_le size)
    have before := sound.held
    have same := drained.1
    show ((selection.finish reads slots).entries.map (·.data.length)).sum ≤
      (drainEach selection.entries selection.total reads).2
    rw [held] at before
    omega
  · intro _ entry mem
    have kept := (List.mem_filter.mp mem).2
    simp only [Entry.keep, Bool.and_eq_true] at kept
    exact kept.1.1
  · intro _ entry mem
    exact fresh entry (List.mem_of_mem_filter mem)

theorem close_dropped (sound : selection.Sound) (free : selection.owned = false) (readers : List Reader)
    (reads : List (List Result)) : closeReaders readers (selection.dropped reads) = readers := by
  have none : selection.dropped reads = [] :=
    writers_of_fresh fun entry mem =>
      drainEach_writers selection.total reads (sound.fresh free) entry (List.mem_of_mem_filter mem)
  rw [none]
  rfl

theorem streams_finish (streams : c.Streams) {sel : Selection} (cached : c.cache = some sel)
    (free : sel.owned = false) (reads : List (List Result)) (slots : Nat) (owned : Bool) :
    { c with cache := some { sel.finish reads slots with owned := owned } }.Streams := by
  have sound := streams.selection sel cached
  have kept (entry : Entry) (mem : entry ∈ (sel.finish reads slots).entries) : entry.writers = [] :=
    drainEach_writers sel.total reads (sound.fresh free) entry (List.mem_of_mem_filter mem)
  apply streams.change cached (finish_sound sound free reads slots owned)
  · intro entry mem writer serving
    rw [kept entry mem] at serving
    cases serving
  · exact (writers_of_fresh kept).trans (writers_of_fresh (sound.fresh free)).symm

theorem streams_install (streams : c.Streams) (reads : List (List Result)) (slots : Nat) :
    (c.install reads slots).Streams := by
  cases cached : c.cache with
  | none => simpa [install, cached] using streams
  | some selection =>
    have sound := streams.selection selection cached
    cases pending : selection.install with
    | false => simpa [install, cached, pending] using streams
    | true =>
      have free := sound.pending pending
      by_cases seated : c.seat = none
      · rw [install_pending cached pending seated, close_dropped sound free]
        split
        · exact streams_destroySelection (streams_finish streams cached free reads slots _)
        · have all := streams_finish streams cached free reads slots true
          exact ⟨all.selection, all.served, all.waiting, all.received, all.sent⟩
      · simp only [install, cached, pending, seated, Bool.not_true, Bool.false_eq_true, if_false, ne_eq,
          not_false_eq_true, if_true]
        have quiet : { selection with install := false }.Sound := by
          refine ⟨sound.entries, sound.held, sound.bounded, sound.owned, sound.fresh, ?_⟩
          intro later
          cases later
        exact streams.change cached quiet (fun entry mem writer serving => ⟨entry, mem, rfl, serving⟩) rfl

end Clipboard

theorem fate_eq_waiting {blocked : Fate} {ended : Flush} (waiting : ended.fate blocked = .waiting) : ended = .blocked := by
  cases ended <;> simp [Flush.fate] at waiting ⊢

theorem fate_eq_sent {blocked : Fate} (apart : blocked ≠ .sent) {ended : Flush} (sent : ended.fate blocked = .sent) :
    ended = .all := by
  cases ended <;> simp [Flush.fate, apart] at sent ⊢

/-- What a reader has after a call of `FlushWriter`, of whatever fate. -/
theorem Flushed.Continues.reader {flushed : Flushed} (continues : flushed.Continues data offset) {blocked : Fate}
    (apart : blocked ≠ .sent) :
    (data.take flushed.offset <+: data) ∧ (flushed.ended.fate blocked = .sent → data.take flushed.offset = data) ∧
      (flushed.ended.fate blocked = .waiting → flushed.offset < data.length) := by
  refine ⟨List.take_prefix _ _, ?_, ?_⟩
  · intro sent
    rw [continues.ended.mp (fate_eq_sent apart sent), List.take_length]
  · intro waiting
    have more : flushed.ended ≠ .all := by simp [fate_eq_waiting waiting]
    have within := continues.within
    have short : flushed.offset ≠ data.length := fun all => more (continues.ended.mpr all)
    omega

theorem Selection.mem_writers : writer ∈ selection.writers ↔ ∃ entry ∈ selection.entries, writer ∈ entry.writers :=
  List.mem_flatMap

theorem addWriter_split {mimeType : String} {en : Entry}
    (found : selection.entries.find? (·.mimeType == mimeType) = some en) (writer : Writer) :
    ∃ before after, selection.entries = before ++ en :: after ∧ (selection.addWriter mimeType writer).entries =
        before ++ { en with writers := en.writers ++ [writer] } :: after := by
  rcases FirstMatch.cases_find? (fun en : Entry => en.mimeType == mimeType) selection.entries with
    none | ⟨before, same, after, split, others, matched, first⟩
  · rw [none] at found
    cases found
  · obtain rfl : same = en := Option.some.inj (first.symm.trans found)
    refine ⟨before, after, split, ?_⟩
    rw [addWriter, split]
    exact FirstMatch.update_split others matched

theorem addWriter_sound (sound : selection.Sound) (owned : selection.owned = true) {mimeType : String} {en : Entry}
    (found : selection.entries.find? (·.mimeType == mimeType) = some en) (writer : Writer) :
    (selection.addWriter mimeType writer).Sound := by
  obtain ⟨before, after, split, added⟩ := addWriter_split found writer
  have old (other : Entry) (mem : other ∈ (selection.addWriter mimeType writer).entries) :
      other ∈ selection.entries ∨ other = { en with writers := en.writers ++ [writer] } := by
    rw [added] at mem
    rw [split]
    simp only [List.mem_append, List.mem_cons] at mem ⊢
    tauto
  have listed := List.mem_of_find?_eq_some found
  refine ⟨?_, ?_, sound.bounded, ?_, ?_, sound.pending⟩
  · intro other mem
    rcases old other mem with same | rfl
    · exact sound.entries other same
    · exact ⟨(sound.entries en listed).read, (sound.entries en listed).complete, (sound.entries en listed).ended⟩
  · have held := sound.held
    rw [Selection.held, split] at held
    rw [Selection.held, added]
    show _ ≤ selection.total
    simpa using held
  · intro _ other mem
    rcases old other mem with same | rfl
    · exact sound.owned owned other same
    · exact sound.owned owned en listed
  · intro free
    exact absurd (owned.symm.trans free) (by decide)

namespace Clipboard

theorem Serves.append (serves : Serves readers entry writer) (rd : Reader) : Serves (readers ++ [rd]) entry writer := by
  refine ⟨serves.1, ?_⟩
  rw [List.getElem?_append_left (List.getElem?_eq_some_iff.mp serves.2).1]
  exact serves.2

theorem getElem?_append_one {last rd : Reader} {fd : Nat} (found : (readers ++ [last])[fd]? = some rd) :
    readers[fd]? = some rd ∨ fd = readers.length ∧ rd = last := by
  rcases Nat.lt_trichotomy fd readers.length with less | rfl | more
  · rw [List.getElem?_append_left less] at found
    exact .inl found
  · rw [List.getElem?_concat_length] at found
    exact .inr ⟨rfl, (Option.some.inj found).symm⟩
  · rw [List.getElem?_eq_none (by simp; omega)] at found
    cases found

theorem Streams.admit (streams : c.Streams) {rd : Reader} (ended : rd.fate ≠ .waiting)
    (received : rd.received <+: rd.stream) (sent : rd.fate = .sent → rd.received = rd.stream) :
    { c with readers := c.readers ++ [rd] }.Streams := by
  refine ⟨streams.selection, ?_, ?_, ?_, ?_⟩
  · intro selection cached entry mem writer serving
    exact (streams.served selection cached entry mem writer serving).append rd
  · intro fd other found waiting
    rcases getElem?_append_one found with old | ⟨_, rfl⟩
    · exact streams.waiting fd other old waiting
    · exact absurd waiting ended
  · intro other mem
    rcases List.mem_append.mp mem with old | new
    · exact streams.received other old
    · rw [List.mem_singleton.mp new]
      exact received
  · intro other mem
    rcases List.mem_append.mp mem with old | new
    · exact streams.sent other old
    · rw [List.mem_singleton.mp new]
      exact sent

theorem Streams.watch (streams : c.Streams) {sel : Selection} (cached : c.cache = some sel)
    (owned : sel.owned = true) {mimeType : String} {en : Entry}
    (found : sel.entries.find? (·.mimeType == mimeType) = some en) {offset : Nat}
    (more : offset < en.data.length) :
    Streams { c with
      cache := some (sel.addWriter mimeType ⟨c.readers.length, offset⟩)
      readers := c.readers ++ [⟨en.data, en.data.take offset, .waiting⟩] } := by
  let rd : Reader := ⟨en.data, en.data.take offset, .waiting⟩
  let added : Writer := ⟨c.readers.length, offset⟩
  obtain ⟨before, after, split, entries⟩ := addWriter_split found added
  have listed := List.mem_of_find?_eq_some found
  have old {other : Entry} (mem : other ∈ sel.entries) {writer : Writer} (serving : writer ∈ other.writers) :
      Serves (c.readers ++ [rd]) other writer :=
    (streams.served sel cached other mem writer serving).append rd
  refine ⟨?_, ?_, ?_, ?_, ?_⟩
  · rintro _ ⟨⟩
    exact addWriter_sound (streams.selection sel cached) owned found _
  · rintro _ ⟨⟩ other mem writer serving
    rw [entries] at mem
    rcases List.mem_append.mp mem with first | later
    · exact old (split ▸ List.mem_append_left _ first) serving
    · rcases List.mem_cons.mp later with rfl | last
      · rcases List.mem_append.mp serving with earlier | new
        · exact old listed earlier
        · rw [List.mem_singleton.mp new]
          exact ⟨more, List.getElem?_concat_length⟩
      · exact old (split ▸ List.mem_append_right _ (.tail _ last)) serving
  · intro fd other there waiting
    refine ⟨_, rfl, ?_⟩
    rcases getElem?_append_one there with earlier | ⟨rfl, rfl⟩
    · obtain ⟨same, present, writer, mem, number⟩ := streams.waiting fd other earlier waiting
      obtain rfl : sel = same := Option.some.inj (cached.symm.trans present)
      refine ⟨writer, ?_, number⟩
      rw [writers, entries]
      rw [writers, split] at mem
      simp only [List.flatMap_append, List.flatMap_cons, List.mem_append] at mem ⊢
      tauto
    · refine ⟨added, ?_, rfl⟩
      rw [writers, entries]
      simp
  · intro other mem
    rcases List.mem_append.mp mem with earlier | new
    · exact streams.received other earlier
    · rw [List.mem_singleton.mp new]
      exact List.take_prefix _ _
  · intro other mem
    rcases List.mem_append.mp mem with earlier | new
    · exact streams.sent other earlier
    · rw [List.mem_singleton.mp new]
      exact fun sent => nomatch sent

theorem streams_sendSelection (streams : c.Streams)
    (owned : ∀ selection ∈ c.cache, selection.owned = true) (mimeType : String) (writes : List Result)
    (watched : Bool) : (c.sendSelection mimeType writes watched).Streams := by
  cases cached : c.cache with
  | none => simpa [sendSelection, cached] using streams
  | some selection =>
    have sound := streams.selection selection cached
    have installed := owned selection cached
    cases found : selection.entries.find? (·.mimeType == mimeType) with
    | none =>
      simp only [sendSelection, cached, found]
      rw [← cached]
      exact streams.admit (by decide) List.nil_prefix fun _ => rfl
    | some entry =>
      have listed := List.mem_of_find?_eq_some found
      have complete := (sound.entries entry listed).complete (sound.owned installed entry listed)
      have continues := flushWriter_continues (Nat.zero_le entry.data.length) writes
      have sent : (flushWriter entry.data 0 writes).sent = entry.data.take (flushWriter entry.data 0 writes).offset := by
        simpa using continues.sent
      have apart : (if watched = true then Fate.waiting else .unwatched) ≠ .sent := by split <;> decide
      obtain ⟨first, all, more⟩ := continues.reader apart
      simp only [sendSelection, cached, found, ← complete.1, sent]
      generalize (flushWriter entry.data 0 writes).ended.fate (if watched = true then .waiting else .unwatched) = fate
        at all more ⊢
      -- A writer stays only for a reader who is watched and has more to get.
      by_cases waiting : fate = .waiting
      · rw [if_pos waiting, waiting]
        exact streams.watch cached installed found (more waiting)
      · rw [if_neg waiting, ← cached]
        exact streams.admit waiting first all

end Clipboard

theorem writer?_eq_some (found : selection.writer? fd = some (entry, writer)) :
    entry ∈ selection.entries ∧ writer ∈ entry.writers ∧ writer.fd = fd := by
  obtain ⟨same, listed, there⟩ := List.exists_of_findSome?_eq_some found
  obtain ⟨serving, first, pair⟩ := Option.map_eq_some_iff.mp there
  obtain ⟨rfl, rfl⟩ := Prod.mk.inj pair
  exact ⟨listed, List.mem_of_find?_eq_some first, by simpa using List.find?_some first⟩

theorem writer?_eq_none (none : selection.writer? fd = none) : ∀ writer ∈ selection.writers, writer.fd ≠ fd := by
  intro writer mem
  obtain ⟨entry, listed, serving⟩ := mem_writers.mp mem
  have here := List.findSome?_eq_none_iff.mp none entry listed
  rw [Option.map_eq_none_iff] at here
  simpa using List.find?_eq_none.mp here writer serving

theorem Selection.Sound.rewrite (sound : selection.Sound) (change : List Writer → List Writer) (empty : change [] = []) :
    Sound { selection with
      entries := selection.entries.map fun entry => { entry with writers := change entry.writers } } := by
  refine ⟨?_, ?_, sound.bounded, ?_, ?_, sound.pending⟩
  · intro entry mem
    obtain ⟨before, listed, rfl⟩ := List.mem_map.mp mem
    have old := sound.entries before listed
    exact ⟨old.read, old.complete, old.ended⟩
  · have held := sound.held
    rw [Selection.held] at held ⊢
    simpa [Function.comp_def] using held
  · intro owned entry mem
    obtain ⟨before, listed, rfl⟩ := List.mem_map.mp mem
    exact sound.owned owned before listed
  · intro free entry mem
    obtain ⟨before, listed, rfl⟩ := List.mem_map.mp mem
    show change before.writers = []
    rw [sound.fresh free before listed, empty]

theorem Selection.mem_writers_rewrite (listed : entry ∈ selection.entries) {change : List Writer → List Writer}
    {writer : Writer} (mem : writer ∈ change entry.writers) :
    writer ∈ writers { selection with
      entries := selection.entries.map fun entry => { entry with writers := change entry.writers } } :=
  mem_writers.mpr ⟨_, List.mem_map_of_mem listed, mem⟩

namespace Clipboard

theorem Serves.modify_other (serves : Serves readers entry writer) {fd : Nat} (apart : writer.fd ≠ fd)
    (change : Reader → Reader) :
    Serves (readers.modify fd change) entry writer := by
  have same : (readers.modify fd change)[writer.fd]? = readers[writer.fd]? := by
    simp [Ne.symm apart]
  exact ⟨serves.1, same.trans serves.2⟩

theorem Serves.advance {other : Entry} {writer later : Writer} (here : Serves readers entry writer)
    (serves : Serves readers other later) {flushed : Flushed} (continues : flushed.Continues entry.data writer.offset)
    (more : flushed.offset < entry.data.length) :
    Serves (readers.modify writer.fd fun rd =>
        { rd with received := rd.received ++ flushed.sent, fate := .waiting }) other
      (if later.fd == writer.fd then { later with offset := flushed.offset } else later) := by
  split
  · rename_i same
    -- Two writers of one descriptor serve the same reader.
    rw [beq_iff_eq] at same
    have data := serves.2
    rw [same, here.2, Option.some.injEq, Reader.mk.injEq] at data
    rw [Serves, ← data.1]
    refine ⟨more, ?_⟩
    simp [same, here.2, continues.sent]
  · rename_i apart
    exact serves.modify_other (by simpa using apart) _

theorem Streams.serve (streams : c.Streams) {sel : Selection} (cached : c.cache = some sel)
    {en : Entry} (listed : en ∈ sel.entries) {writer : Writer} (serving : writer ∈ en.writers)
    {flushed : Flushed} (continues : flushed.Continues en.data writer.offset) {fate : Fate}
    (all : fate = .sent → en.data.take flushed.offset = en.data)
    (more : fate = .waiting → flushed.offset < en.data.length) :
    Streams { c with
      cache := some (if fate = .waiting then sel.advanceWriter writer.fd flushed.offset
        else sel.destroyWriter writer.fd)
      readers := c.readers.modify writer.fd fun rd =>
        { rd with received := rd.received ++ flushed.sent, fate := fate } } := by
  have here := streams.served sel cached en listed writer serving
  have sound := streams.selection sel cached
  let readers := c.readers.modify writer.fd fun rd =>
    { rd with received := rd.received ++ flushed.sent, fate := fate }
  have self : readers[writer.fd]? = some ⟨en.data, en.data.take flushed.offset, fate⟩ := by
    simp [readers, here.2, continues.sent]
  have others {fd : Nat} (apart : fd ≠ writer.fd) : readers[fd]? = c.readers[fd]? := by
    simp [readers, Ne.symm apart]
  have known {rd : Reader} (mem : rd ∈ readers) :
      rd = ⟨en.data, en.data.take flushed.offset, fate⟩ ∨ rd ∈ c.readers := by
    obtain ⟨fd, found⟩ := List.mem_iff_getElem?.mp mem
    by_cases own : fd = writer.fd
    · rw [own, self] at found
      exact .inl (Option.some.inj found).symm
    · rw [others own] at found
      exact .inr (List.mem_of_getElem? found)
  -- The five facts in the order of `Streams`; only the reader of this descriptor has changed.
  refine ⟨?_, ?_, ?_, ?_, ?_⟩
  · rintro _ ⟨⟩
    split
    · exact sound.rewrite (List.map _) rfl
    · exact sound.rewrite (List.filter _) rfl
  · rintro _ ⟨⟩ after mem later following
    split at mem
    · rename_i waiting
      obtain ⟨before, old, rfl⟩ := List.mem_map.mp mem
      obtain ⟨earlier, serving, rfl⟩ := List.mem_map.mp following
      rw [waiting]
      exact here.advance (streams.served sel cached before old earlier serving) continues (more waiting)
    · obtain ⟨before, old, rfl⟩ := List.mem_map.mp mem
      obtain ⟨serving, unlike⟩ := List.mem_filter.mp following
      exact (streams.served sel cached before old later serving).modify_other (by simpa using unlike) _
  · intro fd rd found waiting
    change readers[fd]? = some rd at found
    refine ⟨_, rfl, ?_⟩
    by_cases same : fd = writer.fd
    · rw [same, self] at found
      obtain rfl := Option.some.inj found
      rw [if_pos waiting]
      refine ⟨{ writer with offset := flushed.offset }, ?_, same.symm⟩
      apply mem_writers_rewrite listed
      exact List.mem_map.mpr ⟨writer, serving, by simp⟩
    · rw [others same] at found
      obtain ⟨there, present, server, mem, number⟩ := streams.waiting fd rd found waiting
      obtain rfl : sel = there := Option.some.inj (cached.symm.trans present)
      obtain ⟨before, old, follows⟩ := mem_writers.mp mem
      have apart : server.fd ≠ writer.fd := by rw [number]; exact same
      refine ⟨server, ?_, number⟩
      split
      · apply mem_writers_rewrite old
        exact List.mem_map.mpr ⟨server, follows, by simp [apart]⟩
      · apply mem_writers_rewrite old
        exact List.mem_filter.mpr ⟨follows, by simpa using apart⟩
  · intro rd mem
    rcases known mem with rfl | old
    · exact List.take_prefix _ _
    · exact streams.received rd old
  · intro rd mem
    rcases known mem with rfl | old
    · exact all
    · exact streams.sent rd old

theorem streams_onWritable (streams : c.Streams) (fd : Nat) (writes : List Result) (hangup : Bool) :
    (c.onWritable fd writes hangup).Streams := by
  cases cached : c.cache with
  | none => simpa [onWritable, cached] using streams
  | some selection =>
    cases found : selection.writer? fd with
    | none => simpa [onWritable, cached, found] using streams
    | some pair =>
      obtain ⟨entry, writer⟩ := pair
      obtain ⟨listed, serving, rfl⟩ := writer?_eq_some found
      have short := (streams.served selection cached entry listed writer serving).1
      have continues := flushWriter_continues (Nat.le_of_lt short) writes
      have apart : (if hangup = true then Fate.broken else .waiting) ≠ .sent := by split <;> decide
      obtain ⟨_, all, more⟩ := continues.reader apart
      simp only [onWritable, cached, found]
      exact streams.serve cached listed serving continues all more

theorem changeCache_same {change : Selection → Selection} (same : ∀ selection ∈ c.cache, change selection = selection) :
    c.changeCache change = c := by
  have kept : c.cache.map change = c.cache := by
    cases cached : c.cache with
    | none => rfl
    | some selection => rw [Option.map_some, same selection cached]
  rw [changeCache, kept]

theorem changeCache_some (cached : c.cache = some selection) (change : Selection → Selection) :
    c.changeCache change = { c with cache := some (change selection) } := by
  rw [changeCache, cached, Option.map_some]

theorem streams_changeEntry (streams : c.Streams) (i : Nat) {change : Entry → Entry}
    (data : ∀ entry, (change entry).data = entry.data) (writers : ∀ entry, (change entry).writers = entry.writers)
    (complete : ∀ entry, (change entry).complete = entry.complete) (sound : ∀ entry, entry.Sound → (change entry).Sound) :
    (c.changeCache (·.changeEntry i change)).Streams := by
  cases cached : c.cache with
  | none =>
    rw [changeCache_same (by simp [cached])]
    exact streams
  | some selection =>
    have before := streams.selection selection cached
    have old {entry : Entry} (mem : entry ∈ (selection.changeEntry i change).entries) :
        ∃ same ∈ selection.entries, same.data = entry.data ∧ same.writers = entry.writers ∧
          same.complete = entry.complete ∧ entry.Sound := by
      obtain ⟨pos, found⟩ := List.mem_iff_getElem?.mp mem
      rw [changeEntry, List.getElem?_modify, Option.map_eq_map, Option.map_eq_some_iff] at found
      obtain ⟨same, there, rfl⟩ := found
      have listed := List.mem_of_getElem? there
      refine ⟨same, listed, ?_⟩
      split
      · exact ⟨(data same).symm, (writers same).symm, (complete same).symm, sound same (before.entries same listed)⟩
      · exact ⟨rfl, rfl, rfl, before.entries same listed⟩
    have lists {β : Type} (view : Entry → β) (same : ∀ entry, view (change entry) = view entry) :
        (selection.changeEntry i change).entries.map view = selection.entries.map view := by
      apply List.ext_getElem?
      intro pos
      rw [changeEntry, List.getElem?_map, List.getElem?_map, List.getElem?_modify]
      cases selection.entries[pos]? with
      | none => rfl
      | some => by_cases here : i = pos <;> simp [here, same]
    rw [changeCache_some cached]
    refine streams.change cached ⟨?_, ?_, before.bounded, ?_, ?_, before.pending⟩ ?_ ?_
    · intro entry mem
      obtain ⟨_, _, _, _, _, still⟩ := old mem
      exact still
    · have held := before.held
      rw [Selection.held] at held ⊢
      rw [lists (·.data.length) fun entry => congrArg List.length (data entry)]
      exact held
    · intro owned entry mem
      obtain ⟨same, listed, _, _, equal, _⟩ := old mem
      rw [← equal]
      exact before.owned owned same listed
    · intro free entry mem
      obtain ⟨same, listed, _, equal, _⟩ := old mem
      rw [← equal]
      exact before.fresh free same listed
    · intro entry mem writer serving
      obtain ⟨same, listed, equal, serves, _⟩ := old mem
      exact ⟨same, listed, equal, serves ▸ serving⟩
    · rw [Selection.writers, Selection.writers, List.flatMap_def, List.flatMap_def, lists (·.writers) writers]

theorem onReadable_owned (sound : selection.Sound) (owned : selection.owned = true) (i : Nat) (reads : List Result) :
    selection.onReadable i reads = selection := by
  unfold onReadable
  cases found : selection.entries[i]? with
  | none => rfl
  | some entry =>
    have listed := List.mem_of_getElem? found
    have ended := (sound.entries entry listed).ended (sound.owned owned entry listed)
    obtain ⟨within, here⟩ := List.getElem?_eq_some_iff.mp found
    have same : selection.entries.set i entry = selection.entries := by
      rw [← here]
      exact List.set_getElem_self within
    simp only [drain_ended ended, same]

theorem onReadable_sound (sound : selection.Sound) (free : selection.owned = false) (i : Nat) (reads : List Result) :
    (selection.onReadable i reads).Sound := by
  unfold onReadable
  cases found : selection.entries[i]? with
  | none => exact sound
  | some entry =>
    have listed := List.mem_of_getElem? found
    have drained := drain_drained entry selection.total reads
    have old {other : Entry} (mem : other ∈ selection.entries.set i (drain entry selection.total reads).1) :
        other ∈ selection.entries ∨ other = (drain entry selection.total reads).1 :=
      List.mem_or_eq_of_mem_set mem
    refine ⟨?_, ?_, drained.bounded sound.bounded, ?_, ?_, sound.pending⟩
    · intro other mem
      rcases old mem with same | rfl
      · exact sound.entries other same
      · exact drained.sound (sound.entries entry listed)
    · have size := drained.size
      have held := sound.held
      have sum := sum_map_set (fun entry : Entry => entry.data.length) found (drain entry selection.total reads).1
      show ((selection.entries.set i (drain entry selection.total reads).1).map (·.data.length)).sum ≤
        (drain entry selection.total reads).2
      simp only [Selection.held] at size held sum
      omega
    · intro owned
      exact absurd (free.symm.trans owned) (by decide)
    · intro _ other mem
      rcases old mem with same | rfl
      · exact sound.fresh free other same
      · rw [drained.writers]
        exact sound.fresh free entry listed

section

variable (streams : c.Streams)

include streams

theorem streams_onReadable (i : Nat) (reads : List Result) : (c.changeCache (·.onReadable i reads)).Streams := by
  cases cached : c.cache with
  | none =>
    rw [changeCache_same (by simp [cached])]
    exact streams
  | some selection =>
    have sound := streams.selection selection cached
    cases owned : selection.owned with
    | true =>
      rw [changeCache_same (by simpa [cached] using onReadable_owned sound owned i reads)]
      exact streams
    | false =>
      have next := onReadable_sound sound owned i reads
      have kept : (selection.onReadable i reads).owned = false := by
        rw [← owned, onReadable]
        split <;> rfl
      rw [changeCache_some cached]
      refine streams.change cached next ?_ ?_
      · intro entry mem writer serving
        rw [next.fresh kept entry mem] at serving
        cases serving
      · exact (writers_of_fresh (next.fresh kept)).trans (writers_of_fresh (sound.fresh owned)).symm

theorem streams_leaveSeat : c.leaveSeat.Streams := by
  unfold leaveSeat
  split
  · have ended := streams_destroySelection streams
    exact ⟨ended.selection, ended.served, ended.waiting, ended.received, ended.sent⟩
  · exact ⟨streams.selection, streams.served, streams.waiting, streams.received, streams.sent⟩

theorem streams_onSelectionLost : c.onSelectionLost.Streams := by
  cases cached : c.cache with
  | none =>
    have same : c.onSelectionLost = c := changeCache_same (by simp [cached])
    rw [same]
    exact streams
  | some selection =>
    have sound := streams.selection selection cached
    have lost := changeCache_some cached fun selection =>
      if !selection.owned && !selection.install then { selection with install := true } else selection
    show (c.changeCache _).Streams
    rw [lost]
    split
    · rename_i free
      rw [Bool.and_eq_true, Bool.not_eq_true'] at free
      refine streams.change cached ⟨sound.entries, sound.held, sound.bounded, sound.owned, sound.fresh, fun _ => free.1⟩ ?_ rfl
      exact fun entry mem writer serving => ⟨entry, mem, rfl, serving⟩
    · rw [← cached]
      exact streams

theorem Streams.create (empty : c.cache = none) (copies : Nat) (types : List (String × Bool)) :
    { c with cache := createSelection copies types }.Streams := by
  have nobody (fd : Nat) (rd : Reader) (found : c.readers[fd]? = some rd) : rd.fate ≠ .waiting := by
    intro waiting
    obtain ⟨selection, cached, _⟩ := streams.waiting fd rd found waiting
    rw [empty] at cached
    cases cached
  refine ⟨?_, ?_, ?_, streams.received, streams.sent⟩
  · intro selection created
    exact (createSelection_sound created).1
  · intro selection created entry mem writer serving
    obtain ⟨sound, _, free⟩ := createSelection_sound created
    rw [sound.fresh free entry mem] at serving
    cases serving
  · intro fd rd found waiting
    exact absurd waiting (nobody fd rd found)

end

end Clipboard

end FlakeWM.Input
