import Ferrometer.Log.Source.Journald

/-!
Contract: what a journald source takes from the journal.

Owns: `Reads`, a journal of which some entries have been read since a place,
`Advances`, what every fill path does to a source, and one result for each
function on the way from `takeNext` to `peekBatch`, for the calls that succeed.

Does not own: acks, or what becomes of a batch that has been returned.
-/

set_option autoImplicit false

namespace Ferrometer.Log

open Ferrometer.Config Ferrometer.Foundation

variable {api : JournalApi}

/-! ## The journal -/

/-- These entries have been read since the pointer was at `start`. -/
structure Reads (contract : JournalContract api) (start : Location) (read : List JournalEntry)
    (handle : api.Handle) : Prop where
  location : contract.location handle = OrderedLog.after JournalEntry.position start read
  available : read <+: upcoming start (contract.entries handle)

section Reads

variable {contract : JournalContract api} {start : Location} {read : List JournalEntry}
  {handle next : api.Handle}

theorem Reads.refl (contract : JournalContract api) (handle : api.Handle) :
    Reads contract (contract.location handle) [] handle where
  location := rfl
  available := List.nil_prefix

/-- What is still to be read is what stands behind the entries read. -/
theorem Reads.upcoming_eq (reads : Reads contract start read handle)
    (grows : contract.entries handle <+: contract.entries next) :
    upcoming start (contract.entries next) =
      read ++ upcoming (contract.location handle) (contract.entries next) := by
  obtain ⟨rest, split⟩ := reads.available.trans (OrderedLog.upcoming_grows start grows)
  have behind := OrderedLog.upcoming_after (contract.sorted next) split.symm
  rw [reads.location]
  exact split.symm.trans (congrArg (read ++ ·) behind.symm)

/-- A call that leaves the pointer where it is. -/
theorem Reads.stays (reads : Reads contract start read handle)
    (grows : contract.entries handle <+: contract.entries next)
    (same : contract.location next = contract.location handle) :
    Reads contract start read next where
  location := same.trans reads.location
  available := reads.available.trans (OrderedLog.upcoming_grows start grows)

/-- A call that reads on, whatever it finds. -/
theorem Reads.moves (reads : Reads contract start read handle)
    (grows : contract.entries handle <+: contract.entries next)
    (moved : contract.location next =
      advance (contract.location handle) (contract.entries next)) :
    Reads contract start
      (read ++ (upcoming (contract.location handle) (contract.entries next)).head?.toList)
      next := by
  have split := reads.upcoming_eq grows
  cases found : upcoming (contract.location handle) (contract.entries next) with
  | nil =>
      simpa using reads.stays grows (moved.trans (OrderedLog.advance_of_nil found))
  | cons entry rest =>
      rw [found] at split
      refine ⟨?_, ⟨rest, ?_⟩⟩
      · rw [List.head?_cons, Option.toList_some, OrderedLog.after_concat, moved, advance,
          OrderedLog.advance_of_cons found]
      · rw [split]
        simp

end Reads

namespace JournaldSource

variable {contract : JournalContract api}

/-- What becomes of an entry of the journal. -/
def toEntry (source : JournaldSource api) (entry : JournalEntry) : LogEntry :=
  source.recordToEntry entry.record entry.timestamp

def itemOf (source : JournaldSource api) (entry : JournalEntry) : LogEntry × Cursor :=
  (source.toEntry entry, entry.cursor)

/-- From one state of a source to a later one the items `taken` have left it: the
parked one first, then those of the entries read, in order. What was read last may
be parked. Nothing but the journal and the parked item has changed. -/
structure Advances (contract : JournalContract api) (source next : JournaldSource api)
    (taken : List (LogEntry × Cursor)) : Prop where
  frame : next = { source with journal := next.journal, pending := next.pending }
  grows : contract.entries source.journal <+: contract.entries next.journal
  reads : ∀ {start read}, Reads contract start read source.journal →
    ∃ more, Reads contract start (read ++ more) next.journal ∧
      source.pending.toList ++ more.map source.itemOf = taken ++ next.pending.toList

namespace Advances

variable {source middle next : JournaldSource api} {taken more : List (LogEntry × Cursor)}

theorem refl (contract : JournalContract api) (source : JournaldSource api) :
    Advances contract source source [] where
  frame := rfl
  grows := List.prefix_refl _
  reads reads := ⟨[], by simpa using reads, by simp⟩

theorem itemOf_eq (advances : Advances contract source next taken) :
    next.itemOf = source.itemOf := by
  rw [advances.frame]
  rfl

theorem trans (first : Advances contract source middle taken)
    (second : Advances contract middle next more) :
    Advances contract source next (taken ++ more) where
  frame := by
    rw [second.frame, first.frame]
  grows := first.grows.trans second.grows
  reads {_ _} reads := by
    obtain ⟨readFirst, readsFirst, itemsFirst⟩ := first.reads reads
    obtain ⟨readSecond, readsSecond, itemsSecond⟩ := second.reads readsFirst
    refine ⟨readFirst ++ readSecond, by rwa [← List.append_assoc], ?_⟩
    rw [first.itemOf_eq] at itemsSecond
    rw [List.map_append, ← List.append_assoc, itemsFirst, List.append_assoc, itemsSecond,
      List.append_assoc]

end Advances

/-- The caps of a batch. A single entry is let through whatever its size. -/
structure WithinCaps (source : JournaldSource api) (batch : Batch) : Prop where
  count : batch.entries.length ≤ source.batchSize
  bytes : source.batchMaxBytes ≠ 0 →
    batch.entries.length ≤ 1 ∨ batch.approxBytes ≤ source.batchMaxBytes

theorem WithinCaps.frame {source next : JournaldSource api} {batch : Batch}
    {taken : List (LogEntry × Cursor)} (advances : Advances contract source next taken)
    (within : source.WithinCaps batch) : next.WithinCaps batch := by
  rw [advances.frame]
  exact ⟨within.count, within.bytes⟩

/-- What a fill path does: the items that leave the source end up in the batch. -/
structure Fills (contract : JournalContract api) (source next : JournaldSource api)
    (batch filled : Batch) (items : List (LogEntry × Cursor)) : Prop where
  advances : Advances contract source next items
  pushed : filled = batch.pushAll items
  caps : source.WithinCaps batch → next.WithinCaps filled

namespace Fills

variable {source middle next : JournaldSource api} {batch more filled : Batch}
  {items others : List (LogEntry × Cursor)}

theorem refl (contract : JournalContract api) (source : JournaldSource api) (batch : Batch) :
    Fills contract source source batch batch [] where
  advances := Advances.refl contract source
  pushed := rfl
  caps := id

theorem trans (first : Fills contract source middle batch more items)
    (second : Fills contract middle next more filled others) :
    Fills contract source next batch filled (items ++ others) where
  advances := first.advances.trans second.advances
  pushed := by
    rw [second.pushed, first.pushed, Batch.pushAll, Batch.pushAll, Batch.pushAll,
      List.foldl_append]
  caps within := second.caps (first.caps within)

/-- A call that only advances, before one that fills. -/
theorem after (first : Advances contract source middle [])
    (second : Fills contract middle next batch filled items) :
    Fills contract source next batch filled items :=
  trans ⟨first, rfl, WithinCaps.frame first⟩ second

/-- What a batch holds it keeps. -/
theorem entries_ne_nil (fills : Fills contract source next batch filled items)
    (nonempty : batch.entries ≠ []) : filled.entries ≠ [] := by
  intro empty
  rw [fills.pushed, Batch.pushAll_entries] at empty
  exact nonempty (List.append_eq_nil_iff.mp empty).1

end Fills

/-! ## Draining -/

section Drain

variable (contract)
variable {source next : JournaldSource api}

private theorem itemOf_current {journal : api.Handle} {entry : JournalEntry} {cursor : Cursor}
    {timestamp : SystemTime} (member : entry ∈ contract.entries journal)
    (current : contract.location journal = .current entry.position)
    (gotCursor : api.cursor journal = .ok cursor)
    (gotTimestamp : api.timestamp journal = .ok timestamp) :
    (source.recordToEntry entry.record timestamp, cursor) = source.itemOf entry := by
  rw [contract.cursor_ok _ _ gotCursor entry member current,
    contract.timestamp_ok _ _ gotTimestamp entry member current]
  rfl

/-- A call that returns nothing leaves the pointer where it was. -/
private theorem nextEntry_none {journal after : api.Handle}
    (called : api.nextEntry journal = (after, .ok none)) :
    upcoming (contract.location journal) (contract.entries after) = [] ∧
      contract.location after = contract.location journal := by
  obtain ⟨found, moved⟩ := contract.nextEntry_ok _ _ _ called
  have nothing : upcoming (contract.location journal) (contract.entries after) = [] := by
    simpa using found.symm
  exact ⟨nothing, moved.trans (OrderedLog.advance_of_nil nothing)⟩

/-- A call that returns a record has made its entry current. -/
private theorem nextEntry_some {journal after : api.Handle} {record : JournalRecord}
    (called : api.nextEntry journal = (after, .ok (some record))) :
    ∃ entry ∈ contract.entries after, record = entry.record ∧
      contract.location after = .current entry.position ∧
      (upcoming (contract.location journal) (contract.entries after)).head? = some entry := by
  obtain ⟨found, moved⟩ := contract.nextEntry_ok _ _ _ called
  cases ahead : upcoming (contract.location journal) (contract.entries after) with
  | nil => simp [ahead] at found
  | cons entry rest =>
      have member : entry ∈ contract.entries after :=
        (OrderedLog.upcoming_sublist _ _).subset (ahead ▸ List.mem_cons_self)
      have isRecord : record = entry.record := by simpa [ahead] using found
      exact ⟨entry, member, isRecord, moved.trans (OrderedLog.advance_of_cons ahead), rfl⟩

theorem takeNext_ok {found : Option (LogEntry × Cursor)}
    (took : takeNext source = (next, .ok found)) :
    Advances contract source next found.toList ∧ next.pending = none ∧
      (found = none → source.pending = none ∧
        upcoming (contract.location next.journal) (contract.entries next.journal) = []) := by
  unfold takeNext at took
  rw [Stateful.get_bind] at took
  cases parked : source.pending with
  | some item =>
      simp only [parked] at took
      rw [Stateful.modify_bind] at took
      obtain ⟨rfl, rfl⟩ := Stateful.pure_eq_ok.mp took
      refine ⟨⟨rfl, List.prefix_refl _, fun {_ _} reads => ⟨[], ?_, ?_⟩⟩, rfl,
        fun nothing => absurd nothing (Option.some_ne_none _)⟩
      · simpa using reads
      · simp [parked]
  | none =>
      simp only [parked] at took
      obtain ⟨middle, record, read, took⟩ := Stateful.bind_eq_ok.mp took
      obtain ⟨journal, called, rfl⟩ := Stateful.onPart_eq_ok.mp read
      have grows : contract.entries source.journal <+: contract.entries journal := by
        have grown := contract.nextEntry_grows source.journal
        rwa [called] at grown
      cases record with
      | none =>
          obtain ⟨rfl, rfl⟩ := Stateful.pure_eq_ok.mp took
          obtain ⟨nothing, stayed⟩ := nextEntry_none contract called
          refine ⟨⟨rfl, grows, fun {_ _} reads => ⟨[], ?_, by simp [parked]⟩⟩,
            parked, fun _ => ⟨rfl, by rwa [stayed]⟩⟩
          simpa using reads.stays grows stayed
      | some record =>
          obtain ⟨_, cursor, asked, took⟩ := Stateful.bind_eq_ok.mp took
          obtain ⟨rfl, askedCursor⟩ := Stateful.ask_eq_ok.mp asked
          obtain ⟨_, timestamp, asked, took⟩ := Stateful.bind_eq_ok.mp took
          obtain ⟨rfl, askedTimestamp⟩ := Stateful.ask_eq_ok.mp asked
          obtain ⟨rfl, rfl⟩ := Stateful.pure_eq_ok.mp took
          have gotCursor := Stateful.mapError_eq_ok.mp askedCursor
          have gotTimestamp := Stateful.mapError_eq_ok.mp askedTimestamp
          obtain ⟨entry, member, isRecord, current, first⟩ := nextEntry_some contract called
          refine ⟨⟨rfl, grows, fun {_ _} reads => ⟨[entry], ?_, ?_⟩⟩,
            parked, fun nothing => absurd nothing (Option.some_ne_none _)⟩
          · have moves := reads.moves grows (contract.nextEntry_ok _ _ _ called).2
            rwa [first] at moves
          · rw [parked, isRecord,
              itemOf_current contract member current gotCursor gotTimestamp]
            simp

private theorem exceedsCap_eq_false {batch : Batch} {entry : LogEntry} :
    source.exceedsCap batch entry = false ↔ source.batchMaxBytes = 0 ∨ batch.entries = [] ∨
      batch.approxBytes + entry.approxSize ≤ source.batchMaxBytes := by
  simp [exceedsCap, or_iff_not_imp_left]

/-- An entry that may go in stays within the caps: there is room for one more, and
it is the first or the bytes still fit. -/
private theorem WithinCaps.push {batch : Batch} {entry : LogEntry} (cursor : Cursor)
    (hasRoom : source.batchHasRoom batch = true)
    (fits : source.exceedsCap batch entry = false) :
    source.WithinCaps (batch.push entry cursor) := by
  simp only [batchHasRoom, Bool.and_eq_true, decide_eq_true_eq] at hasRoom
  constructor
  · have room := hasRoom.1
    simp only [Batch.push, List.length_append, List.length_singleton]
    omega
  · intro capped
    rcases exceedsCap_eq_false.mp fits with uncapped | first | below
    · exact absurd uncapped capped
    · exact Or.inl (by simp [Batch.push, first])
    · exact Or.inr below

private theorem parked_advances {middle : JournaldSource api} {item : LogEntry × Cursor}
    (took : Advances contract source middle [item]) (taken : middle.pending = none) :
    Advances contract source { middle with pending := some item } [] where
  frame := by rw [took.frame]
  grows := took.grows
  reads {_ _} reads := by
    obtain ⟨more, readsMore, items⟩ := took.reads reads
    exact ⟨more, readsMore, by simpa [taken] using items⟩

theorem drainLoop_ok {room : Nat} {batch filled : Batch}
    (drained : drainLoop room batch source = (next, .ok filled)) :
    ∃ items, Fills contract source next batch filled items := by
  induction room generalizing source batch with
  | zero =>
      obtain ⟨rfl, rfl⟩ := Stateful.pure_eq_ok.mp drained
      exact ⟨[], Fills.refl contract _ _⟩
  | succ room inductionHypothesis =>
      unfold drainLoop at drained
      rw [Stateful.get_bind] at drained
      split at drained
      · rename_i hasRoom
        obtain ⟨middle, found, took, drained⟩ := Stateful.bind_eq_ok.mp drained
        obtain ⟨advances, taken, -⟩ := takeNext_ok contract took
        cases found with
        | none =>
            obtain ⟨rfl, rfl⟩ := Stateful.pure_eq_ok.mp drained
            exact ⟨[], Fills.after advances (Fills.refl contract _ _)⟩
        | some item =>
            simp only at drained
            split at drained
            · rw [Stateful.modify_bind] at drained
              obtain ⟨rfl, rfl⟩ := Stateful.pure_eq_ok.mp drained
              have parks := parked_advances contract advances taken
              exact ⟨[], Fills.after parks (Fills.refl contract _ _)⟩
            · rename_i fits
              obtain ⟨items, fills⟩ := inductionHypothesis drained
              have fitsIn := WithinCaps.push item.2 hasRoom (by simpa using fits)
              exact ⟨[item] ++ items,
                Fills.trans ⟨advances, rfl, fun _ => WithinCaps.frame advances fitsIn⟩ fills⟩
      · obtain ⟨rfl, rfl⟩ := Stateful.pure_eq_ok.mp drained
        exact ⟨[], Fills.refl contract _ _⟩

theorem drainAvailable_ok {batch filled : Batch}
    (drained : drainAvailable batch source = (next, .ok filled)) :
    ∃ items, Fills contract source next batch filled items := by
  unfold drainAvailable at drained
  rw [Stateful.get_bind] at drained
  exact drainLoop_ok contract drained

/-- There is room for a first entry, whatever the cap on the bytes. -/
theorem batchHasRoom_empty (room : 0 < source.batchSize) : source.batchHasRoom {} = true := by
  simp only [batchHasRoom, Bool.and_eq_true, decide_eq_true_eq]
  refine ⟨room, ?_⟩
  cases source.batchMaxBytes with
  | zero => rfl
  | succ cap => simp

/-- There is room in an empty batch, so the loop begins with a read. -/
theorem drainAvailable_default (room : source.batchSize ≠ 0) :
    ∃ left, drainAvailable {} source =
      (takeNext >>= fun found => found.elim (pure {}) fun item =>
        drainLoop left (Batch.push {} item.1 item.2)) source := by
  have positive := Nat.pos_of_ne_zero room
  have hasRoom := batchHasRoom_empty positive
  rcases Nat.exists_eq_add_one.mpr positive with ⟨left, isLeft⟩
  refine ⟨left, ?_⟩
  unfold drainAvailable
  rw [Stateful.get_bind,
    show source.batchSize - ({} : Batch).entries.length = left + 1 from isLeft]
  conv => lhs; unfold drainLoop
  rw [Stateful.get_bind]
  simp only [hasRoom, if_true]
  apply congrFun (congrArg (takeNext >>= ·) (funext fun found => _)) source
  intro found
  cases found with
  | none => rfl
  | some item =>
      have fits : source.exceedsCap {} item.1 = false := by simp [exceedsCap]
      simp only [fits, Bool.false_eq_true, if_false, Option.elim_some]

/-- An empty batch stays empty only when there is nothing to read. -/
theorem drainAvailable_empty {filled : Batch} (room : 0 < source.batchSize)
    (drained : drainAvailable {} source = (next, .ok filled)) (empty : filled.entries = []) :
    next.pending = none ∧
      upcoming (contract.location next.journal) (contract.entries next.journal) = [] := by
  obtain ⟨left, begins⟩ := drainAvailable_default (Nat.ne_of_gt room)
  rw [begins] at drained
  obtain ⟨middle, found, took, drained⟩ := Stateful.bind_eq_ok.mp drained
  cases found with
  | none =>
      obtain ⟨rfl, rfl⟩ := Stateful.pure_eq_ok.mp drained
      obtain ⟨-, taken, nothing⟩ := takeNext_ok contract took
      exact ⟨taken, (nothing rfl).2⟩
  | some item =>
      obtain ⟨items, fills⟩ := drainLoop_ok contract drained
      exact absurd empty (fills.entries_ne_nil (List.cons_ne_nil _ _))

end Drain

/-! ## Filling a batch -/

section Fill

variable (contract)
variable {source next : JournaldSource api}

/-- `process` reads nothing. -/
theorem process_advances (source : JournaldSource api) :
    Advances contract source { source with journal := (api.process source.journal).1 } [] where
  frame := rfl
  grows := contract.process_grows source.journal
  reads {_ _} reads := by
    have stays := reads.stays (contract.process_grows _) (contract.process_stays _)
    exact ⟨[], by simpa using stays, by simp⟩

theorem waitForJournalEvent_ok {readable : Except String Unit}
    (waited : waitForJournalEvent readable source = (next, .ok ())) :
    Advances contract source next [] := by
  unfold waitForJournalEvent at waited
  obtain ⟨_, _, ready, waited⟩ := Stateful.bind_eq_ok.mp waited
  obtain ⟨rfl, -⟩ := Stateful.ask_eq_ok.mp ready
  obtain ⟨journal, called, rfl⟩ := Stateful.onPart_eq_ok.mp waited
  have advances := process_advances contract source
  rwa [called] at advances

private theorem filled_ends {batch : Batch} {result : Option Batch}
    (ends : (pure (some batch) : Stateful (JournaldSource api) Error (Option Batch)) source =
      (next, .ok result)) (nonempty : batch.entries ≠ []) :
    ∃ items filled, Fills contract source next batch filled items ∧
      ∀ final ∈ result, final = filled ∧ final.entries ≠ [] := by
  rcases Stateful.pure_eq_ok.mp ends with ⟨rfl, rfl⟩
  refine ⟨[], batch, Fills.refl contract _ _, ?_⟩
  intro final isFinal
  cases isFinal
  exact ⟨rfl, nonempty⟩

theorem awaitFirst_ok {readable : List (Except String Unit)} {batch : Batch}
    {result : Option Batch}
    (waited : awaitFirst readable batch source = (next, .ok result)) :
    ∃ items filled, Fills contract source next batch filled items ∧
      ∀ final ∈ result, final = filled ∧ final.entries ≠ [] := by
  induction readable generalizing source batch with
  | nil =>
      unfold awaitFirst at waited
      split at waited
      · obtain ⟨rfl, rfl⟩ := Stateful.pure_eq_ok.mp waited
        exact ⟨[], batch, Fills.refl contract _ _, by simp⟩
      · rename_i nonempty
        exact filled_ends contract waited (by simpa using nonempty)
  | cons event rest inductionHypothesis =>
      unfold awaitFirst at waited
      split at waited
      · obtain ⟨woken, _, woke, waited⟩ := Stateful.bind_eq_ok.mp waited
        obtain ⟨drained, more, drains, waited⟩ := Stateful.bind_eq_ok.mp waited
        obtain ⟨items, fills⟩ := drainAvailable_ok contract drains
        obtain ⟨others, filled, fillsRest, final⟩ := inductionHypothesis waited
        exact ⟨items ++ others, filled,
          Fills.trans (Fills.after (waitForJournalEvent_ok contract woke) fills) fillsRest, final⟩
      · rename_i nonempty
        exact filled_ends contract waited (by simpa using nonempty)

private theorem window_ends {batch final : Batch}
    (ends : (pure (some batch) : Stateful (JournaldSource api) Error (Option Batch)) source =
      (next, .ok (some final))) : ∃ items, Fills contract source next batch final items := by
  obtain ⟨rfl, isFinal⟩ := Stateful.pure_eq_ok.mp ends
  exact ⟨[], Option.some.inj isFinal ▸ Fills.refl contract _ _⟩

theorem coalesce_ok {deadline : Instant} {window : List Turn} {batch final : Batch}
    (coalesced : coalesce deadline window batch source = (next, .ok (some final))) :
    ∃ items, Fills contract source next batch final items := by
  induction window generalizing source batch with
  | nil =>
      unfold coalesce at coalesced
      rw [Stateful.get_bind] at coalesced
      split at coalesced
      · exact absurd (Stateful.pure_eq_ok.mp coalesced).2 nofun
      · exact window_ends contract coalesced
  | cons turn rest inductionHypothesis =>
      unfold coalesce at coalesced
      rw [Stateful.get_bind] at coalesced
      split at coalesced
      · by_cases late : deadline < turn.now
        · simp only [if_pos late] at coalesced
          exact window_ends contract coalesced
        · simp only [if_neg late] at coalesced
          cases woken : turn.readable with
          | none =>
              simp only [woken] at coalesced
              exact window_ends contract coalesced
          | some event =>
              simp only [woken] at coalesced
              obtain ⟨middle, _, woke, coalesced⟩ := Stateful.bind_eq_ok.mp coalesced
              obtain ⟨drained, more, drains, coalesced⟩ := Stateful.bind_eq_ok.mp coalesced
              obtain ⟨items, fills⟩ := drainAvailable_ok contract drains
              obtain ⟨others, fillsRest⟩ := inductionHypothesis coalesced
              exact ⟨items ++ others,
                Fills.trans (Fills.after (waitForJournalEvent_ok contract woke) fills) fillsRest⟩
      · exact window_ends contract coalesced

end Fill

/-! ## Positioning -/

section Position

variable (contract)
variable {source next : JournaldSource api}

theorem seekTail_ok (sought : seekTail source = (next, .ok ())) :
    next = { source with journal := next.journal } ∧
      contract.entries source.journal <+: contract.entries next.journal ∧
      contract.location next.journal = .tail := by
  unfold seekTail at sought
  obtain ⟨journal, called, rfl⟩ := Stateful.onPart_eq_ok.mp sought
  have grows := contract.seekTail_grows source.journal
  rw [called] at grows
  exact ⟨rfl, grows, contract.seekTail_ok _ _ called⟩

/-- Without a saved cursor the last entry becomes current, if there is one. -/
theorem positionToStart_tail (fresh : source.lastAcked = none)
    (ran : positionToStart source = (next, .ok ())) :
    next = { source with journal := next.journal, positioned := true } ∧
      contract.entries source.journal <+: contract.entries next.journal ∧
      contract.location next.journal =
        match (contract.entries next.journal).getLast? with
        | none => .tail
        | some entry => .current entry.position := by
  unfold positionToStart at ran
  rw [Stateful.get_bind] at ran
  simp only [fresh] at ran
  obtain ⟨tail, _, sought, ran⟩ := Stateful.bind_eq_ok.mp ran
  obtain ⟨frame, grows, atTail⟩ := seekTail_ok contract sought
  obtain ⟨moved, _, stepped, ran⟩ := Stateful.bind_eq_ok.mp ran
  obtain ⟨journal, called, rfl⟩ := Stateful.onPart_eq_ok.mp stepped
  obtain rfl := Stateful.modify_eq_ok.mp ran
  have grown := contract.previous_grows tail.journal
  rw [called] at grown
  refine ⟨by rw [frame], grows.trans grown, contract.previous_ok _ _ _ called atTail⟩

private theorem seek_eq {cursor : Cursor} {seeker : api.Handle} {outcome : Except String Unit}
    {sought : Except Error Unit} (called : api.seekCursor source.journal cursor = (seeker, outcome))
    (seeks : Stateful.attempt (onJournal id fun journal => api.seekCursor journal cursor) source =
      (next, .ok sought)) :
    next = { source with journal := seeker } ∧ sought = outcome.mapError Error.source := by
  have ran := Stateful.attempt_eq_ok.mp seeks
  simp only [onJournal, Stateful.onPart, called] at ran
  obtain ⟨rfl, rfl⟩ := Prod.mk.inj ran
  exact ⟨rfl, rfl⟩

/-- With a saved cursor the seek lands before the first entry at or after it, and
the step that follows makes that entry current, if there is one. -/
theorem positionToStart_saved {cursor : Cursor} (saved : source.lastAcked = some cursor)
    (found : (api.seekCursor source.journal cursor).2 = .ok ())
    (ran : positionToStart source = (next, .ok ())) :
    next = { source with journal := next.journal, positioned := true } ∧
      contract.entries source.journal <+: contract.entries next.journal ∧
      contract.location next.journal =
        advance (.sought (contract.positionOf cursor)) (contract.entries next.journal) := by
  rcases sought : api.seekCursor source.journal cursor with ⟨seeker, outcome⟩
  obtain rfl : outcome = .ok () := by rw [← found, sought]
  unfold positionToStart at ran
  rw [Stateful.get_bind] at ran
  simp only [saved] at ran
  obtain ⟨_, _, seeks, ran⟩ := Stateful.bind_eq_ok.mp ran
  obtain ⟨rfl, rfl⟩ := seek_eq sought seeks
  obtain ⟨moved, _, stepped, ran⟩ := Stateful.bind_eq_ok.mp ran
  obtain ⟨journal, called, rfl⟩ := Stateful.onPart_eq_ok.mp stepped
  obtain rfl := Stateful.modify_eq_ok.mp ran
  have grows := contract.seekCursor_grows source.journal cursor
  rw [sought] at grows
  have grown := contract.next_grows seeker
  rw [called] at grown
  have landed := contract.next_ok _ _ _ called
  rw [contract.seekCursor_ok _ _ _ sought] at landed
  exact ⟨rfl, grows.trans grown, landed⟩

/-- When the seek fails, the source goes to the tail and makes no entry current. -/
theorem positionToStart_lost {cursor : Cursor} {message : String}
    (saved : source.lastAcked = some cursor)
    (lost : (api.seekCursor source.journal cursor).2 = .error message)
    (ran : positionToStart source = (next, .ok ())) :
    next = { source with journal := next.journal, positioned := true } ∧
      contract.entries source.journal <+: contract.entries next.journal ∧
      contract.location next.journal = .tail := by
  rcases sought : api.seekCursor source.journal cursor with ⟨seeker, outcome⟩
  obtain rfl : outcome = .error message := by rw [← lost, sought]
  unfold positionToStart at ran
  rw [Stateful.get_bind] at ran
  simp only [saved] at ran
  obtain ⟨_, _, seeks, ran⟩ := Stateful.bind_eq_ok.mp ran
  obtain ⟨rfl, rfl⟩ := seek_eq sought seeks
  simp only [Stateful.mapError_error] at ran
  obtain ⟨tail, _, soughtTail, ran⟩ := Stateful.bind_eq_ok.mp ran
  obtain ⟨frame, grown, atTail⟩ := seekTail_ok contract soughtTail
  obtain rfl := Stateful.modify_eq_ok.mp ran
  have grows := contract.seekCursor_grows source.journal cursor
  rw [sought] at grows
  exact ⟨by rw [frame], grows.trans grown, atTail⟩

/-- Positioning changes nothing but the journal. -/
theorem positionToStart_ok (ran : positionToStart source = (next, .ok ())) :
    next = { source with journal := next.journal, positioned := true } ∧
      contract.entries source.journal <+: contract.entries next.journal := by
  rcases Option.eq_none_or_eq_some source.lastAcked with saved | ⟨cursor, saved⟩
  · obtain ⟨frame, grows, -⟩ := positionToStart_tail contract saved ran
    exact ⟨frame, grows⟩
  · cases found : (api.seekCursor source.journal cursor).2 with
    | ok =>
        obtain ⟨frame, grows, -⟩ := positionToStart_saved contract saved found ran
        exact ⟨frame, grows⟩
    | error message =>
        obtain ⟨frame, grows, -⟩ := positionToStart_lost contract saved found ran
        exact ⟨frame, grows⟩

end Position

/-! ## Peeking -/

section Peek

variable (contract)
variable {source next : JournaldSource api}

/-- The source from which a peek fills its batch: positioned, if it was not. -/
def ready (source : JournaldSource api) : JournaldSource api :=
  if source.positioned then source else (positionToStart source).1

theorem ready_of_positioned (positioned : source.positioned = true) : source.ready = source :=
  if_pos positioned

/-- A source that is not positioned is ready once it has positioned itself. -/
theorem positionToStart_ready (unpositioned : source.positioned = false)
    (positions : (positionToStart source).2 = .ok ()) :
    positionToStart source = (source.ready, .ok ()) := by
  rw [ready, if_neg (by rw [unpositioned]; decide)]
  exact Prod.ext rfl positions

include contract in
/-- Positioning changes the journal, and nothing else. -/
theorem ready_frame
    (positions : source.positioned = false → (positionToStart source).2 = .ok ()) :
    source.ready = { source with journal := source.ready.journal, positioned := true } := by
  cases positioned : source.positioned with
  | true =>
      rw [ready_of_positioned positioned]
      rw [← positioned]
  | false =>
      have ran := positionToStart_ready positioned (positions positioned)
      exact (positionToStart_ok contract ran).1

theorem firstEntries_ok {readable : List (Except String Unit)} {result : Option Batch}
    (read : firstEntries readable source = (next, .ok result)) :
    ∃ items filled, Fills contract source next {} filled items ∧
      ∀ final ∈ result, final = filled ∧ final.entries ≠ [] := by
  unfold firstEntries at read
  obtain ⟨middle, batch, drained, waited⟩ := Stateful.bind_eq_ok.mp read
  obtain ⟨items, fills⟩ := drainAvailable_ok contract drained
  obtain ⟨others, filled, fillsRest, final⟩ := awaitFirst_ok contract waited
  exact ⟨items ++ others, filled, fills.trans fillsRest, final⟩

theorem fillWindow_ok {wakeups : Wakeups} {batchWait : Duration} {batch filled : Batch}
    (filledUp : fillWindow wakeups batchWait batch source = (next, .ok (some filled))) :
    ∃ items, Fills contract source next batch filled items := by
  unfold fillWindow at filledUp
  cases added : addDuration wakeups.windowStart batchWait with
  | none =>
      rw [added] at filledUp
      exact absurd (Stateful.pure_eq_ok.mp filledUp).2 nofun
  | some deadline =>
      rw [added] at filledUp
      exact coalesce_ok contract filledUp

private theorem catchUp_ok {wakeups : Wakeups} {batchWait : Duration} {batch : Batch}
    (built : (do
      match ← firstEntries wakeups.first with
      | none => pure none
      | some batch => fillWindow wakeups batchWait batch :
        Stateful (JournaldSource api) Error (Option Batch)) source = (next, .ok (some batch))) :
    (∃ items, Fills contract source next {} batch items) ∧ batch.entries ≠ [] := by
  obtain ⟨middle, first, read, built⟩ := Stateful.bind_eq_ok.mp built
  cases first with
  | none => exact absurd (Stateful.pure_eq_ok.mp built).2 nofun
  | some first =>
      obtain ⟨items, filled, fills, final⟩ := firstEntries_ok contract read
      obtain ⟨rfl, nonempty⟩ := final first rfl
      obtain ⟨others, fillsRest⟩ := fillWindow_ok contract built
      exact ⟨⟨items ++ others, fills.trans fillsRest⟩, fillsRest.entries_ne_nil nonempty⟩

theorem buildBatch_ok {wakeups : Wakeups} {batch : Batch}
    (built : buildBatch wakeups source = (next, .ok (some batch))) :
    (source.positioned = false → (positionToStart source).2 = .ok ()) ∧
      (∃ items, Fills contract source.ready next {} batch items) ∧ batch.entries ≠ [] := by
  unfold buildBatch at built
  rw [Stateful.get_bind] at built
  cases positioned : source.positioned with
  | true =>
      simp only [positioned, Bool.not_true, Bool.false_eq_true, if_false] at built
      rw [ready_of_positioned positioned]
      exact ⟨nofun, catchUp_ok contract built⟩
  | false =>
      simp only [positioned, Bool.not_false, if_true] at built
      obtain ⟨middle, _, positions, built⟩ := Stateful.bind_eq_ok.mp built
      rw [ready, positioned, if_neg (by decide), positions]
      exact ⟨fun _ => rfl, catchUp_ok contract built⟩

/-- What a fill path does it does whatever batch is in flight. -/
private theorem Fills.withInFlight {inFlight : Option Batch} {batch filled : Batch}
    {items : List (LogEntry × Cursor)}
    (fills : Fills contract { source with inFlight := inFlight } next batch filled items) :
    Fills contract source { next with inFlight := source.inFlight } batch filled items where
  advances := {
    frame := by rw [fills.advances.frame]
    grows := fills.advances.grows
    reads := fills.advances.reads }
  pushed := fills.pushed
  caps within := by
    have later := fills.caps ⟨within.count, within.bytes⟩
    exact ⟨later.count, later.bytes⟩

/-- A peek appends to the batch in flight, or to an empty one. -/
theorem peekBatch_ok {callerHolds : Bool} {wakeups : Wakeups} {batch : Batch}
    (inFlight : source.inFlight.isSome → source.positioned = true)
    (peeked : peekBatch callerHolds wakeups source = (next, .ok (.batch batch))) :
    ∃ middle items, Fills contract source.ready middle (source.inFlight.getD {}) batch items ∧
      next = { middle with inFlight := some batch } ∧
      (source.inFlight = none → batch.entries ≠ []) ∧
      (source.positioned = false → (positionToStart source).2 = .ok ()) := by
  unfold peekBatch at peeked
  rw [Stateful.get_bind] at peeked
  rcases Option.eq_none_or_eq_some source.inFlight with noBatch | ⟨flying, isFlying⟩
  · simp only [noBatch] at peeked
    obtain ⟨middle, built, build, peeked⟩ := Stateful.bind_eq_ok.mp peeked
    cases built with
    | none => exact absurd (Stateful.pure_eq_ok.mp peeked).2 nofun
    | some built =>
        simp only at peeked
        rw [Stateful.modify_bind] at peeked
        obtain ⟨rfl, same⟩ := Stateful.pure_eq_ok.mp peeked
        obtain rfl := Peek.batch.inj same
        obtain ⟨positions, ⟨items, fills⟩, nonempty⟩ := buildBatch_ok contract build
        refine ⟨middle, items, ?_, rfl, fun _ => nonempty, positions⟩
        rwa [noBatch]
  · have positioned : source.positioned = true := inFlight (by rw [isFlying]; rfl)
    simp only [isFlying] at peeked
    rw [ready_of_positioned positioned, isFlying, Option.getD_some]
    cases callerHolds with
    | true =>
        obtain ⟨rfl, same⟩ := Stateful.pure_eq_ok.mp peeked
        obtain rfl := Peek.batch.inj same
        refine ⟨source, [], Fills.refl contract _ _, by rw [← isFlying], nofun, ?_⟩
        simp [positioned]
    | false =>
        simp only [Bool.false_eq_true, if_false] at peeked
        rw [Stateful.modify_bind] at peeked
        obtain ⟨processed, outcome, processes, peeked⟩ := Stateful.bind_eq_ok.mp peeked
        obtain rfl := congrArg Prod.fst (Stateful.attempt_eq_ok.mp processes)
        obtain ⟨drained, filled, drains, peeked⟩ := Stateful.bind_eq_ok.mp peeked
        rw [Stateful.modify_bind] at peeked
        obtain ⟨rfl, same⟩ := Stateful.pure_eq_ok.mp peeked
        obtain rfl := Peek.batch.inj same
        obtain ⟨items, fills⟩ := drainAvailable_ok contract drains
        have processed := process_advances contract { source with inFlight := none }
        refine ⟨_, items, Fills.withInFlight contract (fills.after processed), rfl, nofun, ?_⟩
        simp [positioned]

end Peek

end JournaldSource

end Ferrometer.Log
