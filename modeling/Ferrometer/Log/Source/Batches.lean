import Ferrometer.Foundation.Fallible
import Ferrometer.Foundation.Machine
import Ferrometer.Log.Source.Reading

/-!
Contract: the batches that a journald source hands out.

Owns: `Tracks`, which says where every entry read from the journal is, what a peek
and an ack make of it, and the machine of a caller that peeks and acks.

Does not own: why the caller acks.
-/

set_option autoImplicit false

namespace Ferrometer.Log

open Ferrometer.Foundation

variable {api : JournalApi}

namespace JournaldSource

/-- A source that has just been built. -/
structure Fresh (source : JournaldSource api) : Prop where
  positioned : source.positioned = false
  inFlight : source.inFlight = none
  pending : source.pending = none

theorem new_ok {host : JournalHost api} {tree : FileTree} {name : String}
    {config : Config.JournaldSourceConfig} {extraStaticLabels : Labels}
    {source : JournaldSource api}
    (built : new host tree name config extraStaticLabels = .ok source) :
    source.Fresh ∧ source.cursorFile = Path.ofString config.cursorFile ∧
      readSavedCursor tree source.cursorFile = .ok source.lastAcked ∧
      host.openJournal {
        system := true
        localOnly := true
        runtimeOnly := config.runtimeOnly } = .ok source.journal := by
  unfold new at built
  obtain ⟨journal, opened, built⟩ := bind_eq_ok.mp built
  obtain ⟨fd, _, built⟩ := bind_eq_ok.mp built
  obtain ⟨_, _, built⟩ := bind_eq_ok.mp built
  obtain ⟨saved, read, built⟩ := bind_eq_ok.mp built
  obtain rfl := Except.ok.inj built
  exact ⟨⟨rfl, rfl, rfl⟩, rfl, read, Stateful.mapError_eq_ok.mp opened⟩

/-! ## Where the entries are -/

/-- Of the entries read since the source `origin` positioned itself, `done` have
been acked, `flight` are in the batch in flight, and `parked` wait for the next. -/
structure Tracks (contract : JournalContract api) (origin source : JournaldSource api)
    (done flight parked : List JournalEntry) : Prop where
  frame : source = { origin with
    journal := source.journal
    lastAcked := source.lastAcked
    inFlight := source.inFlight
    positioned := source.positioned
    pending := source.pending }
  reads : Reads contract (contract.location origin.ready.journal) (done ++ flight ++ parked)
    source.ready.journal
  parked : source.pending.toList = parked.map origin.itemOf
  positioned : source.inFlight.isSome → source.positioned = true
  idle : source.inFlight = none → flight = []
  flying : ∀ batch ∈ source.inFlight,
    batch.Holds (flight.map origin.itemOf) ∧ flight ≠ [] ∧ origin.WithinCaps batch

/-- A batch as it is meant to be that holds these entries of the journal. -/
structure Promises (source : JournaldSource api) (flight : List JournalEntry) (batch : Batch) :
    Prop where
  nonempty : 0 < batch.entries.length
  count : batch.entries.length ≤ source.batchSize
  entries : batch.entries = flight.map source.toEntry
  endCursor : some batch.endCursor = flight.getLast?.map JournalEntry.cursor
  approxBytes : batch.approxBytes = (batch.entries.map LogEntry.approxSize).sum
  bytes : source.batchMaxBytes ≠ 0 →
    batch.approxBytes ≤ source.batchMaxBytes ∨ batch.entries.length = 1

namespace Tracks

variable {contract : JournalContract api} {origin source next : JournaldSource api}
  {done flight parked : List JournalEntry}

theorem start (contract : JournalContract api) (inFlight : origin.inFlight = none)
    (pending : origin.pending = none) : Tracks contract origin origin [] [] [] where
  frame := rfl
  reads := Reads.refl contract _
  parked := by rw [pending]; rfl
  positioned := by simp [inFlight]
  idle _ := rfl
  flying := by simp [inFlight]

/-- The batch that the next peek fills. -/
private theorem filling (tracks : Tracks contract origin source done flight parked) :
    (source.inFlight.getD {}).Holds (flight.map origin.itemOf) ∧
      origin.WithinCaps (source.inFlight.getD {}) := by
  cases flying : source.inFlight with
  | none =>
      rw [tracks.idle flying]
      exact ⟨Batch.default_holds, Nat.zero_le _, fun _ => Or.inl (Nat.zero_le _)⟩
  | some old => exact ⟨(tracks.flying old flying).1, (tracks.flying old flying).2.2⟩

theorem entries (tracks : Tracks contract origin source done flight parked) {batch : Batch}
    (flying : source.inFlight = some batch) : batch.entries = flight.map origin.toEntry := by
  rw [(tracks.flying batch flying).1.entries, List.map_map]
  rfl

theorem flying_entries (tracks : Tracks contract origin source done flight parked) :
    source.inFlight.elim [] Batch.entries = flight.map origin.toEntry := by
  cases flying : source.inFlight with
  | none =>
      rw [tracks.idle flying]
      rfl
  | some batch => exact tracks.entries flying

theorem endCursor (tracks : Tracks contract origin source done flight parked) {batch : Batch}
    (flying : source.inFlight = some batch) :
    some batch.endCursor = flight.getLast?.map JournalEntry.cursor := by
  obtain ⟨holds, nonempty, -⟩ := tracks.flying batch flying
  obtain ⟨last, isLast⟩ :=
    Option.ne_none_iff_exists'.mp (List.getLast?_eq_none_iff.not.mpr nonempty)
  have cursor := holds.endCursor (origin.itemOf last) (by simp [List.getLast?_map, isLast])
  rw [cursor, isLast]
  rfl

theorem promises (tracks : Tracks contract origin source done flight parked) {batch : Batch}
    (flying : source.inFlight = some batch) : origin.Promises flight batch := by
  obtain ⟨holds, nonempty, within⟩ := tracks.flying batch flying
  have positive : 0 < batch.entries.length := by
    rw [tracks.entries flying, List.length_map]
    exact List.length_pos_iff.mpr nonempty
  exact {
    nonempty := positive
    count := within.count
    entries := tracks.entries flying
    endCursor := tracks.endCursor flying
    approxBytes := holds.approxBytes
    bytes := fun capped => (within.bytes capped).elim (fun single => Or.inr (by omega)) Or.inl }

/-- What a fill path makes of the batch stays within the caps. -/
private theorem filled_within {middle : JournaldSource api} {batch : Batch}
    {items : List (LogEntry × Cursor)}
    (tracks : Tracks contract origin source done flight parked)
    (readyFrame : source.ready =
      { source with journal := source.ready.journal, positioned := true })
    (fills : Fills contract source.ready middle (source.inFlight.getD {}) batch items) :
    origin.WithinCaps batch := by
  obtain ⟨-, within⟩ := tracks.filling
  have withinReady : source.ready.WithinCaps (source.inFlight.getD {}) := by
    rw [readyFrame, tracks.frame]
    exact ⟨within.count, within.bytes⟩
  have capped := fills.caps withinReady
  rw [fills.advances.frame, readyFrame, tracks.frame] at capped
  exact ⟨capped.count, capped.bytes⟩

/-- Built or topped up, the batch has entries. -/
private theorem filled_nonempty {batch : Batch} {more : List JournalEntry}
    (tracks : Tracks contract origin source done flight parked)
    (holds : batch.Holds ((flight ++ more).map origin.itemOf))
    (nonempty : source.inFlight = none → batch.entries ≠ []) : flight ++ more ≠ [] := by
  intro empty
  cases flying : source.inFlight with
  | none => exact nonempty flying (by rw [holds.entries, empty]; rfl)
  | some old => exact (tracks.flying old flying).2.1 (List.append_eq_nil_iff.mp empty).1

/-- A peek moves entries from the parked item and the journal to the batch. -/
theorem peek {callerHolds : Bool} {wakeups : Wakeups} {batch : Batch}
    (tracks : Tracks contract origin source done flight parked)
    (peeked : peekBatch callerHolds wakeups source = (next, .ok (.batch batch))) :
    ∃ more later, Tracks contract origin next done (flight ++ more) later ∧
      next.inFlight = some batch := by
  obtain ⟨middle, items, fills, isNext, nonempty, positions⟩ :=
    peekBatch_ok contract tracks.positioned peeked
  have readyFrame := ready_frame contract positions
  have sameItem : source.ready.itemOf = origin.itemOf := by
    rw [readyFrame, tracks.frame]
    rfl
  have samePending : source.ready.pending = source.pending := by rw [readyFrame]
  obtain ⟨moreRead, reads, leaves⟩ := fills.advances.reads tracks.reads
  -- The entries whose items went into the batch, and those that are parked now.
  rw [samePending, sameItem, tracks.parked, ← List.map_append] at leaves
  obtain ⟨more, later, split, isMore, isLater⟩ := List.map_eq_append_iff.mp leaves
  have holds : batch.Holds ((flight ++ more).map origin.itemOf) := by
    rw [fills.pushed, List.map_append, isMore]
    exact tracks.filling.1.pushAll items
  have frame : next = { origin with
      journal := next.journal
      lastAcked := next.lastAcked
      inFlight := next.inFlight
      positioned := true
      pending := next.pending } := by
    rw [isNext, fills.advances.frame, readyFrame, tracks.frame]
  have nextPositioned : next.positioned = true := by rw [frame]
  have nextFlying : next.inFlight = some batch := by rw [isNext]
  refine ⟨more, later, ?_, nextFlying⟩
  exact {
    frame := by rwa [nextPositioned]
    reads := by
      rw [ready_of_positioned nextPositioned, isNext]
      have regroup : done ++ (flight ++ more) ++ later = done ++ flight ++ parked ++ moreRead := by
        rw [List.append_assoc _ parked, split]
        simp
      rwa [regroup]
    parked := by rw [isNext, isLater]
    positioned := fun _ => nextPositioned
    idle := fun idle => absurd (nextFlying.symm.trans idle) nofun
    flying := fun other isOther => by
      obtain rfl := Option.some.inj (nextFlying.symm.trans isOther)
      exact ⟨holds, tracks.filled_nonempty holds nonempty,
        tracks.filled_within readyFrame fills⟩ }

/-- An ack moves the batch in flight to the entries that are done. -/
theorem ack {batch : Batch} (tracks : Tracks contract origin source done flight parked)
    (cursor : Cursor) (flying : source.inFlight = some batch) :
    Tracks contract origin { source with lastAcked := some cursor, inFlight := none }
      (done ++ flight) [] parked where
  frame := by rw [tracks.frame]
  reads := by
    have positioned := tracks.positioned (by rw [flying]; rfl)
    have reads := tracks.reads
    rw [ready_of_positioned positioned] at reads
    have nowReady : ready { source with lastAcked := some cursor, inFlight := none } =
        { source with lastAcked := some cursor, inFlight := none } :=
      ready_of_positioned positioned
    rw [nowReady, List.append_nil]
    exact reads
  parked := tracks.parked
  positioned := nofun
  idle _ := rfl
  flying := nofun

end Tracks

/-! ## Acking -/

/-- An ack changes the source exactly when the cursor has been saved. -/
theorem ack_eq (source : JournaldSource api) (tree : FileTree) (cursor : Cursor)
    (fault : Option Fault) :
    JournaldSource.ack cursor fault (source, tree) =
      match persistCursor fault tree source.cursorFile cursor with
      | (tree, .ok ()) =>
          (({ source with lastAcked := some cursor, inFlight := none }, tree), .ok ())
      | (tree, .error failure) => ((source, tree), .error failure) := by
  rcases saved : persistCursor fault tree source.cursorFile cursor with ⟨next, failure | ⟨⟩⟩
  · simp [JournaldSource.ack, bind, Stateful.get, Stateful.onPart, saved]
  · simp [JournaldSource.ack, bind, Stateful.get, Stateful.onPart, Stateful.modify, saved]

end JournaldSource

/-! ## A caller -/

inductive CallerEvent where
  | peek (callerHolds : Bool) (wakeups : Wakeups)
  | ack (fault : Option Fault)

/-- A source on its disk, and what its caller has got from it. -/
structure Caller (api : JournalApi) where
  source : JournaldSource api
  tree : FileTree
  /-- The batch that the last peek returned, until it is acked. -/
  returned : Option Batch
  /-- History: the entries of the batches acked. -/
  acked : List LogEntry

namespace Caller

def start (source : JournaldSource api) (tree : FileTree) : Caller api where
  source := source
  tree := tree
  returned := none
  acked := []

/-- A peek that still waits, or fails, is no step. Acked is the batch returned last,
by its end cursor. The disk may fail. -/
def step (caller : Caller api) : CallerEvent → Option (Caller api)
  | .peek callerHolds wakeups =>
      match JournaldSource.peekBatch callerHolds wakeups caller.source with
      | (source, .ok (.batch batch)) => some { caller with source, returned := some batch }
      | _ => none
  | .ack fault => do
      let batch ← caller.returned
      match JournaldSource.ack batch.endCursor fault (caller.source, caller.tree) with
      | ((source, tree), .ok ()) =>
          some { source, tree, returned := none, acked := caller.acked ++ batch.entries }
      | ((source, tree), .error _) => some { caller with source, tree }

def machine (api : JournalApi) : Machine (Caller api) CallerEvent where
  step := step

theorem step_peek {caller next : Caller api} {callerHolds : Bool} {wakeups : Wakeups}
    (stepped : caller.step (.peek callerHolds wakeups) = some next) :
    ∃ source batch, JournaldSource.peekBatch callerHolds wakeups caller.source =
        (source, .ok (.batch batch)) ∧
      next = { caller with source, returned := some batch } := by
  unfold step at stepped
  simp only at stepped
  split at stepped
  · rename_i source batch peeked
    exact ⟨source, batch, peeked, (Option.some.inj stepped).symm⟩
  · cases stepped

/-- An ack changes the disk, and if it succeeds also the rest. -/
theorem step_ack {caller next : Caller api} {fault : Option Fault}
    (stepped : caller.step (.ack fault) = some next) :
    ∃ batch tree, caller.returned = some batch ∧ (next = { caller with tree } ∨ next = {
      source := { caller.source with lastAcked := some batch.endCursor, inFlight := none }
      tree
      returned := none
      acked := caller.acked ++ batch.entries }) := by
  unfold step at stepped
  rcases Option.bind_eq_some_iff.mp stepped with ⟨batch, returned, stepped⟩
  rw [JournaldSource.ack_eq] at stepped
  split at stepped
  · rename_i called
    split at called
    · cases called
      exact ⟨batch, _, returned, Or.inr (Option.some.inj stepped).symm⟩
    · cases called
  · rename_i called
    split at called
    · cases called
    · cases called
      exact ⟨batch, _, returned, Or.inl (Option.some.inj stepped).symm⟩

/-- The caller has acked the entries that are done. -/
structure Accounted (contract : JournalContract api) (origin : JournaldSource api)
    (caller : Caller api) (done flight parked : List JournalEntry) : Prop where
  tracks : JournaldSource.Tracks contract origin caller.source done flight parked
  returned : caller.returned = caller.source.inFlight
  acked : caller.acked = done.map origin.toEntry

namespace Accounted

variable {contract : JournalContract api} {origin : JournaldSource api} {caller next : Caller api}
  {done flight parked : List JournalEntry}

theorem peek (accounted : Accounted contract origin caller done flight parked)
    {callerHolds : Bool} {wakeups : Wakeups}
    (stepped : caller.step (.peek callerHolds wakeups) = some next) :
    ∃ more later, Accounted contract origin next done (flight ++ more) later := by
  rcases step_peek stepped with ⟨source, batch, peeked, rfl⟩
  rcases accounted.tracks.peek peeked with ⟨more, later, tracks, flying⟩
  exact ⟨more, later, tracks, flying.symm, accounted.acked⟩

theorem ack (accounted : Accounted contract origin caller done flight parked)
    {fault : Option Fault} (stepped : caller.step (.ack fault) = some next) :
    Accounted contract origin next done flight parked ∨
      Accounted contract origin next (done ++ flight) [] parked := by
  rcases step_ack stepped with ⟨batch, tree, returned, rfl | rfl⟩
  · exact Or.inl ⟨accounted.tracks, accounted.returned, accounted.acked⟩
  · have flying := accounted.returned.symm.trans returned
    refine Or.inr ⟨accounted.tracks.ack _ flying, rfl, ?_⟩
    rw [accounted.acked, accounted.tracks.entries flying, List.map_append]

theorem step {caller : Caller api} {event : CallerEvent} {next : Caller api}
    (accounted : ∃ done flight parked, Accounted contract origin caller done flight parked)
    (stepped : caller.step event = some next) :
    ∃ done flight parked, Accounted contract origin next done flight parked := by
  obtain ⟨done, flight, parked, accounted⟩ := accounted
  cases event with
  | peek callerHolds wakeups =>
      obtain ⟨more, later, accounted⟩ := accounted.peek stepped
      exact ⟨_, _, _, accounted⟩
  | ack fault =>
      rcases accounted.ack stepped with kept | moved
      · exact ⟨_, _, _, kept⟩
      · exact ⟨_, _, _, moved⟩

end Accounted

/-- The batch returned is as promised, and what has been acked, what is in flight and
what is parked are all that has been read since the source positioned itself. -/
def InOrder (contract : JournalContract api) (origin : JournaldSource api)
    (caller : Caller api) : Prop :=
  ∃ acked flight parked,
    Reads contract (contract.location origin.ready.journal) (acked ++ flight ++ parked)
      caller.source.ready.journal ∧
    OrderedLog.Sorted JournalEntry.position (acked ++ flight ++ parked) ∧
    caller.acked = acked.map origin.toEntry ∧
    caller.source.inFlight.elim [] Batch.entries = flight.map origin.toEntry ∧
    caller.source.pending.toList = parked.map origin.itemOf ∧
    ∀ batch ∈ caller.returned, origin.Promises flight batch

theorem Accounted.inOrder {contract : JournalContract api} {origin : JournaldSource api}
    {caller : Caller api} {done flight parked : List JournalEntry}
    (accounted : Accounted contract origin caller done flight parked) :
    InOrder contract origin caller := by
  have tracks := accounted.tracks
  refine ⟨done, flight, parked, tracks.reads, ?_, accounted.acked, tracks.flying_entries,
    tracks.parked, ?_⟩
  · exact ((contract.sorted _).sublist (OrderedLog.upcoming_sublist _ _)).sublist
      tracks.reads.available.sublist
  · intro batch returned
    exact tracks.promises (accounted.returned.symm.trans returned)

/-- Whatever a caller does, in whatever order, nothing gets lost, repeated or too large. -/
theorem peeks_run_accounted (contract : JournalContract api) {origin : JournaldSource api}
    (fresh : origin.Fresh) {tree : FileTree} {events : List CallerEvent} {caller : Caller api}
    (ran : (machine api).run (start origin tree) events = some caller) :
    InOrder contract origin caller := by
  have start : ∃ done flight parked,
      Accounted contract origin (start origin tree) done flight parked :=
    ⟨[], [], [], JournaldSource.Tracks.start contract fresh.inFlight fresh.pending,
      fresh.inFlight.symm, rfl⟩
  obtain ⟨done, flight, parked, accounted⟩ :=
    (machine api).run_invariant (@Accounted.step _ contract origin) start ran
  exact accounted.inOrder

/-- Two entries fit into a batch, and the cursor file is still to be made. -/
def sampleSource (journal : MemoryJournal) : JournaldSource MemoryJournal.api where
  name := "journald"
  journal := journal
  cursorFile := Path.ofString "/state/journal.cursor"
  lastAcked := none
  inFlight := none
  positioned := false
  batchSize := 3
  batchMaxBytes := 40
  pending := none
  batchWait := 5
  labelsMap := .empty
  staticLabels := .empty
  metadataMap := .empty

/-- The wait for more ends with the timer. -/
def timer : Wakeups where
  window := [{ now := 1, readable := none }]

/-- The third entry is parked, by the first peek and again by the top-up. -/
def parkingEvents : List CallerEvent :=
  [.peek false timer, .peek false {}, .ack none, .peek false timer]

theorem peeks_run_accounted_parked :
    ∃ caller, (machine MemoryJournal.api).run
        (start (sampleSource (.sample 1 [0, 0, 4])) FileTree.empty) parkingEvents = some caller ∧
      caller.acked.map LogEntry.message = ["b", "c"] ∧
      InOrder MemoryJournal.contract (sampleSource (.sample 1 [0, 0, 4])) caller := by
  have ends : ((machine MemoryJournal.api).run
        (start (sampleSource (.sample 1 [0, 0, 4])) FileTree.empty) parkingEvents).map
      (fun caller => caller.acked.map LogEntry.message) = some ["b", "c"] := by
    decide +kernel
  obtain ⟨caller, ran, acked⟩ := Option.map_eq_some_iff.mp ends
  exact ⟨caller, ran, acked, peeks_run_accounted MemoryJournal.contract ⟨rfl, rfl, rfl⟩ ran⟩

end Caller

end Ferrometer.Log
