import Ferrometer.Log.Source.Failing

/-!
Contract: what is lost when a peek fails.

Owns: the machine of a caller that goes on after a peek has failed, how many entries
its source has passed over without handing them out, and for which runs that is none.

Does not own: what a shipper does about the error.
-/

set_option autoImplicit false

namespace Ferrometer.Log

open Ferrometer.Foundation

variable {api : JournalApi}

namespace JournaldSource.Tracks

variable {contract : JournalContract api} {origin source next : JournaldSource api}
  {done flight parked : List JournalEntry}

/-- A peek that fails leaves the batch behind, and whatever it has read. -/
theorem fails {lost : List (LogEntry × Cursor)}
    (tracks : Tracks contract origin source done flight parked)
    (positions : source.positioned = false → (positionToStart source).2 = .ok ())
    (advances : Advances contract { source.ready with inFlight := none } next lost) :
    ∃ gone later, gone.map origin.itemOf = lost ∧
      Tracks contract origin next (done ++ flight ++ gone) [] later := by
  have readyFrame := ready_frame contract positions
  have sameItem : itemOf { source.ready with inFlight := none } = origin.itemOf := by
    rw [readyFrame, tracks.frame]
    rfl
  have samePending : source.ready.pending = source.pending := by rw [readyFrame]
  rcases advances.reads tracks.reads with ⟨moreRead, reads, leaves⟩
  rw [samePending, sameItem, tracks.parked, ← List.map_append] at leaves
  rcases List.map_eq_append_iff.mp leaves with ⟨gone, later, split, isGone, isLater⟩
  have frame : next = { origin with
      journal := next.journal
      lastAcked := next.lastAcked
      inFlight := none
      positioned := true
      pending := next.pending } := by
    rw [advances.frame, readyFrame, tracks.frame]
  have nextPositioned : next.positioned = true := by rw [frame]
  have nextIdle : next.inFlight = none := by rw [frame]
  refine ⟨gone, later, isGone, ?_⟩
  exact {
    frame := by rwa [nextPositioned, nextIdle]
    reads := by
      rw [ready_of_positioned nextPositioned]
      have regroup : done ++ flight ++ gone ++ [] ++ later =
          done ++ flight ++ parked ++ moreRead := by
        rw [List.append_assoc _ parked, split]
        simp
      rwa [regroup]
    parked := isLater.symm
    positioned := fun _ => nextPositioned
    idle := fun _ => rfl
    flying := fun batch flying => by cases nextIdle.symm.trans flying }

end JournaldSource.Tracks

namespace Caller

open JournaldSource

/-- A peek that fails, of a source that could position itself. -/
def fail (caller : Caller api) : CallerEvent → Option (Caller api)
  | .peek callerHolds wakeups =>
      match peekBatch callerHolds wakeups caller.source with
      | (source, .error _) =>
          if caller.source.positioned || (positionToStart caller.source).2.isOk then
            some { caller with source, returned := none }
          else none
      | _ => none
  | .ack _ => none

/-- The caller goes on after a failure, and may peek again. -/
def failingMachine (api : JournalApi) : Machine (Caller api) CallerEvent where
  step caller event := caller.step event <|> caller.fail event

/-- If the event is a peek that fails, it does so with nothing in hand. -/
def Harmless (contract : JournalContract api) (caller : Caller api) : CallerEvent → Prop
  | .peek callerHolds wakeups => ∀ source failure,
      peekBatch callerHolds wakeups caller.source = (source, .error failure) →
      caller.source.inFlight = none ∧
        FailsIdle contract wakeups.first caller.source.ready
  | .ack _ => True

theorem fail_cases {caller next : Caller api} {event : CallerEvent}
    (failed : caller.fail event = some next) :
    ∃ callerHolds wakeups source failure, event = .peek callerHolds wakeups ∧
      peekBatch callerHolds wakeups caller.source = (source, .error failure) ∧
      next = { caller with source, returned := none } ∧
      (caller.source.positioned = false → (positionToStart caller.source).2 = .ok ()) := by
  cases event with
  | ack fault => cases failed
  | peek callerHolds wakeups =>
      unfold fail at failed
      simp only at failed
      split at failed
      · rename_i source failure peeked
        split at failed
        · rename_i positions
          refine ⟨callerHolds, wakeups, source, failure, rfl, peeked,
            (Option.some.inj failed).symm, fun unpositioned => ?_⟩
          rw [unpositioned, Bool.false_or] at positions
          cases outcome : (positionToStart caller.source).2 with
          | ok => rfl
          | error message =>
              rw [outcome] at positions
              cases positions
        · cases failed
      · cases failed

/-- `left` are the entries that the source will not hand out any more. All but `lost`
of them have been acked. -/
structure Lags (contract : JournalContract api) (origin : JournaldSource api)
    (caller : Caller api) (left flight parked : List JournalEntry) (lost : Nat) : Prop where
  tracks : Tracks contract origin caller.source left flight parked
  returned : caller.returned = caller.source.inFlight
  acked : caller.acked.Sublist (left.map origin.toEntry)
  count : left.length = caller.acked.length + lost

namespace Lags

variable {contract : JournalContract api} {origin : JournaldSource api} {caller next : Caller api}
  {left flight parked : List JournalEntry} {lost : Nat}

/-- A step that succeeds loses nothing. -/
theorem step {event : CallerEvent} (lags : Lags contract origin caller left flight parked lost)
    (stepped : caller.step event = some next) :
    ∃ left flight parked, Lags contract origin next left flight parked lost := by
  cases event with
  | peek callerHolds wakeups =>
      rcases step_peek stepped with ⟨source, batch, peeked, rfl⟩
      rcases lags.tracks.peek peeked with ⟨more, later, tracks, flying⟩
      exact ⟨left, flight ++ more, later, tracks, flying.symm, lags.acked, lags.count⟩
  | ack fault =>
      rcases step_ack stepped with ⟨batch, tree, returned, rfl | rfl⟩
      · exact ⟨left, flight, parked, lags.tracks, lags.returned, lags.acked, lags.count⟩
      · have flying := lags.returned.symm.trans returned
        have entries := lags.tracks.entries flying
        refine ⟨left ++ flight, [], parked, lags.tracks.ack _ flying, rfl, ?_, ?_⟩
        · rw [List.map_append, entries]
          exact lags.acked.append (List.Sublist.refl _)
        · have count := lags.count
          simp only [List.length_append, entries, List.length_map]
          omega

/-- A peek that fails loses what was in flight, and what it has read. -/
private theorem lose {source : JournaldSource api} {gone later : List JournalEntry}
    (lags : Lags contract origin caller left flight parked lost)
    (tracks : Tracks contract origin source (left ++ flight ++ gone) [] later)
    (idle : source.inFlight = none) :
    Lags contract origin { caller with source, returned := none } (left ++ flight ++ gone) [] later
      (lost + (flight.length + gone.length)) where
  tracks := tracks
  returned := idle.symm
  acked := by
    rw [List.append_assoc, List.map_append]
    exact lags.acked.trans (List.sublist_append_left _ _)
  count := by
    have count := lags.count
    simp only [List.length_append]
    omega

private theorem idle_of_advances {source : JournaldSource api} {lost : List (LogEntry × Cursor)}
    (advances : Advances contract { caller.source.ready with inFlight := none } source lost) :
    source.inFlight = none := by
  rw [advances.frame]

/-- A peek that fails loses nothing just when it is harmless. -/
theorem fail (steps : StepsOrStays contract) {event : CallerEvent}
    (lags : Lags contract origin caller left flight parked lost)
    (failed : caller.fail event = some next) :
    ∃ left flight parked more, Lags contract origin next left flight parked (lost + more) ∧
      (more = 0 ↔ Harmless contract caller event) := by
  rcases fail_cases failed with
    ⟨callerHolds, wakeups, source, failure, rfl, peeked, rfl, positions⟩
  by_cases harmless : Harmless contract caller (.peek callerHolds wakeups)
  · rcases harmless source failure peeked with ⟨idle, fails⟩
    rcases peekBatch_failsIdle callerHolds idle positions fails with
      ⟨other, _, failsHere, advances⟩
    cases peeked.symm.trans failsHere
    rw [← ready_idle contract idle positions] at advances
    rcases lags.tracks.fails positions advances with ⟨gone, later, isGone, tracks⟩
    refine ⟨_, _, _, _, lags.lose tracks (idle_of_advances advances), iff_of_true ?_ harmless⟩
    rw [lags.tracks.idle idle, List.map_eq_nil_iff.mp isGone]
    rfl
  · rcases peekBatch_error steps lags.tracks.positioned positions peeked with
      ⟨items, advances, fails⟩
    rcases lags.tracks.fails positions advances with ⟨gone, later, isGone, tracks⟩
    refine ⟨_, _, _, _, lags.lose tracks (idle_of_advances advances),
      iff_of_false (fun nothing => harmless ?_) harmless⟩
    have noFlight : flight = [] := List.length_eq_zero_iff.mp (by omega)
    have noneGone : gone = [] := List.length_eq_zero_iff.mp (by omega)
    have idle : caller.source.inFlight = none := by
      cases flying : caller.source.inFlight with
      | none => rfl
      | some batch => exact absurd noFlight (lags.tracks.flying batch flying).2.1
    have noItems : items = [] := by
      rw [← isGone, noneGone]
      rfl
    intro _ _ _
    exact ⟨idle, fails idle noItems⟩

/-- Nothing is overtaken just when nothing is lost. -/
theorem inOrder_iff (lags : Lags contract origin caller left flight parked lost) :
    InOrder contract origin caller ↔ lost = 0 := by
  have count := lags.count
  constructor
  · rintro ⟨acked, flying, waiting, reads, -, isAcked, isFlying, isWaiting, -⟩
    have tracked := lags.tracks.reads
    have same := OrderedLog.eq_of_after_eq (contract.sorted _) tracked.available reads.available
      (tracked.location.symm.trans reads.location)
    have sameLength := congrArg List.length same
    have ackedLength := congrArg List.length isAcked
    have flyingLength := congrArg List.length (isFlying.symm.trans lags.tracks.flying_entries)
    have waitingLength := congrArg List.length (isWaiting.symm.trans lags.tracks.parked)
    simp only [List.length_append, List.length_map] at *
    omega
  · intro none
    have whole : caller.acked = left.map origin.toEntry := by
      apply lags.acked.eq_of_length
      rw [List.length_map]
      omega
    exact Accounted.inOrder ⟨lags.tracks, lags.returned, whole⟩

end Lags

/-- The source has passed over so many entries without handing them out. -/
def HasLost (contract : JournalContract api) (origin : JournaldSource api) (caller : Caller api)
    (lost : Nat) : Prop :=
  ∃ left flight parked, Lags contract origin caller left flight parked lost

private theorem harmless_of_step {contract : JournalContract api} {caller next : Caller api}
    {event : CallerEvent} (stepped : caller.step event = some next) :
    Harmless contract caller event := by
  cases event with
  | ack fault => trivial
  | peek callerHolds wakeups =>
      intro source failure failed
      rcases step_peek stepped with ⟨_, _, peeked, -⟩
      cases peeked.symm.trans failed

private theorem hasLost_step {contract : JournalContract api} (steps : StepsOrStays contract)
    {origin : JournaldSource api} {caller next : Caller api} {event : CallerEvent} {lost : Nat}
    (hasLost : HasLost contract origin caller lost)
    (stepped : (failingMachine api).step caller event = some next) :
    ∃ more, HasLost contract origin next (lost + more) ∧
      (more = 0 ↔ Harmless contract caller event) := by
  rcases hasLost with ⟨left, flight, parked, lags⟩
  cases succeeded : caller.step event with
  | some other =>
      simp only [failingMachine, succeeded] at stepped
      cases stepped
      exact ⟨0, lags.step succeeded, iff_of_true rfl (harmless_of_step succeeded)⟩
  | none =>
      simp only [failingMachine, succeeded] at stepped
      rcases lags.fail steps stepped with ⟨left, flight, parked, more, later, harmless⟩
      exact ⟨more, ⟨left, flight, parked, later⟩, harmless⟩

/-- A run with failures keeps what it has read in order, so that a later peek returns the
first entries not acked, just when every peek of it that fails has nothing in hand. -/
theorem failing_run_inOrder_iff (contract : JournalContract api) (steps : StepsOrStays contract)
    {origin : JournaldSource api} (fresh : origin.Fresh) {tree : FileTree}
    {events : List CallerEvent} {caller : Caller api}
    (ran : (failingMachine api).run (start origin tree) events = some caller) :
    InOrder contract origin caller ↔
      (failingMachine api).Along (Harmless contract) (start origin tree) events := by
  have begins : HasLost contract origin (start origin tree) 0 :=
    ⟨[], [], [], Tracks.start contract fresh.inFlight fresh.pending, fresh.inFlight.symm,
      List.Sublist.refl _, rfl⟩
  rcases (failingMachine api).run_count_iff_along (hasLost_step steps) begins ran with
    ⟨lost, ⟨left, flight, parked, lags⟩, harmless⟩
  rw [lags.inOrder_iff, Nat.zero_add]
  exact harmless

end Caller

/-! ## A journal that fails -/

/-- What a call has come to, of a journal with so many failures ahead. -/
def withFailures {Value : Type} (called : api.Handle × Value) (failures : List Bool) :
    (api.Handle × List Bool) × Value :=
  ((called.1, failures), called.2)

/-- The first of `failures` says whether this read fails. It then leaves the pointer where
it is. -/
def flakyNextEntry (handle : api.Handle × List Bool) :
    (api.Handle × List Bool) × Except String (Option JournalRecord) :=
  if handle.2.headD false then ((handle.1, handle.2.tail), .error "unreadable")
  else withFailures (api.nextEntry handle.1) handle.2.tail

/-- The journal, but for reads that fail. -/
def JournalApi.flaky (api : JournalApi) : JournalApi where
  Handle := api.Handle × List Bool
  seekCursor handle cursor := withFailures (api.seekCursor handle.1 cursor) handle.2
  seekTail handle := withFailures (api.seekTail handle.1) handle.2
  next handle := withFailures (api.next handle.1) handle.2
  previous handle := withFailures (api.previous handle.1) handle.2
  nextEntry := flakyNextEntry
  cursor handle := api.cursor handle.1
  timestamp handle := api.timestamp handle.1
  process handle := withFailures (api.process handle.1) handle.2

private theorem of_withFailures {Value : Type} {called : api.Handle × Value}
    {failures : List Bool} {after : api.Handle × List Bool} {outcome : Value}
    (same : withFailures called failures = (after, outcome)) : called = (after.1, outcome) := by
  cases same
  rfl

private theorem flakyNextEntry_cases {handle after : api.Handle × List Bool}
    {outcome : Except String (Option JournalRecord)}
    (called : flakyNextEntry handle = (after, outcome)) :
    (after.1 = handle.1 ∧ outcome = .error "unreadable") ∨
      api.nextEntry handle.1 = (after.1, outcome) := by
  unfold flakyNextEntry at called
  split at called
  · cases called
    exact Or.inl ⟨rfl, rfl⟩
  · exact Or.inr (of_withFailures called)

private theorem flakyNextEntry_grows (contract : JournalContract api)
    (handle : api.Handle × List Bool) :
    contract.entries handle.1 <+: contract.entries (flakyNextEntry handle).1.1 := by
  unfold flakyNextEntry
  split
  · exact List.prefix_refl _
  · exact contract.nextEntry_grows handle.1

def JournalContract.flaky (contract : JournalContract api) : JournalContract api.flaky where
  entries handle := contract.entries handle.1
  location handle := contract.location handle.1
  positionOf := contract.positionOf
  sorted handle := contract.sorted handle.1
  cursors handle := contract.cursors handle.1
  seekCursor_grows handle := contract.seekCursor_grows handle.1
  seekTail_grows handle := contract.seekTail_grows handle.1
  next_grows handle := contract.next_grows handle.1
  previous_grows handle := contract.previous_grows handle.1
  nextEntry_grows := flakyNextEntry_grows contract
  process_grows handle := contract.process_grows handle.1
  seekCursor_ok handle cursor after called :=
    contract.seekCursor_ok handle.1 cursor after.1 (of_withFailures called)
  seekTail_ok handle after called :=
    contract.seekTail_ok handle.1 after.1 (of_withFailures called)
  next_ok handle after moved called :=
    contract.next_ok handle.1 after.1 moved (of_withFailures called)
  previous_ok handle after moved called :=
    contract.previous_ok handle.1 after.1 moved (of_withFailures called)
  nextEntry_ok handle after record called := by
    rcases flakyNextEntry_cases called with ⟨-, failed⟩ | called
    · cases failed
    · exact contract.nextEntry_ok handle.1 after.1 record called
  cursor_ok handle := contract.cursor_ok handle.1
  timestamp_ok handle := contract.timestamp_ok handle.1
  process_stays handle := contract.process_stays handle.1

theorem StepsOrStays.flaky {contract : JournalContract api} (steps : StepsOrStays contract) :
    StepsOrStays contract.flaky := by
  intro handle after message called
  rcases flakyNextEntry_cases called with ⟨same, -⟩ | called
  · exact Or.inl (congrArg contract.location same)
  · exact steps handle.1 after.1 message called

/-- It does not fail. -/
theorem MemoryJournal.stepsOrStays : StepsOrStays MemoryJournal.contract := by
  intro handle after message called
  cases called

namespace Caller

open JournaldSource

/-- As in `sampleSource`, but these reads fail. -/
def flakySource (journal : MemoryJournal) (failures : List Bool) :
    JournaldSource MemoryJournal.api.flaky where
  name := "journald"
  journal := (journal, failures)
  cursorFile := Path.ofString "/state/journal.cursor"
  lastAcked := none
  inFlight := none
  positioned := false
  batchSize := 3
  batchMaxBytes := 40
  pending := none
  batchWait := 5
  labelsMap := .empty
  staticLabels := .empty
  metadataMap := .empty

/-- The first peek cannot read, the second one can. -/
def unreadableFirst : List CallerEvent :=
  [.peek false {}, .peek false timer, .ack none]

theorem failing_run_inOrder_iff_unreadable :
    ∃ caller, (failingMachine MemoryJournal.api.flaky).run
        (start (flakySource (.sample 1 [0, 0, 4]) [true]) FileTree.empty) unreadableFirst =
        some caller ∧
      caller.acked.map LogEntry.message = ["b", "c"] ∧
      (InOrder MemoryJournal.contract.flaky (flakySource (.sample 1 [0, 0, 4]) [true]) caller ↔
        (failingMachine MemoryJournal.api.flaky).Along (Harmless MemoryJournal.contract.flaky)
          (start (flakySource (.sample 1 [0, 0, 4]) [true]) FileTree.empty) unreadableFirst) := by
  have ends : ((failingMachine MemoryJournal.api.flaky).run
        (start (flakySource (.sample 1 [0, 0, 4]) [true]) FileTree.empty) unreadableFirst).map
      (fun caller => caller.acked.map LogEntry.message) = some ["b", "c"] := by
    decide +kernel
  rcases Option.map_eq_some_iff.mp ends with ⟨caller, ran, acked⟩
  exact ⟨caller, ran, acked, failing_run_inOrder_iff MemoryJournal.contract.flaky
    MemoryJournal.stepsOrStays.flaky ⟨rfl, rfl, rfl⟩ ran⟩

/-- The third read fails, which is that of the top-up. -/
def toppedUp : JournaldSource MemoryJournal.api.flaky :=
  flakySource (.sample 1 [0, 0, 1, 0, 1]) [false, false, true]

/-- The batch in flight, and after the failure the one with the next entry, which is acked. -/
theorem topUp_overtaken :
    ∃ first last,
      (failingMachine MemoryJournal.api.flaky).run (start toppedUp FileTree.empty)
        [.peek false timer] = some first ∧
      (failingMachine MemoryJournal.api.flaky).run (start toppedUp FileTree.empty)
        [.peek false timer, .peek false timer, .peek false timer, .ack none] = some last ∧
      first.returned.map (fun batch => batch.entries.map LogEntry.message) = some ["b"] ∧
      last.acked.map LogEntry.message = ["c"] ∧
      ¬ InOrder MemoryJournal.contract.flaky toppedUp last := by
  have begins : ((failingMachine MemoryJournal.api.flaky).run (start toppedUp FileTree.empty)
      [.peek false timer]).map
        (fun caller => caller.returned.map fun batch => batch.entries.map LogEntry.message) =
      some (some ["b"]) := by
    decide +kernel
  have ends : ((failingMachine MemoryJournal.api.flaky).run (start toppedUp FileTree.empty)
      [.peek false timer, .peek false timer, .peek false timer, .ack none]).map
        (fun caller => (caller.acked.map LogEntry.message,
          (upcoming (MemoryJournal.contract.flaky.location toppedUp.ready.journal)
            (MemoryJournal.contract.flaky.entries caller.source.ready.journal)).head?.map
              fun entry => (toppedUp.toEntry entry).message)) =
      some (["c"], some "b") := by
    decide +kernel
  rcases Option.map_eq_some_iff.mp begins with ⟨first, ranFirst, returned⟩
  rcases Option.map_eq_some_iff.mp ends with ⟨last, ranLast, facts⟩
  rcases Prod.mk.inj facts with ⟨acked, ahead⟩
  refine ⟨first, last, ranFirst, ranLast, returned, acked, ?_⟩
  rintro ⟨done, flight, parked, reads, -, isAcked, -⟩
  rw [isAcked, List.map_map] at acked
  cases done with
  | nil => cases acked
  | cons entry rest =>
      rcases reads.available with ⟨behind, split⟩
      rw [← split] at ahead
      have isFirst : (toppedUp.toEntry entry).message = "b" := by simpa using ahead
      have isAcked : (toppedUp.toEntry entry).message = "c" := (List.cons.inj acked).1
      rw [isFirst] at isAcked
      exact absurd isAcked (by decide)

end Caller

end Ferrometer.Log
