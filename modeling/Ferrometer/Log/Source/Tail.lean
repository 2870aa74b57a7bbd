import Ferrometer.Log.Source.Caps

/-!
Contract: where a source starts that has no cursor to go by.

Owns: what a caller has got from a source and will still get, that a source without a
saved cursor returns what is appended after its start, and that one whose saved cursor
cannot be sought returns nothing.

Does not own: which cursors can be sought.
-/

set_option autoImplicit false

namespace Ferrometer.Log

open Ferrometer.Foundation

variable {api : JournalApi}

namespace JournaldSource

section Waiting

variable (contract : JournalContract api) {source next : JournaldSource api}

/-- While there is no entry, nothing is taken. -/
theorem awaitFirst_waits {readable : List (Except String Unit)}
    (waits : awaitFirst readable {} source = (next, .ok none)) :
    Advances contract source next [] := by
  induction readable generalizing source with
  | nil =>
      rcases Stateful.pure_eq_ok.mp waits with ⟨rfl, -⟩
      exact Advances.refl contract source
  | cons event rest inductionHypothesis =>
      rw [awaitFirst_cons] at waits
      rcases Stateful.bind_eq_ok.mp waits with ⟨woken, _, woke, waits⟩
      rcases Stateful.bind_eq_ok.mp waits with ⟨middle, batch, drained, waits⟩
      by_cases empty : batch.entries = []
      · rcases drainAvailable_unfilled contract drained empty with ⟨rfl, advances⟩
        exact ((waitForJournalEvent_ok contract woke).trans advances).trans
          (inductionHypothesis waits)
      · rw [awaitFirst_filled rest empty] at waits
        cases (Stateful.pure_eq_ok.mp waits).2

theorem firstEntries_waits {readable : List (Except String Unit)}
    (waits : firstEntries readable source = (next, .ok none)) :
    Advances contract source next [] := by
  unfold firstEntries at waits
  rcases Stateful.bind_eq_ok.mp waits with ⟨middle, batch, drained, waits⟩
  by_cases empty : batch.entries = []
  · rcases drainAvailable_unfilled contract drained empty with ⟨rfl, advances⟩
    exact advances.trans (awaitFirst_waits contract waits)
  · rw [awaitFirst_filled readable empty] at waits
    cases (Stateful.pure_eq_ok.mp waits).2

end Waiting

/-- A peek has positioned the source and is waiting for a first entry. -/
def Waits (source next : JournaldSource api) : Prop :=
  source.inFlight = none ∧
    (source.positioned = false → (positionToStart source).2 = .ok ()) ∧
    ∃ readable, firstEntries readable source.ready = (next, .ok none)

variable {contract : JournalContract api} {origin source next : JournaldSource api}
  {done flight parked : List JournalEntry}

/-- What was to be read is still to be read. -/
theorem Tracks.waits (tracks : Tracks contract origin source done flight parked)
    (waiting : Waits source next) :
    ∃ later, Tracks contract origin next done flight later ∧ next.inFlight = none := by
  rcases waiting with ⟨idle, positions, readable, waits⟩
  have readyFrame := ready_frame contract positions
  have advances := firstEntries_waits contract waits
  have sameItem : source.ready.itemOf = origin.itemOf := by
    rw [readyFrame, tracks.frame]
    rfl
  rcases advances.reads tracks.reads with ⟨more, reads, items⟩
  have samePending : source.ready.pending = source.pending := by rw [readyFrame]
  rw [samePending, sameItem, tracks.parked, ← List.map_append, List.nil_append] at items
  have frame : next = { origin with
      journal := next.journal
      lastAcked := next.lastAcked
      inFlight := next.inFlight
      positioned := true
      pending := next.pending } := by
    rw [advances.frame, readyFrame, tracks.frame]
  have nextPositioned : next.positioned = true := by rw [frame]
  have nextIdle : next.inFlight = none := by rw [advances.frame, readyFrame, idle]
  refine ⟨parked ++ more, ?_, nextIdle⟩
  exact {
    frame := by rwa [nextPositioned]
    reads := by
      rw [ready_of_positioned nextPositioned, ← List.append_assoc]
      exact reads
    parked := items.symm
    positioned := fun _ => nextPositioned
    idle := fun _ => tracks.idle idle
    flying := by simp [nextIdle] }

/-- What there was is there. -/
theorem Waits.grows (contract : JournalContract api) (waiting : Waits source next) :
    contract.entries source.ready.journal <+: contract.entries next.ready.journal := by
  rcases waiting with ⟨_, positions, readable, waits⟩
  have advances := firstEntries_waits contract waits
  have nextPositioned : next.positioned = true := by
    rw [advances.frame, ready_frame contract positions]
  rw [ready_of_positioned nextPositioned]
  exact advances.grows

end JournaldSource

namespace Caller

open JournaldSource

/-- A caller at rest, or one that waits for a first entry. -/
inductive Reaches (origin : JournaldSource api) (tree : FileTree) : Caller api → Prop where
  | rests {events : List CallerEvent} {caller : Caller api}
      (ran : (machine api).run (start origin tree) events = some caller) :
      Reaches origin tree caller
  | waits {events : List CallerEvent} {caller : Caller api} {source : JournaldSource api}
      (ran : (machine api).run (start origin tree) events = some caller)
      (waiting : Waits caller.source source) : Reaches origin tree { caller with source }

/-- Where the entries are, and that the journal has what it had at the start. -/
def Stands (contract : JournalContract api) (origin : JournaldSource api) (caller : Caller api) :
    Prop :=
  (∃ done flight parked, Accounted contract origin caller done flight parked) ∧
    contract.entries origin.ready.journal <+: contract.entries caller.source.ready.journal

section Stands

variable {contract : JournalContract api} {origin : JournaldSource api} {caller next : Caller api}

theorem Stands.start (contract : JournalContract api) (fresh : origin.Fresh) (tree : FileTree) :
    Stands contract origin (start origin tree) :=
  ⟨⟨[], [], [], Tracks.start contract fresh.inFlight fresh.pending, fresh.inFlight.symm, rfl⟩,
    List.prefix_refl _⟩

/-- A peek and an ack leave a source that is positioned, with the journal it had or more. -/
theorem Stands.step {event : CallerEvent} (stands : Stands contract origin caller)
    (stepped : caller.step event = some next) : Stands contract origin next := by
  rcases stands with ⟨accounted, grown⟩
  refine ⟨Accounted.step accounted stepped, grown.trans ?_⟩
  rcases accounted with ⟨done, flight, parked, accounted⟩
  cases event with
  | peek callerHolds wakeups =>
      rcases step_peek stepped with ⟨source, batch, peeked, rfl⟩
      rcases peekBatch_ok contract accounted.tracks.positioned peeked with
        ⟨middle, items, fills, isNext, -, positions⟩
      have nextPositioned : source.positioned = true := by
        rw [isNext, fills.advances.frame, ready_frame contract positions]
      rw [ready_of_positioned nextPositioned, isNext]
      exact fills.advances.grows
  | ack fault =>
      rcases step_ack stepped with ⟨batch, tree, returned, rfl | rfl⟩
      · exact List.prefix_refl _
      · have flying := accounted.returned.symm.trans returned
        have positioned := accounted.tracks.positioned (by rw [flying]; rfl)
        have nextPositioned : JournaldSource.positioned
            { caller.source with lastAcked := some batch.endCursor, inFlight := none } = true :=
          positioned
        rw [ready_of_positioned positioned, ready_of_positioned nextPositioned]

theorem Reaches.stands {tree : FileTree} (fresh : origin.Fresh)
    (reaches : Reaches origin tree caller) : Stands contract origin caller := by
  have run : ∀ {events caller}, (machine api).run (start origin tree) events = some caller →
      Stands contract origin caller := fun ran =>
    (machine api).run_invariant (fun stands stepped => Stands.step stands stepped)
      (Stands.start contract fresh tree) ran
  cases reaches with
  | rests ran => exact run ran
  | waits ran waiting =>
      rcases run ran with ⟨⟨done, flight, parked, accounted⟩, grown⟩
      rcases accounted.tracks.waits waiting with ⟨later, tracks, nextIdle⟩
      have returned := accounted.returned.trans (waiting.1.trans nextIdle.symm)
      exact ⟨⟨done, flight, later, tracks, returned, accounted.acked⟩,
        grown.trans (waiting.grows contract)⟩

end Stands

/-! ## What is returned -/

/-- What the caller has got, and what it will still get of the entries that the journal
has, in this order. -/
def returns (contract : JournalContract api) (caller : Caller api) : List LogEntry :=
  caller.acked ++ caller.source.inFlight.elim [] Batch.entries ++
    (caller.source.pending.toList.map Prod.fst ++
      (upcoming (contract.location caller.source.ready.journal)
        (contract.entries caller.source.ready.journal)).map caller.source.toEntry)

/-- What has been appended since the source positioned itself. -/
def appended (contract : JournalContract api) (origin : JournaldSource api)
    (caller : Caller api) : List JournalEntry :=
  (contract.entries caller.source.ready.journal).drop (contract.entries origin.ready.journal).length

/-- All that is appended is returned, each entry once and in order, and nothing else. -/
def ReturnsAppended (contract : JournalContract api) (origin : JournaldSource api)
    (caller : Caller api) : Prop :=
  caller.returns contract = (caller.appended contract origin).map origin.toEntry

section Returns

variable {contract : JournalContract api} {origin : JournaldSource api} {caller : Caller api}

/-- Nothing is lost on the way from where the source has started. -/
theorem Stands.returns_eq (stands : Stands contract origin caller) :
    caller.returns contract =
      (upcoming (contract.location origin.ready.journal)
        (contract.entries caller.source.ready.journal)).map origin.toEntry := by
  rcases stands with ⟨⟨done, flight, parked, accounted⟩, -⟩
  have tracks := accounted.tracks
  have sameEntry : caller.source.toEntry = origin.toEntry := by
    rw [tracks.frame]
    rfl
  have waiting : caller.source.pending.toList.map Prod.fst = parked.map origin.toEntry := by
    rw [tracks.parked, List.map_map]
    rfl
  rw [tracks.reads.upcoming_eq (List.prefix_refl _), returns, accounted.acked,
    tracks.flying_entries, waiting, sameEntry]
  simp only [List.map_append, List.append_assoc]

/-- A source without a saved cursor starts behind the last entry. -/
theorem returnsAppended_of_unsaved (stands : Stands contract origin caller)
    (unsaved : origin.lastAcked = none) (fresh : origin.Fresh)
    (positions : (positionToStart origin).2 = .ok ())
    (nonempty : contract.entries origin.ready.journal ≠ []) :
    ReturnsAppended contract origin caller := by
  have ran := positionToStart_ready fresh.positioned positions
  have place := (positionToStart_tail contract unsaved ran).2.2
  cases isLast : (contract.entries origin.ready.journal).getLast? with
  | none => exact absurd (List.getLast?_eq_none_iff.mp isLast) nonempty
  | some last =>
      rw [isLast] at place
      rw [ReturnsAppended, stands.returns_eq, place]
      exact congrArg _ (OrderedLog.upcoming_current_grown (contract.sorted _) stands.2 isLast)

/-- One whose cursor cannot be sought stays at the tail. -/
theorem returns_of_unknown (stands : Stands contract origin caller) {cursor : Cursor}
    {message : String} (saved : origin.lastAcked = some cursor)
    (unknown : (api.seekCursor origin.journal cursor).2 = .error message) (fresh : origin.Fresh)
    (positions : (positionToStart origin).2 = .ok ()) : caller.returns contract = [] := by
  have ran := positionToStart_ready fresh.positioned positions
  have place := (positionToStart_lost contract saved unknown ran).2.2
  rw [stands.returns_eq, place]
  rfl

end Returns

/-- The journal of one caller has the entries of the other one's, as it had when their
sources had positioned themselves. -/
structure SameEntries (contract : JournalContract api) (origin otherOrigin : JournaldSource api)
    (caller other : Caller api) : Prop where
  atStart : contract.entries origin.ready.journal = contract.entries otherOrigin.ready.journal
  now : contract.entries caller.source.ready.journal = contract.entries other.source.ready.journal

/-- The two ways to start at the tail agree. -/
structure TailsAgree (contract : JournalContract api) (lost unsaved : JournaldSource api)
    (lostCaller unsavedCaller : Caller api) : Prop where
  same : lostCaller.returns contract = unsavedCaller.returns contract
  lost : ReturnsAppended contract lost lostCaller
  unsaved : ReturnsAppended contract unsaved unsavedCaller

theorem tailsAgree_iff (contract : JournalContract api) {lost : JournaldSource api}
    {cursor : Cursor} {message : String} {tree otherTree : FileTree}
    {lostCaller unsavedCaller : Caller api} (fresh : lost.Fresh)
    (saved : lost.lastAcked = some cursor)
    (unknown : (api.seekCursor lost.journal cursor).2 = .error message)
    (positions : (positionToStart lost).2 = .ok ())
    (unsavedPositions : (positionToStart { lost with lastAcked := none }).2 = .ok ())
    (nonempty : contract.entries lost.ready.journal ≠ [])
    (reaches : Reaches lost tree lostCaller)
    (unsavedReaches : Reaches { lost with lastAcked := none } otherTree unsavedCaller)
    (same : SameEntries contract lost { lost with lastAcked := none } lostCaller unsavedCaller) :
    TailsAgree contract lost { lost with lastAcked := none } lostCaller unsavedCaller ↔
      lostCaller.appended contract lost = [] := by
  have unsavedFresh : JournaldSource.Fresh { lost with lastAcked := none } :=
    ⟨fresh.positioned, fresh.inFlight, fresh.pending⟩
  have nothing : lostCaller.returns contract = [] :=
    returns_of_unknown (reaches.stands fresh) saved unknown fresh positions
  have returned : ReturnsAppended contract { lost with lastAcked := none } unsavedCaller :=
    returnsAppended_of_unsaved (unsavedReaches.stands unsavedFresh) rfl unsavedFresh
      unsavedPositions (same.atStart ▸ nonempty)
  have sameAppended : unsavedCaller.appended contract { lost with lastAcked := none } =
      lostCaller.appended contract lost := by
    rw [appended, appended, same.atStart, same.now]
  constructor
  · intro agree
    have returnsNothing := agree.lost
    rw [ReturnsAppended, nothing] at returnsNothing
    exact List.map_eq_nil_iff.mp returnsNothing.symm
  · intro nothingAppended
    refine ⟨?_, ?_, returned⟩
    · rw [nothing, returned, sameAppended, nothingAppended]
      rfl
    · rw [ReturnsAppended, nothing, nothingAppended]
      rfl

end Caller

/-! ## A journal that checks cursors -/

/-- The journal, but it refuses a cursor that is not well formed. -/
def JournalApi.checked (api : JournalApi) (wellFormed : Cursor → Bool) : JournalApi where
  Handle := api.Handle
  seekCursor handle cursor :=
    if wellFormed cursor then api.seekCursor handle cursor else (handle, .error "Invalid argument")
  seekTail := api.seekTail
  next := api.next
  previous := api.previous
  nextEntry := api.nextEntry
  cursor := api.cursor
  timestamp := api.timestamp
  process := api.process

private theorem checked_grows (contract : JournalContract api) (wellFormed : Cursor → Bool)
    (handle : api.Handle) (cursor : Cursor) :
    contract.entries handle <+:
      contract.entries ((api.checked wellFormed).seekCursor handle cursor).1 := by
  unfold JournalApi.checked
  dsimp only
  split
  · exact contract.seekCursor_grows handle cursor
  · exact List.prefix_refl _

private theorem checked_ok (contract : JournalContract api) (wellFormed : Cursor → Bool)
    {handle after : api.Handle} {cursor : Cursor}
    (called : (api.checked wellFormed).seekCursor handle cursor = (after, .ok ())) :
    contract.location after = .sought (contract.positionOf cursor) := by
  unfold JournalApi.checked at called
  dsimp only at called
  split at called
  · exact contract.seekCursor_ok handle cursor after called
  · cases called

def JournalContract.checked (contract : JournalContract api) (wellFormed : Cursor → Bool) :
    JournalContract (api.checked wellFormed) where
  entries := contract.entries
  location := contract.location
  positionOf := contract.positionOf
  sorted := contract.sorted
  cursors := contract.cursors
  seekCursor_grows := checked_grows contract wellFormed
  seekTail_grows := contract.seekTail_grows
  next_grows := contract.next_grows
  previous_grows := contract.previous_grows
  nextEntry_grows := contract.nextEntry_grows
  process_grows := contract.process_grows
  seekCursor_ok _ _ _ called := checked_ok contract wellFormed called
  seekTail_ok := contract.seekTail_ok
  next_ok := contract.next_ok
  previous_ok := contract.previous_ok
  nextEntry_ok := contract.nextEntry_ok
  cursor_ok := contract.cursor_ok
  timestamp_ok := contract.timestamp_ok
  process_stays := contract.process_stays

namespace Caller

open JournaldSource

/-- A cursor of the sample entries. -/
def isSampleCursor (cursor : Cursor) : Bool :=
  cursor.toList.all (· = 'x')

/-- As in `sampleSource`, but with a cursor that has been saved. -/
def savedSource (lastAcked : Option Cursor) :
    JournaldSource (MemoryJournal.api.checked isSampleCursor) where
  name := "journald"
  journal := .sample 1 [0, 0, 4]
  cursorFile := Path.ofString "/state/journal.cursor"
  lastAcked := lastAcked
  inFlight := none
  positioned := false
  batchSize := 3
  batchMaxBytes := 0
  pending := none
  batchWait := 5
  labelsMap := .empty
  staticLabels := .empty
  metadataMap := .empty

/-- What a source is once it has found nothing, and has been woken once. -/
def waitingSource (lastAcked : Option Cursor) :
    JournaldSource (MemoryJournal.api.checked isSampleCursor) :=
  (firstEntries [.ok ()] (savedSource lastAcked).ready).1

/-- A caller that waits for a source that has a foreign cursor. -/
def waitingCaller : Caller (MemoryJournal.api.checked isSampleCursor) :=
  { start (savedSource (some "foreign")) FileTree.empty with
    source := waitingSource (some "foreign") }

/-- A caller of a source without a cursor, which has got a batch. -/
def servedCaller : Option (Caller (MemoryJournal.api.checked isSampleCursor)) :=
  (machine (MemoryJournal.api.checked isSampleCursor)).run
    (start (savedSource none) FileTree.empty) [.peek false timer, .ack none]

private theorem waitingCaller_reaches :
    Reaches (savedSource (some "foreign")) FileTree.empty waitingCaller := by
  have ran : (machine (MemoryJournal.api.checked isSampleCursor)).run
      (start (savedSource (some "foreign")) FileTree.empty) [] =
        some (start (savedSource (some "foreign")) FileTree.empty) := rfl
  exact .waits ran ⟨rfl, fun _ => rfl, [.ok ()], rfl⟩

private theorem served_sameEntries {served : Caller (MemoryJournal.api.checked isSampleCursor)}
    (ran : servedCaller = some served) :
    SameEntries (MemoryJournal.contract.checked isSampleCursor) (savedSource (some "foreign"))
      (savedSource none) waitingCaller served := by
  refine ⟨by decide +kernel, ?_⟩
  have now : servedCaller.map (fun served => MemoryJournal.entries served.source.ready.journal) =
      some (MemoryJournal.entries waitingCaller.source.ready.journal) := by
    decide +kernel
  rw [ran] at now
  exact (Option.some.inj now).symm

/-- Four entries have been appended. -/
theorem tailsAgree_iff_foreign :
    ∃ served, servedCaller = some served ∧
      (TailsAgree (MemoryJournal.contract.checked isSampleCursor) (savedSource (some "foreign"))
        (savedSource none) waitingCaller served ↔
      waitingCaller.appended (MemoryJournal.contract.checked isSampleCursor)
        (savedSource (some "foreign")) = []) := by
  have isServed : servedCaller.isSome = true := by decide +kernel
  rcases Option.isSome_iff_exists.mp isServed with ⟨served, ran⟩
  exact ⟨served, ran, tailsAgree_iff (MemoryJournal.contract.checked isSampleCursor)
    ⟨rfl, rfl, rfl⟩ rfl rfl rfl rfl (by decide +kernel) waitingCaller_reaches (.rests ran)
    (served_sameEntries ran)⟩

/-- One source hands out what has been appended, and the other one never wakes up. -/
theorem foreignCursor_starves :
    ∃ served, Reaches (savedSource (some "foreign")) FileTree.empty waitingCaller ∧
      Reaches (savedSource none) FileTree.empty served ∧
      SameEntries (MemoryJournal.contract.checked isSampleCursor) (savedSource (some "foreign"))
        (savedSource none) waitingCaller served ∧
      served.acked.map LogEntry.message = ["b", "c", "d"] ∧
      waitingCaller.returns (MemoryJournal.contract.checked isSampleCursor) = [] ∧
      ¬ TailsAgree (MemoryJournal.contract.checked isSampleCursor) (savedSource (some "foreign"))
        (savedSource none) waitingCaller served := by
  have ends : servedCaller.map (fun served => served.acked.map LogEntry.message) =
      some ["b", "c", "d"] := by
    decide +kernel
  rcases Option.map_eq_some_iff.mp ends with ⟨served, ran, acked⟩
  have starved : waitingCaller.returns (MemoryJournal.contract.checked isSampleCursor) = [] := by
    decide +kernel
  refine ⟨served, waitingCaller_reaches, .rests ran, served_sameEntries ran, acked, starved, ?_⟩
  intro agree
  have nothing := agree.same
  rw [starved, returns] at nothing
  have gotNothing := (List.append_eq_nil_iff.mp (List.append_eq_nil_iff.mp nothing.symm).1).1
  rw [gotNothing] at acked
  cases acked

end Caller

end Ferrometer.Log
