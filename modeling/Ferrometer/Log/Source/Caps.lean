import Ferrometer.Config.Validate
import Ferrometer.Log.Source.Batches

/-!
Contract: what the caps of a source do to the batch it builds.

Owns: for which caps an empty batch takes in an entry, and when a batch is returned
that the next entry does not fit into.

Does not own: what a batch holds that has been returned.
-/

set_option autoImplicit false

namespace Ferrometer.Log.JournaldSource

open Ferrometer.Config Ferrometer.Foundation

variable {api : JournalApi}

/-- The caps of a source are those of its configuration. -/
def Capped (source : JournaldSource api) (config : JournaldSourceConfig) : Prop :=
  source.batchSize = config.batchSize ∧ source.batchMaxBytes = config.batchMaxBytes

/-- An entry is parked, or the journal has one past the pointer. -/
def HasMore (contract : JournalContract api) (source : JournaldSource api) : Prop :=
  source.pending ≠ none ∨
    upcoming (contract.location source.journal) (contract.entries source.journal) ≠ []

/-! ## The first entry -/

section First

variable {source next : JournaldSource api} {filled : Batch}

/-- Without room for a single entry the loop does nothing. -/
theorem drainAvailable_zero (batch : Batch) (noRoom : source.batchSize = 0) :
    drainAvailable batch source = (source, .ok batch) := by
  unfold drainAvailable
  rw [Stateful.get_bind, noRoom, Nat.zero_sub]
  rfl

/-- A fill path that leaves an empty batch without entries has taken no item. -/
theorem nil_of_fills {contract : JournalContract api} {items : List (LogEntry × Cursor)}
    (fills : Fills contract source next {} filled items) (empty : filled.entries = []) :
    items = [] := by
  have entries := congrArg Batch.entries fills.pushed
  rw [Batch.pushAll_entries, empty] at entries
  simpa using entries.symm

/-- A drain that brings no entry leaves the batch as it was. -/
theorem drainAvailable_unfilled (contract : JournalContract api)
    (drained : drainAvailable {} source = (next, .ok filled)) (empty : filled.entries = []) :
    filled = {} ∧ Advances contract source next [] := by
  rcases drainAvailable_ok contract drained with ⟨items, fills⟩
  have nothing := nil_of_fills fills empty
  have advances := fills.advances
  rw [nothing] at advances
  refine ⟨?_, advances⟩
  rw [fills.pushed, nothing]
  rfl

/-- An empty batch takes in the first entry that there is, whatever its size. -/
theorem drainAvailable_admits (contract : JournalContract api) (room : source.batchSize ≠ 0)
    (more : HasMore contract source) (drained : drainAvailable {} source = (next, .ok filled)) :
    filled.entries ≠ [] := by
  intro empty
  rcases drainAvailable_empty contract (Nat.pos_of_ne_zero room) drained empty with
    ⟨nothingParked, nothingAhead⟩
  rcases drainAvailable_ok contract drained with ⟨items, fills⟩
  have advances := fills.advances
  rcases advances.reads (Reads.refl contract source.journal) with ⟨read, reads, items⟩
  rw [nil_of_fills fills empty, nothingParked] at items
  have nothingRead : read = [] := by simpa using (List.append_eq_nil_iff.mp items).2
  rw [nothingRead, List.append_nil] at reads
  rcases more with parked | ahead
  · apply parked
    simpa using (List.append_eq_nil_iff.mp items).1
  · apply ahead
    have grown : upcoming (contract.location source.journal)
        (contract.entries source.journal) <+: upcoming (contract.location source.journal)
        (contract.entries next.journal) := OrderedLog.upcoming_grows _ advances.grows
    rw [reads.location] at nothingAhead
    exact List.prefix_nil.mp (nothingAhead ▸ grown)

theorem awaitFirst_cons (event : Except String Unit) (rest : List (Except String Unit)) :
    (awaitFirst (event :: rest) {} : Stateful (JournaldSource api) Error (Option Batch)) = (do
      waitForJournalEvent event
      let batch ← drainAvailable {}
      awaitFirst rest batch) := by
  conv => lhs; unfold awaitFirst
  exact if_pos rfl

theorem awaitFirst_filled (readable : List (Except String Unit)) {batch : Batch}
    (admitted : batch.entries ≠ []) :
    (awaitFirst readable batch : Stateful (JournaldSource api) Error (Option Batch)) =
      pure (some batch) := by
  unfold awaitFirst
  exact if_neg (by simpa using admitted)

/-- An event that brings an entry ends the wait. -/
theorem awaitFirst_leaves {event : Except String Unit} {woken : JournaldSource api}
    (rest : List (Except String Unit))
    (waited : waitForJournalEvent event source = (woken, .ok ()))
    (drained : drainAvailable {} woken = (next, .ok filled)) (admitted : filled.entries ≠ []) :
    awaitFirst (event :: rest) {} source = (next, .ok (some filled)) := by
  rw [awaitFirst_cons, Stateful.bind_of_ok waited, Stateful.bind_of_ok drained,
    awaitFirst_filled rest admitted]
  rfl

/-- A batch that ends the wait is what one drain has made of an empty one. -/
theorem awaitFirst_last (contract : JournalContract api) {readable : List (Except String Unit)}
    (waited : awaitFirst readable {} source = (next, .ok (some filled))) :
    ∃ woken, woken.batchSize = source.batchSize ∧
      drainAvailable {} woken = (next, .ok filled) ∧ filled.entries ≠ [] := by
  induction readable generalizing source with
  | nil => exact nomatch (Prod.mk.inj waited).2
  | cons event rest inductionHypothesis =>
      rw [awaitFirst_cons] at waited
      rcases Stateful.bind_eq_ok.mp waited with ⟨woken, _, woke, waited⟩
      rcases Stateful.bind_eq_ok.mp waited with ⟨middle, batch, drained, waited⟩
      have sameSize : woken.batchSize = source.batchSize := by
        rw [(waitForJournalEvent_ok contract woke).frame]
      by_cases empty : batch.entries = []
      · rcases drainAvailable_unfilled contract drained empty with ⟨rfl, advances⟩
        rcases inductionHypothesis waited with ⟨last, lastSize, drains, admitted⟩
        refine ⟨last, ?_, drains, admitted⟩
        rw [lastSize, advances.frame]
        exact sameSize
      · rw [awaitFirst_filled rest empty] at waited
        rcases Stateful.pure_eq_ok.mp waited with ⟨rfl, same⟩
        cases same
        exact ⟨woken, sameSize, drained, empty⟩

/-- So is the batch that a wait for a first entry ends with. -/
theorem firstEntries_last (contract : JournalContract api) {readable : List (Except String Unit)}
    (read : firstEntries readable source = (next, .ok (some filled))) :
    ∃ woken, woken.batchSize = source.batchSize ∧
      drainAvailable {} woken = (next, .ok filled) ∧ filled.entries ≠ [] := by
  unfold firstEntries at read
  rcases Stateful.bind_eq_ok.mp read with ⟨middle, batch, drained, waited⟩
  by_cases empty : batch.entries = []
  · rcases drainAvailable_unfilled contract drained empty with ⟨rfl, advances⟩
    rcases awaitFirst_last contract waited with ⟨woken, sameSize, drains, admitted⟩
    refine ⟨woken, ?_, drains, admitted⟩
    rw [sameSize, advances.frame]
  · rw [awaitFirst_filled readable empty] at waited
    rcases Stateful.pure_eq_ok.mp waited with ⟨rfl, same⟩
    cases same
    exact ⟨source, rfl, drained, empty⟩

/-- Without room for a single entry the wait never ends with a batch. -/
theorem awaitFirst_zero (contract : JournalContract api) {readable : List (Except String Unit)}
    (noRoom : source.batchSize = 0) :
    awaitFirst readable {} source ≠ (next, .ok (some filled)) := by
  intro waited
  rcases awaitFirst_last contract waited with ⟨woken, sameSize, drained, admitted⟩
  rw [drainAvailable_zero {} (sameSize.trans noRoom)] at drained
  cases drained
  exact admitted rfl

end First

/-- An entry that is there gets into the batch, and the event that brings one ends the
wait for it. -/
structure Unwedged (config : JournaldSourceConfig) : Prop where
  admits : ∀ {api : JournalApi} (contract : JournalContract api)
    {source next : JournaldSource api} {filled : Batch}, source.Capped config →
    HasMore contract source → drainAvailable {} source = (next, .ok filled) →
    filled.entries ≠ []
  leaves : ∀ {api : JournalApi} (contract : JournalContract api)
    {source woken next : JournaldSource api} {filled : Batch} {event : Except String Unit}
    (rest : List (Except String Unit)), woken.Capped config →
    waitForJournalEvent event source = (woken, .ok ()) → HasMore contract woken →
    drainAvailable {} woken = (next, .ok filled) →
    awaitFirst (event :: rest) {} source = (next, .ok (some filled))

/-- An entry is ahead of this source, and a batch of it takes no entry. -/
def closedSource : JournaldSource MemoryJournal.api :=
  { Caller.sampleSource (.sample 1 []) with batchSize := 0 }

private theorem closedSource_hasMore : HasMore MemoryJournal.contract closedSource := by
  apply Or.inr
  show upcoming .head (MemoryJournal.sample 1 []).entries ≠ []
  decide

theorem unwedged_iff (config : JournaldSourceConfig) :
    Unwedged config ↔ config.batchSize ≠ 0 := by
  constructor
  · intro unwedged noRoom
    have capped : Capped { closedSource with batchMaxBytes := config.batchMaxBytes } config :=
      ⟨noRoom.symm, rfl⟩
    exact unwedged.admits MemoryJournal.contract capped closedSource_hasMore
      (drainAvailable_zero {} rfl) rfl
  · intro room
    have admits : ∀ {api : JournalApi} (contract : JournalContract api)
        {source next : JournaldSource api} {filled : Batch}, source.Capped config →
        HasMore contract source → drainAvailable {} source = (next, .ok filled) →
        filled.entries ≠ [] := by
      intro api contract source next filled capped more drained
      exact drainAvailable_admits contract (capped.1 ▸ room) more drained
    exact ⟨admits, fun contract _ _ _ _ _ rest capped waited more drained =>
      awaitFirst_leaves rest waited drained (admits contract capped more drained)⟩

/-- A configuration whose one shipper has a batch size of zero. -/
def zeroBatchSize : Config where
  instanceConfig := { name := "host" }
  metrics := {
    collectors := .single "web" (.prometheus { url := "http://web" })
    forwarders := .single "backend" (.otlphttp { endpoint := "http://backend" }) }
  logs := {
    shippers := .single "journal" {
      source := .journald { batchSize := 0, batchMaxBytes := 40 }
      sink := .loki { endpoint := "http://loki" } } }

/-- It is accepted, and its source never takes in the entry that is there. -/
theorem zeroBatchSize_wedges :
    validate (fun _ => .ok ()) zeroBatchSize = .ok () ∧
      closedSource.Capped { batchSize := 0, batchMaxBytes := 40 } ∧
      HasMore MemoryJournal.contract closedSource ∧
      drainAvailable {} closedSource = (closedSource, .ok {}) ∧
      ∀ readable next batch, awaitFirst readable {} closedSource ≠ (next, .ok (some batch)) :=
  ⟨rfl, ⟨rfl, rfl⟩, closedSource_hasMore, drainAvailable_zero {} rfl,
    fun _ _ _ => awaitFirst_zero MemoryJournal.contract rfl⟩

/-! ## The entry that does not fit -/

section Full

variable (contract : JournalContract api)
variable {source next : JournaldSource api} {batch filled : Batch}

/-- A batch that has room, and an entry parked because it would exceed the cap. -/
structure Parks (source : JournaldSource api) (batch : Batch) : Prop where
  hasRoom : source.batchHasRoom batch = true
  exceeds : ∃ item, source.pending = some item ∧ source.exceedsCap batch item.1 = true

include contract in
/-- A loop that has parked an entry leaves the batch with room for a smaller one. -/
theorem drainLoop_parks {room : Nat} (enough : source.batchSize ≤ batch.entries.length + room)
    (loops : source.pending = none ∨ source.batchHasRoom batch = true)
    (drained : drainLoop room batch source = (next, .ok filled)) (parked : next.pending ≠ none) :
    next.Parks filled := by
  induction room generalizing source batch with
  | zero =>
      rcases Stateful.pure_eq_ok.mp drained with ⟨rfl, rfl⟩
      rcases loops with nothing | hasRoom
      · exact absurd nothing parked
      · simp only [batchHasRoom, Bool.and_eq_true, decide_eq_true_eq] at hasRoom
        omega
  | succ room inductionHypothesis =>
      unfold drainLoop at drained
      rw [Stateful.get_bind] at drained
      split at drained
      · rename_i hasRoom
        rcases Stateful.bind_eq_ok.mp drained with ⟨middle, found, took, drained⟩
        rcases takeNext_ok contract took with ⟨advances, taken, -⟩
        cases found with
        | none =>
            rcases Stateful.pure_eq_ok.mp drained with ⟨rfl, rfl⟩
            exact absurd taken parked
        | some item =>
            simp only at drained
            split at drained
            · rename_i exceeds
              rw [Stateful.modify_bind] at drained
              rcases Stateful.pure_eq_ok.mp drained with ⟨rfl, rfl⟩
              rw [advances.frame]
              exact ⟨hasRoom, item, rfl, exceeds⟩
            · apply inductionHypothesis _ (Or.inl taken) drained
              rw [advances.frame]
              simp only [Batch.push, List.length_append, List.length_singleton]
              omega
      · rename_i noRoom
        rcases Stateful.pure_eq_ok.mp drained with ⟨rfl, rfl⟩
        rcases loops with nothing | hasRoom
        · exact absurd nothing parked
        · exact absurd hasRoom noRoom

include contract in
theorem drainAvailable_parks (hasRoom : source.batchHasRoom batch = true)
    (drained : drainAvailable batch source = (next, .ok filled)) (parked : next.pending ≠ none) :
    next.Parks filled := by
  unfold drainAvailable at drained
  rw [Stateful.get_bind] at drained
  exact drainLoop_parks contract (by omega) (Or.inr hasRoom) drained parked

include contract in
theorem firstEntries_parks {readable : List (Except String Unit)}
    (read : firstEntries readable source = (next, .ok (some filled)))
    (parked : next.pending ≠ none) : next.Parks filled := by
  rcases firstEntries_last contract read with ⟨woken, -, drained, admitted⟩
  have room : woken.batchSize ≠ 0 := by
    intro noRoom
    rw [drainAvailable_zero {} noRoom] at drained
    cases drained
    exact admitted rfl
  have hasRoom := batchHasRoom_empty (Nat.pos_of_ne_zero room)
  exact drainAvailable_parks contract hasRoom drained parked

end Full

/-! ## The window -/

section Window

variable {deadline now : Instant} {source next : JournaldSource api} {batch filled : Batch}

/-- The coalesce loop stands at its top again, after these turns. -/
inductive Coalesced (deadline : Instant) :
    List Turn → Batch → JournaldSource api → Batch → JournaldSource api → Prop where
  | top (batch : Batch) (source : JournaldSource api) :
      Coalesced deadline [] batch source batch source
  | turn {now : Instant} {event : Except String Unit} {rest : List Turn}
      {batch more filled : Batch} {source woken drained next : JournaldSource api}
      (hasRoom : source.batchHasRoom batch = true) (inTime : ¬ deadline < now)
      (woke : waitForJournalEvent event source = (woken, .ok ()))
      (drains : drainAvailable batch woken = (drained, .ok more))
      (further : Coalesced deadline rest more drained filled next) :
      Coalesced deadline ({ now, readable := some event } :: rest) batch source filled next

private theorem Advances.batchHasRoom_eq {contract : JournalContract api}
    {taken : List (LogEntry × Cursor)} (advances : Advances contract source next taken)
    (batch : Batch) : next.batchHasRoom batch = source.batchHasRoom batch := by
  rw [advances.frame]
  rfl

private theorem coalesce_waits (hasRoom : source.batchHasRoom batch = true) :
    coalesce deadline [] batch source = (source, .ok none) := by
  unfold coalesce
  rw [Stateful.get_bind, if_pos hasRoom]
  rfl

private theorem coalesce_late {turn : Turn} (late : deadline < turn.now) (rest : List Turn)
    (hasRoom : source.batchHasRoom batch = true) :
    coalesce deadline (turn :: rest) batch source = (source, .ok (some batch)) := by
  unfold coalesce
  rw [Stateful.get_bind, if_pos hasRoom]
  simp only [if_pos late]
  rfl

private theorem coalesce_event (inTime : ¬ deadline < now) (event : Except String Unit)
    (rest : List Turn) (hasRoom : source.batchHasRoom batch = true) :
    coalesce deadline ({ now, readable := some event } :: rest) batch source = (do
      waitForJournalEvent event
      let batch ← drainAvailable batch
      coalesce deadline rest batch : Stateful _ _ _) source := by
  conv => lhs; unfold coalesce
  rw [Stateful.get_bind, if_pos hasRoom]
  simp only [if_neg inTime]

/-- The turns behind it have no more say. -/
theorem Coalesced.coalesce_eq {before : List Turn}
    (coalesced : Coalesced deadline before batch source filled next) (rest : List Turn) :
    coalesce deadline (before ++ rest) batch source = coalesce deadline rest filled next := by
  induction coalesced with
  | top batch source => rfl
  | turn hasRoom inTime woke drains further inductionHypothesis =>
      rw [List.cons_append, coalesce_event inTime _ _ hasRoom, Stateful.bind_of_ok woke,
        Stateful.bind_of_ok drains, inductionHypothesis]

theorem Coalesced.parks (contract : JournalContract api) {before : List Turn}
    (coalesced : Coalesced deadline before batch source filled next)
    (start : source.pending ≠ none → source.Parks batch) (parked : next.pending ≠ none) :
    next.Parks filled := by
  induction coalesced with
  | top batch source => exact start parked
  | turn hasRoom inTime woke drains further inductionHypothesis =>
      apply inductionHypothesis _ parked
      have roomStill := hasRoom
      rw [← (waitForJournalEvent_ok contract woke).batchHasRoom_eq] at roomStill
      exact drainAvailable_parks contract roomStill drains

/-- With room in the batch, the loop leaves at once only when the window is over. -/
theorem coalesce_closes_iff (hasRoom : source.batchHasRoom batch = true) :
    (∀ readable rest, coalesce deadline ({ now, readable } :: rest) batch source =
      (source, .ok (some batch))) ↔ deadline < now := by
  constructor
  · intro closes
    by_contra inTime
    have failing := closes (some (.error "")) []
    rw [coalesce_event inTime _ _ hasRoom] at failing
    cases failing
  · intro late readable rest
    exact coalesce_late late rest hasRoom

/-- A batch is coalesced from the first entries on. -/
theorem buildBatch_of_read {wakeups : Wakeups} {opened : JournaldSource api} {opening : Batch}
    (positions : source.positioned = false → (positionToStart source).2 = .ok ())
    (read : firstEntries wakeups.first source.ready = (opened, .ok (some opening))) :
    buildBatch wakeups source =
      fillWindow wakeups source.batchWait opening opened := by
  unfold buildBatch
  rw [Stateful.get_bind]
  cases positioned : source.positioned with
  | true =>
      rw [ready_of_positioned positioned] at read
      simp only [Bool.not_true, Bool.false_eq_true, if_false]
      rw [Stateful.bind_of_ok read]
  | false =>
      have ran := positionToStart_ready positioned (positions positioned)
      simp only [Bool.not_false, if_true]
      rw [Stateful.bind_of_ok ran, Stateful.bind_of_ok read]

/-- When a source builds a batch and has parked the entry that does not fit, it returns
the batch at once, whatever may still wake it, exactly if the window is already over. -/
theorem buildBatch_closes_iff (contract : JournalContract api) {opened : JournaldSource api}
    {first : List (Except String Unit)} {windowStart : Instant} {before : List Turn}
    {opening : Batch} (positions : source.positioned = false → (positionToStart source).2 = .ok ())
    (read : firstEntries first source.ready = (opened, .ok (some opening)))
    (coalesced : Coalesced (windowStart + source.batchWait) before opening opened filled next)
    (parked : next.pending ≠ none) :
    next.Parks filled ∧
      ((∀ readable rest,
        buildBatch { first, windowStart, window := before ++ { now, readable } :: rest } source =
          (next, .ok (some filled))) ↔
        ∃ deadline, addDuration windowStart source.batchWait = some deadline ∧ deadline < now) := by
  have parks := coalesced.parks contract (firstEntries_parks contract read) parked
  refine ⟨parks, ?_⟩
  have built : ∀ readable rest,
      buildBatch { first, windowStart, window := before ++ { now, readable } :: rest } source =
        fillWindow { first, windowStart, window := before ++ { now, readable } :: rest }
          source.batchWait opening opened :=
    fun _ _ => buildBatch_of_read positions read
  simp only [built, fillWindow]
  cases added : addDuration windowStart source.batchWait with
  | none =>
      -- The process has ended.
      apply iff_of_false
      · intro closes
        exact absurd (congrArg Prod.snd (closes none [])) nofun
      · exact nofun
  | some deadline =>
      obtain rfl := (addDuration_eq_some.mp added).2
      simp only [coalesced.coalesce_eq, Option.some.injEq, exists_eq_left']
      exact coalesce_closes_iff parks.hasRoom

/-- Two entries are in the batch, and the third is parked. -/
def parkingSource : JournaldSource MemoryJournal.api :=
  Caller.sampleSource (.sample 1 [0, 0, 4])

private theorem parkingSource_read :
    ∃ opened opening, firstEntries [] parkingSource.ready = (opened, .ok (some opening)) ∧
      opened.pending ≠ none := by
  have parked : (firstEntries [] parkingSource.ready).1.pending ≠ none := by decide +kernel
  have batch : ∃ opening, (firstEntries [] parkingSource.ready).2 = .ok (some opening) :=
    ⟨_, rfl⟩
  rcases batch with ⟨opening, isBatch⟩
  exact ⟨_, opening, Prod.ext rfl isBatch, parked⟩

theorem buildBatch_closes_iff_parkingSource :
    ∃ opened opening, firstEntries [] parkingSource.ready = (opened, .ok (some opening)) ∧
      opened.Parks opening ∧ ∀ now, ((∀ readable rest,
        buildBatch { window := { now, readable } :: rest } parkingSource =
          (opened, .ok (some opening))) ↔ 5 < now) := by
  rcases parkingSource_read with ⟨opened, opening, read, parked⟩
  have closes : ∀ now, opened.Parks opening ∧ ((∀ readable rest,
      buildBatch { window := { now, readable } :: rest } parkingSource =
        (opened, .ok (some opening))) ↔
      ∃ deadline, addDuration 0 parkingSource.batchWait = some deadline ∧ deadline < now) := by
    intro now
    exact buildBatch_closes_iff MemoryJournal.contract (fun _ => rfl) read (.top opening opened)
      parked
  have window : addDuration 0 parkingSource.batchWait = some 5 := by decide +kernel
  refine ⟨opened, opening, read, (closes 0).1, fun now => (closes now).2.trans ?_⟩
  rw [window]
  simp

/-- Its batch cannot grow any more, and it waits. -/
theorem parkingSource_waits :
    ∃ opened opening, firstEntries [] parkingSource.ready = (opened, .ok (some opening)) ∧
      opened.Parks opening ∧ buildBatch {} parkingSource = (opened, .ok none) := by
  rcases parkingSource_read with ⟨opened, opening, read, parked⟩
  have parks := firstEntries_parks MemoryJournal.contract read parked
  refine ⟨opened, opening, read, parks, ?_⟩
  rw [buildBatch_of_read (fun _ => rfl) read]
  have window : addDuration 0 parkingSource.batchWait = some 5 := by decide +kernel
  simp only [fillWindow, window]
  exact coalesce_waits parks.hasRoom

end Window

end Ferrometer.Log.JournaldSource
