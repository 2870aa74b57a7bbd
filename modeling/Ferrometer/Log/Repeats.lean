import Ferrometer.Log.Restart
import Mathlib.Data.Finset.Card
import Mathlib.Data.List.Dedup

/-!
Contract: what a restarted shipper settles a second time.

Owns: how far the cursor file of a running shipper can lag behind what it has settled, and
the bound on the entries that a run with any number of restarts settles more than once.

Does not own: entries that nobody settles. A sink that has ingested a request without
saying so gets it again as well, and that is not counted here.
-/

set_option autoImplicit false

namespace Ferrometer.Log

open Ferrometer.Config Ferrometer.Foundation JournaldSource

variable {api : JournalApi} {contract : JournalContract api}

/-! ## One process -/

/-- A cursor that marks the end of these entries: that of the last one, or one of those
that mark the start. -/
def Marks (initial : Cursor → Prop) (entries : List JournalEntry) (saved : Cursor) : Prop :=
  entries.getLast?.map JournalEntry.cursor = some saved ∨ entries = [] ∧ initial saved

/-- While the loop runs, the cursor file is up to date with the batches that are done. -/
structure UpToDate (contract : JournalContract api) (initial : Cursor → Prop)
    (origin : JournaldSource api) (shipper : Shipper (asSource api))
    (done flight parked : List JournalEntry) : Prop where
  running : Running contract origin shipper done flight parked
  marks : ∀ saved, readSavedCursor shipper.source.2 origin.cursorFile = .ok (some saved) →
    Marks initial done saved

/-- The cursor file lags behind what has been settled by a batch at most, also when the
last save has failed. -/
def LagsBehind (contract : JournalContract api) (initial : Cursor → Prop)
    (origin : JournaldSource api) (shipper : Shipper (asSource api)) : Prop :=
  ∀ saved, readSavedCursor shipper.source.2 origin.cursorFile = .ok (some saved) →
    ∃ acked unacked, unacked.length ≤ origin.batchSize ∧ Marks initial acked saved ∧
      Delivered contract (contract.location origin.ready.journal) origin shipper (acked ++ unacked)

/-- The invariant. -/
structure Lagging (contract : JournalContract api) (initial : Cursor → Prop)
    (origin : JournaldSource api) (shipper : Shipper (asSource api)) : Prop where
  cursorFile : shipper.source.1.cursorFile = origin.cursorFile
  upToDate : shipper.stopped = none →
    ∃ done flight parked, UpToDate contract initial origin shipper done flight parked
  lagsBehind : LagsBehind contract initial origin shipper

section Process

variable {initial : Cursor → Prop} {origin : JournaldSource api}
  {shipper next : Shipper (asSource api)} {done flight parked : List JournalEntry}

private theorem flight_le (tracks : Tracks contract origin shipper.source.1 done flight parked) :
    flight.length ≤ origin.batchSize := by
  cases flying : shipper.source.1.inFlight with
  | none =>
      rw [tracks.idle flying]
      exact Nat.zero_le _
  | some batch =>
      have within := (tracks.flying batch flying).2.2.count
      rwa [tracks.entries flying, List.length_map] at within

theorem UpToDate.lagsBehind
    (upToDate : UpToDate contract initial origin shipper done flight parked) :
    LagsBehind contract initial origin shipper := by
  intro saved read
  refine ⟨done, flight.take shipper.progress.sent, ?_, upToDate.marks saved read,
    upToDate.running.delivered⟩
  have taken := List.length_take_le' shipper.progress.sent flight
  exact taken.trans (flight_le upToDate.running.tracks)

/-- The end of a batch: if its cursor can be read back, nothing is left unacked. -/
theorem UpToDate.finishBatch (solid : ∀ entry ∈ flight, Solid entry.cursor)
    (upToDate : UpToDate contract initial origin shipper done flight parked)
    (cursorFile : shipper.source.1.cursorFile = origin.cursorFile) {batch : Batch}
    (flying : shipper.source.1.inFlight = some batch)
    (all : flight.length ≤ shipper.progress.sent) {fault : Option Fault}
    (whole : fault = none ∨
      (origin.cursorFile.withExtension "tmp").location ≠ origin.cursorFile.location) :
    ((shipper.finishBatch batch fault).stopped = none → ∃ done flight parked,
        UpToDate contract initial origin (shipper.finishBatch batch fault) done flight parked) ∧
      LagsBehind contract initial origin (shipper.finishBatch batch fault) := by
  have tracks := upToDate.running.tracks
  rcases upToDate.running.finishBatch_cases flying all fault with ⟨disk, delivered, outcome⟩
  rw [cursorFile] at disk outcome
  -- The cursor of the batch is that of its last entry, and is read back as it is.
  have lastCursor := tracks.endCursor flying
  have isSolid : savedCursor batch.endCursor = some batch.endCursor := by
    rcases Option.map_eq_some_iff.mp lastCursor.symm with ⟨last, isLast, sameCursor⟩
    rw [← sameCursor]
    exact savedCursor_of_solid (solid last (List.mem_of_getLast? isLast))
  have marksEnd : Marks initial (done ++ flight) batch.endCursor := by
    left
    rw [List.getLast?_append_of_ne_nil _ (tracks.flying batch flying).2.1]
    exact lastCursor.symm
  constructor
  · intro alive
    rcases outcome with stopped | ⟨isSaved, finished⟩
    · exact absurd alive stopped
    · refine ⟨done ++ flight, [], parked, finished, ?_⟩
      intro saved read
      rw [disk, readSavedCursor_of_file (persistCursor_ok isSaved), isSolid] at read
      cases read
      exact marksEnd
  · intro saved read
    rw [disk] at read
    rcases readSavedCursor_persistCursor whole read with before | isNew
    · exact ⟨done, flight, flight_le tracks, upToDate.marks saved before, delivered⟩
    · rw [isSolid] at isNew
      cases isNew
      refine ⟨done ++ flight, [], Nat.zero_le _, marksEnd, ?_⟩
      rwa [List.append_nil]

/-- Every step keeps the lag, as long as no save is cut short that writes the cursor file
itself. -/
theorem Lagging.step (solid : ∀ handle, ∀ entry ∈ contract.entries handle, Solid entry.cursor)
    (lagging : Lagging contract initial origin shipper) {event : LoopEvent (asSource api)}
    (whole : faultOf event = none ∨
      (origin.cursorFile.withExtension "tmp").location ≠ origin.cursorFile.location)
    (stepped : shipper.step event = some next) : Lagging contract initial origin next := by
  have cursorFile := (step_saves contract stepped).grows.2.trans lagging.cursorFile
  rcases step_journald stepped with
    ⟨alive, ⟨stopped, sameActions, sameTree, grows⟩ | ⟨input, source, batch, rfl, peeked, rfl⟩⟩
  · refine ⟨cursorFile, fun running => absurd running stopped, ?_⟩
    intro saved read
    rw [sameTree] at read
    rcases lagging.lagsBehind saved read with ⟨acked, unacked, few, marks, delivered⟩
    exact ⟨acked, unacked, few, marks, delivered.grow (grows contract) sameActions⟩
  · rcases lagging.upToDate alive with ⟨done, flight, parked, running, marks⟩
    generalize isReached : ({ shipper with
      source := (source, shipper.source.2)
      clock := input.answered } : Shipper (asSource api)) = reached at cursorFile ⊢
    have sameTree : reached.source.2 = shipper.source.2 := by rw [← isReached]
    rcases running.peek reached peeked (by rw [← isReached]) (by rw [← isReached])
      (by rw [← isReached]) with ⟨more, later, running, flying⟩
    rcases running.ship_cases flying input with ⟨middle, moved, sameSource, outcome⟩
    have upToDate : UpToDate contract initial origin middle done (flight ++ more) later := by
      refine ⟨moved, fun saved read => marks saved ?_⟩
      rwa [sameSource, sameTree] at read
    rcases outcome with waits | ⟨finishes, all⟩
    · rw [waits] at cursorFile ⊢
      exact ⟨cursorFile, fun _ => ⟨_, _, _, upToDate⟩, upToDate.lagsBehind⟩
    · rw [finishes] at cursorFile ⊢
      have stillFlying : middle.source.1.inFlight = some batch :=
        (congrArg (fun state => state.1.inFlight) sameSource).trans flying
      have sameFile : middle.source.1.cursorFile = origin.cursorFile := by
        rw [moved.tracks.frame]
      have solidFlight : ∀ entry ∈ flight ++ more, Solid entry.cursor := by
        intro entry member
        have ahead := moved.tracks.reads.available.subset
          (List.mem_append_left _ (List.mem_append_right _ member))
        exact solid _ entry ((OrderedLog.upcoming_sublist _ _).subset ahead)
      have finished := upToDate.finishBatch solidFlight sameFile stillFlying all whole
      exact ⟨cursorFile, finished.1, finished.2⟩

theorem Lagging.start (contract : JournalContract api) (inFlight : origin.inFlight = none)
    (pending : origin.pending = none) (tree : FileTree) (backoffInitial backoffMax : Duration)
    (marks : ∀ saved, readSavedCursor tree origin.cursorFile = .ok (some saved) → initial saved) :
    Lagging contract initial origin (Shipper.new origin tree backoffInitial backoffMax) := by
  have upToDate : UpToDate contract initial origin
      (Shipper.new origin tree backoffInitial backoffMax) [] [] [] := by
    have delivered : Delivered contract (contract.location origin.ready.journal) origin
        (Shipper.new origin tree backoffInitial backoffMax) [] :=
      ⟨List.nil_prefix, rfl, fun _ _ _ isAck => by simp [Shipper.new] at isAck⟩
    exact ⟨⟨Tracks.start contract inFlight pending, Nat.le_refl 0, delivered⟩,
      fun saved read => Or.inr ⟨rfl, marks saved read⟩⟩
  exact ⟨rfl, fun _ => ⟨_, _, _, upToDate⟩, upToDate.lagsBehind⟩

end Process

/-! ## Restarts -/

def RestartEvent.isRestart : RestartEvent api → Bool
  | .run _ => false
  | .restart _ => true

namespace Restarts

variable {setup : Setup} {state next : Restarts api}

/-- No save is cut short that writes the cursor file itself. -/
def Whole (setup : Setup) : RestartEvent api → Prop
  | .run event => faultOf event = none ∨
      (setup.cursorFile.withExtension "tmp").location ≠ setup.cursorFile.location
  | .restart _ => True

instance (setup : Setup) : ∀ event : RestartEvent api, Decidable (Whole setup event)
  | .run _ => inferInstanceAs (Decidable (_ ∨ _))
  | .restart _ => isTrue trivial

/-- What every process so far has settled, one after the other. -/
def settledEver (contract : JournalContract api) (state : Restarts api) : List JournalEntry :=
  state.before ++ state.settledNow contract

/-- The cursor that a process has found marks the place where it has started. -/
def Found (contract : JournalContract api) (state : Restarts api) (saved : Cursor) : Prop :=
  ∃ last ∈ state.entriesThen contract, last.cursor = saved ∧
    state.place contract = .current last.position

/-- The invariant: of what was settled before this process, only the next batch can still be
ahead of the place that it has chosen. -/
structure Repeating (contract : JournalContract api) (setup : Setup) (state : Restarts api) :
    Prop where
  ships : Ships contract state.origin state.shipper
  lagging : Lagging contract (state.Found contract) state.origin state.shipper
  positioned : state.origin.positioned = true
  cursorFile : state.origin.cursorFile = setup.cursorFile
  batchSize : state.origin.batchSize = setup.config.batchSize
  grown : state.entriesThen contract <+: state.entriesNow contract
  known : ∀ entry ∈ state.before, entry ∈ state.entriesThen contract
  near : ∀ entry ∈ state.before,
    entry ∈ upcoming (state.place contract) (state.entriesThen contract) →
    entry ∈ (upcoming (state.place contract) (state.entriesThen contract)).take
      setup.config.batchSize

private theorem startSource_batchSize (contract : JournalContract api) {tree : FileTree}
    {handle : api.Handle} {origin : JournaldSource api}
    (started : startSource setup tree handle = some origin) :
    origin.batchSize = setup.config.batchSize := by
  unfold startSource at started
  split at started
  · exact absurd started nofun
  · rename_i source built
    have configured : source.batchSize = setup.config.batchSize := by
      unfold JournaldSource.new at built
      rcases bind_eq_ok.mp built with ⟨journal, -, built⟩
      rcases bind_eq_ok.mp built with ⟨fd, -, built⟩
      rcases bind_eq_ok.mp built with ⟨_, -, built⟩
      rcases bind_eq_ok.mp built with ⟨saved, -, built⟩
      cases built
      rfl
    split at started
    · rename_i positioned positions
      cases started
      rw [(positionToStart_ok contract positions).1]
      exact configured
    · exact absurd started nofun

/-- What has been settled is what the requests say. -/
private theorem settledNow_eq (positioned : state.origin.positioned = true)
    {entries : List JournalEntry}
    (delivered : Delivered contract (contract.location state.origin.ready.journal) state.origin
      state.shipper entries) :
    state.settledNow contract = entries := by
  have ahead := delivered.fromStart
  rw [ready_of_positioned positioned] at ahead
  have count : (settled state.shipper.actions).length = entries.length := by
    rw [delivered.settled, List.length_map]
  rw [settledNow, count]
  exact (List.prefix_iff_eq_take.mp ahead).symm

namespace Repeating

private theorem settledNow_known (state : Restarts api) {entry : JournalEntry}
    (isSettled : entry ∈ state.settledNow contract) : entry ∈ state.entriesNow contract :=
  (OrderedLog.upcoming_sublist _ _).subset (List.mem_of_mem_take isSettled)

theorem run (laws : CursorLaws contract) (repeating : Repeating contract setup state)
    {event : LoopEvent (asSource api)} (whole : Whole setup (.run event))
    (stepped : state.step contract setup (.run event) = some next) :
    Repeating contract setup next := by
  rcases Option.bind_eq_some_iff.mp stepped with ⟨shipper, moved, stepped⟩
  cases stepped
  have wholeHere : faultOf event = none ∨
      (state.origin.cursorFile.withExtension "tmp").location ≠
        state.origin.cursorFile.location := by
    rw [repeating.cursorFile]
    exact whole
  exact {
    ships := repeating.ships.step moved
    lagging := repeating.lagging.step laws.solid wholeHere moved
    positioned := repeating.positioned
    cursorFile := repeating.cursorFile
    batchSize := repeating.batchSize
    grown := repeating.grown.trans (step_saves contract moved).grows.1
    known := repeating.known
    near := repeating.near }

/-- The place that a restart finds on the disk: everything settled but the last batch lies
behind it. -/
private theorem found_place (laws : CursorLaws contract)
    (repeating : Repeating contract setup state) {handle : api.Handle}
    {origin : JournaldSource api} {cursor : Cursor}
    (retained : state.entriesNow contract <+: contract.entries handle)
    (begun : startSource setup state.shipper.source.2 handle = some origin)
    (read : readSavedCursor state.shipper.source.2 setup.cursorFile = .ok (some cursor)) :
    ∃ acked unacked, state.settledNow contract = acked ++ unacked ∧
      unacked.length ≤ setup.config.batchSize ∧
      contract.location origin.journal =
        OrderedLog.after JournalEntry.position (state.place contract) acked ∧
      ∃ last ∈ state.entriesNow contract, last.cursor = cursor ∧
        contract.location origin.journal = .current last.position := by
  have readHere := read
  rw [← repeating.cursorFile] at readHere
  rcases repeating.lagging.lagsBehind cursor readHere with
    ⟨acked, unacked, few, marks, delivered⟩
  rw [repeating.batchSize] at few
  have settled := settledNow_eq repeating.positioned delivered
  refine ⟨acked, unacked, settled, few, ?_⟩
  rcases marks with lastCursor | ⟨rfl, last, present, isLast, place⟩
  · rcases Option.map_eq_some_iff.mp lastCursor with ⟨last, isLast, rfl⟩
    rcases List.getLast?_eq_some_iff.mp isLast with ⟨front, rfl⟩
    have isSettled : last ∈ state.settledNow contract := by
      rw [settled]
      exact List.mem_append_left _ List.mem_concat_self
    have present := settledNow_known state isSettled
    have place := startSource_saved laws begun (retained.subset present) read
    exact ⟨place.trans (OrderedLog.after_concat _ _ _).symm, last, present, rfl, place⟩
  · have present := repeating.grown.subset present
    cases isLast
    have found := startSource_saved laws begun (retained.subset present) read
    exact ⟨found.trans place.symm, last, present, rfl, found⟩

/-- Of what has been settled, the entries ahead of that place are among the next ones. -/
private theorem near_found (repeating : Repeating contract setup state)
    {handle : api.Handle} {place : Location} {acked unacked : List JournalEntry}
    (retained : state.entriesNow contract <+: contract.entries handle)
    (split : state.settledNow contract = acked ++ unacked)
    (few : unacked.length ≤ setup.config.batchSize)
    (found : place = OrderedLog.after JournalEntry.position (state.place contract) acked)
    {entry : JournalEntry} (isSettled : entry ∈ state.settledEver contract)
    (ahead : entry ∈ upcoming place (contract.entries handle)) :
    entry ∈ (upcoming place (contract.entries handle)).take setup.config.batchSize := by
  subst found
  have sorted := contract.sorted handle
  have taken : state.settledNow contract <+:
      upcoming (state.place contract) (contract.entries handle) :=
    (List.take_prefix _ _).trans (OrderedLog.upcoming_grows _ retained)
  rcases taken with ⟨more, whole⟩
  rw [split, List.append_assoc] at whole
  rcases List.mem_append.mp isSettled with old | new
  · -- Settled by an earlier process: it was among the next entries already.
    have known := repeating.known entry old
    have aheadThen : entry ∈ upcoming (state.place contract) (state.entriesThen contract) :=
      OrderedLog.mem_upcoming_of_mem
        ((OrderedLog.upcoming_after_suffix sorted whole.symm).subset ahead) known
    have near := repeating.near entry old aheadThen
    have grows : upcoming (state.place contract) (state.entriesThen contract) <+:
        upcoming (state.place contract) (contract.entries handle) :=
      OrderedLog.upcoming_grows _ (repeating.grown.trans retained)
    exact OrderedLog.mem_take_upcoming_after sorted whole.symm ((grows.take _).subset near) ahead
  · rw [split] at new
    rcases List.mem_append.mp new with done | unsaved
    · exact absurd ahead (OrderedLog.notMem_upcoming_after sorted whole.symm done)
    · rw [upcoming, OrderedLog.upcoming_after sorted whole.symm, List.take_append]
      apply List.mem_append_left
      rwa [List.take_of_length_le few]

theorem restart (laws : CursorLaws contract) (repeating : Repeating contract setup state)
    {handle : api.Handle} (stepped : state.step contract setup (.restart handle) = some next) :
    Repeating contract setup next ∧ next.before = state.settledEver contract := by
  unfold step at stepped
  simp only at stepped
  split at stepped
  · rename_i retained
    rcases Option.bind_eq_some_iff.mp stepped with ⟨origin, begun, stepped⟩
    cases stepped
    rcases startSource_ok contract begun with
      ⟨source, -, -, read, -, positioned, inFlight, pending, file, grows⟩
    have grown : state.entriesNow contract <+: contract.entries origin.journal :=
      retained.trans grows
    have known : ∀ entry ∈ state.settledEver contract, entry ∈ contract.entries origin.journal := by
      intro entry isSettled
      rcases List.mem_append.mp isSettled with old | new
      · exact (repeating.grown.trans grown).subset (repeating.known entry old)
      · exact grown.subset (settledNow_known state new)
    refine ⟨?_, rfl⟩
    cases saved : source.lastAcked with
    | none =>
        -- The start goes to the tail.
        rw [saved] at read
        exact {
          ships := Ships.start contract inFlight pending _ _ _
          lagging := Lagging.start contract inFlight pending _ _ _ fun cursor found =>
            absurd (read.symm.trans (file ▸ found)) (by simp)
          positioned := positioned
          cursorFile := file
          batchSize := startSource_batchSize contract begun
          grown := List.prefix_refl _
          known := known
          near := by
            intro entry _ ahead
            have nothing := startSource_tail_upcoming contract begun read
            rw [place, entriesThen, nothing] at ahead
            exact absurd ahead List.not_mem_nil }
    | some cursor =>
        rw [saved] at read
        rcases repeating.found_place laws retained begun read with
          ⟨acked, unacked, split, few, found, last, present, isLast, place⟩
        exact {
          ships := Ships.start contract inFlight pending _ _ _
          lagging := Lagging.start contract inFlight pending _ _ _ fun other found => by
            cases read.symm.trans (file ▸ found)
            exact ⟨last, grown.subset present, isLast, place⟩
          positioned := positioned
          cursorFile := file
          batchSize := startSource_batchSize contract begun
          grown := List.prefix_refl _
          known := known
          near := fun entry isSettled ahead =>
            repeating.near_found grown split few found isSettled ahead }
  · exact absurd stepped (by simp)

/-- The first start finds no cursor, or that of an entry which is there. -/
theorem first (laws : CursorLaws contract) {tree : FileTree} {handle : api.Handle}
    (known : ∀ saved, readSavedCursor tree setup.cursorFile = .ok (some saved) →
      ∃ last ∈ contract.entries handle, last.cursor = saved)
    (started : Restarts.first contract setup tree handle = some state) :
    Repeating contract setup state ∧ state.before = [] := by
  rcases Option.bind_eq_some_iff.mp started with ⟨origin, begun, started⟩
  cases started
  rcases startSource_ok contract begun with
    ⟨-, -, -, -, -, positioned, inFlight, pending, file, grows⟩
  refine ⟨?_, rfl⟩
  exact {
    ships := Ships.start contract inFlight pending _ _ _
    lagging := Lagging.start contract inFlight pending _ _ _ fun saved found => by
      rw [file] at found
      rcases known saved found with ⟨last, present, rfl⟩
      exact ⟨last, grows.subset present, rfl, startSource_saved laws begun present found⟩
    positioned := positioned
    cursorFile := file
    batchSize := startSource_batchSize contract begun
    grown := List.prefix_refl _
    known := fun _ member => absurd member List.not_mem_nil
    near := fun _ member => absurd member List.not_mem_nil }

/-! ## Counting -/

theorem settledNow_nodup (state : Restarts api) : (state.settledNow contract).Nodup := by
  have sorted := contract.sorted state.shipper.source.1.journal
  have ahead : OrderedLog.Sorted JournalEntry.position
      (upcoming (state.place contract) (state.entriesNow contract)) :=
    sorted.sublist (OrderedLog.upcoming_sublist _ _)
  exact (OrderedLog.nodup_of_sorted ahead).sublist (List.take_sublist _ _)

/-- Of what a process settles, at most a batch had been settled before. -/
theorem again_le (repeating : Repeating contract setup state) :
    ((state.settledNow contract).filter (· ∈ state.before)).length ≤ setup.config.batchSize := by
  have within : (state.settledNow contract).filter (· ∈ state.before) ⊆
      (upcoming (state.place contract) (state.entriesThen contract)).take
        setup.config.batchSize := by
    intro entry member
    rcases List.mem_filter.mp member with ⟨isSettled, old⟩
    have old := of_decide_eq_true old
    apply repeating.near entry old
    exact OrderedLog.mem_upcoming_of_mem (List.mem_of_mem_take isSettled)
      (repeating.known entry old)
  have distinct : ((state.settledNow contract).filter (· ∈ state.before)).Nodup :=
    (settledNow_nodup state).filter _
  have fits := (List.subperm_of_subset distinct within).length_le
  exact fits.trans (List.length_take_le _ _)

/-- Appending distinct entries of which few are there already. -/
private theorem length_append_le_dedup {first second : List JournalEntry} {bound : Nat}
    (distinct : second.Nodup) (few : (second.filter (· ∈ first)).length ≤ bound) :
    second.length + first.dedup.length ≤ (first ++ second).dedup.length + bound := by
  have fresh : first.toFinset.card + (second.filter (· ∉ first)).length ≤
      (first ++ second).toFinset.card := by
    rw [← List.toFinset_card_of_nodup (distinct.filter (· ∉ first)),
      ← Finset.card_union_of_disjoint]
    · apply Finset.card_le_card
      intro entry member
      simp only [Finset.mem_union, List.mem_toFinset, List.mem_filter, List.mem_append] at member ⊢
      exact member.imp_right And.left
    · rw [Finset.disjoint_left]
      intro entry old new
      simp only [List.mem_toFinset, List.mem_filter, decide_eq_true_eq] at old new
      exact new.2 old
  have split : second.length = (second.filter (· ∈ first)).length +
      (second.filter fun entry => !decide (entry ∈ first)).length :=
    List.length_eq_length_filter_add _
  simp only [List.card_toFinset] at fresh
  simp only [decide_not] at fresh
  omega

/-- After so many restarts, with the batch that the next one may repeat left out. -/
def Counted (contract : JournalContract api) (setup : Setup) (restarts : Nat)
    (state : Restarts api) : Prop :=
  Repeating contract setup state ∧
    (state.before = [] ∨
      state.before.length + setup.config.batchSize ≤
        state.before.dedup.length + restarts * setup.config.batchSize)

theorem Counted.settledEver_le {restarts : Nat} (counted : Counted contract setup restarts state) :
    (state.settledEver contract).length ≤
      (state.settledEver contract).dedup.length + restarts * setup.config.batchSize := by
  rcases counted with ⟨repeating, nothing | few⟩
  · have distinct : (state.settledNow contract).Nodup := settledNow_nodup state
    rw [settledEver, nothing, List.nil_append, distinct.dedup]
    exact Nat.le_add_right _ _
  · have distinct : (state.settledNow contract).Nodup := settledNow_nodup state
    have added := length_append_le_dedup distinct repeating.again_le
    have whole : (state.settledEver contract).length =
        state.before.length + (state.settledNow contract).length := List.length_append
    rw [← settledEver] at added
    omega

theorem Counted.step (laws : CursorLaws contract) {restarts : Nat} {event : RestartEvent api}
    (counted : Counted contract setup restarts state) (whole : Whole setup event)
    (stepped : (machine contract setup).step state event = some next) :
    Counted contract setup (restarts + event.isRestart.toNat) next := by
  cases event with
  | run event =>
      have sameBefore : next.before = state.before := by
        rcases Option.bind_eq_some_iff.mp stepped with ⟨shipper, -, stepped⟩
        cases stepped
        rfl
      refine ⟨counted.1.run laws whole stepped, ?_⟩
      rw [sameBefore]
      exact counted.2
  | restart handle =>
      rcases counted.1.restart laws stepped with ⟨repeating, before⟩
      refine ⟨repeating, Or.inr ?_⟩
      have bound := counted.settledEver_le
      show next.before.length + _ ≤ _ + (restarts + 1) * _
      rw [before, Nat.add_mul, Nat.one_mul]
      omega

end Repeating

/-- However often the process ends and starts again: a process settles an entry of the
journal once, and at most a batch of what it settles had been settled before. All
together, what is settled again is no more than a batch for each restart. -/
theorem restarts_run_repeats (laws : CursorLaws contract) {tree : FileTree} {handle : api.Handle}
    {final : Restarts api} {events : List (RestartEvent api)}
    (known : ∀ saved, readSavedCursor tree setup.cursorFile = .ok (some saved) →
      ∃ last ∈ contract.entries handle, last.cursor = saved)
    (whole : ∀ event ∈ events, Whole setup event)
    (started : first contract setup tree handle = some state)
    (ran : (machine contract setup).run state events = some final) :
    settled final.shipper.actions = (final.settledNow contract).map final.origin.toEntry ∧
      (final.settledNow contract).Nodup ∧
      ((final.settledNow contract).filter (· ∈ final.before)).length ≤ setup.config.batchSize ∧
      (final.settledEver contract).length ≤ (final.settledEver contract).dedup.length +
        events.countP RestartEvent.isRestart * setup.config.batchSize := by
  have begins : Repeating.Counted contract setup 0 state :=
    (Repeating.first laws known started).imp_right Or.inl
  have counted := (machine contract setup).run_invariant_counted
    (fun counted isWhole stepped => Repeating.Counted.step laws counted isWhole stepped)
    begins (Machine.Along.of_forall whole state) ran
  rw [Nat.zero_add] at counted
  refine ⟨?_, Repeating.settledNow_nodup final, counted.1.again_le, counted.settledEver_le⟩
  rcases counted.1.ships.delivered with ⟨entries, delivered⟩
  rw [delivered.settled, settledNow_eq counted.1.positioned delivered]

/-- The sample, with batches of two. -/
def pairsSetup : Setup :=
  { sampleSetup with config := { sampleSetup.config with batchSize := 2 } }

/-- A process acks a batch, settles the next one and dies while it saves the cursor. -/
def dyingEvents : List (RestartEvent MemoryJournal.api) :=
  [.run (shippingIteration 1 (.ok ())),
    .run (.iteration {
      resumed := 2
      peek := (false, Caller.timer)
      answered := 2
      ack := some (.rename .notFound) }),
    .restart (.sample 5 []), .run (shippingIteration 3 (.ok ()))]

/-- The bound is met: the batch of the failed save is settled twice. -/
theorem restarts_run_repeats_dying :
    ∃ state final,
      first MemoryJournal.contract pairsSetup FileTree.empty (.sample 1 [0, 0, 4]) = some state ∧
      (machine MemoryJournal.contract pairsSetup).run state dyingEvents = some final ∧
      (final.settledEver MemoryJournal.contract).map JournalEntry.cursor =
        ["xx", "xxx", "xxxx", "xxxxx", "xxxx", "xxxxx"] ∧
      settled final.shipper.actions =
        (final.settledNow MemoryJournal.contract).map final.origin.toEntry ∧
      (final.settledNow MemoryJournal.contract).Nodup ∧
      ((final.settledNow MemoryJournal.contract).filter (· ∈ final.before)).length ≤
        pairsSetup.config.batchSize ∧
      (final.settledEver MemoryJournal.contract).length ≤
        (final.settledEver MemoryJournal.contract).dedup.length +
          dyingEvents.countP RestartEvent.isRestart * pairsSetup.config.batchSize := by
  have ends : (first MemoryJournal.contract pairsSetup FileTree.empty
        (.sample 1 [0, 0, 4])).map (fun state =>
      ((machine MemoryJournal.contract pairsSetup).run state dyingEvents).map
        fun final => (final.settledEver MemoryJournal.contract).map JournalEntry.cursor) =
      some (some ["xx", "xxx", "xxxx", "xxxxx", "xxxx", "xxxxx"]) := by
    decide +kernel
  rcases Option.map_eq_some_iff.mp ends with ⟨state, started, ends⟩
  rcases Option.map_eq_some_iff.mp ends with ⟨final, ran, cursors⟩
  have laws : CursorLaws MemoryJournal.contract :=
    ⟨fun journal entry member => journal.solid entry (List.mem_of_mem_take member),
      fun _ _ _ => rfl⟩
  have whole : ∀ event ∈ dyingEvents, Whole pairsSetup event := by decide +kernel
  have known : ∀ saved, readSavedCursor FileTree.empty pairsSetup.cursorFile = .ok (some saved) →
      ∃ last ∈ MemoryJournal.contract.entries (.sample 1 [0, 0, 4]), last.cursor = saved :=
    fun saved found => absurd found (by
      have absent : readSavedCursor FileTree.empty pairsSetup.cursorFile = .ok none := rfl
      rw [absent]
      simp)
  exact ⟨state, final, started, ran, cursors,
    restarts_run_repeats laws known whole started ran⟩

end Restarts

end Ferrometer.Log
