import Ferrometer.Log.Delivery

/-!
Contract: a journald shipper over any number of crashes and restarts.

Owns: the machine in which a process is started again from what is on the disk,
and what no restart passes over.

Does not own: why a process ends. It may end between any two steps, and the fault of
an ack ends it in the middle of a save. The journal keeps all its entries.
-/

set_option autoImplicit false

namespace Ferrometer.Log

open Ferrometer.Config Ferrometer.Foundation

variable {api : JournalApi}

/-- How a shipper is configured. -/
structure Setup where
  name : String
  config : JournaldSourceConfig
  extraStaticLabels : Labels
  backoffInitial : Duration
  backoffMax : Duration

def Setup.cursorFile (setup : Setup) : Path :=
  Path.ofString setup.config.cursorFile

/-- A host on which opening the journal gives this handle. -/
def JournalHost.opening (handle : api.Handle) : JournalHost api where
  openJournal _ := .ok handle
  fd _ := .ok 0
  register _ := .ok ()

/-- A new process builds its source, and the first peek starts by positioning it. A
process for which one of them fails ends without having done anything. -/
def startSource (setup : Setup) (tree : FileTree) (handle : api.Handle) :
    Option (JournaldSource api) :=
  match JournaldSource.new (.opening handle) tree setup.name setup.config
      setup.extraStaticLabels with
  | .error _ => none
  | .ok source =>
      match JournaldSource.positionToStart source with
      | (positioned, .ok ()) => some positioned
      | (_, .error _) => none

structure Restarts (api : JournalApi) where
  shipper : Shipper (JournaldSource.asSource api)
  /-- History: the source of this process when it had positioned itself. -/
  origin : JournaldSource api
  /-- History: how many entries the journal had when the first start had positioned
  itself. -/
  baseline : Nat
  /-- History: the entries settled by the processes before this one. -/
  before : List JournalEntry

inductive RestartEvent (api : JournalApi) where
  | run (event : LoopEvent (JournaldSource.asSource api))
  | restart (handle : api.Handle)

namespace Restarts

section Machine

variable (contract : JournalContract api)

/-- The place that the start of this process has chosen. -/
def place (state : Restarts api) : Location :=
  contract.location state.origin.journal

/-- The entries that the journal had then, and has now. -/
def entriesThen (state : Restarts api) : List JournalEntry :=
  contract.entries state.origin.journal

def entriesNow (state : Restarts api) : List JournalEntry :=
  contract.entries state.shipper.source.1.journal

/-- What this process has settled: as many entries from its place on as its requests
have settled. -/
def settledNow (state : Restarts api) : List JournalEntry :=
  (upcoming (state.place contract) (state.entriesNow contract)).take
    (settled state.shipper.actions).length

/-- The first start. -/
def first (setup : Setup) (tree : FileTree) (handle : api.Handle) : Option (Restarts api) := do
  let origin ← startSource setup tree handle
  some {
    shipper := Shipper.new origin tree setup.backoffInitial setup.backoffMax
    origin
    baseline := (contract.entries origin.journal).length
    before := [] }

/-- A restart finds the disk as it is, and a journal that has what it had. -/
def step (setup : Setup) (state : Restarts api) : RestartEvent api → Option (Restarts api)
  | .run event => do
      let shipper ← state.shipper.step event
      some { state with shipper }
  | .restart handle =>
      if state.entriesNow contract <+: contract.entries handle then do
        let tree := state.shipper.source.2
        let origin ← startSource setup tree handle
        some {
          shipper := Shipper.new origin tree setup.backoffInitial setup.backoffMax
          origin
          baseline := state.baseline
          before := state.before ++ state.settledNow contract }
      else none

def machine (setup : Setup) : Machine (Restarts api) (RestartEvent api) where
  step := step contract setup

/-- Every entry appended after the first start was settled before this process
started, or lies ahead of the place that it chose. -/
def NeverPast (state : Restarts api) : Prop :=
  ∀ entry ∈ (state.entriesThen contract).drop state.baseline,
    entry ∈ state.before ∨ entry ∈ upcoming (state.place contract) (state.entriesThen contract)

/-- A restart finds a cursor, or finds nothing unsettled. No save is cut short that
writes the cursor file itself. -/
def Keeps (setup : Setup) (state : Restarts api) : RestartEvent api → Prop
  | .run event => faultOf event = none ∨
      (setup.cursorFile.withExtension "tmp").location ≠ setup.cursorFile.location
  | .restart handle =>
      (∃ cursor, readSavedCursor state.shipper.source.2 setup.cursorFile = .ok (some cursor)) ∨
        ∀ origin ∈ startSource setup state.shipper.source.2 handle,
          ∀ entry ∈ (contract.entries origin.journal).drop state.baseline,
            entry ∈ state.before ++ state.settledNow contract

instance (state : Restarts api) : Decidable (state.NeverPast contract) :=
  inferInstanceAs (Decidable (∀ entry ∈ _, _ ∨ _))

instance (read : Except Error (Option Cursor)) : Decidable (∃ cursor, read = .ok (some cursor)) :=
  match read with
  | .ok (some cursor) => isTrue ⟨cursor, rfl⟩
  | .ok none => isFalse nofun
  | .error _ => isFalse nofun

instance (setup : Setup) (state : Restarts api) :
    ∀ event, Decidable (state.Keeps contract setup event)
  | .run _ => inferInstanceAs (Decidable (_ ∨ _))
  | .restart _ => inferInstanceAs (Decidable ((∃ _, _) ∨ _))

end Machine

/-! ## The invariant -/

/-- What is assumed of cursors beyond the contract: they have no blanks around them,
and an entry that is there can be sought. -/
structure CursorLaws (contract : JournalContract api) : Prop where
  solid : ∀ handle, ∀ entry ∈ contract.entries handle, Solid entry.cursor
  seekable : ∀ handle, ∀ entry ∈ contract.entries handle,
    (api.seekCursor handle entry.cursor).2 = .ok ()

/-- What holds of the place that the last start has chosen. -/
structure Placed (contract : JournalContract api) (setup : Setup) (state : Restarts api) :
    Prop where
  ships : Ships contract state.origin state.shipper
  positioned : state.origin.positioned = true
  cursorFile : state.shipper.source.1.cursorFile = setup.cursorFile
  known : state.baseline ≤ (state.entriesThen contract).length
  grown : state.entriesThen contract <+: state.entriesNow contract
  atEntry : state.place contract = .tail ∨
    ∃ last ∈ state.entriesThen contract, state.place contract = .current last.position
  neverPast : state.NeverPast contract

/-- The invariant: up to the entry of the cursor that a restart would find, everything
appended since the first start is settled. -/
structure Kept (contract : JournalContract api) (setup : Setup) (state : Restarts api) : Prop
    extends Placed contract setup state where
  saved : ∀ cursor,
    readSavedCursor state.shipper.source.2 setup.cursorFile = .ok (some cursor) →
      ∃ last ∈ state.entriesNow contract, last.cursor = cursor ∧
        ∀ entry ∈ (state.entriesNow contract).drop state.baseline,
          entry.position ≤ last.position → entry ∈ state.before ++ state.settledNow contract

namespace Placed

variable {contract : JournalContract api} {setup : Setup} {state next : Restarts api}

/-- What has been settled is what the requests say. -/
theorem delivered (placed : Placed contract setup state) :
    Delivered contract (state.place contract) state.origin state.shipper
      (state.settledNow contract) := by
  obtain ⟨entries, delivered⟩ := placed.ships.delivered
  rw [JournaldSource.ready_of_positioned placed.positioned] at delivered
  have count : entries.length = (settled state.shipper.actions).length := by
    rw [delivered.settled, List.length_map]
  have same : entries = state.settledNow contract := by
    rw [settledNow, ← count]
    exact List.prefix_iff_eq_take.mp delivered.fromStart
  exact same ▸ delivered

/-- Unless this process reads nothing at all, whatever was appended since the first
start and is not settled lies ahead, also what has been appended since. -/
theorem ahead (placed : Placed contract setup state) (reads : state.place contract ≠ .tail)
    {entry : JournalEntry}
    (appended : entry ∈ (state.entriesNow contract).drop state.baseline) :
    entry ∈ state.before ∨ entry ∈ upcoming (state.place contract) (state.entriesNow contract) := by
  obtain ⟨last, present, place⟩ := placed.atEntry.resolve_left reads
  by_cases below : entry.position ≤ last.position
  · have old := OrderedLog.mem_drop_of_le (contract.sorted _) placed.grown placed.known present
      appended below
    exact (placed.neverPast entry old).imp_right fun member =>
      (OrderedLog.upcoming_grows _ placed.grown).subset member
  · right
    rw [place, upcoming, OrderedLog.mem_upcoming_current]
    exact ⟨List.mem_of_mem_drop appended, by omega⟩

/-- Up to an entry that this process has settled, everything is settled. -/
theorem settled_below (placed : Placed contract setup state) {last entry : JournalEntry}
    (isSettled : last ∈ state.settledNow contract)
    (appended : entry ∈ (state.entriesNow contract).drop state.baseline)
    (below : entry.position ≤ last.position) :
    entry ∈ state.before ++ state.settledNow contract := by
  have reads : state.place contract ≠ .tail := by
    intro tail
    have member := List.mem_of_mem_take isSettled
    rw [tail] at member
    simp [upcoming, OrderedLog.upcoming] at member
  rw [List.mem_append]
  apply (placed.ahead reads appended).imp_right
  intro member
  exact OrderedLog.mem_drop_of_le
    ((contract.sorted _).sublist (OrderedLog.upcoming_sublist _ _)) (List.take_prefix _ _)
    (Nat.zero_le _) isSettled member below

/-- A step of the process leaves the place as it is. -/
theorem run (placed : Placed contract setup state)
    {shipper : Shipper (JournaldSource.asSource api)}
    {event : LoopEvent (JournaldSource.asSource api)}
    (moved : state.shipper.step event = some shipper) :
    Placed contract setup { state with shipper } where
  ships := placed.ships.step moved
  positioned := placed.positioned
  cursorFile := (step_saves contract moved).grows.2.trans placed.cursorFile
  known := placed.known
  grown := placed.grown.trans (step_saves contract moved).grows.1
  atEntry := placed.atEntry
  neverPast := placed.neverPast

end Placed

namespace Kept

variable {contract : JournalContract api} {setup : Setup} {state next : Restarts api}

/-- What is settled stays settled. -/
private theorem settledNow_grows {shipper : Shipper (JournaldSource.asSource api)}
    {fault : Option Fault} (saves : Saves contract fault state.shipper shipper)
    {entry : JournalEntry} (isSettled : entry ∈ state.settledNow contract) :
    entry ∈ ({ state with shipper } : Restarts api).settledNow contract := by
  have counts : (settled state.shipper.actions).length ≤ (settled shipper.actions).length := by
    obtain ⟨more, actions⟩ := saves.actions
    rw [← actions, settled, settled, List.flatMap_append, List.length_append]
    omega
  have grown : upcoming (state.place contract) (state.entriesNow contract) <+:
      upcoming (state.place contract) (contract.entries shipper.source.1.journal) :=
    OrderedLog.upcoming_grows _ saves.grows.1
  exact (List.take_subset_take_left _ counts) ((grown.take _).subset isSettled)

/-- A step of the process. -/
theorem run (laws : CursorLaws contract) (kept : Kept contract setup state)
    {event : LoopEvent (JournaldSource.asSource api)}
    (keeps : state.Keeps contract setup (.run event))
    (stepped : state.step contract setup (.run event) = some next) :
    Kept contract setup next := by
  obtain ⟨shipper, moved, stepped⟩ := Option.bind_eq_some_iff.mp stepped
  obtain rfl := Option.some.inj stepped
  have saves := step_saves contract moved
  have placed := kept.toPlaced.run moved
  refine ⟨placed, ?_⟩
  intro cursor read
  have whole : faultOf event = none ∨
      (state.shipper.source.1.cursorFile.withExtension "tmp").location ≠
        state.shipper.source.1.cursorFile.location := by
    rw [kept.cursorFile]
    exact keeps
  rw [← kept.cursorFile] at read
  rcases saves.readSavedCursor whole read with before | ⟨acked, outcome, member, isSaved⟩
  · -- The cursor from before: what has been appended since lies behind its entry.
    rw [kept.cursorFile] at before
    obtain ⟨last, present, isLast, below⟩ := kept.saved cursor before
    refine ⟨last, saves.grows.1.subset present, isLast, ?_⟩
    intro entry appended under
    have within : state.baseline ≤ (state.entriesNow contract).length :=
      kept.known.trans kept.grown.length_le
    have old := OrderedLog.mem_drop_of_le (contract.sorted _) saves.grows.1 within present
      appended under
    have isSettled := List.mem_append.mp (below entry old under)
    exact List.mem_append.mpr (isSettled.imp_right (settledNow_grows saves))
  · -- A cursor that this process has acked: that of an entry that it has settled.
    obtain ⟨index, at_⟩ := List.mem_iff_getElem?.mp member
    obtain ⟨earlier, isPrefix, -, lastCursor⟩ := placed.delivered.acks index acked outcome at_
    obtain ⟨last, isLast, sameCursor⟩ := Option.map_eq_some_iff.mp lastCursor
    have isSettled := isPrefix.subset (List.mem_of_getLast? isLast)
    have present : last ∈ contract.entries shipper.source.1.journal :=
      (OrderedLog.upcoming_sublist _ _).subset (List.mem_of_mem_take isSettled)
    have isCursor : last.cursor = cursor := by
      have solid := savedCursor_of_solid (laws.solid _ last present)
      rw [sameCursor, isSaved] at solid
      rw [sameCursor]
      exact (Option.some.inj solid).symm
    exact ⟨last, present, isCursor, fun entry appended below =>
      placed.settled_below isSettled appended below⟩

end Kept

/-! ## Starts -/

section Start

variable {contract : JournalContract api} {setup : Setup} {tree : FileTree} {handle : api.Handle}
  {origin : JournaldSource api}

theorem startSource_ok (contract : JournalContract api)
    (started : startSource setup tree handle = some origin) :
    ∃ source : JournaldSource api, source.Fresh ∧ source.journal = handle ∧
      readSavedCursor tree setup.cursorFile = .ok source.lastAcked ∧
      source.positionToStart = (origin, .ok ()) ∧
      origin.positioned = true ∧ origin.inFlight = none ∧ origin.pending = none ∧
      origin.cursorFile = setup.cursorFile ∧
      contract.entries handle <+: contract.entries origin.journal := by
  unfold startSource at started
  split at started
  · exact absurd started nofun
  · rename_i source built
    obtain ⟨fresh, file, read, opened⟩ := JournaldSource.new_ok built
    have sameHandle : source.journal = handle := (Except.ok.inj opened).symm
    rw [file] at read
    split at started
    · rename_i positioned positions
      obtain rfl := Option.some.inj started
      obtain ⟨frame, grows⟩ := JournaldSource.positionToStart_ok contract positions
      rw [sameHandle] at grows
      refine ⟨source, fresh, sameHandle, read, positions, ?_, ?_, ?_, ?_, grows⟩
      · rw [frame]
      · rw [frame]
        exact fresh.inFlight
      · rw [frame]
        exact fresh.pending
      · rw [frame]
        exact file
    · exact absurd started nofun

/-- Without a cursor a start goes to the last entry. -/
theorem startSource_tail (contract : JournalContract api)
    (started : startSource setup tree handle = some origin)
    (absent : readSavedCursor tree setup.cursorFile = .ok none) :
    contract.location origin.journal =
      match (contract.entries origin.journal).getLast? with
      | none => .tail
      | some last => .current last.position := by
  obtain ⟨source, -, -, read, positions, -⟩ := startSource_ok contract started
  have noCursor : source.lastAcked = none := Except.ok.inj (read.symm.trans absent)
  exact (JournaldSource.positionToStart_tail contract noCursor positions).2.2

theorem startSource_tail_cases (started : startSource setup tree handle = some origin)
    (absent : readSavedCursor tree setup.cursorFile = .ok none) :
    contract.location origin.journal = .tail ∨
      ∃ last ∈ contract.entries origin.journal,
        contract.location origin.journal = .current last.position := by
  have place := startSource_tail contract started absent
  cases isLast : (contract.entries origin.journal).getLast? with
  | none =>
      rw [isLast] at place
      exact Or.inl place
  | some last =>
      rw [isLast] at place
      exact Or.inr ⟨last, List.mem_of_getLast? isLast, place⟩

/-- Then nothing that is there lies ahead. -/
theorem startSource_tail_upcoming (contract : JournalContract api)
    (started : startSource setup tree handle = some origin)
    (absent : readSavedCursor tree setup.cursorFile = .ok none) :
    upcoming (contract.location origin.journal) (contract.entries origin.journal) = [] := by
  have place := startSource_tail contract started absent
  cases isLast : (contract.entries origin.journal).getLast? with
  | none =>
      rw [isLast] at place
      rw [place, upcoming, OrderedLog.upcoming]
  | some last =>
      rw [isLast] at place
      rw [place]
      exact OrderedLog.upcoming_current_last (contract.sorted _) isLast

/-- With the cursor of an entry that is there, a start goes to that entry. -/
theorem startSource_saved (laws : CursorLaws contract)
    (started : startSource setup tree handle = some origin) {last : JournalEntry}
    (present : last ∈ contract.entries handle)
    (read : readSavedCursor tree setup.cursorFile = .ok (some last.cursor)) :
    contract.location origin.journal = .current last.position := by
  obtain ⟨source, -, sameHandle, readHere, positions, -, -, -, -, grows⟩ :=
    startSource_ok contract started
  have saved : source.lastAcked = some last.cursor := Except.ok.inj (readHere.symm.trans read)
  have found := laws.seekable handle last present
  rw [← sameHandle] at found
  obtain ⟨-, -, place⟩ := JournaldSource.positionToStart_saved contract saved found positions
  rw [contract.cursors handle last present] at place
  exact place.trans
    (OrderedLog.advance_sought_present (contract.sorted _) (grows.subset present))

end Start

/-! ## Runs -/

namespace Kept

variable {contract : JournalContract api} {setup : Setup} {state next : Restarts api}

theorem first {tree : FileTree} {handle : api.Handle}
    (absent : readSavedCursor tree setup.cursorFile = .ok none)
    (started : Restarts.first contract setup tree handle = some state) :
    Kept contract setup state := by
  obtain ⟨origin, begun, started⟩ := Option.bind_eq_some_iff.mp started
  obtain rfl := Option.some.inj started
  obtain ⟨-, -, -, -, -, positioned, inFlight, pending, file, -⟩ := startSource_ok contract begun
  exact {
    ships := Ships.start contract inFlight pending tree _ _
    positioned := positioned
    cursorFile := file
    known := Nat.le_refl _
    grown := List.prefix_refl _
    atEntry := startSource_tail_cases begun absent
    neverPast := by simp [NeverPast, entriesThen]
    saved := fun cursor read => absurd (absent.symm.trans read) (by simp) }

/-- Nothing unsettled lies behind the place that a restart chooses. -/
private theorem restart_neverPast (laws : CursorLaws contract) (kept : Kept contract setup state)
    {handle : api.Handle} {origin : JournaldSource api} {cursor : Cursor}
    (retained : state.entriesNow contract <+: contract.entries handle)
    (begun : startSource setup state.shipper.source.2 handle = some origin)
    (read : readSavedCursor state.shipper.source.2 setup.cursorFile = .ok (some cursor)) :
    ∃ last ∈ state.entriesNow contract, last.cursor = cursor ∧
      contract.location origin.journal = .current last.position ∧
      ∀ entry ∈ (contract.entries origin.journal).drop state.baseline,
        entry.position ≤ last.position → entry ∈ state.before ++ state.settledNow contract := by
  obtain ⟨last, present, rfl, below⟩ := kept.saved cursor read
  obtain ⟨-, -, -, -, -, -, -, -, -, grows⟩ := startSource_ok contract begun
  refine ⟨last, present, rfl, startSource_saved laws begun (retained.subset present) read,
    fun entry appended under => below entry ?_ under⟩
  have within : state.baseline ≤ (state.entriesNow contract).length :=
    kept.known.trans kept.grown.length_le
  exact OrderedLog.mem_drop_of_le (contract.sorted _) (retained.trans grows) within present
    appended under

theorem restart (laws : CursorLaws contract) (kept : Kept contract setup state)
    {handle : api.Handle} (keeps : state.Keeps contract setup (.restart handle))
    (stepped : state.step contract setup (.restart handle) = some next) :
    Kept contract setup next := by
  unfold step at stepped
  simp only at stepped
  split at stepped
  · rename_i retained
    obtain ⟨origin, begun, stepped⟩ := Option.bind_eq_some_iff.mp stepped
    obtain rfl := Option.some.inj stepped
    obtain ⟨source, -, -, read, -, positioned, inFlight, pending, file, grows⟩ :=
      startSource_ok contract begun
    have grown : state.entriesNow contract <+: contract.entries origin.journal :=
      retained.trans grows
    have known : state.baseline ≤ (contract.entries origin.journal).length :=
      (kept.known.trans kept.grown.length_le).trans grown.length_le
    have ships := Ships.start contract inFlight pending state.shipper.source.2
      setup.backoffInitial setup.backoffMax
    cases saved : source.lastAcked with
    | none =>
        -- The start goes to the tail, and everything that was appended is settled.
        rw [saved] at read
        have allSettled := keeps.resolve_left (by simp [read]) origin begun
        exact {
          ships := ships
          positioned := positioned
          cursorFile := file
          known := known
          grown := List.prefix_refl _
          atEntry := startSource_tail_cases begun read
          neverPast := fun entry appended => Or.inl (allSettled entry appended)
          saved := fun cursor found => absurd (read.symm.trans found) (by simp) }
    | some cursor =>
        rw [saved] at read
        obtain ⟨last, present, isLast, place, below⟩ :=
          kept.restart_neverPast laws retained begun read
        exact {
          ships := ships
          positioned := positioned
          cursorFile := file
          known := known
          grown := List.prefix_refl _
          atEntry := Or.inr ⟨last, grown.subset present, place⟩
          neverPast := by
            intro entry appended
            rcases Nat.lt_or_ge last.position entry.position with ahead | behind
            · right
              rw [Restarts.place, place, upcoming, OrderedLog.mem_upcoming_current]
              exact ⟨List.mem_of_mem_drop appended, ahead⟩
            · exact Or.inl (below entry appended behind)
          saved := by
            intro other found
            obtain rfl := Option.some.inj (Except.ok.inj (read.symm.trans found))
            exact ⟨last, grown.subset present, isLast, fun entry appended under =>
              List.mem_append_left _ (below entry appended under)⟩ }
  · exact absurd stepped nofun

/-- Every step that meets the condition. -/
theorem step (laws : CursorLaws contract) (kept : Kept contract setup state)
    {event : RestartEvent api} (keeps : state.Keeps contract setup event)
    (stepped : (machine contract setup).step state event = some next) :
    Kept contract setup next := by
  cases event with
  | run event => exact kept.run laws keeps stepped
  | restart handle => exact kept.restart laws keeps stepped

end Kept

/-- As long as every restart finds a cursor or nothing unsettled, no place chosen by a
restart is past an entry that was appended since the first start and is not settled.
What a process settles are the entries that come after its place, in order. -/
theorem restarts_run_neverPast {contract : JournalContract api} (laws : CursorLaws contract)
    {setup : Setup} {tree : FileTree} {handle : api.Handle} {state final : Restarts api}
    {events : List (RestartEvent api)}
    (absent : readSavedCursor tree setup.cursorFile = .ok none)
    (started : first contract setup tree handle = some state)
    (along : (machine contract setup).Along (Keeps contract setup) state events)
    (ran : (machine contract setup).run state events = some final) :
    final.NeverPast contract ∧
      settled final.shipper.actions = (final.settledNow contract).map final.origin.toEntry := by
  have kept := (machine contract setup).run_invariant_along
    (fun kept keeps stepped => Kept.step laws kept keeps stepped)
    (Kept.first absent started) along ran
  exact ⟨kept.neverPast, kept.toPlaced.delivered.settled⟩

/-- The condition is exact: a restart that does not meet it goes past an entry that is
not settled. -/
theorem restart_past {contract : JournalContract api} {setup : Setup}
    {state next : Restarts api} {handle : api.Handle}
    (stepped : state.step contract setup (.restart handle) = some next)
    (unmet : ¬ state.Keeps contract setup (.restart handle)) : ¬ next.NeverPast contract := by
  unfold step at stepped
  simp only at stepped
  split at stepped
  · obtain ⟨origin, begun, stepped⟩ := Option.bind_eq_some_iff.mp stepped
    obtain rfl := Option.some.inj stepped
    obtain ⟨noCursor, unsettled⟩ := not_or.mp unmet
    obtain ⟨source, -, -, read, -⟩ := startSource_ok contract begun
    have absent : readSavedCursor state.shipper.source.2 setup.cursorFile = .ok none := by
      cases saved : source.lastAcked with
      | none => rw [read, saved]
      | some cursor => exact absurd ⟨cursor, saved ▸ read⟩ noCursor
    intro neverPast
    apply unsettled
    intro other begunOther entry appended
    obtain rfl := Option.some.inj (begun.symm.trans begunOther)
    apply (neverPast entry appended).resolve_right
    intro ahead
    have nothing := startSource_tail_upcoming contract begun absent
    rw [place, entriesThen, nothing] at ahead
    exact absurd ahead List.not_mem_nil
  · exact absurd stepped nofun

/-- A host that keeps its cursor file in a directory still to be made. -/
def sampleSetup : Setup where
  name := "journald"
  config := { batchSize := 3, batchMaxBytes := 0, cursorFile := "/state/journal.cursor" }
  extraStaticLabels := .empty
  backoffInitial := 5
  backoffMax := 60

/-- A batch is acked, the process dies, and the next one ships the rest. -/
def resumingEvents : List (RestartEvent MemoryJournal.api) :=
  [.run (shippingIteration 1 (.ok ())), .restart (.sample 5 []),
    .run (shippingIteration 1 (.error (.sinkRejected "HTTP 400")))]

theorem restarts_run_neverPast_resumed :
    ∃ state final,
      first MemoryJournal.contract sampleSetup FileTree.empty (.sample 1 [0, 0, 4]) = some state ∧
      (machine MemoryJournal.contract sampleSetup).run state resumingEvents = some final ∧
      final.before.map JournalEntry.cursor = ["xx", "xxx", "xxxx"] ∧
      final.NeverPast MemoryJournal.contract ∧
      settled final.shipper.actions =
        (final.settledNow MemoryJournal.contract).map final.origin.toEntry := by
  have ends : (first MemoryJournal.contract sampleSetup FileTree.empty
        (.sample 1 [0, 0, 4])).map (fun state =>
      (decide ((machine MemoryJournal.contract sampleSetup).Along
          (Keeps MemoryJournal.contract sampleSetup) state resumingEvents),
        ((machine MemoryJournal.contract sampleSetup).run state resumingEvents).map
          fun final => final.before.map JournalEntry.cursor)) =
      some (true, some ["xx", "xxx", "xxxx"]) := by
    decide +kernel
  obtain ⟨state, started, facts⟩ := Option.map_eq_some_iff.mp ends
  obtain ⟨along, ends⟩ := Prod.mk.inj facts
  obtain ⟨final, ran, before⟩ := Option.map_eq_some_iff.mp ends
  have laws : CursorLaws MemoryJournal.contract :=
    ⟨fun journal entry member => journal.solid entry (List.mem_of_mem_take member),
      fun _ _ _ => rfl⟩
  exact ⟨state, final, started, ran, before,
    restarts_run_neverPast laws rfl started (of_decide_eq_true along) ran⟩

/-- The sink is down from the first entry on, and the process ends. The next one
finds no cursor, and goes past the entry that nobody has got. -/
def outageEvents : List (RestartEvent MemoryJournal.api) :=
  [.run (shippingIteration 1 (.error (.sink "HTTP 503"))), .restart (.sample 2 [])]

theorem outage_restart_past :
    readSavedCursor FileTree.empty sampleSetup.cursorFile = .ok none ∧
      ∃ state final,
        first MemoryJournal.contract sampleSetup FileTree.empty (.sample 1 [0, 0, 1]) =
          some state ∧
        (machine MemoryJournal.contract sampleSetup).run state outageEvents = some final ∧
        ¬ final.NeverPast MemoryJournal.contract := by
  have ends : (first MemoryJournal.contract sampleSetup FileTree.empty
        (.sample 1 [0, 0, 1])).map (fun state =>
      ((machine MemoryJournal.contract sampleSetup).run state outageEvents).map
        fun final => decide (final.NeverPast MemoryJournal.contract)) =
      some (some false) := by
    decide +kernel
  obtain ⟨state, started, ends⟩ := Option.map_eq_some_iff.mp ends
  obtain ⟨final, ran, past⟩ := Option.map_eq_some_iff.mp ends
  exact ⟨rfl, state, final, started, ran, of_decide_eq_false past⟩

end Restarts

end Ferrometer.Log
