import Ferrometer.Config.Model
import Ferrometer.Log.Journal

/-!
Contract: the source that tails the systemd journal.

Owns: `JournaldSource` with everything it does: positioning, draining, waiting
and coalescing, topping up, and acking.

Does not own: libsystemd, and the runtime. A journal handle is a parameter, and
what wakes a waiting source, and when, is the input of a peek.
-/

set_option autoImplicit false

namespace Ferrometer.Log

open Ferrometer.Config Ferrometer.Foundation

structure OpenOptions where
  system : Bool := false
  localOnly : Bool := false
  runtimeOnly : Bool := false

/-- What a source needs to be built, with the texts of its errors. -/
structure JournalHost (api : JournalApi) where
  openJournal : OpenOptions → Except String api.Handle
  fd : api.Handle → Except String Nat
  /-- `AsyncFd::new`. -/
  register : Nat → Except String Unit

structure JournaldSource (api : JournalApi) where
  name : String
  journal : api.Handle
  cursorFile : Path
  lastAcked : Option Cursor
  inFlight : Option Batch
  positioned : Bool
  batchSize : Nat
  /-- 0 disables the cap. -/
  batchMaxBytes : Nat
  /-- Read, and left to be the first entry of the next batch. -/
  pending : Option (LogEntry × Cursor)
  batchWait : Duration
  labelsMap : Labels
  staticLabels : Labels
  metadataMap : Labels

/-- What wakes a source while it builds a batch. -/
structure Turn where
  now : Instant
  /-- What `readable` gives. Without it the timer has won. -/
  readable : Option (Except String Unit)

structure Wakeups where
  /-- What `readable` gives, time after time, while there is no entry. -/
  first : List (Except String Unit) := []
  /-- When there is one. -/
  windowStart : Instant := 0
  window : List Turn := []

namespace JournaldSource

variable {api : JournalApi}

def new (host : JournalHost api) (tree : FileTree) (name : String)
    (config : JournaldSourceConfig) (extraStaticLabels : Labels) :
    Except Error (JournaldSource api) := do
  let options : OpenOptions :=
    { system := true, localOnly := true, runtimeOnly := config.runtimeOnly }
  let journal ← (host.openJournal options).mapError fun e => .source s!"open journal: {e}"
  let fd ← (host.fd journal).mapError fun e => .source s!"journal fd: {e}"
  (host.register fd).mapError fun e => .source s!"register journal fd: {e}"
  let cursorFile := Path.ofString config.cursorFile
  let lastAcked ← readSavedCursor tree cursorFile
  -- The extra labels win.
  let staticLabels := extraStaticLabels.entries.foldl
    (fun labels label => labels.insert label.1 label.2) config.staticLabels
  .ok {
    name, journal, cursorFile, lastAcked, staticLabels
    inFlight := none
    positioned := false
    batchSize := config.batchSize
    batchMaxBytes := config.batchMaxBytes
    pending := none
    batchWait := config.batchWait
    labelsMap := config.labels
    metadataMap := config.metadata }

/-- A call that may move the journal. -/
def onJournal {Value : Type} (explain : String → String)
    (call : Stateful api.Handle String Value) : Stateful (JournaldSource api) Error Value :=
  Stateful.onPart journal (fun source journal => { source with journal })
    (fun message => .source (explain message)) call

/-- A call that asks about the current entry. -/
def askJournal {Value : Type} (explain : String → String)
    (call : api.Handle → Except String Value) : Stateful (JournaldSource api) Error Value :=
  Stateful.ask fun source =>
    (call source.journal).mapError fun message => .source (explain message)

def seekTail : Stateful (JournaldSource api) Error Unit :=
  onJournal (fun e => s!"seek_tail: {e}") api.seekTail

def positionToStart : Stateful (JournaldSource api) Error Unit := do
  let source ← Stateful.get
  match source.lastAcked with
  | some cursor =>
      match ← Stateful.attempt (onJournal id fun journal => api.seekCursor journal cursor) with
      | .error _ => seekTail
      | .ok () =>
          let _advanced ← onJournal (fun e => s!"next after seek: {e}") api.next
  | none =>
      seekTail
      let _moved ← onJournal (fun e => s!"previous after seek_tail: {e}") api.previous
  Stateful.modify fun source => { source with positioned := true }

def waitForJournalEvent (readable : Except String Unit) :
    Stateful (JournaldSource api) Error Unit := do
  Stateful.ask fun _ => readable.mapError fun e => .source s!"async_fd readable: {e}"
  onJournal (fun e => s!"process: {e}") api.process

def batchHasRoom (source : JournaldSource api) (batch : Batch) : Bool :=
  batch.entries.length < source.batchSize &&
    (source.batchMaxBytes == 0 || batch.approxBytes < source.batchMaxBytes)

/-- The labels or the metadata that a record gives: the values of the mapped
fields that it has. -/
def mapFields (map : Labels) (record : JournalRecord) (initial : Labels) : Labels :=
  map.entries.foldl (fun fields entry =>
    match record.get? entry.2 with
    | some value => fields.insert entry.1 value
    | none => fields) initial

def recordToEntry (source : JournaldSource api) (record : JournalRecord)
    (timestamp : SystemTime) : LogEntry :=
  let message := (record.get? "MESSAGE").getD ""
  let record := record.erase "MESSAGE"
  { timestamp, message
    labels := mapFields source.labelsMap record source.staticLabels
    metadata := mapFields source.metadataMap record .empty }

/-- The parked entry, or else the next one of the journal. -/
def takeNext : Stateful (JournaldSource api) Error (Option (LogEntry × Cursor)) := do
  let source ← Stateful.get
  match source.pending with
  | some item =>
      Stateful.modify fun source => { source with pending := none }
      pure (some item)
  | none =>
      match ← onJournal (fun e => s!"next_entry: {e}") api.nextEntry with
      | none => pure none
      | some record =>
          let cursor ← askJournal (fun e => s!"cursor: {e}") api.cursor
          let timestamp ← askJournal (fun e => s!"timestamp: {e}") api.timestamp
          pure (some (source.recordToEntry record timestamp, cursor))

/-- Whether an entry has to wait for the next batch. -/
def exceedsCap (source : JournaldSource api) (batch : Batch) (entry : LogEntry) : Bool :=
  source.batchMaxBytes != 0 && !batch.entries.isEmpty &&
    batch.approxBytes + entry.approxSize > source.batchMaxBytes

/-- The loop of `drainAvailable`, by recursion on the room that `batchSize` leaves:
every iteration but the last pushes an entry. -/
def drainLoop : (room : Nat) → Batch → Stateful (JournaldSource api) Error Batch
  | 0, batch => pure batch
  | room + 1, batch => do
      let source ← Stateful.get
      if source.batchHasRoom batch then
        match ← takeNext with
        | none => pure batch
        | some (entry, cursor) =>
            if source.exceedsCap batch entry then
              Stateful.modify fun source => { source with pending := some (entry, cursor) }
              pure batch
            else
              drainLoop room (batch.push entry cursor)
      else
        pure batch

/-- When it fails, every caller drops the batch. -/
def drainAvailable (batch : Batch) : Stateful (JournaldSource api) Error Batch := do
  let source ← Stateful.get
  drainLoop (source.batchSize - batch.entries.length) batch

/-- Block until there is an entry. Without a result it still waits. -/
def awaitFirst (readable : List (Except String Unit)) (batch : Batch) :
    Stateful (JournaldSource api) Error (Option Batch) :=
  if batch.entries.isEmpty then
    match readable with
    | [] => pure none
    | event :: rest => do
        waitForJournalEvent event
        let batch ← drainAvailable batch
        awaitFirst rest batch
  else
    pure (some batch)

/-- Coalesce more entries within the batch window. -/
def coalesce (deadline : Instant) (window : List Turn) (batch : Batch) :
    Stateful (JournaldSource api) Error (Option Batch) := do
  let source ← Stateful.get
  if source.batchHasRoom batch then
    match window with
    | [] => pure none
    | turn :: rest =>
        if deadline < turn.now then pure (some batch)
        else
          match turn.readable with
          | none => pure (some batch)
          | some event => do
              waitForJournalEvent event
              let batch ← drainAvailable batch
              coalesce deadline rest batch
  else
    pure (some batch)

/-- The batch window of `buildBatch`. A deadline that overflows ends the process, and there is
no result then. -/
def fillWindow (wakeups : Wakeups) (batchWait : Duration) (batch : Batch) :
    Stateful (JournaldSource api) Error (Option Batch) :=
  match addDuration wakeups.windowStart batchWait with
  | none => pure none
  | some deadline => coalesce deadline wakeups.window batch

/-- The immediate catch-up of `buildBatch`, and the wait for a first entry. -/
def firstEntries (readable : List (Except String Unit)) :
    Stateful (JournaldSource api) Error (Option Batch) := do
  let batch ← drainAvailable {}
  awaitFirst readable batch

def buildBatch (wakeups : Wakeups) : Stateful (JournaldSource api) Error (Option Batch) := do
  let source ← Stateful.get
  if !source.positioned then
    positionToStart
  match ← firstEntries wakeups.first with
  | none => pure none
  | some batch => fillWindow wakeups source.batchWait batch

/-- The caller may still hold a reference to the batch in flight. -/
def peekBatch (callerHolds : Bool) (wakeups : Wakeups) :
    Stateful (JournaldSource api) Error Peek := do
  let source ← Stateful.get
  match source.inFlight with
  | some batch =>
      if callerHolds then
        pure (.batch batch)
      else
        Stateful.modify fun source => { source with inFlight := none }
        let _processed ← Stateful.attempt (onJournal id api.process)
        let batch ← drainAvailable batch
        Stateful.modify fun source => { source with inFlight := some batch }
        pure (.batch batch)
  | none =>
      match ← buildBatch wakeups with
      | none => pure .waiting
      | some batch =>
          Stateful.modify fun source => { source with inFlight := some batch }
          pure (.batch batch)

/-- `ack`, on a disk. -/
def ack (cursor : Cursor) (fault : Option Fault) :
    Stateful (JournaldSource api × FileTree) Error Unit := do
  let (source, _) ← Stateful.get
  Stateful.onPart Prod.snd (fun state tree => (state.1, tree)) id
    fun tree => persistCursor fault tree source.cursorFile cursor
  Stateful.modify fun state =>
    ({ state.1 with lastAcked := some cursor, inFlight := none }, state.2)

/-- The journald source as a shipper drives it. -/
@[reducible] def asSource (api : JournalApi) : Source where
  State := JournaldSource api × FileTree
  PeekInput := Bool × Wakeups
  AckInput := Option Fault
  peekBatch input :=
    Stateful.onPart Prod.fst (fun state source => (source, state.2)) id
      (peekBatch input.1 input.2)
  ack := ack
  name state := state.1.name

end JournaldSource

end Ferrometer.Log
