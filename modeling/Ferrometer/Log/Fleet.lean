import Ferrometer.Foundation.Sharing
import Ferrometer.Log.Interference
import Ferrometer.Log.Repeats
import Ferrometer.Log.Sink.Labels

/-!
Contract: all log shippers of the process, on one disk.

Owns: the machine of `spawn_logs`, in which the shippers take their steps in turn, and that
each of them delivers as it would alone.

Does not own: why a process ends, or how far the next one gets. When a process has ended, each
shipper starts again at a time of its own, if it does: the sources are built one after the
other, and position themselves when they are first peeked. What a shipper does in between is
not ruled out.
-/

set_option autoImplicit false

namespace Ferrometer.Log

open Ferrometer.Config Ferrometer.Foundation JournaldSource

variable {api : JournalApi}

/-! ## Model -/

/-- The same shipper, when the disk has changed. -/
def Shipper.onDisk (tree : FileTree) (shipper : Shipper (asSource api)) :
    Shipper (asSource api) :=
  { shipper with source := (shipper.source.1, tree) }

def Restarts.onDisk (tree : FileTree) (state : Restarts api) : Restarts api :=
  { state with shipper := state.shipper.onDisk tree }

/-- A shipper of the configuration. -/
structure Member (api : JournalApi) where
  setup : Setup
  /-- Its processes, as soon as it has started. -/
  processes : Option (Restarts api)

namespace Member

section Step

variable (contract : JournalContract api)

def step (tree : FileTree) (member : Member api) (event : RestartEvent api) :
    Option (FileTree × Member api) :=
  match member.processes, event with
  | none, .run _ => none
  | none, .restart handle => do
      let state ← Restarts.first contract member.setup tree handle
      some (tree, { member with processes := some state })
  | some state, event => do
      let next ← (state.onDisk tree).step contract member.setup event
      some (next.shipper.source.2, { member with processes := some next })

/-- A restart finds a cursor, or nothing unsettled, and no save is cut short that writes the
cursor file itself. -/
def Keeps (tree : FileTree) (member : Member api) (event : RestartEvent api) : Prop :=
  match member.processes with
  | none => True
  | some state => (state.onDisk tree).Keeps contract member.setup event

instance (tree : FileTree) (member : Member api) (event : RestartEvent api) :
    Decidable (member.Keeps contract tree event) := by
  unfold Keeps
  split
  · exact inferInstance
  · exact inferInstance

end Step

end Member

/-- What `spawn_logs` makes of an entry of the configuration. -/
def setupOf (instanceName : String) (entry : String × ShipperConfig) : Setup :=
  match entry.2.source with
  | .journald config =>
      { name := entry.1
        config
        extraStaticLabels := Loki.extraStaticLabels instanceName
        backoffInitial := entry.2.backoffInitial
        backoffMax := entry.2.backoffMax }

def setups (config : Config) : List Setup :=
  config.logs.shippers.entries.map (setupOf config.instanceConfig.name)

/-- The shippers of a configuration, before they have started. -/
abbrev Fleet (api : JournalApi) := Sharing FileTree (Member api)

namespace Fleet

def new (config : Config) (tree : FileTree) : Fleet api where
  shared := tree
  components := (setups config).map fun setup => { setup, processes := none }

def machine (contract : JournalContract api) : Machine (Fleet api) (Nat × RestartEvent api) :=
  Sharing.machine (Member.step contract)

end Fleet

theorem setups_cursorFile (config : Config) :
    (setups config).map Setup.cursorFile = cursorFiles config := by
  rw [setups, cursorFiles, List.map_map]
  apply List.map_congr_left
  rintro ⟨name, ⟨source, sink⟩⟩ _
  cases source with
  | journald source => rfl

/-! ## What a change of the disk leaves alone -/

section OnDisk

variable {contract : JournalContract api} {origin : JournaldSource api}
  {shipper : Shipper (asSource api)} {tree : FileTree}

theorem Delivered.onDisk {start : Location} {entries : List JournalEntry}
    (delivered : Delivered contract start origin shipper entries) :
    Delivered contract start origin (shipper.onDisk tree) entries :=
  ⟨delivered.fromStart, delivered.settled, delivered.acks⟩

theorem Running.onDisk {done flight parked : List JournalEntry}
    (running : Running contract origin shipper done flight parked) :
    Running contract origin (shipper.onDisk tree) done flight parked :=
  ⟨running.tracks, running.sent, running.delivered.onDisk⟩

theorem Ships.onDisk (ships : Ships contract origin shipper) :
    Ships contract origin (shipper.onDisk tree) where
  running alive := by
    rcases ships.running alive with ⟨done, flight, parked, running⟩
    exact ⟨done, flight, parked, running.onDisk⟩
  delivered := by
    rcases ships.delivered with ⟨entries, delivered⟩
    exact ⟨entries, delivered.onDisk⟩

/-- As long as its own cursor file reads the same. -/
theorem Lagging.onDisk {initial : Cursor → Prop}
    (lagging : Lagging contract initial origin shipper)
    (same : readSavedCursor tree origin.cursorFile =
      readSavedCursor shipper.source.2 origin.cursorFile) :
    Lagging contract initial origin (shipper.onDisk tree) where
  cursorFile := lagging.cursorFile
  upToDate alive := by
    rcases lagging.upToDate alive with ⟨done, flight, parked, running, marks⟩
    exact ⟨done, flight, parked, running.onDisk, fun saved read => marks saved (same ▸ read)⟩
  lagsBehind saved read := by
    rcases lagging.lagsBehind saved (same ▸ read) with ⟨acked, unacked, few, marks, delivered⟩
    exact ⟨acked, unacked, few, marks, delivered.onDisk⟩

end OnDisk

namespace Restarts

variable {contract : JournalContract api} {setup : Setup} {state : Restarts api}
  {tree : FileTree}

theorem Kept.onDisk (kept : Kept contract setup state)
    (same : readSavedCursor tree setup.cursorFile =
      readSavedCursor state.shipper.source.2 setup.cursorFile) :
    Kept contract setup (state.onDisk tree) where
  ships := kept.ships.onDisk
  positioned := kept.positioned
  cursorFile := kept.cursorFile
  known := kept.known
  grown := kept.grown
  atEntry := kept.atEntry
  neverPast := kept.neverPast
  saved cursor read := kept.saved cursor (same ▸ read)

theorem Repeating.onDisk (repeating : Repeating contract setup state)
    (same : readSavedCursor tree setup.cursorFile =
      readSavedCursor state.shipper.source.2 setup.cursorFile) :
    Repeating contract setup (state.onDisk tree) where
  ships := repeating.ships.onDisk
  lagging := repeating.lagging.onDisk (repeating.cursorFile ▸ same)
  positioned := repeating.positioned
  cursorFile := repeating.cursorFile
  batchSize := repeating.batchSize
  grown := repeating.grown
  known := repeating.known
  near := repeating.near

end Restarts

/-! ## One step -/

namespace Member

variable {contract : JournalContract api} {tree after : FileTree} {member next : Member api}
  {event : RestartEvent api}

/-- A step writes nothing but the cursor file of its own shipper. -/
theorem step_disk
    (cursorFile : ∀ state ∈ member.processes,
      state.shipper.source.1.cursorFile = member.setup.cursorFile)
    (stepped : member.step contract tree event = some (after, next)) :
    after = tree ∨
      ∃ fault cursor, after = (persistCursor fault tree member.setup.cursorFile cursor).1 := by
  rcases member with ⟨setup, _ | state⟩
  · cases event with
    | run event => cases stepped
    | restart handle =>
        rcases Option.bind_eq_some_iff.mp stepped with ⟨state, -, equal⟩
        cases equal
        exact Or.inl rfl
  · rcases Option.bind_eq_some_iff.mp stepped with ⟨reached, moved, equal⟩
    cases equal
    cases event with
    | run event =>
        rcases Option.bind_eq_some_iff.mp moved with ⟨shipper, taken, equal⟩
        cases equal
        rcases (step_saves contract taken).disk with same | ⟨cursor, saved, -, written⟩
        · exact Or.inl same
        · refine Or.inr ⟨faultOf event, cursor, ?_⟩
          rw [← cursorFile state rfl]
          exact written
    | restart handle =>
        unfold Restarts.step at moved
        simp only at moved
        split at moved
        · rcases Option.bind_eq_some_iff.mp moved with ⟨origin, -, equal⟩
          cases equal
          exact Or.inl rfl
        · cases moved

/-- The invariant of a shipper at its place in the configuration, after so many starts. -/
structure Serving (contract : JournalContract api) (configured : List Setup)
    (index starts : Nat) (tree : FileTree) (member : Member api) : Prop where
  configured : configured[index]? = some member.setup
  /-- Before its first start there is no cursor. -/
  fresh : member.processes = none →
    starts = 0 ∧ readSavedCursor tree member.setup.cursorFile = .ok none
  kept : ∀ state ∈ member.processes,
    Restarts.Kept contract member.setup (state.onDisk tree)
  counted : ∀ state ∈ member.processes, ∃ restarts, starts = restarts + 1 ∧
    Restarts.Repeating.Counted contract member.setup restarts (state.onDisk tree)

variable {configured : List Setup} {index starts : Nat}

theorem Serving.step (laws : Restarts.CursorLaws contract)
    (serving : Serving contract configured index starts tree member)
    (keeps : member.Keeps contract tree event)
    (stepped : member.step contract tree event = some (after, next)) :
    Serving contract configured index (starts + event.isRestart.toNat) after next := by
  rcases member with ⟨setup, _ | state⟩
  · rcases serving.fresh rfl with ⟨none, absent⟩
    cases event with
    | run event => cases stepped
    | restart handle =>
        rcases Option.bind_eq_some_iff.mp stepped with ⟨state, started, equal⟩
        cases equal
        have onDisk : state.onDisk tree = state := by
          rcases Option.bind_eq_some_iff.mp started with ⟨origin, -, equal⟩
          cases equal
          rfl
        have first := Restarts.Repeating.first laws
          (fun saved found => by simp [absent] at found) started
        exact {
          configured := serving.configured
          fresh := nofun
          kept := fun _ isLatest => by
            cases isLatest
            rw [onDisk]
            exact Restarts.Kept.first absent started
          counted := fun _ isLatest => by
            cases isLatest
            rw [onDisk]
            exact ⟨0, by rw [none]; rfl, first.imp_right Or.inl⟩ }
  · rcases Option.bind_eq_some_iff.mp stepped with ⟨reached, moved, equal⟩
    cases equal
    rcases serving.counted state rfl with ⟨restarts, rfl, counted⟩
    have whole : Restarts.Whole setup event := by
      cases event with
      | run event => exact keeps
      | restart handle => trivial
    exact {
      configured := serving.configured
      fresh := nofun
      kept := fun _ isLatest => by
        cases isLatest
        exact (serving.kept state rfl).step laws keeps moved
      counted := fun _ isLatest => by
        cases isLatest
        exact ⟨restarts + event.isRestart.toNat, Nat.add_right_comm ..,
          counted.step laws whole moved⟩ }

/-- A step of another shipper, if its file is separate. -/
theorem Serving.undisturbed {other otherStarts : Nat} {otherMember : Member api}
    (separated : Separated (configured.map Setup.cursorFile)) (different : other ≠ index)
    (serving : Serving contract configured index starts tree member)
    (otherServing : Serving contract configured other otherStarts tree otherMember)
    (stepped : otherMember.step contract tree event = some (after, next)) :
    Serving contract configured index starts after member := by
  have same : readSavedCursor after member.setup.cursorFile =
      readSavedCursor tree member.setup.cursorFile := by
    have ownFile : ∀ state ∈ otherMember.processes,
        state.shipper.source.1.cursorFile = otherMember.setup.cursorFile :=
      fun state isLatest => (otherServing.kept state isLatest).cursorFile
    rcases step_disk ownFile stepped with unchanged | ⟨fault, cursor, written⟩
    · rw [unchanged]
    · rw [written]
      apply readSavedCursor_of_separate
      apply separated other index _ _ different
      · rw [List.getElem?_map, otherServing.configured]
        rfl
      · rw [List.getElem?_map, serving.configured]
        rfl
  exact {
    configured := serving.configured
    fresh := fun isFresh => by
      rw [same]
      exact serving.fresh isFresh
    kept := fun state isLatest => (serving.kept state isLatest).onDisk same
    counted := fun state isLatest => by
      rcases serving.counted state isLatest with ⟨restarts, isCount, repeating, few⟩
      exact ⟨restarts, isCount, repeating.onDisk same, few⟩ }

end Member

/-! ## Runs -/

/-- What a shipper has done, however often it has started. -/
structure Delivers (contract : JournalContract api) (setup : Setup) (starts : Nat)
    (state : Restarts api) : Prop where
  /-- Nothing that was appended since its first start is passed over. -/
  neverPast : state.NeverPast contract
  /-- A process settles entries in the order of the journal, and each of them once. -/
  inOrder : settled state.shipper.actions =
    (state.settledNow contract).map state.origin.toEntry
  once : (state.settledNow contract).Nodup
  /-- At most a batch of them had been settled before, -/
  again : ((state.settledNow contract).filter (· ∈ state.before)).length ≤ setup.config.batchSize
  /-- and all together no more than a batch for each start but the first. -/
  repeats : (state.settledEver contract).length ≤ (state.settledEver contract).dedup.length +
    (starts - 1) * setup.config.batchSize

theorem Member.Serving.delivers {contract : JournalContract api} {configured : List Setup}
    {index starts : Nat} {tree : FileTree} {member : Member api}
    (serving : Member.Serving contract configured index starts tree member)
    {state : Restarts api} (isLatest : member.processes = some state) :
    Delivers contract member.setup starts state := by
  have kept := serving.kept state isLatest
  rcases serving.counted state isLatest with ⟨restarts, rfl, counted⟩
  exact {
    neverPast := kept.neverPast
    inOrder := kept.toPlaced.delivered.settled
    once := Restarts.Repeating.settledNow_nodup state
    again := counted.1.again_le
    repeats := counted.settledEver_le }

namespace Fleet

/-- In every interleaving of the shippers of a process, and over any number of ends of it: if
no shipper writes or hides the cursor file of another one, each of them delivers as it would
alone. -/
theorem fleet_run_delivers {contract : JournalContract api}
    (laws : Restarts.CursorLaws contract) {config : Config}
    (separated : Separated (cursorFiles config)) {tree : FileTree}
    (absent : ∀ file ∈ cursorFiles config, readSavedCursor tree file = .ok none)
    {final : Fleet api} {events : List (Nat × RestartEvent api)}
    (along : (machine contract).Along
      (Sharing.Allows fun tree member event => member.Keeps contract tree event)
      (new config tree) events)
    (ran : (machine contract).run (new config tree) events = some final) :
    ∀ index member state, final.components[index]? = some member →
      member.processes = some state →
      (setups config)[index]? = some member.setup ∧
        Delivers contract member.setup
          (events.countP (Sharing.marksAt RestartEvent.isRestart index)) state := by
  rw [← setups_cursorFile] at separated absent
  have kept : Sharing.Kept (Member.step contract)
      (fun tree member event => member.Keeps contract tree event) RestartEvent.isRestart
      (Member.Serving contract (setups config)) := {
    own := fun serving keeps stepped => serving.step laws keeps stepped
    undisturbed := fun different serving otherServing stepped =>
      serving.undisturbed separated different otherServing stepped }
  have start : ∀ index member, (new config tree).components[index]? = some member →
      Member.Serving contract (setups config) index 0 tree member := by
    intro index member found
    rcases Option.map_eq_some_iff.mp (List.getElem?_map.symm.trans found) with
      ⟨setup, configured, rfl⟩
    exact {
      configured := configured
      fresh := fun _ => ⟨rfl, absent _ (List.mem_map_of_mem (List.mem_of_getElem? configured))⟩
      kept := fun state isLatest => absurd isLatest (Option.not_mem_none state)
      counted := fun state isLatest => absurd isLatest (Option.not_mem_none state) }
  intro index member state found isLatest
  have serving := Sharing.run_kept kept start along ran found
  exact ⟨serving.configured, serving.delivers isLatest⟩

/-! ## Two shippers -/

/-- Two shippers with cursor files of their own. -/
def apartShippers : Config where
  instanceConfig := ⟨"myhost"⟩
  metrics := (twoShippers defaultCursorFile).metrics
  logs := {
    shippers := {
      entries := [
        ("near", {
          source := .journald { batchSize := 2, cursorFile := "/state/near.cursor" }
          sink := .loki { endpoint := "http://near:3100" } }),
        ("far", {
          source := .journald { batchSize := 2, cursorFile := "/state/far.cursor" }
          sink := .loki { endpoint := "http://far:3100" } })] } }

theorem apartShippers_separated : Separated (cursorFiles apartShippers) := by
  have near : Separate (Path.ofString "/state/near.cursor") (Path.ofString "/state/far.cursor") :=
    Or.inr ⟨by decide, fun _ _ => ⟨by decide, by decide⟩⟩
  have far : Separate (Path.ofString "/state/far.cursor") (Path.ofString "/state/near.cursor") :=
    Or.inr ⟨by decide, fun _ _ => ⟨by decide, by decide⟩⟩
  have files : cursorFiles apartShippers =
      [Path.ofString "/state/near.cursor", Path.ofString "/state/far.cursor"] := rfl
  rw [files]
  intro shipper neighbour path other different isPath isOther
  rcases shipper with _ | _ | shipper
  · rcases neighbour with _ | _ | neighbour
    · exact absurd rfl different
    · cases isPath
      cases isOther
      exact near
    · simp at isOther
  · rcases neighbour with _ | _ | neighbour
    · cases isPath
      cases isOther
      exact far
    · exact absurd rfl different
    · simp at isOther
  · simp at isPath

/-- The first shipper dies while it saves the cursor of its second batch. -/
def dyingTogether : List (Nat × RestartEvent MemoryJournal.api) :=
  [(0, .restart (.sample 1 [0, 0, 4])), (1, .restart (.sample 1 [0, 0, 4])),
    (0, .run (shippingIteration 1 (.ok ()))),
    (1, .run (shippingIteration 1 (.error (.sinkRejected "HTTP 400")))),
    (0, .run (.iteration {
      resumed := 2
      peek := (false, Caller.timer)
      answered := 2
      ack := some (.rename .notFound) })),
    (1, .restart (.sample 5 [])), (0, .restart (.sample 5 [])),
    (0, .run (shippingIteration 3 (.ok ()))), (1, .run (shippingIteration 3 (.ok ())))]

theorem fleet_run_delivers_dyingTogether :
    ∃ final : Fleet MemoryJournal.api,
      (machine MemoryJournal.contract).run (new apartShippers FileTree.empty) dyingTogether =
          some final ∧
        final.components.map (fun member => (member.processes.map fun state =>
          (state.settledEver MemoryJournal.contract).map JournalEntry.cursor)) =
            [some ["xx", "xxx", "xxxx", "xxxxx", "xxxx", "xxxxx"],
              some ["xx", "xxx", "xxxx", "xxxxx"]] ∧
        ∀ index member state, final.components[index]? = some member →
          member.processes = some state →
          (setups apartShippers)[index]? = some member.setup ∧
            Delivers MemoryJournal.contract member.setup
              (dyingTogether.countP (Sharing.marksAt RestartEvent.isRestart index)) state := by
  have ends : ((machine MemoryJournal.contract).run (new apartShippers FileTree.empty)
      dyingTogether).map (fun final => final.components.map fun member =>
        member.processes.map fun state =>
          (state.settledEver MemoryJournal.contract).map JournalEntry.cursor) =
      some [some ["xx", "xxx", "xxxx", "xxxxx", "xxxx", "xxxxx"],
        some ["xx", "xxx", "xxxx", "xxxxx"]] := by
    decide +kernel
  rcases Option.map_eq_some_iff.mp ends with ⟨final, ran, cursors⟩
  have laws : Restarts.CursorLaws MemoryJournal.contract :=
    ⟨fun journal entry member => journal.solid entry (List.mem_of_mem_take member),
      fun _ _ _ => rfl⟩
  have absent : ∀ file ∈ cursorFiles apartShippers,
      readSavedCursor FileTree.empty file = .ok none := by decide +kernel
  have along : (machine MemoryJournal.contract).Along
      (Sharing.Allows fun tree member event => member.Keeps MemoryJournal.contract tree event)
      (new apartShippers FileTree.empty) dyingTogether := by
    decide +kernel
  exact ⟨final, ran, cursors,
    fleet_run_delivers laws apartShippers_separated absent along ran⟩

end Fleet

end Ferrometer.Log
