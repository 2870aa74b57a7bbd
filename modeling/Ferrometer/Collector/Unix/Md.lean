import Ferrometer.Collector.Unix.Series
import Mathlib.Data.List.Sort
import Mathlib.Data.Prod.Lex

/-!
Contract: the md sub-collector.

Owns: `collect` with the arrays, their members and the series made of them, and when no
two readings are of one series.

Does not own: what the kernel writes to the files.
-/

set_option autoImplicit false

namespace Ferrometer.Collector.Unix.Md

open Ferrometer.Foundation

/-! ## Texts -/

def mdStates : List String :=
  ["active", "inactive", "recovering", "resync", "check", "repair", "reshape"]

/-- Sectors done, of how many. -/
def parseSyncCompleted (raw : String) : Option (UInt64 × UInt64) :=
  match Text.splitOnce ['/'] raw.toList with
  | none => none
  | some (done, total) =>
      match parseU64 (Log.trim (.ofList done)), parseU64 (Log.trim (.ofList total)) with
      | some done, some total => some (done, total)
      | _, _ => none

/-- The flags of a member, without blanks around them. -/
def flags (state : String) : List String :=
  (state.toList.splitOn ',').map fun flag => Log.trim (.ofList flag)

def diskBucket (state : String) : String :=
  if "faulty" ∈ flags state then "failed"
  else if "in_sync" ∈ flags state then "active"
  else "spare"

def activityState (arrayState syncAction : Option String) : Option String :=
  if arrayState = some "inactive" then some "inactive"
  else if syncAction = some "resync" then some "resync"
  else if syncAction = some "recover" then some "recovering"
  else if syncAction = some "check" then some "check"
  else if syncAction = some "repair" then some "repair"
  else if syncAction = some "reshape" then some "reshape"
  else arrayState.map fun _ => "active"

/-- `i64::from_str`. -/
def parseI64 (text : String) : Option Int :=
  match text.toList with
  | '-' :: '+' :: _ => none
  | '-' :: digits =>
      ((Config.parseU64 digits).toOption.filter (· ≤ 2 ^ 63)).map fun value => -value
  | digits => ((Config.parseU64 digits).toOption.filter (· < 2 ^ 63)).map Int.ofNat

/-- The lines that are not blank. -/
def filledLines (content : String) : List (List Char) :=
  (content.toList.splitOn '\n').filter fun line => !line.all Log.isWhitespace

/-! ## Files -/

section Files

variable (floats : FloatOps) (files : Files)

def sysBlock : OsPath :=
  .ofNames ["sys", "block"]

/-- Sorted, the arrays with their `md` directories. -/
def arrays : List (String × OsPath) :=
  (((files.readDir sysBlock).getD []).filterMap fun entry =>
    (Text.ofUtf8 entry).bind fun name =>
      let md := sysBlock ++ [entry] ++ .ofNames ["md"]
      if "md".toList <+: name.toList ∧ files.isDir md then some (name, md)
      else none).insertionSort fun left right => toLex left ≤ toLex right

/-- Sorted, the members of an array with their `dev-` directories. -/
def members (md : OsPath) : List (String × OsPath) :=
  (((files.readDir md).getD []).filterMap fun entry =>
    (Text.ofUtf8 entry).bind fun name =>
      if "dev-".toList <+: name.toList then some (String.ofList (name.toList.drop 4), md ++ [entry])
      else none).insertionSort fun left right => toLex left ≤ toLex right

def readAttr (dir : OsPath) (attr : String) : Option String :=
  files.readString (dir ++ .ofNames [attr])

def readAttrU64 (dir : OsPath) (attr : String) : Option UInt64 :=
  files.readU64 (dir ++ .ofNames [attr])

/-- A reading of an array. -/
def arrayReading (device name : String) (value : UInt64) (extra : List (String × String)) :
    Reading where
  name := name
  metricType := .gauge
  value := value
  labels := .ofList (("device", device) :: extra)

def infoReading (device : String) (md : OsPath) : Reading :=
  arrayReading device "node_md_info" f64One
    (["level", "metadata_version", "uuid", "consistency_policy"].filterMap fun attr =>
      (readAttr files md attr).map fun value => (attr, value))

def attrReadings (device : String) (md : OsPath) : List Reading :=
  [("degraded", "node_md_degraded"), ("raid_disks", "node_md_disks_required"),
    ("mismatch_cnt", "node_md_mismatch_cnt"), ("chunk_size", "node_md_chunk_size_bytes")].filterMap
      fun (attr, name) => (readAttrU64 files md attr).map fun value =>
        arrayReading device name (floats.ofU64 value) []

/-- The size of the array in blocks of 1 KiB. -/
def blocks (md : OsPath) : Option UInt64 :=
  (readAttrU64 files md.dropLast "size").map fun sectors => sectors / 2

/-- How many of the blocks are in sync, all of them while no sync runs. -/
def synced (md : OsPath) : Option UInt64 :=
  (((readAttr files md "sync_completed").bind parseSyncCompleted).map fun completed =>
    completed.1 / 2).or (blocks files md)

def sizeReadings (device : String) (md : OsPath) : List Reading :=
  ((blocks files md).map fun blocks =>
    arrayReading device "node_md_blocks" (floats.ofU64 blocks) []).toList ++
  ((synced files md).map fun synced =>
    arrayReading device "node_md_blocks_synced" (floats.ofU64 synced) []).toList ++
  ((readAttr files md "sync_speed").map fun raw =>
    arrayReading device "node_md_sync_speed_bytes"
      (floats.ofU64 ((parseU64 raw).getD 0 * 1024)) []).toList

def stateReadings (device : String) (current : Option String) : List Reading :=
  current.elim [] fun current => mdStates.map fun state =>
    arrayReading device "node_md_state" (if state = current then f64One else f64Zero)
      [("state", state)]

def lastActionReadings (device : String) (md : OsPath) : List Reading :=
  ((readAttr files md "last_sync_action").map fun action =>
    arrayReading device "node_md_last_sync_action" f64One [("action", action)]).toList

def diskReading (device disk name : String) (metricType : MetricType) (value : UInt64)
    (extra : List (String × String)) : Reading where
  name := name
  metricType := metricType
  value := value
  labels := .ofList (("device", device) :: ("disk", disk) :: extra)

/-- One round of the loop over the members. -/
def memberReadings (device disk : String) (dir : OsPath) : List Reading :=
  ((readAttr files dir "state").elim [] fun state =>
    ((flags state).filter (· ≠ "")).map fun flag =>
      diskReading device disk "node_md_disk_state" .gauge f64One [("state", flag)]) ++
  ((readAttrU64 files dir "errors").map fun errors =>
    diskReading device disk "node_md_disk_errors_total" .counter (floats.ofU64 errors) []).toList ++
  ((readAttrU64 files dir "size").map fun kib =>
    diskReading device disk "node_md_disk_size_bytes" .gauge
      (floats.ofU64 (kib * 1024)) []).toList ++
  ((readAttr files dir "slot").map fun raw =>
    diskReading device disk "node_md_disk_slot" .gauge
      (floats.ofI64 ((parseI64 raw).getD (-1))) []).toList ++
  [("bad_blocks", "node_md_disk_bad_blocks"),
    ("unacknowledged_bad_blocks", "node_md_disk_unacknowledged_bad_blocks")].filterMap
      fun (attr, name) => (readAttr files dir attr).map fun content =>
        diskReading device disk name .gauge
          (floats.ofU64 (.ofNat (filledLines content).length)) []

/-- How many members are in each state. -/
def tally (members : List (String × OsPath)) : SortedMap String UInt64 :=
  members.foldl
    (fun tally member =>
      match readAttr files member.2 "state" with
      | none => tally
      | some state => tally.upsert (diskBucket state) fun count => count.getD 0 + 1)
    (.ofList [("active", 0), ("failed", 0), ("spare", 0)])

def tallyReadings (device : String) (tally : SortedMap String UInt64) : List Reading :=
  tally.entries.map fun (state, count) =>
    arrayReading device "node_md_disks" (floats.ofU64 count) [("state", state)]

def collectArray (device : String) (md : OsPath) : List Reading :=
  let current := activityState (readAttr files md "array_state") (readAttr files md "sync_action")
  infoReading files device md :: attrReadings floats files device md ++
    sizeReadings floats files device md ++ stateReadings device current ++
    lastActionReadings files device md ++
    (members files md).flatMap (fun (disk, dir) => memberReadings floats files device disk dir) ++
    tallyReadings floats device (tally files (members files md))

def readings : List Reading :=
  if files.pathExists (.ofNames ["proc", "mdstat"]) then
    (arrays files).flatMap fun (device, md) => collectArray floats files device md
  else []

def collect (wallClock : Nat → SystemTime) (cache : LabelCache) :
    Except Error (List Metric) × LabelCache :=
  emitResult wallClock cache (.ok (readings floats files))

end Files

/-! ## Series -/

section Series

variable {floats : FloatOps} {files : Files} {device disk : String} {md dir : OsPath}
  {reading : Reading}

/-! ### A member -/

/-- The flags that are reported for a member. -/
def memberFlags (files : Files) (dir : OsPath) : List String :=
  (readAttr files dir "state").elim [] fun state => (flags state).filter (· ≠ "")

def flagReading (device disk flag : String) : Reading :=
  diskReading device disk "node_md_disk_state" .gauge f64One [("state", flag)]

def memberNames : List String :=
  ["node_md_disk_errors_total", "node_md_disk_size_bytes", "node_md_disk_slot",
    "node_md_disk_bad_blocks", "node_md_disk_unacknowledged_bad_blocks"]

/-- A member has a reading for each flag, and at most one of each other name. -/
private theorem memberReadings_eq (floats : FloatOps) (files : Files) (device disk : String)
    (dir : OsPath) :
    ∃ others, memberReadings floats files device disk dir =
        (memberFlags files dir).map (flagReading device disk) ++ others ∧
      OneOfEach memberNames others := by
  have flagged : ((readAttr files dir "state").elim [] fun state =>
      ((flags state).filter (· ≠ "")).map fun flag =>
        diskReading device disk "node_md_disk_state" .gauge f64One [("state", flag)]) =
      (memberFlags files dir).map (flagReading device disk) := by
    unfold memberFlags
    cases readAttr files dir "state" <;> rfl
  rw [memberReadings, flagged, List.append_assoc, List.append_assoc, List.append_assoc]
  refine ⟨_, rfl, ?_⟩
  exact oneOfEach_toList_append (fun _ => rfl)
    (oneOfEach_toList_append (fun _ => rfl)
      (oneOfEach_toList_append (fun _ => rfl)
        (oneOfEach_filterMap Prod.snd fun _ _ => rfl)))

private theorem named_memberReadings :
    Named (["node_md_disk_state"] ++ memberNames)
      (memberReadings floats files device disk dir) := by
  obtain ⟨others, eq, oneOfEach⟩ := memberReadings_eq floats files device disk dir
  rw [eq]
  exact (named_map (flagReading device disk) fun _ => rfl).append oneOfEach.named

private theorem nodup_series_memberReadings_iff :
    (series (memberReadings floats files device disk dir)).Nodup ↔
      (memberFlags files dir).Nodup := by
  obtain ⟨others, eq, oneOfEach⟩ := memberReadings_eq floats files device disk dir
  have injective : Function.Injective fun flag => (flagReading device disk flag).series := by
    intro flag other same
    have label := congrArg (fun series => series.2.get? "state") same
    simpa [flagReading, diskReading, Reading.series, SortedMap.ofList, SortedMap.get?_insert]
      using label
  rw [eq, nodup_series_append_iff (named_map (flagReading device disk) fun _ => rfl)
    oneOfEach.named (by decide), and_iff_left (oneOfEach.nodup_series (by decide)), series,
    List.map_map]
  exact List.nodup_map_iff injective

/-- Every reading of a member bears its name and that of its array. -/
private theorem labels_of_member (read : reading ∈ memberReadings floats files device disk dir) :
    reading.labels.get? "disk" = some disk ∧ reading.labels.get? "device" = some device := by
  have plain : ∀ name metricType value,
      (diskReading device disk name metricType value []).labels.get? "disk" = some disk ∧
        (diskReading device disk name metricType value []).labels.get? "device" = some device := by
    simp [diskReading, SortedMap.ofList, SortedMap.get?_insert]
  simp only [memberReadings, List.mem_append, Option.mem_toList, Option.map_eq_some_iff] at read
  rcases read with (((flag | ⟨_, -, rfl⟩) | ⟨_, -, rfl⟩) | ⟨_, -, rfl⟩) | attr
  · cases isState : readAttr files dir "state" with
    | none => simp [isState] at flag
    | some state =>
        rw [isState] at flag
        obtain ⟨flag, -, rfl⟩ := List.mem_map.mp flag
        simp [diskReading, SortedMap.ofList, SortedMap.get?_insert]
  · exact plain _ _ _
  · exact plain _ _ _
  · exact plain _ _ _
  · obtain ⟨⟨_, name⟩, -, made⟩ := List.mem_filterMap.mp attr
    obtain ⟨content, -, rfl⟩ := Option.map_eq_some_iff.mp made
    exact plain _ _ _

/-! ### The directories -/

/-- The entries of a directory differ in what they are called, if their file names can be
told from it. -/
private theorem nodup_names {path : OsPath} {make : OsString → Option (String × OsPath)}
    (fileName : String → OsString)
    (named : ∀ entry item, make entry = some item → entry = fileName item.1) :
    ((((files.readDir path).getD []).filterMap make).map Prod.fst).Nodup := by
  rw [List.map_filterMap]
  cases isDir : files.readDir path with
  | none => exact List.nodup_nil
  | some names =>
      apply (files.distinct isDir).filterMap
      intro entry other name isEntry isOther
      obtain ⟨item, made, rfl⟩ := Option.map_eq_some_iff.mp isEntry
      obtain ⟨otherItem, madeOther, same⟩ := Option.map_eq_some_iff.mp isOther
      rw [named entry item made, named other otherItem madeOther, same]

theorem members_nodup (files : Files) (md : OsPath) :
    ((members files md).map Prod.fst).Nodup := by
  rw [members, ((List.perm_insertionSort _ _).map Prod.fst).nodup_iff]
  apply nodup_names fun name => Text.utf8Bytes ("dev-" ++ name)
  intro entry item made
  obtain ⟨name, decoded, made⟩ := Option.bind_eq_some_iff.mp made
  split at made
  · rename_i isMember
    obtain rfl := Option.some.inj made
    obtain ⟨rest, split⟩ := isMember
    have dropped : name.toList.drop 4 = rest := by
      rw [← split]
      rfl
    have whole : "dev-" ++ String.ofList rest = name := by
      apply String.toList_inj.mp
      rw [String.toList_append]
      exact (congrArg ("dev-".toList ++ ·) String.toList_ofList).trans split
    rw [dropped, whole, Text.utf8Bytes_of_ofUtf8 decoded]
  · exact absurd made (by simp)

theorem arrays_nodup (files : Files) : ((arrays files).map Prod.fst).Nodup := by
  rw [arrays, ((List.perm_insertionSort _ _).map Prod.fst).nodup_iff]
  apply nodup_names Text.utf8Bytes
  intro entry item made
  obtain ⟨name, decoded, made⟩ := Option.bind_eq_some_iff.mp made
  simp only at made
  split at made
  · obtain rfl := Option.some.inj made
    exact (Text.utf8Bytes_of_ofUtf8 decoded).symm
  · exact absurd made (by simp)

/-! ### An array -/

def arrayNames : List String :=
  ["node_md_info", "node_md_degraded", "node_md_disks_required", "node_md_mismatch_cnt",
    "node_md_chunk_size_bytes", "node_md_blocks", "node_md_blocks_synced",
    "node_md_sync_speed_bytes"]

private theorem oneOfEach_array :
    OneOfEach arrayNames (infoReading files device md :: attrReadings floats files device md ++
      sizeReadings floats files device md) := by
  have attrs : OneOfEach _ (attrReadings floats files device md) :=
    oneOfEach_filterMap Prod.snd fun _ _ => rfl
  have sizes : OneOfEach ["node_md_blocks", "node_md_blocks_synced", "node_md_sync_speed_bytes"]
      (sizeReadings floats files device md) := by
    rw [sizeReadings, List.append_assoc]
    exact oneOfEach_toList_append (fun _ => rfl)
      (oneOfEach_toList_append (fun _ => rfl) (oneOfEach_toList fun _ => rfl))
  exact (attrs.append sizes).cons_cons "node_md_info"

private theorem named_stateReadings (current : Option String) :
    Named ["node_md_state"] (stateReadings device current) := by
  cases current with
  | none => exact fun _ read => absurd read List.not_mem_nil
  | some current => exact named_map _ fun _ => rfl

private theorem oneOfEach_lastAction :
    OneOfEach ["node_md_last_sync_action"] (lastActionReadings files device md) :=
  oneOfEach_toList fun _ => rfl

private theorem named_tallyReadings (tally : SortedMap String UInt64) :
    Named ["node_md_disks"] (tallyReadings floats device tally) :=
  named_map _ fun _ => rfl

/-- Readings with a state each are of different series if the states are different. -/
private theorem nodup_series_states {Item : Type} {items : List Item} {name : String}
    {value : Item → UInt64} (state : Item → String) (distinct : (items.map state).Nodup) :
    (series (items.map fun item =>
      arrayReading device name (value item) [("state", state item)])).Nodup := by
  apply List.Nodup.of_map fun series => series.2.get? "state"
  rw [series, List.map_map, List.map_map]
  have labels : ((fun series : String × Labels => series.2.get? "state") ∘ Reading.series) ∘
      (fun item => arrayReading device name (value item) [("state", state item)]) =
      some ∘ state := by
    funext item
    simp [arrayReading, Reading.series, SortedMap.ofList, SortedMap.get?_insert]
  rw [labels, ← List.map_map]
  exact distinct.map fun _ _ same => Option.some.inj same

private theorem nodup_series_stateReadings (current : Option String) :
    (series (stateReadings device current)).Nodup := by
  cases current with
  | none => exact List.nodup_nil
  | some current => exact nodup_series_states id (by decide)

private theorem nodup_series_tallyReadings (tally : SortedMap String UInt64) :
    (series (tallyReadings floats device tally)).Nodup :=
  nodup_series_states Prod.fst (tally.sorted.imp ne_of_lt)

private theorem nodup_series_members_iff :
    (series ((members files md).flatMap fun (disk, dir) =>
      memberReadings floats files device disk dir)).Nodup ↔
      ∀ member ∈ members files md, (memberFlags files member.2).Nodup := by
  rw [nodup_series_flatMap_iff Prod.fst "disk" (members_nodup files md)
    fun _ _ _ read => (labels_of_member read).1]
  simp only [nodup_series_memberReadings_iff]

/-- An array is of different series if no flag of a member is reported twice. -/
private theorem nodup_series_collectArray_iff :
    (series (collectArray floats files device md)).Nodup ↔
      ∀ member ∈ members files md, (memberFlags files member.2).Nodup := by
  have named : Named _ ((members files md).flatMap fun (disk, dir) =>
      memberReadings floats files device disk dir) := Named.flatMap fun _ _ => named_memberReadings
  rw [collectArray, nodup_series_append_iff (((oneOfEach_array.named.append (named_stateReadings _)).append
      oneOfEach_lastAction.named).append named) (named_tallyReadings _) (by decide),
    nodup_series_append_iff ((oneOfEach_array.named.append (named_stateReadings _)).append
      oneOfEach_lastAction.named) named (by decide),
    nodup_series_append_iff (oneOfEach_array.named.append (named_stateReadings _))
      oneOfEach_lastAction.named (by decide),
    nodup_series_append_iff oneOfEach_array.named (named_stateReadings _) (by decide),
    nodup_series_members_iff]
  constructor
  · exact fun nodup => nodup.1.2
  · intro flags
    exact ⟨⟨⟨⟨oneOfEach_array.nodup_series (by decide), nodup_series_stateReadings _⟩,
      oneOfEach_lastAction.nodup_series (by decide)⟩, flags⟩, nodup_series_tallyReadings _⟩

private theorem device_of_array (read : reading ∈ collectArray floats files device md) :
    reading.labels.get? "device" = some device := by
  have own : ∀ name value extra, "device" ∉ extra.map Prod.fst →
      (arrayReading device name value extra).labels.get? "device" = some device :=
    fun _ _ _ absent => SortedMap.get?_ofList_cons absent
  simp only [collectArray, sizeReadings, lastActionReadings, List.mem_append, List.mem_cons,
    Option.mem_toList, Option.map_eq_some_iff] at read
  rcases read with (((((rfl | attr) | ((⟨_, -, rfl⟩ | ⟨_, -, rfl⟩) | ⟨_, -, rfl⟩)) | state) |
    ⟨_, -, rfl⟩) | member) | tally
  · apply own
    have attrs : ((["level", "metadata_version", "uuid", "consistency_policy"].filterMap
        fun attr => (readAttr files md attr).map fun value => (attr, value)).map Prod.fst).Sublist
        (["level", "metadata_version", "uuid", "consistency_policy"].map id) := by
      apply Distinct.map_filterMap_sublist id
      intro attr _ entry made
      obtain ⟨value, -, rfl⟩ := Option.map_eq_some_iff.mp made
      rfl
    exact fun isAttr => absurd (attrs.mem isAttr) (by decide)
  · obtain ⟨⟨_, name⟩, -, made⟩ := List.mem_filterMap.mp attr
    obtain ⟨value, -, rfl⟩ := Option.map_eq_some_iff.mp made
    exact own _ _ [] List.not_mem_nil
  · exact own _ _ [] List.not_mem_nil
  · exact own _ _ [] List.not_mem_nil
  · exact own _ _ [] List.not_mem_nil
  · cases current : activityState (readAttr files md "array_state")
        (readAttr files md "sync_action") with
    | none => simp [current, stateReadings] at state
    | some current =>
        rw [current] at state
        obtain ⟨name, -, rfl⟩ := List.mem_map.mp state
        exact own _ _ [_] (by simp)
  · exact own _ _ [_] (by simp)
  · obtain ⟨⟨disk, dir⟩, -, read⟩ := List.mem_flatMap.mp member
    exact (labels_of_member read).2
  · obtain ⟨entry, -, rfl⟩ := List.mem_map.mp tally
    exact own _ _ [_] (by simp)

/-- The arrays are told apart by their names, and their members as well. -/
theorem nodup_series_readings_iff :
    (series (readings floats files)).Nodup ↔
      (files.pathExists (.ofNames ["proc", "mdstat"]) = true →
        ∀ array ∈ arrays files, ∀ member ∈ members files array.2,
          (memberFlags files member.2).Nodup) := by
  unfold readings
  split
  · rename_i present
    rw [nodup_series_flatMap_iff Prod.fst "device" (arrays_nodup files)
      fun _ _ _ read => device_of_array read]
    simp only [nodup_series_collectArray_iff, present, true_imp_iff]
  · rename_i absent
    exact iff_of_true List.nodup_nil fun present => absurd present absent

private theorem named_collectArray :
    Named (arrayNames ++ ["node_md_state"] ++ ["node_md_last_sync_action"] ++
      (["node_md_disk_state"] ++ memberNames) ++ ["node_md_disks"])
      (collectArray floats files device md) :=
  (((oneOfEach_array.named.append (named_stateReadings _)).append
    oneOfEach_lastAction.named).append (Named.flatMap fun _ _ => named_memberReadings)).append
    (named_tallyReadings _)

theorem inFamily_readings : InFamily "node_md_" (readings floats files) := by
  unfold readings
  split
  · exact (Named.flatMap fun _ _ => named_collectArray).inFamily (by decide)
  · exact fun _ read => absurd read List.not_mem_nil

end Series

end Ferrometer.Collector.Unix.Md
