import Ferrometer.Collector.Unix.Series

/-!
Contract: the sub-collectors memory, disk, netdev, loadavg and uname.

Owns: which numbers of their source they report, under which names, and when no two of
them are of one series.

Does not own: how the source is parsed. What it says, or its failure, is an input.
-/

set_option autoImplicit false

namespace Ferrometer.Collector.Unix

open Ferrometer.Foundation

theorem readSource_eq_ok {Value : Type} {sub : String} {source : Except String Value}
    {readingsOf : Value → List Reading} {readings : List Reading} :
    readSource sub source readingsOf = .ok readings ↔
      ∃ value, source = .ok value ∧ readingsOf value = readings := by
  cases source <;> simp [readSource]

/-- The label of a disk or of a network device. -/
theorem deviceLabel_injective :
    Function.Injective fun device : String => (.ofList [("device", device)] : Labels) := by
  intro device other same
  have label := congrArg (fun labels : Labels => labels.get? "device") same
  simpa [SortedMap.ofList, SortedMap.get?_insert] using label

/-! ## Memory -/

namespace Memory

/-- In bytes. -/
structure Meminfo where
  memTotal : UInt64
  memFree : UInt64
  memAvailable : Option UInt64
  buffers : UInt64
  cached : UInt64
  dirty : UInt64
  swapTotal : UInt64
  swapFree : UInt64
  swapCached : UInt64
  shmem : Option UInt64
  sReclaimable : Option UInt64
  sUnreclaim : Option UInt64

def fields (info : Meminfo) : List (String × Option UInt64) :=
  [("node_memory_MemTotal_bytes", some info.memTotal),
    ("node_memory_MemFree_bytes", some info.memFree),
    ("node_memory_MemAvailable_bytes", info.memAvailable),
    ("node_memory_Buffers_bytes", some info.buffers),
    ("node_memory_Cached_bytes", some info.cached),
    ("node_memory_Dirty_bytes", some info.dirty),
    ("node_memory_SwapTotal_bytes", some info.swapTotal),
    ("node_memory_SwapFree_bytes", some info.swapFree),
    ("node_memory_SwapCached_bytes", some info.swapCached),
    ("node_memory_Shmem_bytes", info.shmem),
    ("node_memory_SReclaimable_bytes", info.sReclaimable),
    ("node_memory_SUnreclaim_bytes", info.sUnreclaim)]

def read (floats : FloatOps) (meminfo : Except String Meminfo) : Except Error (List Reading) :=
  readSource "memory" meminfo fun info =>
    (fields info).filterMap fun (name, value) =>
      value.map fun bytes => ⟨name, .gauge, floats.ofU64 bytes, .empty⟩

def collect (floats : FloatOps) (meminfo : Except String Meminfo)
    (wallClock : Nat → SystemTime) (cache : LabelCache) :
    Except Error (List Metric) × LabelCache :=
  emitResult wallClock cache (read floats meminfo)

variable {floats : FloatOps} {meminfo : Except String Meminfo} {readings : List Reading}

/-- Every quantity is reported once. -/
private theorem oneOfEach_fields (floats : FloatOps) (info : Meminfo) :
    OneOfEach ((fields info).map Prod.fst) ((fields info).filterMap fun (name, value) =>
      value.map fun bytes => ⟨name, .gauge, floats.ofU64 bytes, .empty⟩) :=
  oneOfEach_filterMap Prod.fst fun _ _ => rfl

theorem inFamily_read (isRead : read floats meminfo = .ok readings) :
    InFamily "node_memory_" readings := by
  obtain ⟨info, -, rfl⟩ := readSource_eq_ok.mp isRead
  apply (oneOfEach_fields floats info).named.inFamily
  simp only [fields, List.map_cons, List.map_nil]
  decide

theorem nodup_series_read (isRead : read floats meminfo = .ok readings) :
    (series readings).Nodup := by
  obtain ⟨info, -, rfl⟩ := readSource_eq_ok.mp isRead
  apply (oneOfEach_fields floats info).nodup_series
  simp only [fields, List.map_cons, List.map_nil]
  decide

end Memory

/-! ## Disk -/

namespace Disk

/-- A line of `/proc/diskstats`. Times are in milliseconds. -/
structure DiskStat where
  name : String
  reads : UInt64
  sectorsRead : UInt64
  timeReading : UInt64
  writes : UInt64
  sectorsWritten : UInt64
  timeWriting : UInt64
  inProgress : UInt64
  timeInProgress : UInt64
  discards : Option UInt64
  sectorsDiscarded : Option UInt64
  timeDiscarding : Option UInt64
  flushes : Option UInt64
  timeFlushing : Option UInt64

/-- The metrics of a disk, those of newer kernels at the end. -/
def pairs (floats : FloatOps) (disk : DiskStat) : List (String × UInt64 × MetricType) :=
  let bytes (sectors : UInt64) := floats.ofU64 (sectors * 512)
  let seconds (millis : UInt64) := floats.div (floats.ofU64 millis) 0x408f400000000000
  [("node_disk_reads_completed_total", floats.ofU64 disk.reads, .counter),
    ("node_disk_read_bytes_total", bytes disk.sectorsRead, .counter),
    ("node_disk_read_time_seconds_total", seconds disk.timeReading, .counter),
    ("node_disk_writes_completed_total", floats.ofU64 disk.writes, .counter),
    ("node_disk_written_bytes_total", bytes disk.sectorsWritten, .counter),
    ("node_disk_write_time_seconds_total", seconds disk.timeWriting, .counter),
    ("node_disk_io_now", floats.ofU64 disk.inProgress, .gauge),
    ("node_disk_io_time_seconds_total", seconds disk.timeInProgress, .counter)] ++
  [("node_disk_discards_completed_total", disk.discards.map floats.ofU64),
    ("node_disk_discarded_sectors_total", disk.sectorsDiscarded.map floats.ofU64),
    ("node_disk_discard_time_seconds_total", disk.timeDiscarding.map seconds),
    ("node_disk_flush_requests_total", disk.flushes.map floats.ofU64),
    ("node_disk_flush_requests_time_seconds_total", disk.timeFlushing.map seconds)].filterMap
      fun (name, value) => value.map fun value => (name, value, .counter)

def read (floats : FloatOps) (diskstats : Except String (List DiskStat))
    (filter : String → Bool) : Except Error (List Reading) :=
  readSource "disk" diskstats fun stats =>
    (stats.filter fun disk => filter disk.name).flatMap fun disk =>
      (pairs floats disk).map fun (name, value, metricType) =>
        ⟨name, metricType, value, .ofList [("device", disk.name)]⟩

def collect (floats : FloatOps) (diskstats : Except String (List DiskStat))
    (filter : String → Bool) (wallClock : Nat → SystemTime) (cache : LabelCache) :
    Except Error (List Metric) × LabelCache :=
  emitResult wallClock cache (read floats diskstats filter)

def names : List String :=
  ["node_disk_reads_completed_total", "node_disk_read_bytes_total",
    "node_disk_read_time_seconds_total", "node_disk_writes_completed_total",
    "node_disk_written_bytes_total", "node_disk_write_time_seconds_total", "node_disk_io_now",
    "node_disk_io_time_seconds_total"]

/-- Those that a kernel may leave out. -/
def newerNames : List String :=
  ["node_disk_discards_completed_total", "node_disk_discarded_sectors_total",
    "node_disk_discard_time_seconds_total", "node_disk_flush_requests_total",
    "node_disk_flush_requests_time_seconds_total"]

variable {floats : FloatOps} {stats : List DiskStat} {filter : String → Bool}
  {readings : List Reading}

private theorem names_sublist (floats : FloatOps) (disk : DiskStat) :
    ((pairs floats disk).map Prod.fst).Sublist (names ++ newerNames) := by
  rw [pairs, List.map_append]
  apply (List.Sublist.refl names).append
  apply Distinct.map_filterMap_sublist Prod.fst
  rintro ⟨name, value⟩ - _ made
  obtain ⟨_, -, rfl⟩ := Option.map_eq_some_iff.mp made
  rfl

theorem inFamily_read (isRead : read floats (.ok stats) filter = .ok readings) :
    InFamily "node_disk_" readings := by
  obtain rfl := Except.ok.inj isRead
  intro reading read
  obtain ⟨disk, -, read⟩ := List.mem_flatMap.mp read
  obtain ⟨pair, isPair, rfl⟩ := List.mem_map.mp read
  have isName : pair.1 ∈ names ++ newerNames :=
    (names_sublist floats disk).mem (List.mem_map_of_mem isPair)
  have begin : ∀ name ∈ names ++ newerNames, "node_disk_".toList <+: name.toList := by decide
  exact begin pair.1 isName

/-- No two readings are of one series if no two of the disks that are reported share a
name. -/
theorem nodup_series_read_iff (isRead : read floats (.ok stats) filter = .ok readings) :
    (series readings).Nodup ↔
      ((stats.filter fun disk => filter disk.name).map DiskStat.name).Nodup := by
  obtain rfl := Except.ok.inj isRead
  have made : ∀ (disk : DiskStat) (pair : String × UInt64 × MetricType),
      (⟨pair.1, pair.2.2, pair.2.1, .ofList [("device", disk.name)]⟩ : Reading).series =
        (pair.1, .ofList [("device", disk.name)]) := fun _ _ => rfl
  rw [nodup_series_cells_iff made
    (fun disk _ => (names_sublist floats disk).nodup (by decide))
    (fun disk _ => List.mem_cons_self),
    ← List.nodup_map_iff deviceLabel_injective, List.map_map]
  rfl

end Disk

/-! ## Network devices -/

namespace Netdev

structure DeviceStatus where
  recvBytes : UInt64
  recvPackets : UInt64
  recvErrs : UInt64
  recvDrop : UInt64
  recvFifo : UInt64
  recvFrame : UInt64
  sentBytes : UInt64
  sentPackets : UInt64
  sentErrs : UInt64
  sentDrop : UInt64
  sentFifo : UInt64
  sentColls : UInt64
  sentCarrier : UInt64

def counters (status : DeviceStatus) : List (String × UInt64) :=
  [("node_network_receive_bytes_total", status.recvBytes),
    ("node_network_receive_packets_total", status.recvPackets),
    ("node_network_receive_errs_total", status.recvErrs),
    ("node_network_receive_drop_total", status.recvDrop),
    ("node_network_receive_fifo_total", status.recvFifo),
    ("node_network_receive_frame_total", status.recvFrame),
    ("node_network_transmit_bytes_total", status.sentBytes),
    ("node_network_transmit_packets_total", status.sentPackets),
    ("node_network_transmit_errs_total", status.sentErrs),
    ("node_network_transmit_drop_total", status.sentDrop),
    ("node_network_transmit_fifo_total", status.sentFifo),
    ("node_network_transmit_colls_total", status.sentColls),
    ("node_network_transmit_carrier_total", status.sentCarrier)]

/-- The devices are in the order in which their `HashMap` hands them out. -/
def read (floats : FloatOps) (devs : Except String (List (String × DeviceStatus)))
    (filter : String → Bool) : Except Error (List Reading) :=
  readSource "netdev" devs fun devs =>
    (devs.filter fun (name, _) => filter name).flatMap fun (name, status) =>
      (counters status).map fun (metricName, value) =>
        ⟨metricName, .counter, floats.ofU64 value, .ofList [("device", name)]⟩

def collect (floats : FloatOps) (devs : Except String (List (String × DeviceStatus)))
    (filter : String → Bool) (wallClock : Nat → SystemTime) (cache : LabelCache) :
    Except Error (List Metric) × LabelCache :=
  emitResult wallClock cache (read floats devs filter)

variable {floats : FloatOps} {devs : List (String × DeviceStatus)} {filter : String → Bool}
  {readings : List Reading}

theorem inFamily_read (isRead : read floats (.ok devs) filter = .ok readings) :
    InFamily "node_network_" readings := by
  obtain rfl := Except.ok.inj isRead
  intro reading read
  obtain ⟨⟨device, status⟩, -, read⟩ := List.mem_flatMap.mp read
  obtain ⟨counter, isCounter, rfl⟩ := List.mem_map.mp read
  have begin : ∀ counter ∈ counters status, "node_network_".toList <+: counter.1.toList := by
    simp only [counters, List.forall_mem_cons]
    decide
  exact begin counter isCounter

/-- No two readings are of one series if no two of the devices that are reported share a
name, as the keys of a map never do. -/
theorem nodup_series_read_iff (isRead : read floats (.ok devs) filter = .ok readings) :
    (series readings).Nodup ↔ ((devs.filter fun dev => filter dev.1).map Prod.fst).Nodup := by
  obtain rfl := Except.ok.inj isRead
  have made : ∀ (dev : String × DeviceStatus) (counter : String × UInt64),
      (⟨counter.1, .counter, floats.ofU64 counter.2, .ofList [("device", dev.1)]⟩ :
        Reading).series = (counter.1, .ofList [("device", dev.1)]) := fun _ _ => rfl
  have distinct : ∀ status, ((counters status).map Prod.fst).Nodup := by
    intro status
    simp only [counters, List.map_cons, List.map_nil]
    decide
  rw [nodup_series_cells_iff made (fun dev _ => distinct dev.2) (fun dev _ => List.mem_cons_self),
    ← List.nodup_map_iff deviceLabel_injective, List.map_map]
  rfl

end Netdev

/-! ## Load average -/

namespace Loadavg

/-- As `f64`. -/
structure LoadAverage where
  one : UInt64
  five : UInt64
  fifteen : UInt64

def read (load : Except String LoadAverage) : Except Error (List Reading) :=
  readSource "loadavg" load fun load =>
    [⟨"node_load1", .gauge, load.one, .empty⟩,
      ⟨"node_load5", .gauge, load.five, .empty⟩,
      ⟨"node_load15", .gauge, load.fifteen, .empty⟩]

def collect (load : Except String LoadAverage) (wallClock : Nat → SystemTime)
    (cache : LabelCache) : Except Error (List Metric) × LabelCache :=
  emitResult wallClock cache (read load)

variable {load : Except String LoadAverage} {readings : List Reading}

theorem inFamily_read (isRead : read load = .ok readings) : InFamily "node_load" readings := by
  obtain ⟨load, -, rfl⟩ := readSource_eq_ok.mp isRead
  simp only [InFamily, List.forall_mem_cons]
  decide

theorem nodup_series_read (isRead : read load = .ok readings) : (series readings).Nodup := by
  obtain ⟨load, -, rfl⟩ := readSource_eq_ok.mp isRead
  apply OneOfEach.nodup_series (List.Sublist.refl _)
  simp only [List.map_cons, List.map_nil]
  decide

end Loadavg

/-! ## Names of the system -/

namespace Uname

/-- As `to_string_lossy` gives them. -/
structure UtsName where
  sysname : String
  release : String
  version : String
  machine : String
  nodename : String

def read (info : Except String UtsName) : Except Error (List Reading) :=
  readSource "uname" info fun info =>
    [⟨"node_uname_info", .gauge, f64One, .ofList [("sysname", info.sysname),
      ("release", info.release), ("version", info.version), ("machine", info.machine),
      ("nodename", info.nodename)]⟩]

def collect (info : Except String UtsName) (wallClock : Nat → SystemTime) (cache : LabelCache) :
    Except Error (List Metric) × LabelCache :=
  emitResult wallClock cache (read info)

variable {info : Except String UtsName} {readings : List Reading}

theorem inFamily_read (isRead : read info = .ok readings) : InFamily "node_uname_" readings := by
  obtain ⟨info, -, rfl⟩ := readSource_eq_ok.mp isRead
  simp only [InFamily, List.forall_mem_cons]
  decide

theorem nodup_series_read (isRead : read info = .ok readings) : (series readings).Nodup := by
  obtain ⟨info, -, rfl⟩ := readSource_eq_ok.mp isRead
  exact List.nodup_singleton _

end Uname

end Ferrometer.Collector.Unix
