import Ferrometer.Collector.Unix.Cpu
import Ferrometer.Collector.Unix.Filesystem
import Ferrometer.Collector.Unix.Hwmon
import Ferrometer.Collector.Unix.Md
import Ferrometer.Collector.Unix.Procfs
import Ferrometer.Config.Model
import Mathlib.Algebra.BigOperators.Group.List.Basic
import Mathlib.Algebra.GroupWithZero.Nat
import Mathlib.Data.List.Forall2

/-!
Contract: the unix collector, which runs its sub-collectors one after the other.

Owns: `new` with its errors, `collect` with its loop, and what a tick of all
sub-collectors comes to.

Does not own: what a sub-collector reads, and the deadline of a tick. Only a call of
`statvfs` takes time.
-/

set_option autoImplicit false

namespace Ferrometer.Collector.Unix

open Ferrometer.Config Ferrometer.Foundation
open Filesystem (IterationOrder MountInfo StatvfsCall)

/-! ## Model -/

structure UnixCollector where
  name : String
  enabled : List String
  diskFilter : String → Bool
  netFilter : String → Bool
  filesystemFilters : Filesystem.Filters
  fsDedupeDevices : Bool
  hwmonFilter : String → Bool
  cache : LabelCache

/-- What the outside decides during one tick. -/
structure HostTick where
  files : Files
  /-- `/proc/stat`. -/
  stat : Except String Cpu.StatLines
  /-- `/proc/self/mountinfo`. -/
  mountinfo : Except String (List MountInfo)
  statvfs : OsPath → StatvfsCall
  order : IterationOrder
  meminfo : Except String Memory.Meminfo
  diskstats : Except String (List Disk.DiskStat)
  devStatus : Except String (List (String × Netdev.DeviceStatus))
  loadavg : Except String Loadavg.LoadAverage
  uname : Except String Uname.UtsName
  /-- The wall clock when the metric at this place of the result is made. -/
  wallClock : Nat → SystemTime

namespace UnixCollector

/-- `regexNew` compiles a pattern to its `is_match`. -/
def new (regexNew : String → Except String (String → Bool)) (name : String)
    (config : UnixCollectorConfig) : Except Error UnixCollector := do
  let compile (key pattern : String) : Except Error (String → Bool) :=
    (regexNew pattern).mapError fun e => .config ("invalid " ++ key ++ " regex: " ++ e)
  let diskFilter ← compile "disk-devices" config.diskDevices
  let netFilter ← compile "net-devices" config.netDevices
  let mountFilter ← compile "filesystem-mount-points" config.filesystemMountPoints
  let typeFilter ← compile "filesystem-fs-types" config.filesystemFsTypes
  let hwmonFilter ← compile "hwmon-chips" config.hwmonChips
  .ok {
    name
    enabled := config.collectors
    diskFilter
    netFilter
    filesystemFilters := { mountFilter, typeFilter }
    fsDedupeDevices := config.filesystemDedupeDevices
    hwmonFilter
    cache := { base := config.staticLabels } }

/-- A sub-collector that has come to an end, after some time, or has not. -/
abbrev Ended := Option (Duration × Except Error (List Metric))

section Collect

variable (floats : FloatOps) (ticksPerSecond : UInt64) (collector : UnixCollector)
  (tick : HostTick)

/-- One sub-collector, or nothing for a name that is not known. -/
def collectSub (wallClock : Nat → SystemTime) (cache : LabelCache) (sub : String) :
    Option (Ended × LabelCache) :=
  let atOnce (collected : Except Error (List Metric) × LabelCache) : Ended × LabelCache :=
    (some (0, collected.1), collected.2)
  match sub with
  | "cpu" =>
      some (atOnce (Cpu.collect floats ticksPerSecond tick.files tick.stat wallClock cache))
  | "memory" => some (atOnce (Memory.collect floats tick.meminfo wallClock cache))
  | "disk" =>
      some (atOnce (Disk.collect floats tick.diskstats collector.diskFilter wallClock cache))
  | "filesystem" =>
      some (Filesystem.collect floats collector.filesystemFilters tick.mountinfo
        collector.fsDedupeDevices tick.order tick.statvfs wallClock cache)
  | "md" => some (atOnce (Md.collect floats tick.files wallClock cache))
  | "hwmon" =>
      some (atOnce (Hwmon.collect floats tick.files collector.hwmonFilter wallClock cache))
  | "netdev" =>
      some (atOnce (Netdev.collect floats tick.devStatus collector.netFilter wallClock cache))
  | "loadavg" => some (atOnce (Loadavg.collect tick.loadavg wallClock cache))
  | "uname" => some (atOnce (Uname.collect tick.uname wallClock cache))
  | _ => none

/-- The loop over the enabled sub-collectors, with the time it has taken and `all`. -/
def collectSubs : Duration → List Metric → LabelCache → List String → Ended × LabelCache
  | elapsed, all, cache, [] => (some (elapsed, .ok all), cache)
  | elapsed, all, cache, sub :: rest =>
      let wallClock := fun place => tick.wallClock (all.length + place)
      match collectSub floats ticksPerSecond collector tick wallClock cache sub with
      | none => collectSubs elapsed all cache rest
      | some (none, cache) => (none, cache)
      | some (some (took, .error failure), cache) => (some (elapsed + took, .error failure), cache)
      | some (some (took, .ok metrics), cache) =>
          collectSubs (elapsed + took) (all ++ metrics) cache rest

def collect : Ended × UnixCollector :=
  let (ended, cache) := collectSubs floats ticksPerSecond collector tick 0 [] collector.cache
    collector.enabled
  (ended, { collector with cache })

end Collect

/-! ## What a tick reads -/

section Reads

variable (floats : FloatOps) (ticksPerSecond : UInt64) (collector : UnixCollector)
  (tick : HostTick)

/-- What a sub-collector reads at once, which is all but filesystem. -/
def readNow (sub : String) : Option (Except Error (List Reading)) :=
  match sub with
  | "cpu" => some (Cpu.read floats ticksPerSecond tick.files tick.stat)
  | "memory" => some (Memory.read floats tick.meminfo)
  | "disk" => some (Disk.read floats tick.diskstats collector.diskFilter)
  | "md" => some (.ok (Md.readings floats tick.files))
  | "hwmon" => some (.ok (Hwmon.readings floats tick.files collector.hwmonFilter))
  | "netdev" => some (Netdev.read floats tick.devStatus collector.netFilter)
  | "loadavg" => some (Loadavg.read tick.loadavg)
  | "uname" => some (Uname.read tick.uname)
  | _ => none

/-- What a sub-collector reads, and when, if its name is known and it comes to an end. -/
def readSub (sub : String) : Option (Option (Duration × Except Error (List Reading))) :=
  if sub = "filesystem" then
    some (Filesystem.read floats collector.filesystemFilters tick.mountinfo
      collector.fsDedupeDevices tick.order tick.statvfs)
  else (readNow floats ticksPerSecond collector tick sub).map fun read => some (0, read)

/-- What comes of a read. -/
def endedOf (wallClock : Nat → SystemTime) (cache : LabelCache) :
    Option (Duration × Except Error (List Reading)) → Ended × LabelCache
  | none => (none, cache)
  | some (took, read) =>
      (some (took, (emitResult wallClock cache read).1), (emitResult wallClock cache read).2)

variable {floats ticksPerSecond collector tick}

/-- A sub-collector makes metrics of what it reads. -/
theorem collectSub_eq (wallClock : Nat → SystemTime) (cache : LabelCache) (sub : String) :
    collectSub floats ticksPerSecond collector tick wallClock cache sub =
      (readSub floats ticksPerSecond collector tick sub).map (endedOf wallClock cache) := by
  by_cases isFilesystem : sub = "filesystem"
  · subst isFilesystem
    simp only [collectSub, readSub, if_true, Option.map_some, Filesystem.collect]
    cases Filesystem.read floats collector.filesystemFilters tick.mountinfo
      collector.fsDedupeDevices tick.order tick.statvfs <;> rfl
  · rw [readSub, if_neg isFilesystem]
    unfold collectSub readNow
    split
    case h_4 => exact absurd rfl isFilesystem
    case h_10 =>
      split
      case h_9 => rfl
      all_goals contradiction
    all_goals rfl

theorem endedOf_base (wallClock : Nat → SystemTime) (cache : LabelCache)
    (read : Option (Duration × Except Error (List Reading))) :
    (endedOf wallClock cache read).2.base = cache.base := by
  rcases read with - | ⟨took, failure | readings⟩
  · rfl
  · rfl
  · exact emit_base wallClock cache readings

/-! ### The loop -/

/-- Every sub-collector of the list comes to an end and succeeds. -/
def AllSucceed (floats : FloatOps) (ticksPerSecond : UInt64) (collector : UnixCollector)
    (tick : HostTick) (subs : List String) : Prop :=
  ∀ sub ∈ subs, ∀ read, readSub floats ticksPerSecond collector tick sub = some read →
    ∃ took readings, read = some (took, .ok readings)

/-- The time that a sub-collector takes. -/
def tookBy (floats : FloatOps) (ticksPerSecond : UInt64) (collector : UnixCollector)
    (tick : HostTick) (sub : String) : Duration :=
  match readSub floats ticksPerSecond collector tick sub with
  | some (some (took, _)) => took
  | _ => 0

/-- The readings of a sub-collector that succeeds. -/
def readingsOf (floats : FloatOps) (ticksPerSecond : UInt64) (collector : UnixCollector)
    (tick : HostTick) (sub : String) : List Reading :=
  match readSub floats ticksPerSecond collector tick sub with
  | some (some (_, .ok readings)) => readings
  | _ => []

theorem collectSubs_base (elapsed : Duration) (all : List Metric) (cache : LabelCache)
    (subs : List String) :
    (collectSubs floats ticksPerSecond collector tick elapsed all cache subs).2.base =
      cache.base := by
  induction subs generalizing elapsed all cache with
  | nil => rfl
  | cons sub rest inductionHypothesis =>
      rw [collectSubs]
      simp only [collectSub_eq]
      cases isRead : readSub floats ticksPerSecond collector tick sub with
      | none => exact inductionHypothesis elapsed all cache
      | some read =>
          have base := endedOf_base (fun place => tick.wallClock (all.length + place)) cache read
          rcases read with - | ⟨took, failure | readings⟩
          · rfl
          · rfl
          · exact (inductionHypothesis _ _ _).trans base

/-- If all succeed, the metrics are made of all that has been read, and the waits add up. -/
theorem collectSubs_of_allSucceed {subs : List String}
    (succeed : AllSucceed floats ticksPerSecond collector tick subs) (elapsed : Duration)
    (all : List Metric) (cache : LabelCache) :
    ∃ made, (collectSubs floats ticksPerSecond collector tick elapsed all cache subs).1 =
        some (elapsed + (subs.map (tookBy floats ticksPerSecond collector tick)).sum,
          .ok (all ++ made)) ∧
      List.Forall₂ (fun reading metric => reading.Makes cache.base metric)
        (subs.flatMap (readingsOf floats ticksPerSecond collector tick)) made := by
  induction subs generalizing elapsed all cache with
  | nil => exact ⟨[], by simp [collectSubs], List.Forall₂.nil⟩
  | cons sub rest inductionHypothesis =>
      have later : AllSucceed floats ticksPerSecond collector tick rest :=
        fun other member => succeed other (List.mem_cons_of_mem _ member)
      rw [collectSubs]
      simp only [collectSub_eq]
      cases isRead : readSub floats ticksPerSecond collector tick sub with
      | none =>
          obtain ⟨made, collected, makes⟩ := inductionHypothesis later elapsed all cache
          refine ⟨made, ?_, ?_⟩
          · simpa [tookBy, isRead] using collected
          · simpa [readingsOf, isRead] using makes
      | some read =>
          obtain ⟨took, readings, rfl⟩ := succeed sub List.mem_cons_self read isRead
          let wallClock := fun place => tick.wallClock (all.length + place)
          obtain ⟨made, collected, makes⟩ := inductionHypothesis later (elapsed + took)
            (all ++ (emit wallClock cache [] readings).1) (emit wallClock cache [] readings).2
          rw [emit_base] at makes
          refine ⟨(emit wallClock cache [] readings).1 ++ made, ?_, ?_⟩
          · simp only [Option.map_some, endedOf, emitResult]
            rw [collected, List.map_cons, List.sum_cons, ← List.append_assoc, ← Nat.add_assoc]
            simp [tookBy, isRead]
          · rw [List.flatMap_cons]
            have now : readingsOf floats ticksPerSecond collector tick sub = readings := by
              simp [readingsOf, isRead]
            rw [now]
            exact List.rel_append (emit_forall₂ wallClock cache readings) makes

/-- If one of them fails or never comes to an end, there are no metrics at all. -/
theorem collectSubs_of_not_allSucceed {subs : List String}
    (fail : ¬ AllSucceed floats ticksPerSecond collector tick subs) (elapsed : Duration)
    (all : List Metric) (cache : LabelCache) (ended : Duration) (metrics : List Metric) :
    (collectSubs floats ticksPerSecond collector tick elapsed all cache subs).1 ≠
      some (ended, .ok metrics) := by
  induction subs generalizing elapsed all cache with
  | nil => exact absurd (fun sub member => absurd member List.not_mem_nil) fail
  | cons sub rest inductionHypothesis =>
      rw [collectSubs]
      simp only [collectSub_eq]
      cases isRead : readSub floats ticksPerSecond collector tick sub with
      | none =>
          apply inductionHypothesis
          intro later
          apply fail
          intro other member read otherRead
          rcases List.mem_cons.mp member with rfl | member
          · simp [isRead] at otherRead
          · exact later other member read otherRead
      | some read =>
          rcases read with - | ⟨took, failure | readings⟩
          · simp [endedOf]
          · simp [endedOf, emitResult]
          · apply inductionHypothesis
            intro later
            apply fail
            intro other member read otherRead
            rcases List.mem_cons.mp member with rfl | member
            · rw [isRead, Option.some.injEq] at otherRead
              exact ⟨took, readings, otherRead.symm⟩
            · exact later other member read otherRead

end Reads

end UnixCollector

end Ferrometer.Collector.Unix
