import Ferrometer.Collector.Unix.UnixCollector
import Ferrometer.Config.Validate

/-!
Contract: the series of a whole tick of the unix collector.

Owns: which names belong to which sub-collector, and when no two metrics of a tick are of
one series.

Does not own: the series of another collector.
-/

set_option autoImplicit false

namespace Ferrometer.Collector.Unix.UnixCollector

open Ferrometer.Config Ferrometer.Foundation

/-! ## Families of names -/

/-- How the names of a sub-collector begin. -/
def family (sub : String) : String :=
  match sub with
  | "cpu" => "node_cpu_"
  | "memory" => "node_memory_"
  | "disk" => "node_disk_"
  | "filesystem" => "node_filesystem_"
  | "md" => "node_md_"
  | "hwmon" => "node_hwmon_"
  | "netdev" => "node_network_"
  | "loadavg" => "node_load"
  | _ => "node_uname_"

section Tick

variable (floats : FloatOps) (ticksPerSecond : UInt64) (collector : UnixCollector)
  (tick : HostTick)

/-- What keeps the readings of a sub-collector apart. The others need nothing. -/
def TellsApart (sub : String) : Prop :=
  match sub with
  | "disk" => ∀ stats, tick.diskstats = .ok stats →
      ((stats.filter fun disk => collector.diskFilter disk.name).map Disk.DiskStat.name).Nodup
  | "filesystem" => ∀ mounts, tick.mountinfo = .ok mounts →
      ((Filesystem.chosen collector.filesystemFilters collector.fsDedupeDevices tick.order
        mounts).filterMap (Filesystem.reportedLabels tick.statvfs .empty)).Nodup
  | "md" => tick.files.pathExists (.ofNames ["proc", "mdstat"]) = true →
      ∀ array ∈ Md.arrays tick.files, ∀ member ∈ Md.members tick.files array.2,
        (Md.memberFlags tick.files member.2).Nodup
  | "hwmon" => Hwmon.Apart floats tick.files collector.hwmonFilter
  | "netdev" => ∀ devs, tick.devStatus = .ok devs →
      ((devs.filter fun dev => collector.netFilter dev.1).map Prod.fst).Nodup
  | _ => True

/-- No sub-collector that reads anything is enabled twice, and each tells its own readings
apart. -/
structure Unrepeated : Prop where
  subs : (collector.enabled.filter fun sub =>
    !(readingsOf floats ticksPerSecond collector tick sub).isEmpty).Nodup
  apart : ∀ sub ∈ collector.enabled, TellsApart floats collector tick sub

/-- The readings of a sub-collector are in its family, and they are told apart as it takes. -/
structure Identified (sub : String) (readings : List Reading) : Prop where
  inFamily : InFamily (family sub) readings
  nodup_iff : (series readings).Nodup ↔ TellsApart floats collector tick sub

variable {floats ticksPerSecond collector tick}

/-! ### One sub-collector -/

private theorem identified_filesystem {mounts : List Filesystem.MountInfo} {elapsed : Duration}
    {readings : List Reading} (table : tick.mountinfo = .ok mounts)
    (looped : Filesystem.statMounts floats tick.statvfs (Filesystem.chosen
      collector.filesystemFilters collector.fsDedupeDevices tick.order mounts) =
        some (elapsed, readings)) :
    Identified floats collector tick "filesystem" readings := by
  refine ⟨Filesystem.inFamily_statMounts looped, ?_⟩
  rw [Filesystem.nodup_series_statMounts_iff looped]
  simp only [TellsApart, table, Except.ok.injEq, forall_eq']

private theorem identified_disk {readings : List Reading}
    (isRead : Disk.read floats tick.diskstats collector.diskFilter = .ok readings) :
    Identified floats collector tick "disk" readings := by
  obtain ⟨stats, source, -⟩ := readSource_eq_ok.mp isRead
  rw [source] at isRead
  refine ⟨Disk.inFamily_read isRead, ?_⟩
  rw [Disk.nodup_series_read_iff isRead]
  simp only [TellsApart, source, Except.ok.injEq, forall_eq']

private theorem identified_netdev {readings : List Reading}
    (isRead : Netdev.read floats tick.devStatus collector.netFilter = .ok readings) :
    Identified floats collector tick "netdev" readings := by
  obtain ⟨devs, source, -⟩ := readSource_eq_ok.mp isRead
  rw [source] at isRead
  refine ⟨Netdev.inFamily_read isRead, ?_⟩
  rw [Netdev.nodup_series_read_iff isRead]
  simp only [TellsApart, source, Except.ok.injEq, forall_eq']

private theorem identified_cpu {readings : List Reading}
    (isRead : Cpu.read floats ticksPerSecond tick.files tick.stat = .ok readings) :
    Identified floats collector tick "cpu" readings := by
  obtain ⟨lines, -, rfl⟩ := readSource_eq_ok.mp isRead
  exact ⟨Cpu.inFamily_readCpus [] 0 _, iff_of_true (Cpu.nodup_series_readCpus [] 0 _) trivial⟩

private theorem identified_readNow {sub : String} {readings : List Reading}
    (isRead : readNow floats ticksPerSecond collector tick sub = some (.ok readings)) :
    Identified floats collector tick sub readings := by
  unfold readNow at isRead
  split at isRead
  · exact identified_cpu (Option.some.inj isRead)
  · have read := Option.some.inj isRead
    exact ⟨Memory.inFamily_read read, iff_of_true (Memory.nodup_series_read read) trivial⟩
  · exact identified_disk (Option.some.inj isRead)
  · obtain rfl := Except.ok.inj (Option.some.inj isRead)
    exact ⟨Md.inFamily_readings, Md.nodup_series_readings_iff⟩
  · obtain rfl := Except.ok.inj (Option.some.inj isRead)
    exact ⟨Hwmon.inFamily_readings, Hwmon.nodup_series_readings_iff⟩
  · exact identified_netdev (Option.some.inj isRead)
  · have read := Option.some.inj isRead
    exact ⟨Loadavg.inFamily_read read, iff_of_true (Loadavg.nodup_series_read read) trivial⟩
  · have read := Option.some.inj isRead
    exact ⟨Uname.inFamily_read read, iff_of_true (Uname.nodup_series_read read) trivial⟩
  · exact absurd isRead (by simp)

/-- A name that is not known, with which there is nothing to tell apart. -/
private theorem tellsApart_of_unknown {sub : String} (other : sub ≠ "filesystem")
    (unknown : readNow floats ticksPerSecond collector tick sub = none) :
    TellsApart floats collector tick sub := by
  unfold readNow at unknown
  unfold TellsApart
  split
  case h_2 => exact absurd rfl other
  case h_6 => trivial
  all_goals simp at unknown

theorem identified_readingsOf {sub : String}
    (succeeds : ∀ read, readSub floats ticksPerSecond collector tick sub = some read →
      ∃ took readings, read = some (took, .ok readings)) :
    Identified floats collector tick sub
      (readingsOf floats ticksPerSecond collector tick sub) := by
  unfold readingsOf
  unfold readSub at succeeds ⊢
  by_cases isFilesystem : sub = "filesystem"
  · subst isFilesystem
    rw [if_pos rfl] at succeeds ⊢
    obtain ⟨took, readings, isRead⟩ := succeeds _ rfl
    rw [isRead]
    unfold Filesystem.read at isRead
    split at isRead
    · simp at isRead
    · rename_i mounts table
      obtain ⟨⟨elapsed, _⟩, looped, same⟩ := Option.map_eq_some_iff.mp isRead
      simp only [Prod.mk.injEq, Except.ok.injEq] at same
      obtain ⟨rfl, rfl⟩ := same
      exact identified_filesystem table looped
  · rw [if_neg isFilesystem] at succeeds ⊢
    cases isRead : readNow floats ticksPerSecond collector tick sub with
    | none =>
        refine ⟨fun _ read => absurd read List.not_mem_nil, ?_⟩
        exact iff_of_true List.nodup_nil (tellsApart_of_unknown isFilesystem isRead)
    | some read =>
        obtain ⟨took, readings, same⟩ := succeeds (some (0, read)) (by rw [isRead, Option.map_some])
        simp only [Option.some.injEq, Prod.mk.injEq] at same
        obtain ⟨-, rfl⟩ := same
        exact identified_readNow isRead

/-! ### The whole tick -/

/-- Only a name that is known is read for. -/
private theorem known_of_reads {sub : String} {reading : Reading}
    (reads : reading ∈ readingsOf floats ticksPerSecond collector tick sub) :
    sub ∈ validSubCollectors := by
  by_contra unknown
  have isFilesystem : sub ≠ "filesystem" := by
    rintro rfl
    exact unknown (by decide)
  have none : readNow floats ticksPerSecond collector tick sub = none := by
    unfold readNow
    split
    case h_9 => rfl
    all_goals exact absurd (by decide) unknown
  simp [readingsOf, readSub, isFilesystem, none] at reads

private theorem families_apart : ∀ sub ∈ validSubCollectors, ∀ other ∈ validSubCollectors,
    sub ≠ other → ¬ (family sub).toList <+: (family other).toList := by
  decide +kernel

/-- Different sub-collectors have no series in common. -/
private theorem disjoint_readingsOf {subs : List String}
    (succeed : AllSucceed floats ticksPerSecond collector tick subs) :
    ∀ sub ∈ subs, ∀ other ∈ subs, sub ≠ other →
      List.Disjoint (series (readingsOf floats ticksPerSecond collector tick sub))
        (series (readingsOf floats ticksPerSecond collector tick other)) := by
  intro sub isSub other isOther different item inSub inOther
  obtain ⟨reading, read, -⟩ := List.mem_map.mp inSub
  obtain ⟨otherReading, readOther, -⟩ := List.mem_map.mp inOther
  have known := known_of_reads read
  have knownOther := known_of_reads readOther
  exact disjoint_of_families (identified_readingsOf (succeed sub isSub)).inFamily
    (identified_readingsOf (succeed other isOther)).inFamily
    (families_apart sub known other knownOther different)
    (families_apart other knownOther sub known (Ne.symm different)) inSub inOther

private theorem nodup_series_readingsOf_iff
    (succeed : AllSucceed floats ticksPerSecond collector tick collector.enabled) :
    (series (collector.enabled.flatMap (readingsOf floats ticksPerSecond collector tick))).Nodup ↔
      Unrepeated floats ticksPerSecond collector tick := by
  rw [series_flatMap, Distinct.nodup_flatMap_iff_of_apart (disjoint_readingsOf succeed)]
  have each : ∀ sub ∈ collector.enabled,
      ((series (readingsOf floats ticksPerSecond collector tick sub)).Nodup ↔
        TellsApart floats collector tick sub) :=
    fun sub isSub => (identified_readingsOf (succeed sub isSub)).nodup_iff
  simp only [series, List.isEmpty_map] at each ⊢
  constructor
  · rintro ⟨distinct, subs⟩
    exact ⟨subs, fun sub isSub => (each sub isSub).mp (distinct sub isSub)⟩
  · rintro ⟨subs, apart⟩
    exact ⟨fun sub isSub => (each sub isSub).mpr (apart sub isSub), subs⟩

end Tick

/-- In a tick that succeeds, after whatever ticks, no two metrics are of one series if and
only if no sub-collector that reads anything is enabled twice, each tells its own readings
apart, and no static label hides what two of them differ in. -/
theorem collect_series_iff {floats : FloatOps} {ticksPerSecond : UInt64}
    {collector : UnixCollector} {tick : HostTick} {took : Duration} {metrics : List Metric}
    (ended : (collect floats ticksPerSecond collector tick).1 = some (took, .ok metrics)) :
    (metrics.map fun metric => (metric.name, metric.labels)).Nodup ↔
      Unrepeated floats ticksPerSecond collector tick ∧
        Shown collector.cache.base
          (collector.enabled.flatMap (readingsOf floats ticksPerSecond collector tick)) := by
  have succeed : AllSucceed floats ticksPerSecond collector tick collector.enabled := by
    by_contra fail
    exact collectSubs_of_not_allSucceed fail 0 [] collector.cache took metrics ended
  obtain ⟨made, collected, makes⟩ := collectSubs_of_allSucceed succeed 0 [] collector.cache
  have same : metrics = made := by
    have outcome := ended.symm.trans collected
    simp only [Option.some.injEq, Prod.mk.injEq, Except.ok.injEq, List.nil_append] at outcome
    exact outcome.2
  rw [same, nodup_metrics_iff makes, nodup_series_readingsOf_iff succeed]

/-! ## Two disks -/

/-- A host with two disks that have never been used, and nothing mounted. -/
def twoDisks : HostTick where
  files := .empty
  stat := .ok .empty
  mountinfo := .ok []
  statvfs _ := .hangs
  order := ⟨id, List.Perm.refl⟩
  meminfo := .error "not mounted"
  diskstats := .ok (["sda", "sdb"].map fun name =>
    ⟨name, 0, 0, 0, 0, 0, 0, 0, 0, none, none, none, none, none⟩)
  devStatus := .ok []
  loadavg := .ok ⟨0, 0, 0⟩
  uname := .ok ⟨"Linux", "6.1.0", "1", "x86_64", "host"⟩
  wallClock _ := 0

def diskCollector : UnixCollector where
  name := "unix"
  enabled := ["disk", "filesystem", "loadavg"]
  diskFilter _ := true
  netFilter _ := true
  filesystemFilters := ⟨fun _ => true, fun _ => true⟩
  fsDedupeDevices := true
  hwmonFilter _ := true
  cache := { base := .ofList [("instance", "host")] }

def diskFloats : FloatOps where
  ofU64 _ := 0
  ofI64 _ := 0
  mul _ _ := 0
  div _ _ := 0
  parse _ := none

private theorem unrepeated_twoDisks : Unrepeated diskFloats 100 diskCollector twoDisks := by
  have distinct : diskCollector.enabled.Nodup := by decide
  refine ⟨distinct.filter _, ?_⟩
  intro sub isSub
  simp only [diskCollector, List.mem_cons, List.not_mem_nil, or_false] at isSub
  rcases isSub with rfl | rfl | rfl
  · rintro stats ⟨⟩
    decide
  · rintro mounts ⟨⟩
    decide +kernel
  · trivial

private theorem shown_twoDisks : Shown diskCollector.cache.base
    (diskCollector.enabled.flatMap (readingsOf diskFloats 100 diskCollector twoDisks)) := by
  have unlabelled : ∀ reading ∈ diskCollector.enabled.flatMap
      (readingsOf diskFloats 100 diskCollector twoDisks),
      reading.labels.get? "instance" = none := by
    decide +kernel
  apply shown_of_free
  intro reading read key overrides
  by_cases isInstance : key = "instance"
  · rw [isInstance]
    exact unlabelled reading read
  · simp [diskCollector, SortedMap.ofList, SortedMap.get?_insert, isInstance] at overrides

theorem collect_series_twoDisks :
    ∃ took metrics, (collect diskFloats 100 diskCollector twoDisks).1 = some (took, .ok metrics) ∧
      metrics.length = 19 ∧
      (metrics.map fun metric => (metric.name, metric.labels)).Nodup := by
  have collected : (collect diskFloats 100 diskCollector twoDisks).1 = some (_, .ok _) := rfl
  refine ⟨_, _, collected, by decide +kernel, ?_⟩
  exact (collect_series_iff collected).mpr ⟨unrepeated_twoDisks, shown_twoDisks⟩

end Ferrometer.Collector.Unix.UnixCollector
