import Ferrometer.Collector.Unix.UnixCollector
import Ferrometer.Pipeline.Tick

/-!
Contract: what the scheduler gets from a tick of a unix collector.

Owns: the task around `collect` with its hard deadline, what a tick owes whatever a
mount does, and when it is handed over.

Does not own: when a tick starts, or why a call of `statvfs` hangs. It is awaited from
`spawn_blocking`, so a call that still queues for a blocking thread hangs as well.
-/

set_option autoImplicit false

namespace Ferrometer.Pipeline

open Ferrometer.Collector Ferrometer.Collector.Unix Ferrometer.Config Ferrometer.Foundation
open Filesystem (MountInfo StatvfsCall chosen mountReadings statMounts)
open UnixCollector (AllSucceed collectSubs_base collectSubs_of_allSucceed
  collectSubs_of_not_allSucceed readNow readSub readingsOf tookBy)

section Model

variable (floats : FloatOps) (ticksPerSecond : UInt64) (maxRuntime : Duration) (name : String)

/-- The spawned task of one tick. -/
def unixTask (task : Started) (collector : UnixCollector) (tick : HostTick) :
    CollectionResult × UnixCollector :=
  let (ended, collector) := collector.collect floats ticksPerSecond tick
  let outcome := ended.bind fun (elapsed, result) => timeout maxRuntime elapsed result
  let metrics :=
    match outcome with
    | some (.ok metrics) => some metrics
    | some (.error _) | none => none
  ({ name := task.name, startedAt := task.startedAt, metrics }, collector)

/-- The collector after earlier ticks, each with the instant it started at. -/
def collectorAfter (collector : UnixCollector) (ticks : List (Instant × HostTick)) :
    UnixCollector :=
  ticks.foldl
    (fun collector (startedAt, tick) =>
      (unixTask floats ticksPerSecond maxRuntime ⟨name, startedAt⟩ collector tick).2)
    collector

/-- What the scheduler gets from a tick after `ticks`. -/
def unixResult (collector : UnixCollector) (ticks : List (Instant × HostTick))
    (startedAt : Instant) (tick : HostTick) : CollectionResult :=
  (unixTask floats ticksPerSecond maxRuntime ⟨name, startedAt⟩
    (collectorAfter floats ticksPerSecond maxRuntime name collector ticks) tick).1

end Model

section Owing

variable (floats : FloatOps) (ticksPerSecond : UInt64) (maxRuntime : Duration)
  (collector : UnixCollector) (tick : HostTick)

/-- The mounts that the filesystem sub-collector asks about. -/
def askedMounts (mounts : List MountInfo) : List MountInfo :=
  chosen collector.filesystemFilters collector.fsDedupeDevices tick.order mounts

/-- A reading of an enabled sub-collector that succeeds, or of a mount that answers. -/
inductive Owed : Reading → Prop
  | sub {sub : String} {readings : List Reading} {reading : Reading}
      (enabled : sub ∈ collector.enabled) (other : sub ≠ "filesystem")
      (succeeds : readNow floats ticksPerSecond collector tick sub = some (.ok readings))
      (read : reading ∈ readings) : Owed reading
  | mount {mounts : List MountInfo} {mount : MountInfo} {delay : Duration}
      {result : Option Filesystem.Statvfs} {reading : Reading}
      (enabled : "filesystem" ∈ collector.enabled) (table : tick.mountinfo = .ok mounts)
      (asked : mount ∈ askedMounts collector tick mounts)
      (answers : tick.statvfs mount.mountPoint = .returns delay result)
      (read : reading ∈ mountReadings floats mount result) : Owed reading

/-- Whatever is owed is handed over. -/
def HandsOver (result : CollectionResult) : Prop :=
  ∀ reading, Owed floats ticksPerSecond collector tick reading →
    ∃ metrics, result.metrics = some metrics ∧
      ∃ metric ∈ metrics, reading.Makes collector.cache.base metric

/-- No enabled sub-collector fails, and if filesystem is one of them, every mount that it
asks about answers, all of them within the hard deadline. -/
structure Undisturbed : Prop where
  succeed : ∀ sub ∈ collector.enabled, sub ≠ "filesystem" → ∀ failure,
    readNow floats ticksPerSecond collector tick sub ≠ some (.error failure)
  answer : "filesystem" ∈ collector.enabled → ∃ mounts, tick.mountinfo = .ok mounts ∧
    (∀ mount ∈ askedMounts collector tick mounts, tick.statvfs mount.mountPoint ≠ .hangs) ∧
    collector.enabled.count "filesystem" *
      ((askedMounts collector tick mounts).map (Filesystem.delayOf tick.statvfs)).sum ≤ maxRuntime

end Owing

/-! ## One tick -/

section Tick

variable {floats : FloatOps} {ticksPerSecond : UInt64} {maxRuntime : Duration}
  {collector : UnixCollector} {tick : HostTick}

private theorem tookBy_sum (subs : List String) :
    (subs.map (tookBy floats ticksPerSecond collector tick)).sum =
      subs.count "filesystem" * tookBy floats ticksPerSecond collector tick "filesystem" := by
  induction subs with
  | nil => simp
  | cons sub rest inductionHypothesis =>
      rw [List.map_cons, List.sum_cons, inductionHypothesis]
      by_cases isFilesystem : sub = "filesystem"
      · subst isFilesystem
        rw [List.count_cons_self, Nat.add_mul, Nat.one_mul, Nat.add_comm]
      · have atOnce : tookBy floats ticksPerSecond collector tick sub = 0 := by
          rw [tookBy, readSub, if_neg isFilesystem]
          cases readNow floats ticksPerSecond collector tick sub <;> rfl
        rw [atOnce, List.count_cons_of_ne isFilesystem, Nat.zero_add]

/-- What the filesystem sub-collector reads when no call of it hangs. -/
private theorem read_filesystem_iff {took : Duration} {readings : List Reading} :
    readSub floats ticksPerSecond collector tick "filesystem" =
        some (some (took, .ok readings)) ↔
      ∃ mounts, tick.mountinfo = .ok mounts ∧
        statMounts floats tick.statvfs (askedMounts collector tick mounts) =
          some (took, readings) := by
  rw [readSub, if_pos rfl]
  unfold Filesystem.read
  cases tick.mountinfo with
  | error message => simp
  | ok mounts => simp [askedMounts]

/-- If every mount answers, the filesystem sub-collector takes as long as they do. -/
private theorem read_filesystem_of_returns {mounts : List MountInfo}
    (table : tick.mountinfo = .ok mounts)
    (returns : ∀ mount ∈ askedMounts collector tick mounts,
      tick.statvfs mount.mountPoint ≠ .hangs) :
    ∃ readings, readSub floats ticksPerSecond collector tick "filesystem" =
      some (some (((askedMounts collector tick mounts).map
        (Filesystem.delayOf tick.statvfs)).sum, .ok readings)) := by
  cases looped : statMounts floats tick.statvfs (askedMounts collector tick mounts) with
  | none =>
      obtain ⟨mount, asked, hangs⟩ := Filesystem.statMounts_eq_none_iff.mp looped
      exact absurd hangs (returns mount asked)
  | some outcome =>
      rcases outcome with ⟨took, readings⟩
      rw [← Filesystem.statMounts_took looped]
      exact ⟨readings, read_filesystem_iff.mpr ⟨mounts, table, looped⟩⟩

/-- If it succeeds, every mount has answered. -/
private theorem statMounts_of_allSucceed
    (succeed : AllSucceed floats ticksPerSecond collector tick collector.enabled)
    (enabled : "filesystem" ∈ collector.enabled) :
    ∃ mounts took readings, tick.mountinfo = .ok mounts ∧
      statMounts floats tick.statvfs (askedMounts collector tick mounts) =
        some (took, readings) ∧
      readSub floats ticksPerSecond collector tick "filesystem" =
        some (some (took, .ok readings)) := by
  obtain ⟨took, readings, same⟩ := succeed "filesystem" enabled _ (if_pos rfl)
  have isRead : readSub floats ticksPerSecond collector tick "filesystem" =
      some (some (took, .ok readings)) := (if_pos rfl).trans (congrArg some same)
  obtain ⟨mounts, table, looped⟩ := read_filesystem_iff.mp isRead
  exact ⟨mounts, took, readings, table, looped, isRead⟩

private theorem undisturbed_iff :
    Undisturbed floats ticksPerSecond maxRuntime collector tick ↔
      AllSucceed floats ticksPerSecond collector tick collector.enabled ∧
        (collector.enabled.map (tookBy floats ticksPerSecond collector tick)).sum ≤
          maxRuntime := by
  rw [tookBy_sum]
  constructor
  · rintro ⟨succeed, answer⟩
    constructor
    · intro sub enabled read isRead
      by_cases isFilesystem : sub = "filesystem"
      · subst isFilesystem
        obtain ⟨mounts, table, returns, -⟩ := answer enabled
        obtain ⟨readings, alsoRead⟩ := read_filesystem_of_returns table returns
        exact ⟨_, readings, Option.some.inj (isRead.symm.trans alsoRead)⟩
      · rw [readSub, if_neg isFilesystem, Option.map_eq_some_iff] at isRead
        obtain ⟨result, now, rfl⟩ := isRead
        cases result with
        | error failure => exact absurd now (succeed sub enabled isFilesystem failure)
        | ok readings => exact ⟨0, readings, rfl⟩
    · by_cases enabled : "filesystem" ∈ collector.enabled
      · obtain ⟨mounts, table, returns, inTime⟩ := answer enabled
        obtain ⟨readings, isRead⟩ := read_filesystem_of_returns table returns
        rw [tookBy, isRead]
        exact inTime
      · rw [List.count_eq_zero_of_not_mem enabled, Nat.zero_mul]
        exact Nat.zero_le _
  · rintro ⟨succeed, inTime⟩
    constructor
    · intro sub enabled isOther failure now
      have isRead : readSub floats ticksPerSecond collector tick sub =
          some (some (0, .error failure)) := by
        rw [readSub, if_neg isOther, now]
        rfl
      obtain ⟨took, readings, same⟩ := succeed sub enabled _ isRead
      simp at same
    · intro enabled
      obtain ⟨mounts, took, readings, table, looped, isRead⟩ :=
        statMounts_of_allSucceed succeed enabled
      refine ⟨mounts, table, Filesystem.returns_of_statMounts looped, ?_⟩
      rw [tookBy, isRead] at inTime
      rwa [← Filesystem.statMounts_took looped]

/-- What is owed has been read. -/
private theorem read_of_owed {reading : Reading}
    (succeed : AllSucceed floats ticksPerSecond collector tick collector.enabled)
    (owed : Owed floats ticksPerSecond collector tick reading) :
    reading ∈ collector.enabled.flatMap (readingsOf floats ticksPerSecond collector tick) := by
  rw [List.mem_flatMap]
  cases owed with
  | sub enabled other succeeds read =>
      refine ⟨_, enabled, ?_⟩
      rwa [readingsOf, readSub, if_neg other, succeeds]
  | mount enabled table asked answers read =>
      refine ⟨_, enabled, ?_⟩
      obtain ⟨mounts, took, readings, alsoTable, looped, isRead⟩ :=
        statMounts_of_allSucceed succeed enabled
      obtain rfl := Except.ok.inj (table.symm.trans alsoTable)
      rw [readingsOf, isRead]
      exact (Filesystem.mem_statMounts looped _).mpr ⟨_, asked, _, _, answers, read⟩

variable (floats ticksPerSecond maxRuntime collector tick) in
/-- A tick is handed over whole or not at all. -/
private theorem unixTask_metrics (task : Started) (cache : LabelCache) :
    (Undisturbed floats ticksPerSecond maxRuntime collector tick ∧
      ∃ metrics, (unixTask floats ticksPerSecond maxRuntime task { collector with cache }
          tick).1.metrics = some metrics ∧
        List.Forall₂ (fun reading metric => reading.Makes cache.base metric)
          (collector.enabled.flatMap (readingsOf floats ticksPerSecond collector tick))
          metrics) ∨
    (¬ Undisturbed floats ticksPerSecond maxRuntime collector tick ∧
      (unixTask floats ticksPerSecond maxRuntime task { collector with cache }
        tick).1.metrics = none) := by
  rw [undisturbed_iff]
  by_cases succeed : AllSucceed floats ticksPerSecond collector tick collector.enabled
  · have succeedNow : AllSucceed floats ticksPerSecond { collector with cache } tick
        collector.enabled := succeed
    obtain ⟨made, collected, makes⟩ := collectSubs_of_allSucceed succeedNow 0 [] cache
    have sameTime : tookBy floats ticksPerSecond { collector with cache } tick =
        tookBy floats ticksPerSecond collector tick := rfl
    rw [Nat.zero_add, List.nil_append, sameTime] at collected
    by_cases inTime : (collector.enabled.map (tookBy floats ticksPerSecond collector tick)).sum ≤
        maxRuntime
    · refine Or.inl ⟨⟨succeed, inTime⟩, made, ?_, makes⟩
      simp only [unixTask, UnixCollector.collect, collected, Option.bind_some, timeout]
      rw [if_pos inTime]
    · refine Or.inr ⟨fun both => inTime both.2, ?_⟩
      simp only [unixTask, UnixCollector.collect, collected, Option.bind_some, timeout]
      rw [if_neg inTime]
  · refine Or.inr ⟨fun both => succeed both.1, ?_⟩
    have failNow : ¬ AllSucceed floats ticksPerSecond { collector with cache } tick
        collector.enabled := succeed
    have nothing := collectSubs_of_not_allSucceed failNow 0 [] cache
    simp only [unixTask, UnixCollector.collect]
    rcases ended : (UnixCollector.collectSubs floats ticksPerSecond { collector with cache } tick
      0 [] cache collector.enabled).1 with - | ⟨elapsed, failure | metrics⟩
    · rfl
    · simp only [Option.bind_some, timeout]
      split <;> rename_i outcome
      · split at outcome <;> simp at outcome
      · rfl
      · rfl
    · exact absurd ended (nothing elapsed metrics)

variable (floats ticksPerSecond maxRuntime collector) in
/-- Ticks change nothing of a collector but its cache, and of that not the static labels. -/
private theorem collectorAfter_eq (name : String) (ticks : List (Instant × HostTick)) :
    ∃ cache, collectorAfter floats ticksPerSecond maxRuntime name collector ticks =
        { collector with cache } ∧ cache.base = collector.cache.base := by
  induction ticks using List.reverseRecOn with
  | nil => exact ⟨collector.cache, rfl, rfl⟩
  | append_singleton earlier last inductionHypothesis =>
      obtain ⟨cache, before, base⟩ := inductionHypothesis
      have after : collectorAfter floats ticksPerSecond maxRuntime name collector
          (earlier ++ [last]) =
          (unixTask floats ticksPerSecond maxRuntime ⟨name, last.1⟩
            (collectorAfter floats ticksPerSecond maxRuntime name collector earlier) last.2).2 := by
        rw [collectorAfter, List.foldl_append]
        rfl
      rw [after, before]
      refine ⟨_, rfl, ?_⟩
      exact (collectSubs_base 0 [] cache collector.enabled).trans base

end Tick

/-- On every tick of every run, what a tick owes is handed over if and only if nothing is
owed or nothing disturbs the tick. -/
theorem unixResult_handsOver_iff (floats : FloatOps) (ticksPerSecond : UInt64)
    (maxRuntime : Duration) (name : String) (collector : UnixCollector)
    (ticks : List (Instant × HostTick)) (startedAt : Instant) (tick : HostTick) :
    HandsOver floats ticksPerSecond collector tick
        (unixResult floats ticksPerSecond maxRuntime name collector ticks startedAt tick) ↔
      (∀ reading, ¬ Owed floats ticksPerSecond collector tick reading) ∨
        Undisturbed floats ticksPerSecond maxRuntime collector tick := by
  obtain ⟨cache, after, base⟩ :=
    collectorAfter_eq floats ticksPerSecond maxRuntime collector name ticks
  unfold HandsOver unixResult
  rw [after]
  rcases unixTask_metrics floats ticksPerSecond maxRuntime collector tick ⟨name, startedAt⟩ cache
    with ⟨undisturbed, metrics, handed, makes⟩ | ⟨disturbed, handed⟩
  · refine iff_of_true ?_ (Or.inr undisturbed)
    intro reading owed
    rw [base] at makes
    have read := read_of_owed (undisturbed_iff.mp undisturbed).1 owed
    exact ⟨metrics, handed, exists_of_forall₂ makes read⟩
  · rw [or_iff_left disturbed]
    constructor
    · intro handsOver reading owed
      obtain ⟨metrics, same, -⟩ := handsOver reading owed
      rw [handed] at same
      exact absurd same (by simp)
    · intro nothing reading owed
      exact absurd owed (nothing reading)

/-! ## A stale mount -/

/-- A host with a load average of zero, and an NFS server that does not answer. -/
def staleTick : HostTick where
  files := .empty
  stat := .ok .empty
  mountinfo := .ok [⟨"0:52", "/", .ofNames ["mnt"], "nfs4", some "server:/export"⟩]
  statvfs _ := .hangs
  order := ⟨id, List.Perm.refl⟩
  meminfo := .error "no such file"
  diskstats := .ok []
  devStatus := .ok []
  loadavg := .ok ⟨f64Zero, f64Zero, f64Zero⟩
  uname := .error "no such call"
  wallClock _ := 0

def staleConfig : UnixCollectorConfig where
  collectors := ["loadavg", "filesystem"]

/-- The load average is owed, and the scheduler hears nothing. -/
theorem unixResult_handsOver_staleMount :
    validateUnixCollector (fun _ => .ok ()) "host" staleConfig = .ok () ∧
      ∃ collector, UnixCollector.new (fun _ => .ok fun _ => true) "host" staleConfig =
          .ok collector ∧
        ∀ floats ticksPerSecond,
          (unixResult floats ticksPerSecond staleConfig.maxRuntime "host" collector [] 0
            staleTick).metrics = none ∧
          ¬ HandsOver floats ticksPerSecond collector staleTick
            (unixResult floats ticksPerSecond staleConfig.maxRuntime "host" collector [] 0
              staleTick) := by
  refine ⟨by decide, _, rfl, ?_⟩
  intro floats ticksPerSecond
  refine ⟨rfl, ?_⟩
  intro handsOver
  obtain ⟨metrics, handed, -⟩ := handsOver ⟨"node_load1", .gauge, f64Zero, .empty⟩
    (.sub List.mem_cons_self (by decide) rfl List.mem_cons_self)
  exact absurd handed nofun

end Ferrometer.Pipeline
