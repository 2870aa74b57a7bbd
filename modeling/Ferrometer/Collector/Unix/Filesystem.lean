import Ferrometer.Collector.Unix.Series
import Ferrometer.Foundation.BestPerKey
import Ferrometer.Time
import Mathlib.Algebra.BigOperators.Group.List.Basic
import Mathlib.Algebra.GroupWithZero.Nat
import Mathlib.Data.Prod.Lex

/-!
Contract: the filesystem sub-collector.

Owns: `collect` with its filters, the choice of one mount per device, the calls of
`statvfs` it waits for, when the chosen mounts do not depend on the order of the mount
table, and when no two readings are of one series.

Does not own: how `/proc/self/mountinfo` is parsed, regular expressions, and what
`statvfs` answers.
-/

set_option autoImplicit false

namespace Ferrometer.Collector.Unix.Filesystem

open Ferrometer.Config Ferrometer.Foundation

/-! ## Model -/

structure MountInfo where
  /-- `major:minor`. -/
  majmin : String
  root : String
  mountPoint : OsPath
  fsType : String
  mountSource : Option String
deriving DecidableEq

structure Statvfs where
  fragmentSize : UInt64
  blocks : UInt64
  blocksFree : UInt64
  blocksAvailable : UInt64
  files : UInt64
  filesFree : UInt64

/-- The awaited `spawn_blocking` around a call of `statvfs`. The time in the queue of the
blocking pool, which other hung calls may have filled, is part of it. -/
inductive StatvfsCall where
  | hangs
  /-- Without a result it has failed. -/
  | returns (delay : Duration) (result : Option Statvfs)

/-- The order in which a `HashMap` hands out its values. -/
structure IterationOrder where
  arrange : List MountInfo → List MountInfo
  perm : ∀ mounts, (arrange mounts).Perm mounts

def ignoredFsTypes : List String :=
  ["sysfs", "proc", "devtmpfs", "devpts", "tmpfs", "securityfs", "cgroup", "cgroup2", "pstore",
    "debugfs", "hugetlbfs", "mqueue", "configfs", "fusectl", "tracefs", "bpf", "nsfs", "ramfs",
    "rpc_pipefs", "nfsd", "efivarfs", "autofs", "binfmt_misc", "overlay"]

structure Filters where
  /-- `Regex::is_match` of `filesystem-mount-points`. -/
  mountFilter : String → Bool
  /-- The same of `filesystem-fs-types`. -/
  typeFilter : String → Bool

def isMoreCanonical (candidate current : MountInfo) : Bool :=
  let candRoot := candidate.root = "/"
  let currRoot := current.root = "/"
  if candRoot ∧ ¬ currRoot then true
  else if ¬ candRoot ∧ currRoot then false
  else candidate.mountPoint < current.mountPoint

section Collect

variable (floats : FloatOps) (filters : Filters)

def isCandidate (mount : MountInfo) : Bool :=
  !ignoredFsTypes.contains mount.fsType && filters.typeFilter mount.fsType &&
    mount.mountPoint.toStr.any filters.mountFilter

def candidates (mounts : List MountInfo) : List MountInfo :=
  mounts.filter (isCandidate filters)

/-- The values of `by_dev`. -/
def dedupe (order : IterationOrder) (mounts : List MountInfo) : List MountInfo :=
  order.arrange
    ((BestPerKey.keepBest MountInfo.majmin isMoreCanonical mounts).entries.map Prod.snd)

def chosen (dedupeDevices : Bool) (order : IterationOrder) (mounts : List MountInfo) :
    List MountInfo :=
  let candidates := candidates filters mounts
  if dedupeDevices then dedupe order candidates else candidates

def mountLabels (mount : MountInfo) (mountpoint : String) : Labels :=
  .ofList [
    ("device", mount.mountSource.getD ""), ("mountpoint", mountpoint), ("fstype", mount.fsType)]

def statReadings (stat : Statvfs) (labels : Labels) : List Reading :=
  let frsize := floats.ofU64 stat.fragmentSize
  let bytes (blocks : UInt64) := floats.mul (floats.ofU64 blocks) frsize
  [⟨"node_filesystem_size_bytes", .gauge, bytes stat.blocks, labels⟩,
    ⟨"node_filesystem_free_bytes", .gauge, bytes stat.blocksFree, labels⟩,
    ⟨"node_filesystem_avail_bytes", .gauge, bytes stat.blocksAvailable, labels⟩,
    ⟨"node_filesystem_files", .gauge, floats.ofU64 stat.files, labels⟩,
    ⟨"node_filesystem_files_free", .gauge, floats.ofU64 stat.filesFree, labels⟩]

/-- What a mount adds when its call has returned. -/
def mountReadings (mount : MountInfo) (result : Option Statvfs) : List Reading :=
  match result with
  | none => []
  | some stat =>
      match mount.mountPoint.toStr with
      | none => []
      | some mountpoint => statReadings floats stat (mountLabels mount mountpoint)

/-- The loop over the mounts, and the time it waits. `none` is a loop that never ends. -/
def statMounts (statvfs : OsPath → StatvfsCall) :
    List MountInfo → Option (Duration × List Reading)
  | [] => some (0, [])
  | mount :: rest =>
      match statvfs mount.mountPoint with
      | .hangs => none
      | .returns delay result =>
          (statMounts statvfs rest).map fun (elapsed, readings) =>
            (delay + elapsed, mountReadings floats mount result ++ readings)

/-- `mountinfo` is what reading the mount table gives. The labels of all mounts are
interned in the end, since what has been interned before changes no metric. -/
def read (mountinfo : Except String (List MountInfo)) (dedupeDevices : Bool)
    (order : IterationOrder) (statvfs : OsPath → StatvfsCall) :
    Option (Duration × Except Error (List Reading)) :=
  match mountinfo with
  | .error message => some (0, .error (.collector ("filesystem: " ++ message)))
  | .ok mounts =>
      (statMounts floats statvfs (chosen filters dedupeDevices order mounts)).map
        fun (elapsed, readings) => (elapsed, .ok readings)

/-- Without a result it has not come to an end. -/
def collect (mountinfo : Except String (List MountInfo)) (dedupeDevices : Bool)
    (order : IterationOrder) (statvfs : OsPath → StatvfsCall) (wallClock : Nat → SystemTime)
    (cache : LabelCache) : Option (Duration × Except Error (List Metric)) × LabelCache :=
  match read floats filters mountinfo dedupeDevices order statvfs with
  | none => (none, cache)
  | some (elapsed, readings) =>
      let (result, cache) := emitResult wallClock cache readings
      (some (elapsed, result), cache)

end Collect

/-! ## The choice of a mount -/

/-- What makes a mount canonical: the root of its filesystem first, and then the mount
point. -/
def MountInfo.rank (mount : MountInfo) : Bool ×ₗ OsPath :=
  toLex (decide (mount.root ≠ "/"), mount.mountPoint)

theorem isMoreCanonical_iff (candidate current : MountInfo) :
    isMoreCanonical candidate current = true ↔ candidate.rank < current.rank := by
  by_cases candRoot : candidate.root = "/" <;> by_cases currRoot : current.root = "/" <;>
    simp [isMoreCanonical, MountInfo.rank, Prod.Lex.toLex_lt_toLex, candRoot, currRoot]

/-- A least mount among those of its device. -/
abbrev Least (mounts : List MountInfo) (mount : MountInfo) : Prop :=
  BestPerKey.Least MountInfo.majmin MountInfo.rank mounts mount

/-- One mount of every device is kept, and it is a least one. -/
structure KeepsLeast (mounts kept : List MountInfo) : Prop where
  once : (kept.map MountInfo.majmin).Nodup
  everyDevice : ∀ majmin, majmin ∈ kept.map MountInfo.majmin ↔
    majmin ∈ mounts.map MountInfo.majmin
  least : ∀ mount ∈ kept, Least mounts mount

private theorem mem_dedupe {order : IterationOrder} {mounts : List MountInfo}
    {mount : MountInfo} :
    mount ∈ dedupe order mounts ↔
      mount ∈ (BestPerKey.keepBest MountInfo.majmin isMoreCanonical mounts).entries.map
        Prod.snd :=
  (order.perm _).mem_iff

theorem dedupe_keepsLeast (order : IterationOrder) (mounts : List MountInfo) :
    KeepsLeast mounts (dedupe order mounts) := by
  have kept := BestPerKey.get?_keepBest MountInfo.majmin isMoreCanonical_iff mounts
  have ofEntry : ∀ majmin mount,
      (majmin, mount) ∈ (BestPerKey.keepBest MountInfo.majmin isMoreCanonical mounts).entries →
      mount.majmin = majmin ∧ Least mounts mount := by
    intro majmin mount isEntry
    exact (kept majmin).1 mount ((SortedMap.mem_entries_iff _ _ _).mp isEntry)
  have devices : (BestPerKey.keepBest MountInfo.majmin isMoreCanonical mounts).entries.map
      (MountInfo.majmin ∘ Prod.snd) =
      (BestPerKey.keepBest MountInfo.majmin isMoreCanonical mounts).keys := by
    apply List.map_congr_left
    rintro ⟨majmin, mount⟩ isEntry
    exact (ofEntry majmin mount isEntry).1
  constructor
  · have permuted := (order.perm ((BestPerKey.keepBest MountInfo.majmin isMoreCanonical
      mounts).entries.map Prod.snd)).map MountInfo.majmin
    rw [dedupe, permuted.nodup_iff, List.map_map, devices]
    exact (SortedMap.sorted _).imp ne_of_lt
  · intro majmin
    simp only [List.mem_map, mem_dedupe]
    constructor
    · rintro ⟨_, ⟨⟨place, mount⟩, isEntry, rfl⟩, rfl⟩
      exact ⟨mount, (ofEntry place mount isEntry).2.member, rfl⟩
    · rintro ⟨mount, member, rfl⟩
      obtain ⟨best, isKept⟩ :=
        BestPerKey.exists_kept MountInfo.majmin isMoreCanonical_iff member
      have isEntry := (SortedMap.mem_entries_iff _ _ _).mpr isKept
      exact ⟨best, ⟨_, isEntry, rfl⟩, (ofEntry _ best isEntry).1⟩
  · intro _ member
    obtain ⟨⟨place, mount⟩, isEntry, rfl⟩ := List.mem_map.mp (mem_dedupe.mp member)
    exact (ofEntry place mount isEntry).2

/-- The least mounts of a device have one mount point. -/
private theorem mountPoint_of_tie {mounts : List MountInfo} {mount tie : MountInfo}
    (least : Least mounts mount) (alsoLeast : Least mounts tie)
    (sameDevice : tie.majmin = mount.majmin) : tie.mountPoint = mount.mountPoint := by
  have same : tie.rank = mount.rank :=
    le_antisymm (alsoLeast.least mount least.member sameDevice.symm)
      (least.least tie alsoLeast.member sameDevice)
  exact congrArg (fun rank => (ofLex rank).2) same

/-! ## What is emitted -/

section Emitted

variable {floats : FloatOps} {filters : Filters} {statvfs : OsPath → StatvfsCall}

theorem statMounts_eq_none_iff {mounts : List MountInfo} :
    statMounts floats statvfs mounts = none ↔
      ∃ mount ∈ mounts, statvfs mount.mountPoint = .hangs := by
  induction mounts with
  | nil => simp [statMounts]
  | cons mount rest inductionHypothesis =>
      rw [statMounts]
      cases call : statvfs mount.mountPoint with
      | hangs => simp [call]
      | returns delay result => simp [inductionHypothesis, call]

/-- A loop that comes to an end has met no mount that hangs. -/
theorem returns_of_statMounts {mounts : List MountInfo} {outcome : Duration × List Reading}
    (looped : statMounts floats statvfs mounts = some outcome) :
    ∀ mount ∈ mounts, statvfs mount.mountPoint ≠ .hangs := by
  intro mount member hangs
  rw [statMounts_eq_none_iff.mpr ⟨mount, member, hangs⟩] at looped
  simp at looped

/-- How long a call takes that returns. -/
def delayOf (statvfs : OsPath → StatvfsCall) (mount : MountInfo) : Duration :=
  match statvfs mount.mountPoint with
  | .hangs => 0
  | .returns delay _ => delay

theorem statMounts_took {mounts : List MountInfo} {elapsed : Duration} {readings : List Reading}
    (looped : statMounts floats statvfs mounts = some (elapsed, readings)) :
    elapsed = (mounts.map (delayOf statvfs)).sum := by
  induction mounts generalizing elapsed readings with
  | nil => exact (Prod.mk.inj (Option.some.inj looped)).1.symm
  | cons mount rest inductionHypothesis =>
      rw [statMounts] at looped
      cases call : statvfs mount.mountPoint with
      | hangs => simp [call] at looped
      | returns delay result =>
          simp only [call, Option.map_eq_some_iff, Prod.exists, Prod.mk.injEq] at looped
          obtain ⟨later, _, restOver, rfl, -⟩ := looped
          rw [List.map_cons, List.sum_cons, ← inductionHypothesis restOver, delayOf, call]

theorem mem_statMounts {mounts : List MountInfo} {elapsed : Duration} {readings : List Reading}
    (looped : statMounts floats statvfs mounts = some (elapsed, readings)) (reading : Reading) :
    reading ∈ readings ↔ ∃ mount ∈ mounts, ∃ delay result,
      statvfs mount.mountPoint = .returns delay result ∧
        reading ∈ mountReadings floats mount result := by
  induction mounts generalizing elapsed readings with
  | nil =>
      obtain ⟨-, rfl⟩ := Prod.mk.inj (Option.some.inj looped)
      simp
  | cons mount rest inductionHypothesis =>
      rw [statMounts] at looped
      cases call : statvfs mount.mountPoint with
      | hangs => simp [call] at looped
      | returns delay result =>
          simp only [call, Option.map_eq_some_iff, Prod.exists, Prod.mk.injEq] at looped
          obtain ⟨_, later, restOver, -, rfl⟩ := looped
          rw [List.mem_append, inductionHypothesis restOver]
          simp [call]

/-- The labels under which a mount is reported, if it is. -/
def reportedLabels (statvfs : OsPath → StatvfsCall) (base : Labels) (mount : MountInfo) :
    Option Labels :=
  match statvfs mount.mountPoint with
  | .returns _ (some _) =>
      mount.mountPoint.toStr.map fun mountpoint =>
        LabelCache.withBase ⟨base, []⟩ (mountLabels mount mountpoint)
  | _ => none

/-- The label set of a metric that a tick has emitted. -/
def Emits (tick : Option (Duration × Except Error (List Metric))) (labels : Labels) : Prop :=
  ∃ elapsed metrics, tick = some (elapsed, .ok metrics) ∧
    ∃ metric ∈ metrics, metric.labels = labels

variable (floats) in
private theorem reportedLabels_iff {base : Labels} {mount : MountInfo} {labels : Labels} :
    reportedLabels statvfs base mount = some labels ↔
      ∃ delay result, statvfs mount.mountPoint = .returns delay result ∧
        ∃ reading ∈ mountReadings floats mount result,
          LabelCache.withBase ⟨base, []⟩ reading.labels = labels := by
  unfold reportedLabels mountReadings
  cases call : statvfs mount.mountPoint with
  | hangs => simp
  | returns delay result =>
      cases result with
      | none => simp
      | some stat =>
          cases text : mount.mountPoint.toStr with
          | none => simp
          | some mountpoint => simp [statReadings]

/-- Unless some call never returns, a tick emits the labels of the mounts it has chosen. -/
private theorem emits_collect_iff {dedupeDevices : Bool} {order : IterationOrder}
    {mounts : List MountInfo} {wallClock : Nat → SystemTime} {cache : LabelCache}
    {labels : Labels} :
    Emits (collect floats filters (.ok mounts) dedupeDevices order statvfs wallClock cache).1
        labels ↔
      (∀ mount ∈ chosen filters dedupeDevices order mounts,
        statvfs mount.mountPoint ≠ .hangs) ∧
      ∃ mount ∈ chosen filters dedupeDevices order mounts,
        reportedLabels statvfs cache.base mount = some labels := by
  cases looped : statMounts floats statvfs (chosen filters dedupeDevices order mounts) with
  | none =>
      obtain ⟨mount, isChosen, hangs⟩ := statMounts_eq_none_iff.mp looped
      constructor
      · rintro ⟨elapsed, metrics, collected, -⟩
        simp [collect, read, looped] at collected
      · rintro ⟨returns, -⟩
        exact absurd hangs (returns mount isChosen)
  | some outcome =>
      obtain ⟨elapsed, readings⟩ := outcome
      have returns : ∀ mount ∈ chosen filters dedupeDevices order mounts,
          statvfs mount.mountPoint ≠ .hangs := returns_of_statMounts looped
      have emitted : (collect floats filters (.ok mounts) dedupeDevices order statvfs wallClock
          cache).1 = some (elapsed, .ok (emit wallClock cache [] readings).1) := by
        simp [collect, read, looped, emitResult]
      rw [emitted, and_iff_right returns]
      constructor
      · rintro ⟨_, _, ⟨⟩, metric, isEmitted, rfl⟩
        obtain ⟨reading, isRead, now, rfl⟩ := exists_reading wallClock isEmitted
        obtain ⟨mount, isChosen, delay, result, call, ofMount⟩ :=
          (mem_statMounts looped reading).mp isRead
        exact ⟨mount, isChosen,
          (reportedLabels_iff floats).mpr
            ⟨delay, result, call, reading, ofMount, rfl⟩⟩
      · rintro ⟨mount, isChosen, reported⟩
        obtain ⟨delay, result, call, reading, ofMount, rfl⟩ :=
          (reportedLabels_iff floats).mp reported
        obtain ⟨metric, isEmitted, now, rfl⟩ := exists_metric wallClock cache
          ((mem_statMounts looped reading).mpr ⟨mount, isChosen, delay, result, call, ofMount⟩)
        exact ⟨elapsed, _, rfl, _, isEmitted, rfl⟩

end Emitted

/-! ## The order of the mount table -/

/-- Whatever labels a least mount is reported under, all least mounts of some device are
reported under them. -/
def TiesAgree (statvfs : OsPath → StatvfsCall) (base : Labels) (mounts : List MountInfo) :
    Prop :=
  ∀ mount, Least mounts mount → ∀ labels, reportedLabels statvfs base mount = some labels →
    ∃ other ∈ mounts, ∀ tie, Least mounts tie → tie.majmin = other.majmin →
      reportedLabels statvfs base tie = some labels

section Order

variable {floats : FloatOps} {filters : Filters} {statvfs : OsPath → StatvfsCall}

private theorem hangs_iff_least (order : IterationOrder) {mounts : List MountInfo} :
    (∃ mount ∈ dedupe order mounts, statvfs mount.mountPoint = .hangs) ↔
      ∃ mount, Least mounts mount ∧ statvfs mount.mountPoint = .hangs := by
  have keepsLeast := dedupe_keepsLeast order mounts
  constructor
  · rintro ⟨mount, isKept, hangs⟩
    exact ⟨mount, keepsLeast.least mount isKept, hangs⟩
  · rintro ⟨mount, least, hangs⟩
    obtain ⟨kept, isKept, sameDevice⟩ := List.mem_map.mp
      ((keepsLeast.everyDevice mount.majmin).mpr (List.mem_map_of_mem least.member))
    refine ⟨kept, isKept, ?_⟩
    rwa [mountPoint_of_tie least (keepsLeast.least kept isKept) sameDevice]

/-- What a tick with dedupe emits, in terms of the candidates. -/
private theorem emits_dedupe_iff {order : IterationOrder} {mounts : List MountInfo}
    {wallClock : Nat → SystemTime} {cache : LabelCache} {labels : Labels} :
    Emits (collect floats filters (.ok mounts) true order statvfs wallClock cache).1 labels ↔
      (¬ ∃ mount, Least (candidates filters mounts) mount ∧
        statvfs mount.mountPoint = .hangs) ∧
      BestPerKey.Shows (reportedLabels statvfs cache.base) MountInfo.majmin isMoreCanonical
        (candidates filters mounts) labels := by
  rw [emits_collect_iff, ← hangs_iff_least order]
  simp only [chosen, if_true, mem_dedupe, BestPerKey.Shows]
  push Not
  rfl

private theorem hangs_of_perm {mounts table : List MountInfo} (permuted : mounts.Perm table) :
    (∃ mount, Least (candidates filters table) mount ∧ statvfs mount.mountPoint = .hangs) ↔
      ∃ mount, Least (candidates filters mounts) mount ∧ statvfs mount.mountPoint = .hangs := by
  have candidatesPermuted := permuted.filter (isCandidate filters)
  constructor
  · rintro ⟨mount, least, hangs⟩
    exact ⟨mount, least.of_perm candidatesPermuted.symm, hangs⟩
  · rintro ⟨mount, least, hangs⟩
    exact ⟨mount, least.of_perm candidatesPermuted, hangs⟩

/-- Any order of the candidates is that of some mount table. -/
private theorem exists_table {mounts others : List MountInfo}
    (permuted : (candidates filters mounts).Perm others) :
    ∃ table, mounts.Perm table ∧ candidates filters table = others := by
  refine ⟨others ++ mounts.filter fun mount => !isCandidate filters mount, ?_, ?_⟩
  · have split := List.filter_append_perm (isCandidate filters) mounts
    exact split.symm.trans (permuted.append_right _)
  · have ofOthers : others.filter (isCandidate filters) = others := by
      rw [List.filter_eq_self]
      intro mount member
      exact (List.mem_filter.mp (permuted.mem_iff.mpr member)).2
    rw [candidates, List.filter_append, ofOthers, List.filter_filter]
    simp

end Order

/-- With dedupe one least mount of every device is kept, and the emitted label sets do not
depend on the order of the mount table if and only if ties agree on them, or some call
never returns and nothing is emitted. -/
theorem dedupe_stable_iff (floats : FloatOps) (filters : Filters)
    (statvfs : OsPath → StatvfsCall) (wallClock : Nat → SystemTime) (cache : LabelCache)
    (mounts : List MountInfo) :
    (∀ order, KeepsLeast (candidates filters mounts) (chosen filters true order mounts)) ∧
    ((∀ table, mounts.Perm table → ∀ order order' labels,
      Emits (collect floats filters (.ok mounts) true order statvfs wallClock cache).1 labels ↔
        Emits (collect floats filters (.ok table) true order' statvfs wallClock cache).1
          labels) ↔
      TiesAgree statvfs cache.base (candidates filters mounts) ∨
        ∃ mount, Least (candidates filters mounts) mount ∧
          statvfs mount.mountPoint = .hangs) := by
  refine ⟨fun order => dedupe_keepsLeast order _, ?_⟩
  have stable := BestPerKey.shows_perm_iff MountInfo.majmin isMoreCanonical_iff
    (reportedLabels statvfs cache.base) (candidates filters mounts)
  by_cases hangs : ∃ mount, Least (candidates filters mounts) mount ∧
      statvfs mount.mountPoint = .hangs
  · refine ⟨fun _ => Or.inr hangs, fun _ => ?_⟩
    intro table permuted order order' labels
    rw [emits_dedupe_iff, emits_dedupe_iff, hangs_of_perm permuted]
    simp only [hangs, not_true_eq_false, false_and]
  · rw [or_iff_left hangs]
    constructor
    · intro invariant
      apply stable.mp
      intro others candidatesPermuted labels
      obtain ⟨table, permuted, rfl⟩ := exists_table candidatesPermuted
      have same := invariant table permuted ⟨id, List.Perm.refl⟩ ⟨id, List.Perm.refl⟩ labels
      rw [emits_dedupe_iff, emits_dedupe_iff, hangs_of_perm permuted] at same
      simpa only [hangs, not_false_eq_true, true_and] using same
    · intro agree table permuted order order' labels
      rw [emits_dedupe_iff, emits_dedupe_iff, hangs_of_perm permuted,
        stable.mpr agree _ (permuted.filter (isCandidate filters)) labels]
      rfl

/-- Two mounts of one device on one mount point, under two names of the device. -/
theorem dedupe_stable_stackedMounts :
    let floats : FloatOps := ⟨fun _ => 0, fun _ => 0, fun _ _ => 0, fun _ _ => 0, fun _ => none⟩
    let filters : Filters := ⟨fun _ => true, fun _ => true⟩
    let order : IterationOrder := ⟨id, List.Perm.refl⟩
    let statvfs := fun _ : OsPath => StatvfsCall.returns 0 (some ⟨0, 0, 0, 0, 0, 0⟩)
    let bySda : MountInfo := ⟨"8:1", "/", .ofNames ["mnt"], "ext4", some "/dev/sda1"⟩
    let byLabel : MountInfo :=
      ⟨"8:1", "/", .ofNames ["mnt"], "ext4", some "/dev/disk/by-label/data"⟩
    let tick := fun mounts => (collect floats filters (.ok mounts) true order statvfs
      (fun _ => 0) ⟨.empty, []⟩).1
    let labels := mountLabels bySda "/mnt"
    [bySda, byLabel].Perm [byLabel, bySda] ∧ Emits (tick [bySda, byLabel]) labels ∧
      ¬ Emits (tick [byLabel, bySda]) labels := by
  intro floats filters order statvfs bySda byLabel tick labels
  have emits : ∀ mounts, Emits (tick mounts) labels ↔
      ∃ mount ∈ chosen filters true order mounts,
        reportedLabels statvfs .empty mount = some labels := by
    intro mounts
    exact emits_collect_iff.trans (and_iff_right (by simp [statvfs]))
  rw [emits, emits]
  exact ⟨List.Perm.swap _ _ _, by decide +kernel, by decide +kernel⟩

/-! ## Series -/

section Series

variable {floats : FloatOps} {filters : Filters} {statvfs : OsPath → StatvfsCall}
  {mounts : List MountInfo} {elapsed : Duration} {readings : List Reading}

/-- The answer for a mount, with the labels it is reported under. -/
def answer (statvfs : OsPath → StatvfsCall) (mount : MountInfo) : Option (Statvfs × Labels) :=
  match statvfs mount.mountPoint with
  | .returns _ (some stat) =>
      mount.mountPoint.toStr.map fun mountpoint => (stat, mountLabels mount mountpoint)
  | _ => none

private theorem mountReadings_eq {mount : MountInfo} {delay : Duration} {result : Option Statvfs}
    (call : statvfs mount.mountPoint = .returns delay result) :
    mountReadings floats mount result =
      (answer statvfs mount).toList.flatMap fun row => statReadings floats row.1 row.2 := by
  simp only [mountReadings, answer, call]
  cases result with
  | none => rfl
  | some stat => cases mount.mountPoint.toStr <;> simp

/-- The loop reports the mounts that have been answered for. -/
private theorem statMounts_readings
    (looped : statMounts floats statvfs mounts = some (elapsed, readings)) :
    readings = (mounts.filterMap (answer statvfs)).flatMap fun row =>
      statReadings floats row.1 row.2 := by
  induction mounts generalizing elapsed readings with
  | nil => exact (Prod.mk.inj (Option.some.inj looped)).2.symm
  | cons mount rest inductionHypothesis =>
      rw [statMounts] at looped
      cases call : statvfs mount.mountPoint with
      | hangs => simp [call] at looped
      | returns delay result =>
          simp only [call, Option.map_eq_some_iff, Prod.exists, Prod.mk.injEq] at looped
          obtain ⟨later, _, restOver, -, rfl⟩ := looped
          rw [mountReadings_eq call, inductionHypothesis restOver]
          cases isAnswer : answer statvfs mount with
          | none => simp [List.filterMap_cons_none isAnswer]
          | some row => simp [List.filterMap_cons_some isAnswer]

private theorem answer_labels (mounts : List MountInfo) :
    (mounts.filterMap (answer statvfs)).map Prod.snd =
      mounts.filterMap (reportedLabels statvfs .empty) := by
  rw [List.map_filterMap]
  apply List.filterMap_congr
  intro mount _
  unfold answer reportedLabels
  split
  · rw [Option.map_map]
    rfl
  · rfl

theorem inFamily_statMounts
    (looped : statMounts floats statvfs mounts = some (elapsed, readings)) :
    InFamily "node_filesystem_" readings := by
  obtain rfl := statMounts_readings looped
  intro reading read
  obtain ⟨row, -, read⟩ := List.mem_flatMap.mp read
  have begin : InFamily "node_filesystem_" (statReadings floats row.1 row.2) := by
    simp only [InFamily, statReadings, List.forall_mem_cons]
    decide
  exact begin reading read

/-- No two readings are of one series if no two of the mounts are reported under one label
set. -/
theorem nodup_series_statMounts_iff
    (looped : statMounts floats statvfs mounts = some (elapsed, readings)) :
    (series readings).Nodup ↔ (mounts.filterMap (reportedLabels statvfs .empty)).Nodup := by
  obtain rfl := statMounts_readings looped
  rw [← answer_labels]
  apply nodup_series_rows_iff
  · intro row _ reading read
    revert reading
    simp [statReadings]
  · intro row _
    simp only [statReadings, List.map_cons, List.map_nil]
    decide
  · intro row _
    exact List.mem_cons_self

end Series

end Ferrometer.Collector.Unix.Filesystem
