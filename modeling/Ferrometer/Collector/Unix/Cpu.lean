import Ferrometer.Collector.Unix.Series
import Mathlib.Data.List.Sort
import Mathlib.Order.Nat

/-!
Contract: the cpu sub-collector.

Owns: `collect` with the counters of `/proc/stat` and the `sysfs` files it reads
for each of them, what data belongs to a CPU, when every metric carries the data of the
CPU that it names, and that no two readings are of one series.

Does not own: how `/proc/stat` is parsed. The lines of the CPUs are an input.
-/

set_option autoImplicit false

namespace Ferrometer.Collector.Unix.Cpu

open Ferrometer.Foundation

/-! ## Model -/

/-- Ticks. -/
structure CpuTime where
  user : UInt64
  nice : UInt64
  system : UInt64
  idle : UInt64
  iowait : Option UInt64
  irq : Option UInt64
  softirq : Option UInt64
  steal : Option UInt64
deriving DecidableEq

/-- The line `cpuN` of `/proc/stat` for every online CPU `N`, in the order of the
file. -/
abbrev StatLines := SortedMap Nat CpuTime

/-- `KernelStats::cpu_time`. -/
def cpuTime (lines : StatLines) : List CpuTime :=
  lines.entries.map Prod.snd

section Collect

variable (floats : FloatOps) (ticksPerSecond : UInt64) (files : Files)

def modes (cpu : CpuTime) : List (String × UInt64) :=
  let tps := floats.ofU64 ticksPerSecond
  let seconds (ticks : UInt64) := floats.div (floats.ofU64 ticks) tps
  [("user", seconds cpu.user),
    ("nice", seconds cpu.nice),
    ("system", seconds cpu.system),
    ("idle", seconds cpu.idle),
    ("iowait", seconds (cpu.iowait.getD 0)),
    ("irq", seconds (cpu.irq.getD 0)),
    ("softirq", seconds (cpu.softirq.getD 0)),
    ("steal", seconds (cpu.steal.getD 0))]

def freqFields : List (String × String) :=
  [("scaling_cur_freq", "node_cpu_scaling_frequency_hertz"),
    ("scaling_min_freq", "node_cpu_scaling_frequency_min_hertz"),
    ("scaling_max_freq", "node_cpu_scaling_frequency_max_hertz"),
    ("cpuinfo_min_freq", "node_cpu_frequency_min_hertz"),
    ("cpuinfo_max_freq", "node_cpu_frequency_max_hertz")]

/-- `/sys/devices/system/cpu/cpu{i}`. -/
def cpuDir (i : Nat) : OsPath :=
  .ofNames ["sys", "devices", "system", "cpu", s!"cpu{i}"]

def physicalPackageId (i : Nat) : Option String :=
  files.readString (cpuDir i ++ .ofNames ["topology", "physical_package_id"])

/-! The series, each as the labels and values that its source gives. -/

def secondsReading (cpuLabel : String) (mode : String × UInt64) : Reading where
  name := "node_cpu_seconds_total"
  metricType := .counter
  value := mode.2
  labels := .ofList [("cpu", cpuLabel), ("mode", mode.1)]

/-- The file holds kHz. -/
def frequencyReading (cpuLabel metricName : String) (khz : UInt64) : Reading where
  name := metricName
  metricType := .gauge
  value := floats.mul (floats.ofU64 khz) 0x408f400000000000
  labels := .ofList [("cpu", cpuLabel)]

def governorReading (cpuLabel governor : String) : Reading where
  name := "node_cpu_scaling_governor"
  metricType := .gauge
  value := f64One
  labels := .ofList [("cpu", cpuLabel), ("governor", governor)]

def coreThrottlesReading (cpuLabel : String) (package : Option String) (count : UInt64) :
    Reading where
  name := "node_cpu_core_throttles_total"
  metricType := .counter
  value := floats.ofU64 count
  labels := .ofList (("cpu", cpuLabel) :: package.toList.map fun pkg => ("package", pkg))

def packageThrottlesReading (pkg : String) (count : UInt64) : Reading where
  name := "node_cpu_package_throttles_total"
  metricType := .counter
  value := floats.ofU64 count
  labels := .ofList [("package", pkg)]

def secondsReadings (cpuLabel : String) (cpu : CpuTime) : List Reading :=
  (modes floats ticksPerSecond cpu).map (secondsReading cpuLabel)

def frequencyReadings (i : Nat) : List Reading :=
  freqFields.filterMap fun field =>
    (files.readU64 (cpuDir i ++ .ofNames ["cpufreq", field.1])).map
      (frequencyReading floats (toString i) field.2)

def governorReadings (i : Nat) : List Reading :=
  ((files.readString (cpuDir i ++ .ofNames ["cpufreq", "scaling_governor"])).map
    (governorReading (toString i))).toList

def coreThrottlesReadings (i : Nat) : List Reading :=
  ((files.readU64 (cpuDir i ++ .ofNames ["thermal_throttle", "core_throttle_count"])).map
    (coreThrottlesReading floats (toString i) (physicalPackageId files i))).toList

/-- With the packages seen so far and now. -/
def packageThrottlesReadings (seenPackages : List String) (i : Nat) :
    List Reading × List String :=
  match physicalPackageId files i with
  | none => ([], seenPackages)
  | some pkg =>
      if pkg ∈ seenPackages then ([], seenPackages)
      else
        (((files.readU64
            (cpuDir i ++ .ofNames ["thermal_throttle", "package_throttle_count"])).map
          (packageThrottlesReading floats pkg)).toList, pkg :: seenPackages)

/-- One round of the loop. -/
def readCpu (seenPackages : List String) (i : Nat) (cpu : CpuTime) :
    List Reading × List String :=
  let (packageThrottles, seenPackages) := packageThrottlesReadings floats files seenPackages i
  (secondsReadings floats ticksPerSecond (toString i) cpu ++ frequencyReadings floats files i ++
    governorReadings files i ++ coreThrottlesReadings floats files i ++ packageThrottles,
    seenPackages)

/-- The loop, from place `i` of the list on. -/
def readCpus : List String → Nat → List CpuTime → List Reading
  | _, _, [] => []
  | seenPackages, i, cpu :: rest =>
      let (readings, seenPackages) := readCpu floats ticksPerSecond files seenPackages i cpu
      readings ++ readCpus seenPackages (i + 1) rest

/-- `stat` is what reading `/proc/stat` gives. -/
def read (stat : Except String StatLines) : Except Error (List Reading) :=
  readSource "cpu" stat fun lines => readCpus floats ticksPerSecond files [] 0 (cpuTime lines)

def collect (stat : Except String StatLines) (wallClock : Nat → SystemTime)
    (cache : LabelCache) : Except Error (List Metric) × LabelCache :=
  emitResult wallClock cache (read floats ticksPerSecond files stat)

end Collect

/-! ## The data of a CPU -/

section Data

variable (floats : FloatOps) (ticksPerSecond : UInt64) (files : Files) (lines : StatLines)

/-- A reading of a file under the directory of CPU `k` in `sysfs`. -/
inductive SysfsOf (k : Nat) : Reading → Prop
  | frequency {field : String × String} {khz : UInt64} (known : field ∈ freqFields)
      (read : files.readU64 (cpuDir k ++ .ofNames ["cpufreq", field.1]) = some khz) :
      SysfsOf k (frequencyReading floats (toString k) field.2 khz)
  | governor {governor : String}
      (read : files.readString (cpuDir k ++ .ofNames ["cpufreq", "scaling_governor"]) =
        some governor) :
      SysfsOf k (governorReading (toString k) governor)
  | coreThrottles {count : UInt64}
      (read : files.readU64 (cpuDir k ++ .ofNames ["thermal_throttle", "core_throttle_count"]) =
        some count) :
      SysfsOf k (coreThrottlesReading floats (toString k) (physicalPackageId files k) count)
  | packageThrottles {pkg : String} {count : UInt64}
      (inPackage : physicalPackageId files k = some pkg)
      (read : files.readU64
        (cpuDir k ++ .ofNames ["thermal_throttle", "package_throttle_count"]) = some count) :
      SysfsOf k (packageThrottlesReading floats pkg count)

/-- A reading of the data of kernel CPU `k`. -/
inductive DataOf (k : Nat) : Reading → Prop
  | seconds {cpu : CpuTime} {mode : String × UInt64} (line : lines.get? k = some cpu)
      (ofLine : mode ∈ modes floats ticksPerSecond cpu) :
      DataOf k (secondsReading (toString k) mode)
  | sysfs {reading : Reading} (ofFile : SysfsOf floats files k reading) : DataOf k reading

/-- Every metric with the label of a CPU carries the data of that CPU, and every online
CPU is reported under its own label. -/
structure Attributed (base : Labels) (metrics : List Metric) : Prop where
  carries : ∀ metric ∈ metrics, ∀ k, metric.labels.get? "cpu" = some (toString k) →
    ∃ reading, DataOf floats ticksPerSecond files lines k reading ∧ reading.Makes base metric
  reported : ∀ k cpu, lines.get? k = some cpu → ∀ mode ∈ modes floats ticksPerSecond cpu,
    ∃ metric ∈ metrics, metric.labels.get? "cpu" = some (toString k) ∧
      (secondsReading (toString k) mode).Makes base metric

/-- So it is in a tick on these files. -/
def AttributesOn (wallClock : Nat → SystemTime) (cache : LabelCache) : Prop :=
  ∃ metrics, (collect floats ticksPerSecond files (.ok lines) wallClock cache).1 = .ok metrics ∧
    Attributed floats ticksPerSecond files lines cache.base metrics

end Data

/-- The online CPUs are the first ones, without a hole, and no static label puts another
text in the place of their ids. -/
structure Aligned (base : Labels) (lines : StatLines) : Prop where
  dense : lines.keys = List.range lines.keys.length
  unlabelled : ∀ k ∈ lines.keys, ∀ label ∈ base.get? "cpu", label = toString k

/-! ## What is read -/

section Read

variable {floats : FloatOps} {ticksPerSecond : UInt64} {files : Files}

/-- What round `i` of the loop reads. -/
def ReadAt (floats : FloatOps) (ticksPerSecond : UInt64) (files : Files) (i : Nat)
    (cpu : CpuTime) (reading : Reading) : Prop :=
  (∃ mode ∈ modes floats ticksPerSecond cpu, reading = secondsReading (toString i) mode) ∨
    SysfsOf floats files i reading

private theorem packageThrottles_sysfs {seenPackages : List String} {i : Nat} {reading : Reading}
    (read : reading ∈ (packageThrottlesReadings floats files seenPackages i).1) :
    SysfsOf floats files i reading := by
  unfold packageThrottlesReadings at read
  cases inPackage : physicalPackageId files i with
  | none => simp [inPackage] at read
  | some pkg =>
      simp only [inPackage] at read
      split at read
      · simp at read
      · simp only [Option.mem_toList, Option.map_eq_some_iff] at read
        obtain ⟨count, counted, rfl⟩ := read
        exact .packageThrottles inPackage counted

theorem readCpu_readAt {seenPackages : List String} {i : Nat} {cpu : CpuTime}
    {reading : Reading}
    (read : reading ∈ (readCpu floats ticksPerSecond files seenPackages i cpu).1) :
    ReadAt floats ticksPerSecond files i cpu reading := by
  simp only [readCpu, List.mem_append] at read
  rcases read with (((seconds | frequency) | governor) | core) | package
  · obtain ⟨mode, ofLine, rfl⟩ := List.mem_map.mp seconds
    exact Or.inl ⟨mode, ofLine, rfl⟩
  · obtain ⟨field, known, made⟩ := List.mem_filterMap.mp frequency
    obtain ⟨khz, read, rfl⟩ := Option.map_eq_some_iff.mp made
    exact Or.inr (.frequency known read)
  · simp only [governorReadings, Option.mem_toList, Option.map_eq_some_iff] at governor
    obtain ⟨name, read, rfl⟩ := governor
    exact Or.inr (.governor read)
  · simp only [coreThrottlesReadings, Option.mem_toList, Option.map_eq_some_iff] at core
    obtain ⟨count, read, rfl⟩ := core
    exact Or.inr (.coreThrottles read)
  · exact Or.inr (packageThrottles_sysfs package)

/-- Whatever the loop reads, one of its rounds reads it. -/
theorem readCpus_readAt {seenPackages : List String} {i : Nat} {cpus : List CpuTime}
    {reading : Reading}
    (read : reading ∈ readCpus floats ticksPerSecond files seenPackages i cpus) :
    ∃ place cpu, cpus[place]? = some cpu ∧
      ReadAt floats ticksPerSecond files (i + place) cpu reading := by
  induction cpus generalizing seenPackages i with
  | nil => simp [readCpus] at read
  | cons cpu rest inductionHypothesis =>
      rw [readCpus] at read
      rcases List.mem_append.mp read with now | later
      · exact ⟨0, cpu, rfl, readCpu_readAt now⟩
      · obtain ⟨place, other, isPlace, readAt⟩ := inductionHypothesis later
        refine ⟨place + 1, other, isPlace, ?_⟩
        rwa [Nat.add_right_comm, Nat.add_assoc] at readAt

variable (floats ticksPerSecond files) in
/-- Every round of the loop reads. -/
theorem readCpu_mem_readCpus {cpus : List CpuTime} (seenPackages : List String) (i : Nat)
    {place : Nat} {cpu : CpuTime} (isPlace : cpus[place]? = some cpu) :
    ∃ seen, ∀ reading ∈ (readCpu floats ticksPerSecond files seen (i + place) cpu).1,
      reading ∈ readCpus floats ticksPerSecond files seenPackages i cpus := by
  induction cpus generalizing seenPackages i place with
  | nil => simp at isPlace
  | cons first rest inductionHypothesis =>
      cases place with
      | zero =>
          obtain rfl : first = cpu := by simpa using isPlace
          refine ⟨seenPackages, ?_⟩
          intro reading read
          rw [readCpus]
          exact List.mem_append_left _ read
      | succ place =>
          obtain ⟨seen, reads⟩ := inductionHypothesis
            (readCpu floats ticksPerSecond files seenPackages i first).2 (i + 1)
            (by simpa using isPlace)
          refine ⟨seen, ?_⟩
          intro reading read
          rw [readCpus]
          apply List.mem_append_right
          apply reads
          rwa [Nat.add_right_comm, Nat.add_assoc]

/-- A reading has the label of its round, or none. -/
theorem ReadAt.cpu_label {i : Nat} {cpu : CpuTime} {reading : Reading}
    (readAt : ReadAt floats ticksPerSecond files i cpu reading) :
    reading.labels.get? "cpu" = some (toString i) ∨ reading.labels.get? "cpu" = none := by
  rcases readAt with ⟨mode, -, rfl⟩ | ofFile
  · left
    simp [secondsReading, SortedMap.ofList, SortedMap.get?_insert]
  · cases ofFile with
    | frequency => left; simp [frequencyReading, SortedMap.ofList, SortedMap.get?_insert]
    | governor => left; simp [governorReading, SortedMap.ofList, SortedMap.get?_insert]
    | coreThrottles =>
        left
        cases physicalPackageId files i <;>
          simp [coreThrottlesReading, SortedMap.ofList, SortedMap.get?_insert]
    | packageThrottles =>
        right
        simp [packageThrottlesReading, SortedMap.ofList, SortedMap.get?_insert]

/-- The counters of `/proc/stat` are in none of the files. -/
theorem SysfsOf.name_ne {k : Nat} {reading : Reading}
    (ofFile : SysfsOf floats files k reading) : reading.name ≠ "node_cpu_seconds_total" := by
  cases ofFile with
  | frequency known =>
      have names : ∀ field ∈ freqFields, field.2 ≠ "node_cpu_seconds_total" := by decide
      exact names _ known
  | governor => exact (by decide : "node_cpu_scaling_governor" ≠ "node_cpu_seconds_total")
  | coreThrottles =>
      exact (by decide : "node_cpu_core_throttles_total" ≠ "node_cpu_seconds_total")
  | packageThrottles =>
      exact (by decide : "node_cpu_package_throttles_total" ≠ "node_cpu_seconds_total")

end Read

/-! ## Series -/

section Series

variable {floats : FloatOps} {ticksPerSecond : UInt64} {files : Files} {reading : Reading}
  {seenPackages : List String} {i : Nat} {cpu : CpuTime}

private theorem named_seconds (cpuLabel : String) :
    Named ["node_cpu_seconds_total"] (secondsReadings floats ticksPerSecond cpuLabel cpu) :=
  named_map (secondsReading cpuLabel) fun _ => rfl

/-- A package is reported once, and then it has been seen. -/
private theorem packageThrottles_unseen
    (read : reading ∈ (packageThrottlesReadings floats files seenPackages i).1) :
    ∃ pkg count, reading = packageThrottlesReading floats pkg count ∧ pkg ∉ seenPackages ∧
      pkg ∈ (packageThrottlesReadings floats files seenPackages i).2 := by
  unfold packageThrottlesReadings at read ⊢
  cases inPackage : physicalPackageId files i with
  | none => simp [inPackage] at read
  | some pkg =>
      simp only [inPackage] at read ⊢
      by_cases seen : pkg ∈ seenPackages
      · simp [seen] at read
      · simp only [seen, if_false, Option.mem_toList, Option.map_eq_some_iff] at read ⊢
        obtain ⟨count, -, rfl⟩ := read
        exact ⟨pkg, count, rfl, seen, List.mem_cons_self⟩

private theorem subset_packageThrottles :
    seenPackages ⊆ (packageThrottlesReadings floats files seenPackages i).2 := by
  unfold packageThrottlesReadings
  split
  · exact fun _ seen => seen
  · split
    · exact fun _ seen => seen
    · exact fun _ seen => List.mem_cons_of_mem _ seen

private theorem oneOfEach_packageThrottles :
    OneOfEach ["node_cpu_package_throttles_total"]
      (packageThrottlesReadings floats files seenPackages i).1 := by
  unfold packageThrottlesReadings
  split
  · exact List.nil_sublist _
  · split
    · exact List.nil_sublist _
    · exact oneOfEach_toList fun _ => rfl

/-- What a round reads besides the counters of `/proc/stat`. -/
private theorem oneOfEach_files :
    OneOfEach (freqFields.map Prod.snd ++ ["node_cpu_scaling_governor",
        "node_cpu_core_throttles_total", "node_cpu_package_throttles_total"])
      (frequencyReadings floats files i ++ (governorReadings files i ++
        (coreThrottlesReadings floats files i ++
          (packageThrottlesReadings floats files seenPackages i).1))) :=
  OneOfEach.append (oneOfEach_filterMap Prod.snd fun _ _ => rfl)
    (oneOfEach_toList_append (fun _ => rfl)
      (oneOfEach_toList_append (fun _ => rfl) oneOfEach_packageThrottles))

private theorem nodup_series_seconds (cpuLabel : String) :
    (series (secondsReadings floats ticksPerSecond cpuLabel cpu)).Nodup := by
  apply List.Nodup.of_map fun series => series.2.get? "mode"
  have labels : (series (secondsReadings floats ticksPerSecond cpuLabel cpu)).map
      (fun series => series.2.get? "mode") =
      (modes floats ticksPerSecond cpu).map fun mode => some mode.1 := by
    rw [series, secondsReadings, List.map_map, List.map_map]
    apply List.map_congr_left
    intro mode _
    simp [secondsReading, Reading.series, SortedMap.ofList, SortedMap.get?_insert]
  rw [labels]
  simp only [modes, List.map_cons, List.map_nil]
  decide

/-- A round of the loop reads nothing twice. -/
private theorem nodup_series_readCpu :
    (series (readCpu floats ticksPerSecond files seenPackages i cpu).1).Nodup := by
  simp only [readCpu, List.append_assoc]
  rw [nodup_series_append_iff (named_seconds _) oneOfEach_files.named (by decide)]
  exact ⟨nodup_series_seconds _, oneOfEach_files.nodup_series (by decide)⟩

private theorem readCpu_identity
    (read : reading ∈ (readCpu floats ticksPerSecond files seenPackages i cpu).1) :
    reading.labels.get? "cpu" = some (toString i) ∨
      reading.labels.get? "cpu" = none ∧ ∃ pkg, reading.labels.get? "package" = some pkg ∧
        pkg ∉ seenPackages ∧
        pkg ∈ (readCpu floats ticksPerSecond files seenPackages i cpu).2 := by
  simp only [readCpu, List.mem_append] at read
  rcases read with ((ofCpu | governor) | core) | package
  · left
    rcases ofCpu with seconds | frequency
    · obtain ⟨mode, -, rfl⟩ := List.mem_map.mp seconds
      simp [secondsReading, SortedMap.ofList, SortedMap.get?_insert]
    · obtain ⟨field, -, made⟩ := List.mem_filterMap.mp frequency
      obtain ⟨khz, -, rfl⟩ := Option.map_eq_some_iff.mp made
      simp [frequencyReading, SortedMap.ofList, SortedMap.get?_insert]
  · left
    simp only [governorReadings, Option.mem_toList, Option.map_eq_some_iff] at governor
    obtain ⟨governor, -, rfl⟩ := governor
    simp [governorReading, SortedMap.ofList, SortedMap.get?_insert]
  · left
    simp only [coreThrottlesReadings, Option.mem_toList, Option.map_eq_some_iff] at core
    obtain ⟨count, -, rfl⟩ := core
    cases physicalPackageId files i <;>
      simp [coreThrottlesReading, SortedMap.ofList, SortedMap.get?_insert]
  · right
    obtain ⟨pkg, count, rfl, unseen, seen⟩ := packageThrottles_unseen package
    refine ⟨?_, pkg, ?_, unseen, seen⟩
    · simp [packageThrottlesReading, SortedMap.ofList, SortedMap.get?_insert]
    · simp [packageThrottlesReading, SortedMap.ofList, SortedMap.get?_insert]

/-- What the loop reads is told apart by the place of the CPU, or by a package that has not
been seen before. -/
private theorem readCpus_identity {cpus : List CpuTime}
    (read : reading ∈ readCpus floats ticksPerSecond files seenPackages i cpus) :
    (∃ j, i ≤ j ∧ reading.labels.get? "cpu" = some (toString j)) ∨
      reading.labels.get? "cpu" = none ∧ ∃ pkg, reading.labels.get? "package" = some pkg ∧
        pkg ∉ seenPackages := by
  induction cpus generalizing seenPackages i with
  | nil => exact absurd read List.not_mem_nil
  | cons cpu rest inductionHypothesis =>
      rw [readCpus] at read
      rcases List.mem_append.mp read with now | later
      · rcases readCpu_identity now with labelled | ⟨unlabelled, pkg, package, unseen, -⟩
        · exact Or.inl ⟨i, le_refl i, labelled⟩
        · exact Or.inr ⟨unlabelled, pkg, package, unseen⟩
      · rcases inductionHypothesis later with
          ⟨j, after, labelled⟩ | ⟨unlabelled, pkg, package, unseen⟩
        · exact Or.inl ⟨j, by omega, labelled⟩
        · refine Or.inr ⟨unlabelled, pkg, package, ?_⟩
          exact fun seen => unseen (subset_packageThrottles seen)

theorem inFamily_readCpus (seenPackages : List String) (i : Nat) (cpus : List CpuTime) :
    InFamily "node_cpu_" (readCpus floats ticksPerSecond files seenPackages i cpus) := by
  intro reading read
  obtain ⟨place, cpu, -, mode | ofFile⟩ := readCpus_readAt read
  · obtain ⟨mode, -, rfl⟩ := mode
    exact (by decide : "node_cpu_".toList <+: "node_cpu_seconds_total".toList)
  · cases ofFile with
    | frequency known =>
        have begin : ∀ field ∈ freqFields, "node_cpu_".toList <+: field.2.toList := by decide
        exact begin _ known
    | governor => exact (by decide : "node_cpu_".toList <+: "node_cpu_scaling_governor".toList)
    | coreThrottles =>
        exact (by decide : "node_cpu_".toList <+: "node_cpu_core_throttles_total".toList)
    | packageThrottles =>
        exact (by decide : "node_cpu_".toList <+: "node_cpu_package_throttles_total".toList)

/-- However many CPUs and packages there are, no two readings are of one series. -/
theorem nodup_series_readCpus (seenPackages : List String) (i : Nat) (cpus : List CpuTime) :
    (series (readCpus floats ticksPerSecond files seenPackages i cpus)).Nodup := by
  induction cpus generalizing seenPackages i with
  | nil => exact List.nodup_nil
  | cons cpu rest inductionHypothesis =>
      rw [readCpus, series, List.map_append, List.nodup_append]
      refine ⟨nodup_series_readCpu, inductionHypothesis _ _, ?_⟩
      intro item isNow other isLater same
      obtain ⟨reading, now, rfl⟩ := List.mem_map.mp isNow
      obtain ⟨otherReading, later, rfl⟩ := List.mem_map.mp isLater
      have sameLabel : ∀ key, reading.labels.get? key = otherReading.labels.get? key := by
        intro key
        exact congrArg (fun series => series.2.get? key) same
      rcases readCpu_identity now with labelled | ⟨unlabelled, pkg, package, -, seen⟩
      · rcases readCpus_identity later with ⟨j, after, labelledLater⟩ | ⟨unlabelled, -⟩
        · rw [sameLabel, labelledLater, Option.some.injEq] at labelled
          exact absurd (Text.decimal_injective labelled) (by omega)
        · rw [sameLabel, unlabelled] at labelled
          exact absurd labelled (by simp)
      · rcases readCpus_identity later with ⟨j, -, labelled⟩ | ⟨-, other, otherPackage, unseen⟩
        · rw [sameLabel, labelled] at unlabelled
          exact absurd unlabelled (by simp)
        · rw [sameLabel, otherPackage, Option.some.injEq] at package
          exact unseen (package ▸ seen)

end Series

/-! ## The places of the list and the ids -/

section Places

variable {lines : StatLines}

/-- Of `n` increasing numbers that include all below `n` there are no others. -/
private theorem eq_range_of_all_below {ids : List Nat} (sorted : ids.Pairwise (· < ·))
    (below : ∀ i < ids.length, i ∈ ids) : ids = List.range ids.length := by
  have subset : List.range ids.length ⊆ ids := by
    intro i inRange
    exact below i (List.mem_range.mp inRange)
  have permuted : (List.range ids.length).Perm ids :=
    (List.subperm_of_subset List.nodup_range subset).perm_of_length_le (by simp)
  exact (permuted.eq_of_pairwise' List.pairwise_lt_range sorted).symm

private theorem cpuTime_length : (cpuTime lines).length = lines.keys.length := by
  simp [cpuTime, SortedMap.keys]

/-- Without a hole the line at place `i` is that of CPU `i`. -/
private theorem cpuTime_of_dense (dense : lines.keys = List.range lines.keys.length) {i : Nat}
    {cpu : CpuTime} : (cpuTime lines)[i]? = some cpu ↔ lines.get? i = some cpu := by
  have atPlace : ∀ k time, lines.entries[i]? = some (k, time) → k = i := by
    intro k time isPlace
    have isKey : lines.keys[i]? = some k := by simp [SortedMap.keys, isPlace]
    rw [dense] at isKey
    obtain ⟨inside, same⟩ := List.getElem?_eq_some_iff.mp isKey
    simpa using same.symm
  constructor
  · intro isPlace
    rw [cpuTime, List.getElem?_map, Option.map_eq_some_iff] at isPlace
    obtain ⟨⟨k, time⟩, isPlace, rfl⟩ := isPlace
    obtain rfl := atPlace k time isPlace
    exact (lines.mem_entries_iff _ _).mp (List.mem_of_getElem? isPlace)
  · intro line
    have isKey : i ∈ lines.keys := (lines.mem_keys_iff i).mpr (by simp [line])
    have inside : i < lines.entries.length := by
      rw [dense, List.mem_range] at isKey
      simpa [SortedMap.keys] using isKey
    obtain ⟨⟨k, time⟩, isPlace⟩ : ∃ entry, lines.entries[i]? = some entry :=
      ⟨_, List.getElem?_eq_getElem inside⟩
    obtain rfl := atPlace k time isPlace
    have there := (lines.mem_entries_iff _ _).mp (List.mem_of_getElem? isPlace)
    rw [line] at there
    rw [cpuTime, List.getElem?_map, isPlace, Option.map_some, Option.some.inj there]

end Places

/-! ## When the data are those of the CPU -/

section Attribution

variable {floats : FloatOps} {ticksPerSecond : UInt64} {files : Files} {base : Labels}
  {lines : StatLines} {metric : Metric}

/-- The metrics of a tick. -/
private def metricsOf (floats : FloatOps) (ticksPerSecond : UInt64) (files : Files)
    (lines : StatLines) (wallClock : Nat → SystemTime) (cache : LabelCache) : List Metric :=
  (emit wallClock cache [] (readCpus floats ticksPerSecond files [] 0 (cpuTime lines))).1

private theorem attributesOn_iff {wallClock : Nat → SystemTime} {cache : LabelCache} :
    AttributesOn floats ticksPerSecond files lines wallClock cache ↔
      Attributed floats ticksPerSecond files lines cache.base
        (metricsOf floats ticksPerSecond files lines wallClock cache) := by
  constructor
  · rintro ⟨metrics, collected, attributed⟩
    obtain rfl := Except.ok.inj collected
    exact attributed
  · intro attributed
    exact ⟨_, rfl, attributed⟩

/-- The metric of a round is labelled with the static label, or with the place. -/
private theorem label_of_round {i k : Nat} {cpu : CpuTime} {reading : Reading}
    (readAt : ReadAt floats ticksPerSecond files i cpu reading)
    (makes : reading.Makes base metric)
    (labelled : metric.labels.get? "cpu" = some (toString k)) :
    base.get? "cpu" = some (toString k) ∨ base.get? "cpu" = none ∧ k = i := by
  rw [makes.get?] at labelled
  cases overridden : base.get? "cpu" with
  | some label =>
      rw [overridden] at labelled
      exact Or.inl labelled
  | none =>
      rw [overridden, Option.none_or] at labelled
      rcases readAt.cpu_label with own | unlabelled
      · rw [own, Option.some.injEq] at labelled
        exact Or.inr ⟨rfl, (Text.decimal_injective labelled).symm⟩
      · simp [unlabelled] at labelled

/-- What a round reads in any case becomes a metric. -/
private theorem exists_metric_of_round (wallClock : Nat → SystemTime) (cache : LabelCache)
    {i : Nat} {cpu : CpuTime} {reading : Reading} (isPlace : (cpuTime lines)[i]? = some cpu)
    (read : ∀ seen, reading ∈ (readCpu floats ticksPerSecond files seen i cpu).1) :
    ∃ metric ∈ metricsOf floats ticksPerSecond files lines wallClock cache,
      reading.Makes cache.base metric := by
  obtain ⟨seen, reads⟩ := readCpu_mem_readCpus floats ticksPerSecond files [] 0 isPlace
  rw [Nat.zero_add] at reads
  exact exists_metric wallClock cache (reads reading (read seen))

variable (files) in
private theorem seconds_of_round (i : Nat) {cpu : CpuTime} {mode : String × UInt64}
    (ofLine : mode ∈ modes floats ticksPerSecond cpu) (seen : List String) :
    secondsReading (toString i) mode ∈ (readCpu floats ticksPerSecond files seen i cpu).1 := by
  simp only [readCpu, List.mem_append, secondsReadings]
  exact Or.inl (Or.inl (Or.inl (Or.inl (List.mem_map_of_mem ofLine))))

private theorem attributed_of_aligned (wallClock : Nat → SystemTime) {cache : LabelCache}
    (aligned : Aligned cache.base lines) :
    Attributed floats ticksPerSecond files lines cache.base
      (metricsOf floats ticksPerSecond files lines wallClock cache) := by
  constructor
  · intro metric emitted k labelled
    obtain ⟨reading, read, makes⟩ := exists_reading wallClock emitted
    obtain ⟨i, cpu, isPlace, readAt⟩ := readCpus_readAt read
    rw [Nat.zero_add] at readAt
    have line := (cpuTime_of_dense aligned.dense).mp isPlace
    have same : k = i := by
      rcases label_of_round readAt makes labelled with overridden | ⟨-, same⟩
      · have isKey : i ∈ lines.keys := (lines.mem_keys_iff i).mpr (by simp [line])
        exact Text.decimal_injective (aligned.unlabelled i isKey _ overridden)
      · exact same
    subst same
    refine ⟨reading, ?_, makes⟩
    rcases readAt with ⟨mode, ofLine, rfl⟩ | ofFile
    · exact .seconds line ofLine
    · exact .sysfs ofFile
  · intro k cpu line mode ofLine
    obtain ⟨metric, emitted, makes⟩ := exists_metric_of_round wallClock cache
      ((cpuTime_of_dense aligned.dense).mpr line)
      (seconds_of_round files k ofLine)
    refine ⟨metric, emitted, ?_, makes⟩
    rw [makes.get?]
    have isKey : k ∈ lines.keys := (lines.mem_keys_iff k).mpr (by simp [line])
    cases overridden : cache.base.get? "cpu" with
    | some label => rw [aligned.unlabelled k isKey label overridden, Option.some_or]
    | none => simp [secondsReading, SortedMap.ofList, SortedMap.get?_insert]

/-- Where no static label is in the way, the label of a counter is a place of the list,
and the counter is one of that CPU only if the CPU is online. -/
private theorem dense_of_attributed {wallClock : Nat → SystemTime} {cache : LabelCache}
    (unlabelled : cache.base.get? "cpu" = none)
    (attributed : Attributed floats ticksPerSecond files lines cache.base
      (metricsOf floats ticksPerSecond files lines wallClock cache)) :
    lines.keys = List.range lines.keys.length := by
  apply eq_range_of_all_below lines.sorted
  intro i inside
  have inList : i < (cpuTime lines).length := cpuTime_length ▸ inside
  obtain ⟨mode, ofLine⟩ : ∃ mode, mode ∈ modes floats ticksPerSecond (cpuTime lines)[i] :=
    ⟨_, List.mem_cons_self⟩
  obtain ⟨metric, emitted, makes⟩ := exists_metric_of_round wallClock cache
    (List.getElem?_eq_getElem inList) (seconds_of_round files i ofLine)
  have labelled : metric.labels.get? "cpu" = some (toString i) := by
    rw [makes.get?, unlabelled]
    simp [secondsReading, SortedMap.ofList, SortedMap.get?_insert]
  obtain ⟨reading, data, alsoMakes⟩ := attributed.carries metric emitted i labelled
  have sameName : reading.name = "node_cpu_seconds_total" :=
    alsoMakes.name_eq.symm.trans makes.name_eq
  cases data with
  | seconds line ofLine => exact (lines.mem_keys_iff i).mpr (by simp [line])
  | sysfs ofFile => exact absurd sameName ofFile.name_ne

/-- A counter is reported under its own id only if the static label is that id. -/
private theorem unlabelled_of_attributed {wallClock : Nat → SystemTime} {cache : LabelCache}
    (attributed : Attributed floats ticksPerSecond files lines cache.base
      (metricsOf floats ticksPerSecond files lines wallClock cache)) :
    ∀ k ∈ lines.keys, ∀ label ∈ cache.base.get? "cpu", label = toString k := by
  intro k isKey label overridden
  obtain ⟨cpu, line⟩ := Option.isSome_iff_exists.mp ((lines.mem_keys_iff k).mp isKey)
  obtain ⟨mode, ofLine⟩ : ∃ mode, mode ∈ modes floats ticksPerSecond cpu :=
    ⟨_, List.mem_cons_self⟩
  obtain ⟨metric, -, labelled, makes⟩ := attributed.reported k cpu line mode ofLine
  rw [makes.get?, Option.mem_def.mp overridden, Option.some_or] at labelled
  exact Option.some.inj labelled

/-- Only the frequency of CPU 0 can be read. -/
private def frequencyOfZero : Files where
  readToString path :=
    if path = cpuDir 0 ++ .ofNames ["cpufreq", "scaling_cur_freq"] then some "1" else none
  readDir := Files.empty.readDir
  canonicalize := Files.empty.canonicalize
  pathExists := Files.empty.pathExists
  isDir := Files.empty.isDir
  distinct := Files.empty.distinct

private theorem frequencyOfZero_read :
    frequencyOfZero.readU64 (cpuDir 0 ++ .ofNames ["cpufreq", "scaling_cur_freq"]) = some 1 := by
  have text : frequencyOfZero.readToString
      (cpuDir 0 ++ .ofNames ["cpufreq", "scaling_cur_freq"]) = some "1" := by
    simp [frequencyOfZero]
  rw [Files.readU64, Files.readString, text]
  decide

private theorem zero_of_frequencyOfZero {k : Nat} {file : String} {khz : UInt64}
    (read : frequencyOfZero.readU64 (cpuDir k ++ .ofNames ["cpufreq", file]) = some khz) :
    k = 0 := by
  by_contra other
  have different : cpuDir k ++ .ofNames ["cpufreq", file] ≠
      cpuDir 0 ++ .ofNames ["cpufreq", "scaling_cur_freq"] := by
    intro same
    simp only [cpuDir, OsPath.ofNames, ← List.map_append] at same
    have names := List.map_injective_iff.mpr
      (fun _ _ same => Text.utf8Bytes_injective same) same
    simp at names
    have same : toString k = toString 0 := by simpa using names.1
    exact other (Text.decimal_injective same)
  have text : frequencyOfZero.readToString (cpuDir k ++ .ofNames ["cpufreq", file]) = none :=
    if_neg different
  simp [Files.readU64, Files.readString, text] at read

private theorem zero_of_frequencyData {k : Nat} {reading : Reading}
    (data : DataOf floats ticksPerSecond frequencyOfZero lines k reading)
    (named : reading.name = "node_cpu_scaling_frequency_hertz") : k = 0 := by
  cases data with
  | seconds => simp [secondsReading] at named
  | sysfs ofFile =>
      cases ofFile with
      | frequency known read => exact zero_of_frequencyOfZero read
      | governor => simp [governorReading] at named
      | coreThrottles => simp [coreThrottlesReading] at named
      | packageThrottles => simp [packageThrottlesReading] at named

private theorem frequency_of_round (seen : List String) (cpu : CpuTime) :
    frequencyReading floats (toString 0) "node_cpu_scaling_frequency_hertz" 1 ∈
      (readCpu floats ticksPerSecond frequencyOfZero seen 0 cpu).1 := by
  simp only [readCpu, List.mem_append]
  refine Or.inl (Or.inl (Or.inl (Or.inr ?_)))
  refine List.mem_filterMap.mpr ⟨_, List.mem_cons_self, ?_⟩
  rw [frequencyOfZero_read]
  rfl

/-- One static label can be the id of one CPU only. -/
private theorem keys_of_labelled {label : String} (overridden : base.get? "cpu" = some label)
    (unlabelled : ∀ k ∈ lines.keys, ∀ label ∈ base.get? "cpu", label = toString k) :
    lines.keys = [] ∨ ∃ k, lines.keys = [k] := by
  cases keys : lines.keys with
  | nil => exact Or.inl rfl
  | cons k rest =>
      right
      have alone : rest = [] := by
        rw [List.eq_nil_iff_forall_not_mem]
        intro other isOther
        have below : k < other := by
          have sorted : lines.keys.Pairwise (· < ·) := lines.sorted
          rw [keys] at sorted
          exact (List.pairwise_cons.mp sorted).1 other isOther
        have same : toString k = toString other := by
          rw [← unlabelled k (by simp [keys]) label overridden]
          exact unlabelled other (by simp [keys, isOther]) label overridden
        exact absurd (Text.decimal_injective same) (by omega)
      exact ⟨k, by rw [alone]⟩

/-- Under a static label the only online CPU is number 0, or the frequency of CPU 0 would
be reported as its. -/
private theorem dense_of_attributed_labelled {wallClock : Nat → SystemTime} {cache : LabelCache}
    {label : String} (overridden : cache.base.get? "cpu" = some label)
    (attributed : Attributed floats ticksPerSecond frequencyOfZero lines cache.base
      (metricsOf floats ticksPerSecond frequencyOfZero lines wallClock cache)) :
    lines.keys = List.range lines.keys.length := by
  have unlabelled := unlabelled_of_attributed attributed
  rcases keys_of_labelled overridden unlabelled with none | ⟨k, alone⟩
  · rw [none]
    rfl
  · have isKey : k ∈ lines.keys := by simp [alone]
    have inList : 0 < (cpuTime lines).length := by
      rw [cpuTime_length, alone]
      simp
    obtain ⟨metric, emitted, makes⟩ := exists_metric_of_round wallClock cache
      (List.getElem?_eq_getElem inList) fun seen => frequency_of_round seen _
    have labelled : metric.labels.get? "cpu" = some (toString k) := by
      rw [makes.get?, overridden, unlabelled k isKey label overridden, Option.some_or]
    obtain ⟨reading, data, alsoMakes⟩ := attributed.carries metric emitted k labelled
    have isZero : k = 0 :=
      zero_of_frequencyData data (alsoMakes.name_eq.symm.trans makes.name_eq)
    rw [alone, isZero]
    rfl

end Attribution

/-- Whatever the files say, every metric carries the data of the CPU that it names, if and
only if the online CPUs are the first ones. On each single `sysfs` it is so as well, unless
a static label hides the ids. -/
theorem collect_attributed_iff (floats : FloatOps) (ticksPerSecond : UInt64)
    (wallClock : Nat → SystemTime) (cache : LabelCache) (lines : StatLines) :
    ((∀ files, AttributesOn floats ticksPerSecond files lines wallClock cache) ↔
      Aligned cache.base lines) ∧
    ∀ files,
      (AttributesOn floats ticksPerSecond files lines wallClock cache ∧
          cache.base.get? "cpu" = none ↔
        lines.keys = List.range lines.keys.length ∧ cache.base.get? "cpu" = none) := by
  simp only [attributesOn_iff]
  refine ⟨⟨?_, ?_⟩, ?_⟩
  · intro attributed
    refine ⟨?_, unlabelled_of_attributed (attributed frequencyOfZero)⟩
    cases overridden : cache.base.get? "cpu" with
    | none => exact dense_of_attributed overridden (attributed frequencyOfZero)
    | some label => exact dense_of_attributed_labelled overridden (attributed frequencyOfZero)
  · intro aligned files
    exact attributed_of_aligned wallClock aligned
  · intro files
    constructor
    · rintro ⟨attributed, unlabelled⟩
      exact ⟨dense_of_attributed unlabelled attributed, unlabelled⟩
    · rintro ⟨dense, unlabelled⟩
      exact ⟨attributed_of_aligned wallClock ⟨dense, by simp [unlabelled]⟩, unlabelled⟩

/-! ## A CPU that is offline -/

/-- Of three CPUs the second one is offline, and each has been busy in user mode only:
CPU 0 for one second and CPU 2 for two. -/
def secondOffline : StatLines :=
  let idle : CpuTime := ⟨0, 0, 0, 0, none, none, none, none⟩
  .ofList [(0, { idle with user := 100 }), (2, { idle with user := 200 })]

/-- The operations where `collect` uses them on these lines. -/
def secondOfflineFloats : FloatOps where
  ofU64 value :=
    if value = 100 then 0x4059000000000000
    else if value = 200 then 0x4069000000000000
    else 0
  ofI64 _ := 0
  mul _ _ := 0
  div left _ :=
    if left = 0x4059000000000000 then f64One
    else if left = 0x4069000000000000 then 0x4000000000000000
    else 0
  parse _ := none

/-- The two seconds are those of CPU 1, and there is no CPU 2. -/
theorem collect_attributed_secondOffline :
    let files : Files := .empty
    ∃ metrics, (collect secondOfflineFloats 100 files (.ok secondOffline) (fun _ => 0)
        ⟨.empty, []⟩).1 = .ok metrics ∧
      (∃ metric ∈ metrics, metric.name = "node_cpu_seconds_total" ∧
        metric.labels = .ofList [("cpu", "1"), ("mode", "user")] ∧
        metric.value = 0x4000000000000000) ∧
      (∀ metric ∈ metrics, metric.labels.get? "cpu" ≠ some "2") ∧
      ¬ AttributesOn secondOfflineFloats 100 files secondOffline (fun _ => 0) ⟨.empty, []⟩ := by
  intro files
  have collected : (collect secondOfflineFloats 100 files (.ok secondOffline) (fun _ => 0)
      ⟨.empty, []⟩).1 = .ok _ := rfl
  have unreported : ∀ metric ∈ (emit (fun _ => 0) ⟨.empty, []⟩ []
      (readCpus secondOfflineFloats 100 files [] 0 (cpuTime secondOffline))).1,
      metric.labels.get? "cpu" ≠ some "2" := by
    decide +kernel
  refine ⟨_, collected, by decide +kernel, unreported, ?_⟩
  rintro ⟨metrics, again, attributed⟩
  obtain rfl := Except.ok.inj (collected.symm.trans again)
  obtain ⟨metric, emitted, labelled, -⟩ :=
    attributed.reported 2 ⟨200, 0, 0, 0, none, none, none, none⟩ rfl _ List.mem_cons_self
  exact unreported metric emitted labelled

end Ferrometer.Collector.Unix.Cpu
