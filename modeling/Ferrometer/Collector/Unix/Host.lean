import Ferrometer.Collector.Float
import Ferrometer.Collector.LabelCache
import Ferrometer.Config.Units
import Ferrometer.Error
import Ferrometer.Log.CursorFile
import Mathlib.Data.List.Lex

/-!
Contract: what a sub-collector of the host reads, and how it makes metrics of it.

Owns: the files of `procfs` and `sysfs` as the calls of `std::fs` see them, the
helpers that read one value from a file, and `emit`, which makes the metrics.

Does not own: which files a sub-collector reads.
-/

set_option autoImplicit false

namespace Ferrometer.Collector.Unix

open Ferrometer.Foundation

/-! ## Files -/

/-- Bytes are compared as numbers. -/
instance byteLinearOrder : LinearOrder UInt8 where
  le_refl := UInt8.le_refl
  le_trans _ _ _ := UInt8.le_trans
  le_antisymm _ _ := UInt8.le_antisymm
  le_total := UInt8.le_total
  lt_iff_le_not_ge left right := by
    rw [UInt8.not_le]
    exact ⟨fun below => ⟨UInt8.le_of_lt below, below⟩, And.right⟩
  toDecidableLE := inferInstance
  toDecidableLT := inferInstance

/-- A file name need not be UTF-8. -/
abbrev OsString := List UInt8

/-- An absolute path. Paths are compared name by name. -/
abbrev OsPath := List OsString

namespace OsPath

def ofNames (names : List String) : OsPath :=
  names.map Text.utf8Bytes

/-- `Path::to_str`. -/
def toStr (path : OsPath) : Option String :=
  let slash := Text.utf8Bytes "/"
  if path = [] then some "/" else Text.ofUtf8 (path.flatMap fun name => slash ++ name)

def fileName (path : OsPath) : Option OsString :=
  path.getLast?

end OsPath

structure Files where
  /-- Links are followed. -/
  readToString : OsPath → Option String
  /-- The names of the entries that can be read, in any order. -/
  readDir : OsPath → Option (List OsString)
  canonicalize : OsPath → Option OsPath
  /-- `Path::exists`. -/
  pathExists : OsPath → Bool
  isDir : OsPath → Bool
  /-- A directory has one entry of a name. -/
  distinct : ∀ {path names}, readDir path = some names → names.Nodup

/-- `u64::from_str`. -/
def parseU64 (text : String) : Option UInt64 :=
  (Config.parseU64 text.toList).toOption.map UInt64.ofNat

namespace Files

/-- A host on which nothing can be read. -/
def empty : Files where
  readToString _ := none
  readDir _ := none
  canonicalize _ := none
  pathExists _ := false
  isDir _ := false
  distinct := nofun

variable (files : Files)

def readString (path : OsPath) : Option String :=
  (files.readToString path).map Log.trim

def readU64 (path : OsPath) : Option UInt64 :=
  (files.readString path).bind parseU64

end Files

/-! ## Metrics -/

/-- A metric whose labels are not interned yet. -/
structure Reading where
  name : String
  metricType : MetricType
  value : UInt64
  labels : Labels

/-- What tells a reading from the others of its tick. -/
def Reading.series (reading : Reading) : String × Labels :=
  (reading.name, reading.labels)

/-- `Metric::gauge` and `Metric::counter`. -/
def Reading.toMetric (reading : Reading) (labels : Labels) (now : SystemTime) : Metric where
  name := reading.name
  labels := labels
  value := reading.value
  timestamp := now
  metricType := reading.metricType

/-- The metrics of the readings after those that are there. -/
def emit (wallClock : Nat → SystemTime) :
    LabelCache → List Metric → List Reading → List Metric × LabelCache
  | cache, metrics, [] => (metrics, cache)
  | cache, metrics, reading :: rest =>
      let (labels, cache) := cache.intern reading.labels
      emit wallClock cache (metrics ++ [reading.toMetric labels (wallClock metrics.length)]) rest

/-- What is read from a source that can fail. `sub` names the sub-collector. -/
def readSource {Value : Type} (sub : String) (source : Except String Value)
    (readings : Value → List Reading) : Except Error (List Reading) :=
  match source with
  | .error message => .error (.collector (sub ++ ": " ++ message))
  | .ok value => .ok (readings value)

/-- What a sub-collector returns, from what it has read. -/
def emitResult (wallClock : Nat → SystemTime) (cache : LabelCache)
    (read : Except Error (List Reading)) : Except Error (List Metric) × LabelCache :=
  match read with
  | .error failure => (.error failure, cache)
  | .ok readings =>
      let (metrics, cache) := emit wallClock cache [] readings
      (.ok metrics, cache)

/-- A metric that has been made of the reading. -/
def Reading.Makes (base : Labels) (reading : Reading) (metric : Metric) : Prop :=
  ∃ now, metric = reading.toMetric (LabelCache.withBase ⟨base, []⟩ reading.labels) now

section Emit

variable {base : Labels} {cache : LabelCache} {reading : Reading} {metric : Metric}

theorem Reading.Makes.get? (makes : reading.Makes base metric) (key : String) :
    metric.labels.get? key = (base.get? key).or (reading.labels.get? key) := by
  obtain ⟨now, rfl⟩ := makes
  exact LabelCache.get?_withBase ⟨base, []⟩ reading.labels key

theorem Reading.Makes.name_eq (makes : reading.Makes base metric) :
    metric.name = reading.name := by
  obtain ⟨now, rfl⟩ := makes
  rfl

/-- Every metric is made of a reading, one for one and in order. -/
theorem emit_eq_append (wallClock : Nat → SystemTime) (cache : LabelCache)
    (metrics : List Metric) (readings : List Reading) :
    ∃ made, (emit wallClock cache metrics readings).1 = metrics ++ made ∧
      List.Forall₂ (fun reading metric => reading.Makes cache.base metric) readings made ∧
      (emit wallClock cache metrics readings).2.base = cache.base := by
  induction readings generalizing cache metrics with
  | nil => exact ⟨[], (List.append_nil _).symm, List.Forall₂.nil, rfl⟩
  | cons reading rest inductionHypothesis =>
      obtain ⟨made, result, makes, base⟩ := inductionHypothesis (cache.intern reading.labels).2
        (metrics ++ [reading.toMetric (cache.intern reading.labels).1
          (wallClock metrics.length)])
      rw [LabelCache.intern_base] at makes base
      refine ⟨_ :: made, ?_, List.Forall₂.cons ⟨wallClock metrics.length, rfl⟩ makes, base⟩
      rw [emit, result, LabelCache.intern_labels, List.append_assoc]
      rfl

theorem emit_base (wallClock : Nat → SystemTime) (cache : LabelCache) (readings : List Reading) :
    (emit wallClock cache [] readings).2.base = cache.base := by
  obtain ⟨-, -, -, base⟩ := emit_eq_append wallClock cache [] readings
  exact base

theorem emit_forall₂ (wallClock : Nat → SystemTime) (cache : LabelCache)
    (readings : List Reading) :
    List.Forall₂ (fun reading metric => reading.Makes cache.base metric) readings
      (emit wallClock cache [] readings).1 := by
  obtain ⟨made, result, makes, -⟩ := emit_eq_append wallClock cache [] readings
  rw [result, List.nil_append]
  exact makes

theorem exists_reading (wallClock : Nat → SystemTime) {cache : LabelCache}
    {readings : List Reading} (emitted : metric ∈ (emit wallClock cache [] readings).1) :
    ∃ reading ∈ readings, reading.Makes cache.base metric := by
  obtain ⟨place, isPlace⟩ := List.mem_iff_getElem?.mp emitted
  have makes := emit_forall₂ wallClock cache readings
  have lengths := makes.length_eq
  have inside : place < readings.length := by
    rw [lengths]
    exact (List.getElem?_eq_some_iff.mp isPlace).1
  refine ⟨readings[place], List.getElem_mem inside, ?_⟩
  have made := makes.get inside (lengths ▸ inside)
  rwa [← (List.getElem?_eq_some_iff.mp isPlace).2]

/-- Every reading has its metric. -/
theorem exists_of_forall₂ {readings : List Reading} {metrics : List Metric}
    (makes : List.Forall₂ (fun reading metric => reading.Makes base metric) readings metrics)
    (read : reading ∈ readings) : ∃ metric ∈ metrics, reading.Makes base metric := by
  induction makes with
  | nil => exact absurd read List.not_mem_nil
  | cons first _ inductionHypothesis =>
      rcases List.mem_cons.mp read with rfl | later
      · exact ⟨_, List.mem_cons_self, first⟩
      · obtain ⟨metric, member, made⟩ := inductionHypothesis later
        exact ⟨metric, List.mem_cons_of_mem _ member, made⟩

theorem exists_metric (wallClock : Nat → SystemTime) (cache : LabelCache)
    {readings : List Reading} (read : reading ∈ readings) :
    ∃ metric ∈ (emit wallClock cache [] readings).1, reading.Makes cache.base metric :=
  exists_of_forall₂ (emit_forall₂ wallClock cache readings) read

/-- The names and label sets of metrics that have been made of readings. -/
theorem series_of_forall₂ {readings : List Reading} {metrics : List Metric}
    (makes : List.Forall₂ (fun reading metric => reading.Makes base metric) readings metrics) :
    metrics.map (fun metric => (metric.name, metric.labels)) =
      readings.map fun reading => (reading.name, LabelCache.withBase ⟨base, []⟩ reading.labels) := by
  induction makes with
  | nil => rfl
  | cons first _ inductionHypothesis =>
      obtain ⟨now, rfl⟩ := first
      rw [List.map_cons, List.map_cons, inductionHypothesis]
      rfl

/-- The names and label sets of the metrics. -/
theorem emit_series (wallClock : Nat → SystemTime) (cache : LabelCache)
    (readings : List Reading) :
    (emit wallClock cache [] readings).1.map (fun metric => (metric.name, metric.labels)) =
      readings.map fun reading =>
        (reading.name, LabelCache.withBase ⟨cache.base, []⟩ reading.labels) :=
  series_of_forall₂ (emit_forall₂ wallClock cache readings)

end Emit

end Ferrometer.Collector.Unix
