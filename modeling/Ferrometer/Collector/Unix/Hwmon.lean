import Ferrometer.Collector.Unix.Series
import Ferrometer.Foundation.Grouping
import Mathlib.Data.List.Forall2
import Mathlib.Data.List.Pairwise
import Mathlib.Data.List.Sort

/-!
Contract: the hwmon sub-collector.

Owns: `collect` with the name of a chip, the files of its sensors and the series made
of them, and when no two chips and no two readings share a name.

Does not own: floating-point parsing and arithmetic, and the regular expression that
selects chips.
-/

set_option autoImplicit false

namespace Ferrometer.Collector.Unix.Hwmon

open Ferrometer.Foundation

/-! ## Model -/

structure SensorType where
  typePrefix : String
  scale : UInt64
  /-- Empty for a metric name without a unit. -/
  unit : String
  counter : Bool
deriving DecidableEq

def sensorTypes : List SensorType :=
  [⟨"temp", 0x408f400000000000, "celsius", false⟩,
    ⟨"fan", f64One, "rpm", false⟩,
    ⟨"in", 0x408f400000000000, "volts", false⟩,
    ⟨"curr", 0x408f400000000000, "amps", false⟩,
    ⟨"power", 0x412e848000000000, "watt", false⟩,
    ⟨"energy", 0x412e848000000000, "joule", true⟩,
    ⟨"humidity", f64One, "", false⟩]

/-- -273150 and 65261850, which are equal to no other floats. -/
def tempSentinels : List UInt64 :=
  [0xc110abf800000000, 0x418f1e88d0000000]

/-- With whether the value carries the unit of the sensor. -/
def properties : List (String × Bool) :=
  [("input", true), ("min", true), ("max", true), ("crit", true), ("alarm", false),
    ("crit_alarm", false)]

def metricName (sensorType : SensorType) (property : String) (scaled : Bool) : String :=
  "node_hwmon_" ++ sensorType.typePrefix ++
    (if property ≠ "input" then "_" ++ property else "") ++
    (if scaled ∧ sensorType.unit ≠ "" then "_" ++ sensorType.unit else "") ++
    (if sensorType.counter ∧ property = "input" then "_total" else "")

def fold (symbol : Char) : Char :=
  if symbol.isAlphanum then symbol else '_'

def sanitize (name : String) : String :=
  String.ofList (name.toList.map fold)

/-- The sensor and the property in the name of an attribute file. -/
def splitAttr (file : String) : Option (String × String) :=
  match Text.splitOnce ['_'] file.toList with
  | none => none
  | some (sensor, property) =>
      if property ≠ [] then some (.ofList sensor, .ofList property) else none

/-- The index after a class of sensors. -/
def sensorIndex (sensor : String) (sensorType : SensorType) : Option (List Char) :=
  if sensorType.typePrefix.toList <+: sensor.toList then
    some (sensor.toList.drop sensorType.typePrefix.length)
  else none

def sensorType (sensor : String) : Option SensorType :=
  sensorTypes.find? fun sensorType =>
    (sensorIndex sensor sensorType).any fun index => index ≠ [] ∧ index.all Char.isDigit

/-- `file_name` and `to_str`. -/
def fileNameStr (path : OsPath) : Option String :=
  path.fileName.bind Text.ofUtf8

section Collect

variable (floats : FloatOps) (files : Files)

def readF64 (path : OsPath) : Option UInt64 :=
  (files.readString path).bind floats.parse

def chipName (dir : OsPath) (device : Option OsPath) : String :=
  let name := device.bind fileNameStr
  let bus := device.bind fun device => fileNameStr device.dropLast
  match bus, name with
  | some bus, some name => sanitize (bus ++ "_" ++ name)
  | none, some name => sanitize name
  | _, none =>
      match files.readString (dir ++ .ofNames ["name"]) with
      | some name => sanitize name
      | none => (fileNameStr dir).elim "" sanitize

/-- The names of the block devices of every device. -/
def blockDevices : SortedMap OsPath (List String) :=
  let sysBlock : OsPath := .ofNames ["sys", "block"]
  let found := ((files.readDir sysBlock).getD []).filterMap fun entry =>
    match Text.ofUtf8 entry, files.canonicalize (sysBlock ++ [entry] ++ .ofNames ["device"]) with
    | some name, some device => some (device, name)
    | _, _ => none
  Grouping.groupInto Prod.fst Prod.snd found

/-- The entry of `block_devices_by_path` for a device. -/
def diskOf (device : OsPath) : Option String :=
  match (blockDevices files).get? device with
  | some [disk] => some disk
  | _ => none

def chipLabels (chip : String) (disk : Option String) (extra : List (String × String)) :
    Labels :=
  .ofList (("chip", chip) :: disk.toList.map (fun disk => ("disk", disk)) ++ extra)

def chipNameReading (chip : String) (disk : Option String) (name : String) : Reading where
  name := "node_hwmon_chip_names"
  metricType := .gauge
  value := f64One
  labels := chipLabels chip disk [("chip_name", name)]

def sensorLabelReading (chip : String) (disk : Option String) (sensor label : String) :
    Reading where
  name := "node_hwmon_sensor_label"
  metricType := .gauge
  value := f64One
  labels := chipLabels chip disk [("sensor", sensor), ("label", label)]

def valueReading (chip : String) (disk : Option String) (sensor : String)
    (sensorType : SensorType) (property : String × Bool) (raw : UInt64) : Reading where
  name := metricName sensorType property.1 property.2
  metricType := if sensorType.counter ∧ property.1 = "input" then .counter else .gauge
  value := if property.2 then floats.div raw sensorType.scale else raw
  labels := chipLabels chip disk [("sensor", sensor)]

/-- One round of the loop over the attribute files of a chip. -/
def readAttr (dir : OsPath) (chip : String) (disk : Option String) (file : String) :
    Option Reading :=
  match splitAttr file with
  | none => none
  | some (sensor, property) =>
      match sensorType sensor with
      | none => none
      | some sensorType =>
          let path := dir ++ .ofNames [file]
          if property = "label" then
            (files.readString path).map (sensorLabelReading chip disk sensor)
          else
            match properties.find? fun known => known.1 = property with
            | none => none
            | some property =>
                match readF64 floats files path with
                | none => none
                | some raw =>
                    if sensorType.typePrefix = "temp" ∧ raw ∈ tempSentinels then none
                    else some (valueReading floats chip disk sensor sensorType property raw)

def attrFiles (dir : OsPath) : List String :=
  (((files.readDir dir).getD []).filterMap Text.ofUtf8).insertionSort (· ≤ ·)

def deviceOf (dir : OsPath) : Option OsPath :=
  files.canonicalize (dir ++ .ofNames ["device"])

def collectChip (filter : String → Bool) (dir : OsPath) : List Reading :=
  let device := deviceOf files dir
  let chip := chipName files dir device
  let disk := device.bind (diskOf files)
  if filter chip then
    ((files.readString (dir ++ .ofNames ["name"])).map (chipNameReading chip disk)).toList ++
      (attrFiles files dir).filterMap (readAttr floats files dir chip disk)
  else []

def hwmonDir : OsPath :=
  .ofNames ["sys", "class", "hwmon"]

def chips : List OsPath :=
  (((files.readDir hwmonDir).getD []).map fun name => hwmonDir ++ [name]).insertionSort (· ≤ ·)

def readings (filter : String → Bool) : List Reading :=
  (chips files).flatMap (collectChip floats files filter)

def collect (filter : String → Bool) (wallClock : Nat → SystemTime) (cache : LabelCache) :
    Except Error (List Metric) × LabelCache :=
  emitResult wallClock cache (.ok (readings floats files filter))

end Collect

/-! ## What identifies a chip -/

/-- The text that `chipName` folds: the last two names of the device, or the last one,
or else what the driver calls the chip, or else the name of the directory. -/
def identity (files : Files) (dir : OsPath) : String :=
  match (deviceOf files dir).bind fileNameStr with
  | some name =>
      match (deviceOf files dir).bind fun device => fileNameStr device.dropLast with
      | some bus => bus ++ "_" ++ name
      | none => name
  | none => ((files.readString (dir ++ .ofNames ["name"])).or (fileNameStr dir)).getD ""

/-- Two texts that differ in nothing but characters that are no ASCII letters or digits. -/
def Alike (left right : String) : Prop :=
  List.Forall₂ (fun symbol other =>
    symbol = other ∨ symbol.isAlphanum = false ∧ other.isAlphanum = false)
    left.toList right.toList

theorem chipName_eq (files : Files) (dir : OsPath) :
    chipName files dir (deviceOf files dir) = sanitize (identity files dir) := by
  unfold chipName identity
  cases (deviceOf files dir).bind fileNameStr with
  | some name =>
      cases (deviceOf files dir).bind fun device => fileNameStr device.dropLast <;> rfl
  | none =>
      cases (deviceOf files dir).bind fun device => fileNameStr device.dropLast <;>
        cases files.readString (dir ++ .ofNames ["name"]) <;>
          cases fileNameStr dir <;> rfl

private theorem fold_eq_iff (symbol other : Char) :
    fold symbol = fold other ↔
      symbol = other ∨ symbol.isAlphanum = false ∧ other.isAlphanum = false := by
  have underscore : Char.isAlphanum '_' = false := by decide
  have folded : ∀ symbol : Char, symbol.isAlphanum = false → fold symbol = '_' := by
    intro symbol isOther
    simp [fold, isOther]
  have kept : ∀ symbol : Char, symbol.isAlphanum = true → fold symbol = symbol := by
    intro symbol isAlphanum
    simp [fold, isAlphanum]
  constructor
  · intro same
    cases left : symbol.isAlphanum <;> cases right : other.isAlphanum
    · exact Or.inr ⟨rfl, rfl⟩
    · rw [folded symbol left, kept other right] at same
      rw [← same, underscore] at right
      exact absurd right (by simp)
    · rw [kept symbol left, folded other right] at same
      rw [same, underscore] at left
      exact absurd left (by simp)
    · rw [kept symbol left, kept other right] at same
      exact Or.inl same
  · rintro (rfl | ⟨left, right⟩)
    · rfl
    · rw [folded symbol left, folded other right]

theorem sanitize_eq_iff (left right : String) :
    sanitize left = sanitize right ↔ Alike left right := by
  rw [sanitize, sanitize, String.ofList_inj, ← List.forall₂_eq_eq_eq, List.forall₂_map_left_iff,
    List.forall₂_map_right_iff, Alike]
  simp only [fold_eq_iff]

/-! ## The series of a tree -/

section Series

variable (floats : FloatOps) (files : Files) (filter : String → Bool)

def chipLabel (dir : OsPath) : String :=
  chipName files dir (deviceOf files dir)

def diskLabel (dir : OsPath) : Option String :=
  (deviceOf files dir).bind (diskOf files)

/-- A chip that passes the filter. -/
structure Exported (dir : OsPath) : Prop where
  isChip : dir ∈ chips files
  passes : filter (chipLabel files dir) = true

/-- The readings that the files of the tree give. -/
inductive Offers : Reading → Prop
  | chipName {dir : OsPath} {name : String} (exported : Exported files filter dir)
      (read : files.readString (dir ++ .ofNames ["name"]) = some name) :
      Offers (chipNameReading (chipLabel files dir) (diskLabel files dir) name)
  | sensorLabel {dir : OsPath} {file sensor label : String} {kind : SensorType}
      (exported : Exported files filter dir) (isFile : file ∈ attrFiles files dir)
      (split : splitAttr file = some (sensor, "label"))
      (known : sensorType sensor = some kind)
      (read : files.readString (dir ++ .ofNames [file]) = some label) :
      Offers (sensorLabelReading (chipLabel files dir) (diskLabel files dir) sensor label)
  | value {dir : OsPath} {file sensor : String} {kind : SensorType}
      {property : String × Bool} {raw : UInt64}
      (exported : Exported files filter dir) (isFile : file ∈ attrFiles files dir)
      (split : splitAttr file = some (sensor, property.1))
      (known : sensorType sensor = some kind) (exportedProperty : property ∈ properties)
      (read : readF64 floats files (dir ++ .ofNames [file]) = some raw)
      (configured : ¬ (kind.typePrefix = "temp" ∧ raw ∈ tempSentinels)) :
      Offers (valueReading floats (chipLabel files dir) (diskLabel files dir) sensor kind
        property raw)

end Series

section Read

variable {floats : FloatOps} {files : Files} {filter : String → Bool} {dir : OsPath}
  {chip : String} {disk : Option String} {file : String} {reading : Reading}

/-- What a round of the loop makes of a file. -/
inductive OfAttr (floats : FloatOps) (files : Files) (dir : OsPath) (chip : String)
    (disk : Option String) (file : String) : Reading → Prop
  | sensorLabel {sensor label : String} {kind : SensorType}
      (split : splitAttr file = some (sensor, "label"))
      (known : sensorType sensor = some kind)
      (read : files.readString (dir ++ .ofNames [file]) = some label) :
      OfAttr floats files dir chip disk file (sensorLabelReading chip disk sensor label)
  | value {sensor : String} {kind : SensorType} {property : String × Bool} {raw : UInt64}
      (split : splitAttr file = some (sensor, property.1))
      (known : sensorType sensor = some kind) (exportedProperty : property ∈ properties)
      (read : readF64 floats files (dir ++ .ofNames [file]) = some raw)
      (configured : ¬ (kind.typePrefix = "temp" ∧ raw ∈ tempSentinels)) :
      OfAttr floats files dir chip disk file
        (valueReading floats chip disk sensor kind property raw)

private theorem find_property {property : String × Bool} (exported : property ∈ properties) :
    property.1 ≠ "label" ∧
      properties.find? (fun known => known.1 = property.1) = some property := by
  revert property
  decide

theorem readAttr_iff :
    readAttr floats files dir chip disk file = some reading ↔
      OfAttr floats files dir chip disk file reading := by
  constructor
  · intro read
    unfold readAttr at read
    split at read
    · exact absurd read (by simp)
    · rename_i sensor property split
      split at read
      · exact absurd read (by simp)
      · rename_i kind known
        split at read
        · rename_i isLabel
          subst isLabel
          obtain ⟨label, text, rfl⟩ := Option.map_eq_some_iff.mp read
          exact .sensorLabel split known text
        · split at read
          · exact absurd read (by simp)
          · rename_i exported found
            simp only at read
            split at read
            · exact absurd read (by simp)
            · rename_i raw parsed
              split at read
              · exact absurd read (by simp)
              · rename_i configured
                obtain rfl := Option.some.inj read
                have same : exported.1 = property := by simpa using List.find?_some found
                subst same
                exact .value split known (List.mem_of_find?_eq_some found) parsed configured
  · intro ofAttr
    cases ofAttr with
    | sensorLabel split known read => simp [readAttr, split, known, read]
    | value split known exported read configured =>
        rcases find_property exported with ⟨notLabel, found⟩
        simp only [readAttr, split, known, notLabel, if_false, found, read, configured]

/-- What is read of a chip: its name, and its attribute files. -/
inductive OfChip (floats : FloatOps) (files : Files) (dir : OsPath) (chip : String)
    (disk : Option String) : Reading → Prop
  | chipName {name : String} (read : files.readString (dir ++ .ofNames ["name"]) = some name) :
      OfChip floats files dir chip disk (chipNameReading chip disk name)
  | attr {file : String} {reading : Reading} (isFile : file ∈ attrFiles files dir)
      (ofAttr : OfAttr floats files dir chip disk file reading) :
      OfChip floats files dir chip disk reading

theorem mem_collectChip_iff :
    reading ∈ collectChip floats files filter dir ↔
      filter (chipLabel files dir) = true ∧
        OfChip floats files dir (chipLabel files dir) (diskLabel files dir) reading := by
  have unfolded : collectChip floats files filter dir =
      if filter (chipLabel files dir) then
        ((files.readString (dir ++ .ofNames ["name"])).map
            (chipNameReading (chipLabel files dir) (diskLabel files dir))).toList ++
          (attrFiles files dir).filterMap
            (readAttr floats files dir (chipLabel files dir) (diskLabel files dir))
      else [] := rfl
  rw [unfolded]
  split
  · rename_i passes
    rw [and_iff_right passes, List.mem_append, Option.mem_toList, Option.map_eq_some_iff,
      List.mem_filterMap]
    constructor
    · rintro (⟨name, text, rfl⟩ | ⟨file, isFile, read⟩)
      · exact .chipName text
      · exact .attr isFile (readAttr_iff.mp read)
    · rintro (⟨text⟩ | ⟨isFile, ofAttr⟩)
      · exact Or.inl ⟨_, text, rfl⟩
      · exact Or.inr ⟨_, isFile, readAttr_iff.mpr ofAttr⟩
  · rename_i filtered
    exact iff_of_false List.not_mem_nil fun passes => filtered passes.1

theorem offers_iff :
    reading ∈ readings floats files filter ↔ Offers floats files filter reading := by
  simp only [readings, List.mem_flatMap, mem_collectChip_iff]
  constructor
  · rintro ⟨dir, isChip, passes, ofChip⟩
    have exported : Exported files filter dir := ⟨isChip, passes⟩
    cases ofChip with
    | chipName text => exact .chipName exported text
    | attr isFile ofAttr =>
        cases ofAttr with
        | sensorLabel split known text => exact .sensorLabel exported isFile split known text
        | value split known isProperty parsed configured =>
            exact .value exported isFile split known isProperty parsed configured
  · intro offers
    cases offers with
    | chipName exported read =>
        exact ⟨_, exported.isChip, exported.passes, .chipName read⟩
    | sensorLabel exported isFile split known read =>
        exact ⟨_, exported.isChip, exported.passes, .attr isFile (.sensorLabel split known read)⟩
    | value exported isFile split known isProperty read configured =>
        exact ⟨_, exported.isChip, exported.passes,
          .attr isFile (.value split known isProperty read configured)⟩

/-! ### Names and labels -/

private theorem get?_chipNameReading (name key : String) :
    (chipNameReading chip disk name).labels.get? key =
      if key = "chip_name" then some name
      else if key = "disk" ∧ disk.isSome then disk
      else if key = "chip" then some chip
      else none := by
  cases disk <;>
    simp [chipNameReading, chipLabels, SortedMap.ofList, SortedMap.get?_insert]

private theorem get?_sensorLabelReading (sensor label key : String) :
    (sensorLabelReading chip disk sensor label).labels.get? key =
      if key = "label" then some label
      else if key = "sensor" then some sensor
      else if key = "disk" ∧ disk.isSome then disk
      else if key = "chip" then some chip
      else none := by
  cases disk <;>
    simp [sensorLabelReading, chipLabels, SortedMap.ofList, SortedMap.get?_insert]

private theorem get?_valueReading (sensor : String) (kind : SensorType)
    (property : String × Bool) (raw : UInt64) (key : String) :
    (valueReading floats chip disk sensor kind property raw).labels.get? key =
      if key = "sensor" then some sensor
      else if key = "disk" ∧ disk.isSome then disk
      else if key = "chip" then some chip
      else none := by
  cases disk <;>
    simp [valueReading, chipLabels, SortedMap.ofList, SortedMap.get?_insert]

/-- All readings of a chip are under its label, and under that of its disk. -/
private theorem get?_ofChip (ofChip : OfChip floats files dir chip disk reading) :
    reading.labels.get? "chip" = some chip ∧ reading.labels.get? "disk" = disk := by
  cases ofChip with
  | chipName => cases disk <;> simp [get?_chipNameReading]
  | attr _ ofAttr =>
      cases ofAttr with
      | sensorLabel => cases disk <;> simp [get?_sensorLabelReading]
      | value => cases disk <;> simp [get?_valueReading]

private theorem metricName_injective : ∀ kind ∈ sensorTypes, ∀ property ∈ properties,
    ∀ other ∈ properties,
    metricName kind property.1 property.2 = metricName kind other.1 other.2 →
    property = other := by
  decide +kernel

/-- A file name is made of the sensor and the property in it. -/
private theorem splitAttr_injective {other : String} {parts : String × String}
    (split : splitAttr file = some parts) (splitOther : splitAttr other = some parts) :
    file = other := by
  have joined : ∀ name, splitAttr name = some parts →
      name.toList = parts.1.toList ++ ['_'] ++ parts.2.toList := by
    intro name split
    unfold splitAttr at split
    split at split
    · exact absurd split (by simp)
    · rename_i sensor property found
      split at split
      · obtain rfl := Option.some.inj split
        simpa using Text.eq_of_splitOnce found
      · exact absurd split (by simp)
  exact String.toList_inj.mp ((joined file split).trans (joined other splitOther).symm)

/-- The file gives one label of its sensor in both directories, or a value of one property
of it. -/
inductive SameAttr (floats : FloatOps) (files : Files) (dir otherDir : OsPath)
    (file : String) : Prop
  | sensorLabel {sensor label : String} {kind : SensorType}
      (split : splitAttr file = some (sensor, "label"))
      (known : sensorType sensor = some kind)
      (read : files.readString (dir ++ .ofNames [file]) = some label)
      (readOther : files.readString (otherDir ++ .ofNames [file]) = some label)
  | value {sensor : String} {kind : SensorType} {property : String × Bool} {raw otherRaw : UInt64}
      (split : splitAttr file = some (sensor, property.1))
      (known : sensorType sensor = some kind) (exportedProperty : property ∈ properties)
      (read : readF64 floats files (dir ++ .ofNames [file]) = some raw)
      (configured : ¬ (kind.typePrefix = "temp" ∧ raw ∈ tempSentinels))
      (readOther : readF64 floats files (otherDir ++ .ofNames [file]) = some otherRaw)
      (configuredOther : ¬ (kind.typePrefix = "temp" ∧ otherRaw ∈ tempSentinels))

/-- Only files of one name give the same series. -/
private theorem sameAttr_of_series {otherDir : OsPath} {other : String} {otherReading : Reading}
    (ofFile : OfAttr floats files dir chip disk file reading)
    (ofOther : OfAttr floats files otherDir chip disk other otherReading)
    (same : reading.series = otherReading.series) :
    file = other ∧ SameAttr floats files dir otherDir file := by
  have sameName : reading.name = otherReading.name := congrArg Prod.fst same
  have sameLabel : ∀ key, reading.labels.get? key = otherReading.labels.get? key := by
    intro key
    exact congrArg (fun series => series.2.get? key) same
  cases ofFile with
  | sensorLabel split known read =>
      cases ofOther with
      | sensorLabel splitOther _ readOther =>
          have sensor := sameLabel "sensor"
          have label := sameLabel "label"
          simp only [get?_sensorLabelReading] at sensor label
          simp only [String.reduceEq, if_false, if_true, Option.some.injEq] at sensor label
          subst sensor label
          obtain rfl := splitAttr_injective split splitOther
          exact ⟨rfl, .sensorLabel split known read readOther⟩
      | value =>
          have label := sameLabel "label"
          simp [get?_sensorLabelReading, get?_valueReading] at label
  | value split known exported read configured =>
      cases ofOther with
      | sensorLabel =>
          have label := sameLabel "label"
          simp [get?_sensorLabelReading, get?_valueReading] at label
      | value splitOther knownOther exportedOther readOther configuredOther =>
          have sensor := sameLabel "sensor"
          simp only [get?_valueReading, if_true, Option.some.injEq] at sensor
          subst sensor
          obtain rfl := Option.some.inj (known.symm.trans knownOther)
          obtain rfl := metricName_injective _ (List.mem_of_find?_eq_some known) _ exported _
            exportedOther sameName
          obtain rfl := splitAttr_injective split splitOther
          exact ⟨rfl, .value split known exported read configured readOther configuredOther⟩

/-- No attribute file gives the series of a chip name. -/
private theorem chipName_ne_attr {name : String}
    (ofAttr : OfAttr floats files dir chip disk file reading) :
    (chipNameReading chip disk name).series ≠ reading.series := by
  intro same
  have sensor := congrArg (fun series => series.2.get? "sensor") same
  simp only [Reading.series] at sensor
  cases ofAttr with
  | sensorLabel => simp [get?_chipNameReading, get?_sensorLabelReading] at sensor
  | value => simp [get?_chipNameReading, get?_valueReading] at sensor

end Read

/-! ## Identity -/

section Identity

variable (floats : FloatOps) (files : Files) (filter : String → Bool)

/-- Two different chips never get the same label. -/
def LabelsDistinct : Prop :=
  ∀ dir ∈ chips files, ∀ other ∈ chips files,
    chipLabel files dir = chipLabel files other → dir = other

/-- No two different chips are identified by texts that are alike. -/
def Unlike : Prop :=
  ∀ dir ∈ chips files, ∀ other ∈ chips files,
    Alike (identity files dir) (identity files other) → dir = other

/-- A tick never emits two readings with the same metric name and the same label set. -/
def SeriesDistinct (wallClock : Nat → SystemTime) (cache : LabelCache) : Prop :=
  ∀ metrics, (collect floats files filter wallClock cache).1 = .ok metrics →
    (metrics.map fun metric => (metric.name, metric.labels)).Nodup

/-- Any two readings of one metric that differ in a label differ in one that no static
label overrides. -/
def Unhidden (base : Labels) : Prop :=
  ∀ reading other, Offers floats files filter reading → Offers floats files filter other →
    reading.name = other.name → reading.labels ≠ other.labels →
    ∃ key, base.get? key = none ∧ reading.labels.get? key ≠ other.labels.get? key

end Identity

section Distinct

variable {floats : FloatOps} {files : Files} {filter : String → Bool}

theorem labelsDistinct_iff : LabelsDistinct files ↔ Unlike files := by
  simp only [LabelsDistinct, Unlike, chipLabel, chipName_eq, sanitize_eq_iff]

private theorem chips_nodup (files : Files) : (chips files).Nodup := by
  unfold chips
  rw [(List.perm_insertionSort _ _).nodup_iff]
  cases entries : files.readDir hwmonDir with
  | none => simp
  | some names =>
      apply (files.distinct entries).map
      intro name other same
      simpa using same

private theorem attrFiles_nodup (files : Files) (dir : OsPath) :
    (attrFiles files dir).Nodup := by
  unfold attrFiles
  rw [(List.perm_insertionSort _ _).nodup_iff]
  cases entries : files.readDir dir with
  | none => simp
  | some names =>
      apply (files.distinct entries).filterMap
      intro name other text decoded decodedOther
      exact (Text.utf8Bytes_of_ofUtf8 decoded).symm.trans
        (Text.utf8Bytes_of_ofUtf8 decodedOther)

private theorem collectChip_series (dir : OsPath) :
    (collectChip floats files filter dir).Pairwise fun reading other =>
      reading.series ≠ other.series := by
  unfold collectChip
  simp only
  split
  · rw [List.pairwise_append]
    refine ⟨?_, ?_, ?_⟩
    · cases files.readString (dir ++ .ofNames ["name"]) <;> simp
    · rw [List.pairwise_filterMap]
      apply (attrFiles_nodup files dir).imp
      intro file other different reading read otherReading readOther same
      exact different
        (sameAttr_of_series (readAttr_iff.mp read) (readAttr_iff.mp readOther) same).1
    · intro reading ofName other ofFile
      simp only [Option.mem_toList, Option.map_eq_some_iff] at ofName
      obtain ⟨name, -, rfl⟩ := ofName
      obtain ⟨file, -, read⟩ := List.mem_filterMap.mp ofFile
      exact chipName_ne_attr (readAttr_iff.mp read)
  · exact List.Pairwise.nil

/-- With distinct chip labels no two readings of a tick are of one series. -/
theorem readings_series (distinct : LabelsDistinct files) :
    (readings floats files filter).Pairwise fun reading other =>
      reading.series ≠ other.series := by
  rw [readings, List.pairwise_flatMap]
  refine ⟨fun dir _ => collectChip_series dir, ?_⟩
  apply (chips_nodup files).imp_of_mem
  intro dir other isChip isOther different reading read otherReading readOther same
  apply different
  apply distinct dir isChip other isOther
  have chip := congrArg (fun series => series.2.get? "chip") same
  simp only [Reading.series] at chip
  rw [(get?_ofChip (mem_collectChip_iff.mp read).2).1,
    (get?_ofChip (mem_collectChip_iff.mp readOther).2).1] at chip
  exact Option.some.inj chip

private theorem seriesDistinct_iff_nodup {wallClock : Nat → SystemTime} {cache : LabelCache} :
    SeriesDistinct floats files filter wallClock cache ↔
      ((readings floats files filter).map fun reading =>
        (reading.name, LabelCache.withBase ⟨cache.base, []⟩ reading.labels)).Nodup := by
  rw [← emit_series wallClock]
  constructor
  · intro distinct
    exact distinct _ rfl
  · rintro nodup _ ⟨⟩
    exact nodup

private theorem seriesDistinct_iff {wallClock : Nat → SystemTime} {cache : LabelCache}
    (distinct : LabelsDistinct files) :
    SeriesDistinct floats files filter wallClock cache ↔
      Unhidden floats files filter cache.base := by
  rw [seriesDistinct_iff_nodup]
  constructor
  · intro nodup reading other offered offeredOther sameName different
    rw [← LabelCache.withBase_ne_iff]
    intro sameLabels
    have same := List.inj_on_of_nodup_map nodup (offers_iff.mpr offered)
      (offers_iff.mpr offeredOther) (Prod.ext sameName sameLabels)
    exact different (congrArg Reading.labels same)
  · intro unhidden
    rw [List.Nodup, List.pairwise_map]
    apply (readings_series distinct).imp_of_mem
    intro reading other read readOther different same
    obtain ⟨sameName, sameLabels⟩ := Prod.mk.inj same
    have differs : reading.labels ≠ other.labels := fun labels =>
      different (Prod.ext sameName labels)
    exact LabelCache.withBase_ne_iff.mpr (unhidden reading other (offers_iff.mp read)
      (offers_iff.mp readOther) sameName differs) sameLabels

end Distinct

/-- Chips have labels of their own if and only if no two of them are identified by texts
that are alike, and then the readings of a tick are of different series unless the static
labels hide what they differ in. -/
theorem collect_identity_iff (floats : FloatOps) (files : Files) (filter : String → Bool)
    (wallClock : Nat → SystemTime) (cache : LabelCache) :
    (LabelsDistinct files ↔ Unlike files) ∧
      (LabelsDistinct files ∧ SeriesDistinct floats files filter wallClock cache ↔
        Unlike files ∧ Unhidden floats files filter cache.base) := by
  refine ⟨labelsDistinct_iff, ?_⟩
  rw [← labelsDistinct_iff]
  exact and_congr_right fun distinct => seriesDistinct_iff distinct

/-! ## Chips of one label -/

section Apart

variable {floats : FloatOps} {files : Files} {filter : String → Bool}

/-- A file of the same name in two directories gives the same: the name of the chip, one label
of one sensor, or a value of one property of one sensor. -/
inductive Clash (floats : FloatOps) (files : Files) (dir other : OsPath) : Prop
  | name {name : String} (read : files.readString (dir ++ .ofNames ["name"]) = some name)
      (readOther : files.readString (other ++ .ofNames ["name"]) = some name)
  | attr {file : String} (isFile : file ∈ attrFiles files dir)
      (isOther : file ∈ attrFiles files other) (same : SameAttr floats files dir other file)

/-- No files of two chips clash that are identified by texts that are alike, and belong to one
disk or to none. -/
def Apart (floats : FloatOps) (files : Files) (filter : String → Bool) : Prop :=
  ∀ dir other, Exported files filter dir → Exported files filter other → dir ≠ other →
    Alike (identity files dir) (identity files other) →
    diskLabel files dir = diskLabel files other → ¬ Clash floats files dir other

private theorem clash_iff {dir other : OsPath} {chip : String} {disk : Option String} :
    Clash floats files dir other ↔ ∃ reading otherReading,
      OfChip floats files dir chip disk reading ∧
        OfChip floats files other chip disk otherReading ∧
        reading.series = otherReading.series := by
  constructor
  · intro clash
    cases clash with
    | name read readOther => exact ⟨_, _, .chipName read, .chipName readOther, rfl⟩
    | attr isFile isOther same =>
        cases same with
        | sensorLabel split known read readOther =>
            exact ⟨_, _, .attr isFile (.sensorLabel split known read),
              .attr isOther (.sensorLabel split known readOther), rfl⟩
        | value split known exported read configured readOther configuredOther =>
            exact ⟨_, _, .attr isFile (.value split known exported read configured),
              .attr isOther (.value split known exported readOther configuredOther), rfl⟩
  · rintro ⟨reading, otherReading, ofDir, ofOther, same⟩
    cases ofDir with
    | @chipName name read =>
        cases ofOther with
        | chipName readOther =>
            have label := congrArg (fun series => series.2.get? "chip_name") same
            simp only [Reading.series, get?_chipNameReading, if_true, Option.some.injEq] at label
            subst label
            exact .name read readOther
        | attr _ ofAttr => exact absurd same (chipName_ne_attr ofAttr)
    | attr isFile ofAttr =>
        cases ofOther with
        | chipName => exact absurd same.symm (chipName_ne_attr ofAttr)
        | attr isOther ofOtherAttr =>
            rcases sameAttr_of_series ofAttr ofOtherAttr same with ⟨rfl, sameAttr⟩
            exact .attr isFile isOther sameAttr

/-- Two chips have a series in common just if both are exported under the same labels, and their
files clash. -/
private theorem disjoint_series_iff {dir other : OsPath} (isChip : dir ∈ chips files)
    (isOther : other ∈ chips files) :
    List.Disjoint (series (collectChip floats files filter dir))
        (series (collectChip floats files filter other)) ↔
      (Exported files filter dir → Exported files filter other →
        Alike (identity files dir) (identity files other) →
        diskLabel files dir = diskLabel files other → ¬ Clash floats files dir other) := by
  have alike : Alike (identity files dir) (identity files other) ↔
      chipLabel files dir = chipLabel files other := by
    rw [← sanitize_eq_iff, ← chipName_eq, ← chipName_eq, chipLabel, chipLabel]
  rw [alike]
  constructor
  · intro disjoint exported exportedOther sameChip sameDisk clash
    rcases clash_iff.mp clash with ⟨reading, otherReading, ofDir, ofOther, same⟩
    have read := mem_collectChip_iff.mpr ⟨exported.passes, ofDir⟩
    rw [sameChip, sameDisk] at ofOther
    have readOther := mem_collectChip_iff.mpr ⟨exportedOther.passes, ofOther⟩
    exact disjoint (List.mem_map_of_mem read) (same ▸ List.mem_map_of_mem readOther)
  · intro apart cell inDir inOther
    obtain ⟨reading, read, rfl⟩ := List.mem_map.mp inDir
    obtain ⟨otherReading, readOther, same⟩ := List.mem_map.mp inOther
    obtain ⟨passes, ofDir⟩ := mem_collectChip_iff.mp read
    obtain ⟨passesOther, ofOther⟩ := mem_collectChip_iff.mp readOther
    have sameLabel : ∀ key, reading.labels.get? key = otherReading.labels.get? key := by
      intro key
      exact (congrArg (fun series => series.2.get? key) same).symm
    have sameChip := sameLabel "chip"
    have sameDisk := sameLabel "disk"
    rw [(get?_ofChip ofDir).1, (get?_ofChip ofOther).1, Option.some_inj] at sameChip
    rw [(get?_ofChip ofDir).2, (get?_ofChip ofOther).2] at sameDisk
    rw [sameChip, sameDisk] at ofDir
    exact apart ⟨isChip, passes⟩ ⟨isOther, passesOther⟩ sameChip sameDisk
      (clash_iff.mpr ⟨_, _, ofDir, ofOther, same.symm⟩)

/-- Chips may share their labels as long as their files do not clash. -/
theorem nodup_series_readings_iff :
    (series (readings floats files filter)).Nodup ↔ Apart floats files filter := by
  have ofChip : ∀ dir ∈ chips files, (series (collectChip floats files filter dir)).Nodup :=
    fun dir _ => List.pairwise_map.mpr (collectChip_series dir)
  rw [readings, series_flatMap, List.nodup_flatMap, and_iff_right ofChip]
  constructor
  · intro disjoint
    have symmetric : Std.Symm (Function.onFun List.Disjoint fun dir =>
        series (collectChip floats files filter dir)) :=
      ⟨fun _ _ apart _ inOther inDir => apart inDir inOther⟩
    intro dir other exported exportedOther different
    have apart := disjoint.forall exported.isChip exportedOther.isChip different
    exact (disjoint_series_iff exported.isChip exportedOther.isChip).mp apart exported
      exportedOther
  · intro apart
    refine (chips_nodup files).pairwise_of_forall_ne fun dir isChip other isOther different => ?_
    apply (disjoint_series_iff isChip isOther).mpr
    exact fun exported exportedOther => apart dir other exported exportedOther different

theorem inFamily_readings : InFamily "node_hwmon_" (readings floats files filter) := by
  intro reading read
  cases offers_iff.mp read with
  | chipName => exact (by decide : "node_hwmon_".toList <+: "node_hwmon_chip_names".toList)
  | sensorLabel => exact (by decide : "node_hwmon_".toList <+: "node_hwmon_sensor_label".toList)
  | value =>
      simp only [valueReading, metricName, String.toList_append, List.append_assoc]
      exact List.prefix_append _ _

end Apart

/-! ## Two chips on one device -/

/-- Each of the two has one temperature, of 42 degrees. -/
def twinChips : Files where
  readToString path :=
    if path.getLast? = some (Text.utf8Bytes "temp1_input") then some "42000\n" else none
  readDir path :=
    if path = hwmonDir then some [Text.utf8Bytes "hwmon0", Text.utf8Bytes "hwmon1"]
    else if path.dropLast = hwmonDir then some [Text.utf8Bytes "temp1_input"]
    else none
  canonicalize path :=
    if path.getLast? = some (Text.utf8Bytes "device") then
      some (.ofNames ["sys", "devices", "platform", "thinkpad_hwmon"])
    else none
  pathExists _ := true
  isDir _ := true
  distinct := by
    intro path names read
    split at read
    · obtain rfl := Option.some.inj read
      decide +kernel
    · split at read
      · obtain rfl := Option.some.inj read
        exact List.nodup_singleton _
      · exact absurd read (by simp)

/-- The operations where `collect` uses them on these chips. -/
def twinFloats : FloatOps where
  ofU64 _ := 0
  ofI64 _ := 0
  mul _ _ := 0
  div left _ := if left = 0x40e4820000000000 then 0x4045000000000000 else 0
  parse text := if text = "42000" then some 0x40e4820000000000 else none

theorem collect_identity_twinChips :
    ¬ LabelsDistinct twinChips ∧
      ¬ SeriesDistinct twinFloats twinChips (fun _ => true) (fun _ => 0) ⟨.empty, []⟩ := by
  constructor
  · intro distinct
    have same := distinct (hwmonDir ++ .ofNames ["hwmon0"]) (by decide +kernel)
      (hwmonDir ++ .ofNames ["hwmon1"]) (by decide +kernel) (by decide +kernel)
    exact absurd same (by decide +kernel)
  · rw [seriesDistinct_iff_nodup]
    decide +kernel

end Ferrometer.Collector.Unix.Hwmon
