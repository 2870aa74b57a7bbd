import Ferrometer.Config.Validate
import Ferrometer.Foundation.LabelSet
import Ferrometer.Log.Sink.Push
import Ferrometer.Log.Source.Fields

/-!
Contract: whether the label text of a stream says what was configured.

Owns: the text of a label map as a label set, the labels that a record can give its
entry, and the configurations under which every text is read back as its label map.

Does not own: the reader of the sink's server. The format that its documentation and
the code's comments name is the one that is read here.
-/

set_option autoImplicit false

namespace Ferrometer.Log.Loki

open Ferrometer.Config Ferrometer.Foundation

/-! ## The text of a label map -/

def isLabelName (name : String) : Bool :=
  LabelSet.isName name.toList

/-- The pairs of a label set, in the order of the text. -/
def parseLabelString (text : String) : Option (List (String × String)) :=
  (LabelSet.read text.toList).map (List.map (Prod.map String.ofList String.ofList))

private theorem toList_escapeValue (value : String) :
    (escapeValue value).toList = value.toList.flatMap LabelSet.escape := by
  rw [escapeValue, String.toList_join, List.flatMap_map]
  apply List.flatMap_congr
  intro symbol _
  unfold LabelSet.escape
  split
  · rfl
  · rfl
  · rfl
  · rename_i backslash quote newline
    rw [if_neg backslash, if_neg quote, if_neg newline]
    exact String.toList_singleton symbol

/-- The characters of a label map. -/
def symbols (labels : Labels) : List (List Char × List Char) :=
  labels.entries.map (Prod.map String.toList String.toList)

theorem toList_formatLabelString (labels : Labels) :
    (formatLabelString labels).toList = LabelSet.write (symbols labels) := by
  have pairs : ∀ label : String × String,
      (label.1 ++ "=\"" ++ escapeValue label.2 ++ "\"").toList =
        LabelSet.pairText (label.1.toList, label.2.toList) := by
    intro label
    simp [LabelSet.pairText, toList_escapeValue]
  simp only [formatLabelString, String.toList_append, String.toList_intercalate, List.map_map]
  rw [LabelSet.write, symbols, List.map_map]
  have same : (String.toList ∘ fun label : String × String =>
      label.1 ++ "=\"" ++ escapeValue label.2 ++ "\"") =
        LabelSet.pairText ∘ Prod.map String.toList String.toList := funext pairs
  rw [same]
  rfl

/-- The text of a label map is read back as the map exactly when its names are label
names. -/
theorem parseLabelString_format (labels : Labels) :
    parseLabelString (formatLabelString labels) = some labels.entries ↔
      ∀ name ∈ labels.keys, isLabelName name := by
  rw [parseLabelString, toList_formatLabelString]
  constructor
  · intro parsed name member
    rcases Option.map_eq_some_iff.mp parsed with ⟨pairs, accepted, equal⟩
    rw [SortedMap.keys, ← equal, List.map_map] at member
    rcases List.mem_map.mp member with ⟨pair, isPair, isName⟩
    have named := LabelSet.isName_of_read accepted pair isPair
    rw [isLabelName, ← isName]
    simpa using named
  · intro named
    have accepted : LabelSet.read (LabelSet.write (symbols labels)) = some (symbols labels) := by
      apply (LabelSet.read_write_iff _).mpr
      intro pair member
      rcases List.mem_map.mp member with ⟨label, isLabel, rfl⟩
      exact named label.1 (List.mem_map_of_mem isLabel)
    have whole : Prod.map String.ofList String.ofList ∘ Prod.map String.toList String.toList =
        id := by
      funext label
      exact Prod.ext String.ofList_toList String.ofList_toList
    rw [accepted, Option.map_some, symbols, List.map_map, whole, List.map_id]

/-! ## The labels of an entry -/

private theorem mem_keys_insert (labels : Labels) (key other value : String) :
    other ∈ (labels.insert key value).keys ↔ other = key ∨ other ∈ labels.keys := by
  rw [SortedMap.mem_keys_iff, SortedMap.get?_insert, SortedMap.mem_keys_iff]
  by_cases same : other = key
  · simp [same]
  · simp [same]

/-- The names of the labels: those there are, and those of the mapped fields that the
record has. -/
private theorem mem_keys_mapFields (map : Labels) (record : JournalRecord) (initial : Labels)
    (name : String) :
    name ∈ (JournaldSource.mapFields map record initial).keys ↔
      name ∈ initial.keys ∨
        ∃ field, (name, field) ∈ map.entries ∧ (record.get? field).isSome := by
  rw [SortedMap.mem_keys_iff, JournaldSource.get?_mapFields, Option.isSome_or, Bool.or_eq_true,
    SortedMap.mem_keys_iff, or_comm]
  simp only [SortedMap.mem_entries_iff, Option.isSome_bind, Option.any_eq_true]

/-! ## Configurations -/

/-- The labels that `spawn_logs` adds to every source. -/
def extraStaticLabels (instanceName : String) : Labels :=
  SortedMap.empty.insert "instance" instanceName

/-- The label names that a source can use: those of the static labels, and those of the
mapped fields. The field of the message is taken out of a record first, so that no label
comes of it. -/
def NamesValid (config : JournaldSourceConfig) : Prop :=
  (∀ name ∈ config.staticLabels.keys, isLabelName name) ∧
    ∀ name field, (name, field) ∈ config.labels.entries → field ≠ "MESSAGE" → isLabelName name

variable {api : JournalApi}

private theorem staticLabels_of_new {host : JournalHost api} {tree : FileTree} {name : String}
    {config : JournaldSourceConfig} {instanceName : String} {source : JournaldSource api}
    (built : JournaldSource.new host tree name config (extraStaticLabels instanceName) =
      .ok source) :
    source.labelsMap = config.labels ∧
      source.staticLabels = config.staticLabels.insert "instance" instanceName := by
  rcases JournaldSource.maps_of_new built with ⟨labelsMap, -, staticLabels⟩
  refine ⟨labelsMap, SortedMap.ext_get? fun label => ?_⟩
  rw [staticLabels, extraStaticLabels, SortedMap.get?_insert, SortedMap.get?_insert]
  by_cases isInstance : label = "instance"
  · rw [if_pos isInstance, if_pos isInstance, Option.some_or]
  · rw [if_neg isInstance, if_neg isInstance, SortedMap.get?_empty, Option.none_or]

theorem mem_keys_recordToEntry (source : JournaldSource api) (record : JournalRecord)
    (timestamp : SystemTime) (name : String) :
    name ∈ (source.recordToEntry record timestamp).labels.keys ↔
      name ∈ source.staticLabels.keys ∨
        ∃ field, (name, field) ∈ source.labelsMap.entries ∧ field ≠ "MESSAGE" ∧
          (record.get? field).isSome := by
  rw [JournaldSource.recordToEntry, mem_keys_mapFields]
  apply or_congr_right
  apply exists_congr
  intro field
  rw [SortedMap.get?_erase]
  by_cases isMessage : field = "MESSAGE"
  · simp [isMessage]
  · simp [isMessage]

/-- The text of every entry of a source is read back as the labels of the entry. -/
def DecodesAll (source : JournaldSource api) : Prop :=
  ∀ record timestamp, parseLabelString (formatLabelString
    (source.recordToEntry record timestamp).labels) =
      some (source.recordToEntry record timestamp).labels.entries

private theorem decodesAll_iff {host : JournalHost api} {tree : FileTree} {name : String}
    {config : JournaldSourceConfig} {instanceName : String} {source : JournaldSource api}
    (built : JournaldSource.new host tree name config (extraStaticLabels instanceName) =
      .ok source) : DecodesAll source ↔ NamesValid config := by
  rcases staticLabels_of_new built with ⟨labelsMap, staticLabels⟩
  have named : ∀ record timestamp,
      parseLabelString (formatLabelString (source.recordToEntry record timestamp).labels) =
          some (source.recordToEntry record timestamp).labels.entries ↔
        ∀ name ∈ (source.recordToEntry record timestamp).labels.keys, isLabelName name :=
    fun record timestamp => parseLabelString_format _
  constructor
  · intro decodes
    constructor
    · intro name member
      apply (named .empty 0).mp (decodes .empty 0)
      rw [mem_keys_recordToEntry, staticLabels, mem_keys_insert]
      exact Or.inl (Or.inr member)
    · intro name field member notMessage
      -- A record with this field alone.
      let record : JournalRecord := SortedMap.empty.insert field ""
      apply (named record 0).mp (decodes record 0)
      rw [mem_keys_recordToEntry, labelsMap]
      refine Or.inr ⟨field, member, notMessage, ?_⟩
      rw [SortedMap.get?_insert, if_pos rfl]
      rfl
  · rintro ⟨static, mapped⟩ record timestamp
    apply (named record timestamp).mpr
    intro name member
    rw [mem_keys_recordToEntry, staticLabels, labelsMap, mem_keys_insert] at member
    rcases member with (isInstance | isStatic) | ⟨field, isMapped, notMessage, -⟩
    · rw [isInstance]
      decide
    · exact static name isStatic
    · exact mapped name field isMapped notMessage

theorem streamLabels_decode_iff {host : JournalHost api} {tree : FileTree} {name : String}
    {config : JournaldSourceConfig} {instanceName : String} {source : JournaldSource api}
    (built : JournaldSource.new host tree name config (extraStaticLabels instanceName) =
      .ok source) :
    (DecodesAll source ↔ NamesValid config) ∧
      (NamesValid config → ∀ first firstTime second secondTime,
        formatLabelString (source.recordToEntry first firstTime).labels =
          formatLabelString (source.recordToEntry second secondTime).labels →
        (source.recordToEntry first firstTime).labels =
          (source.recordToEntry second secondTime).labels) := by
  refine ⟨decodesAll_iff built, fun valid first firstTime second secondTime sameText => ?_⟩
  have decodes := (decodesAll_iff built).mpr valid
  have readFirst := decodes first firstTime
  rw [sameText, decodes second secondTime] at readFirst
  generalize (source.recordToEntry first firstTime).labels = labels at readFirst ⊢
  generalize (source.recordToEntry second secondTime).labels = others at readFirst ⊢
  cases labels
  cases others
  cases readFirst
  rfl

/-! ## A label name with a hyphen -/

/-- The configuration of a host that wants `SYSLOG_IDENTIFIER` as the label `syslog-id`. -/
def hyphenSource : JournaldSourceConfig where
  labels := SortedMap.empty.insert "syslog-id" "SYSLOG_IDENTIFIER"

def hyphenConfig : Config where
  instanceConfig := { name := "web1" }
  metrics := {
    collectors := .single "system" (.unix {})
    forwarders := .single "backend" (.otlphttp { endpoint := "http://backend" }) }
  logs := { shippers := .single "journal" {
    source := .journald hyphenSource
    sink := .loki { endpoint := "http://loki" } } }

/-- A host on which the journal opens. -/
def sampleHost : JournalHost MemoryJournal.api where
  openJournal _ := .ok (.sample 1 [0, 0, 4])
  fd _ := .ok 0
  register _ := .ok ()

theorem streamLabels_decode_default :
    ∃ source : JournaldSource MemoryJournal.api,
      JournaldSource.new sampleHost .empty "journal" { cursorFile := "/state/journal.cursor" }
        (extraStaticLabels "web1") = .ok source ∧ DecodesAll source := by
  have built : JournaldSource.new sampleHost .empty "journal"
      { cursorFile := "/state/journal.cursor" } (extraStaticLabels "web1") = .ok _ := rfl
  refine ⟨_, built, (streamLabels_decode_iff built).1.mpr ⟨?_, ?_⟩⟩
  · exact fun name member => absurd member List.not_mem_nil
  · intro name field member _
    have names : ∀ entry ∈ defaultJournaldLabels.entries, isLabelName entry.1 = true := by decide
    exact names (name, field) member

theorem streamLabels_decode_hyphen :
    ¬ ∀ (config : Config), validate (fun _ => .ok ()) config = .ok () →
      ∀ name shipper, (name, shipper) ∈ config.logs.shippers.entries →
      ∀ journald, shipper.source = .journald journald →
      ∀ source, JournaldSource.new sampleHost .empty name journald
        (extraStaticLabels config.instanceConfig.name) = .ok source →
      DecodesAll source := by
  intro decodes
  have decoded := decodes hyphenConfig (by decide) "journal" _ List.mem_cons_self hyphenSource rfl
    _ rfl (SortedMap.empty.insert "SYSLOG_IDENTIFIER" "cron") 0
  exact absurd decoded (by decide +kernel)

end Ferrometer.Log.Loki
