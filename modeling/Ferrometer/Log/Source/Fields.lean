import Ferrometer.Foundation.Fallible
import Ferrometer.Log.Source.Journald

/-!
Contract: the labels and the metadata of a log entry.

Owns: what the entry of a record holds under each name, what it is configured to hold,
and when the two are the same.

Does not own: what becomes of the labels at a sink.
-/

set_option autoImplicit false

namespace Ferrometer.Log.JournaldSource

open Ferrometer.Config Ferrometer.Foundation

variable {api : JournalApi}

/-- The mapped field of the record, if there is one, and else what there was. -/
theorem get?_mapFields (map : Labels) (record : JournalRecord) (initial : Labels)
    (name : String) :
    (mapFields map record initial).get? name =
      ((map.get? name).bind record.get?).or (initial.get? name) := by
  have chosen : mapFields map record initial = map.entries.foldl (fun fields entry =>
      (record.get? entry.2).elim fields (fields.insert entry.1)) initial := by
    unfold mapFields
    congr
    funext fields entry
    cases record.get? entry.2 with
    | none => rfl
    | some value => rfl
  rw [chosen]
  exact SortedMap.get?_foldl_choose map record.get? initial name

/-- The maps of a source that has just been built. The extra labels are over the static
ones. -/
theorem maps_of_new {host : JournalHost api} {tree : FileTree} {name : String}
    {config : JournaldSourceConfig} {extraStaticLabels : Labels} {source : JournaldSource api}
    (built : JournaldSource.new host tree name config extraStaticLabels = .ok source) :
    source.labelsMap = config.labels ∧ source.metadataMap = config.metadata ∧
      ∀ label, source.staticLabels.get? label =
        (extraStaticLabels.get? label).or (config.staticLabels.get? label) := by
  unfold JournaldSource.new at built
  rcases bind_eq_ok.mp built with ⟨journal, -, built⟩
  rcases bind_eq_ok.mp built with ⟨fd, -, built⟩
  rcases bind_eq_ok.mp built with ⟨_, -, built⟩
  rcases bind_eq_ok.mp built with ⟨saved, -, built⟩
  cases built
  exact ⟨rfl, rfl, SortedMap.get?_foldl_insert extraStaticLabels config.staticLabels⟩

/-- An entry follows the configuration. A mapped field that the record has is over the extra
labels, and these are over the static ones. -/
structure FollowsConfig (config : JournaldSourceConfig) (extraStaticLabels : Labels)
    (record : JournalRecord) (entry : LogEntry) : Prop where
  message : entry.message = (record.get? "MESSAGE").getD ""
  labels : ∀ name, entry.labels.get? name =
    ((config.labels.get? name).bind record.get?).or
      ((extraStaticLabels.get? name).or (config.staticLabels.get? name))
  metadata : ∀ name, entry.metadata.get? name = (config.metadata.get? name).bind record.get?

/-- The message is not wanted for anything else: no metadata comes of it, and no label
that does not have its text anyway. -/
def MessageOnly (config : JournaldSourceConfig) (extraStaticLabels : Labels)
    (record : JournalRecord) : Prop :=
  ∀ text, record.get? "MESSAGE" = some text →
    (∀ name, config.labels.get? name = some "MESSAGE" →
      (extraStaticLabels.get? name).or (config.staticLabels.get? name) = some text) ∧
    ∀ name, config.metadata.get? name ≠ some "MESSAGE"

/-- The message has been taken out of the record when the fields are mapped. -/
theorem bind_erase (map : Labels) (record : JournalRecord) (name : String) :
    (map.get? name).bind (record.erase "MESSAGE").get? =
      if map.get? name = some "MESSAGE" then none else (map.get? name).bind record.get? := by
  cases map.get? name with
  | none => rfl
  | some field =>
      rw [Option.bind_some, Option.bind_some, SortedMap.get?_erase]
      exact if_congr Option.some_inj.symm rfl rfl

/-- By default the message is wanted for nothing else. -/
theorem messageOnly_default (extraStaticLabels : Labels) (record : JournalRecord) :
    MessageOnly {} extraStaticLabels record := by
  have labels : ∀ entry ∈ defaultJournaldLabels.entries, entry.2 ≠ "MESSAGE" := by decide
  have metadata : ∀ entry ∈ defaultJournaldMetadata.entries, entry.2 ≠ "MESSAGE" := by decide
  intro text _
  constructor
  · intro name mapped
    exact absurd rfl (labels _ ((SortedMap.mem_entries_iff _ name _).mpr mapped))
  · intro name mapped
    exact metadata _ ((SortedMap.mem_entries_iff _ name _).mpr mapped) rfl

theorem recordToEntry_follows_iff {host : JournalHost api} {tree : FileTree} {name : String}
    {config : JournaldSourceConfig} {extraStaticLabels : Labels} {source : JournaldSource api}
    (built : JournaldSource.new host tree name config extraStaticLabels = .ok source)
    (record : JournalRecord) (timestamp : SystemTime) :
    FollowsConfig config extraStaticLabels record (source.recordToEntry record timestamp) ↔
      MessageOnly config extraStaticLabels record := by
  rcases maps_of_new built with ⟨labelsMap, metadataMap, staticLabels⟩
  have labels : ∀ name, (source.recordToEntry record timestamp).labels.get? name =
      ((config.labels.get? name).bind (record.erase "MESSAGE").get?).or
        ((extraStaticLabels.get? name).or (config.staticLabels.get? name)) := by
    intro name
    rw [recordToEntry, get?_mapFields, labelsMap, staticLabels]
  have metadata : ∀ name, (source.recordToEntry record timestamp).metadata.get? name =
      (config.metadata.get? name).bind (record.erase "MESSAGE").get? := by
    intro name
    rw [recordToEntry, get?_mapFields, metadataMap, SortedMap.get?_empty, Option.or_none]
  constructor
  · intro follows text isText
    constructor
    · intro name mapped
      have same := (labels name).symm.trans (follows.labels name)
      rw [bind_erase, if_pos mapped, mapped, Option.bind_some, isText] at same
      simpa using same
    · intro name mapped
      have same := (metadata name).symm.trans (follows.metadata name)
      rw [bind_erase, if_pos mapped, mapped, Option.bind_some, isText] at same
      cases same
  · intro only
    refine ⟨rfl, fun name => ?_, fun name => ?_⟩
    · rw [labels, bind_erase]
      by_cases mapped : config.labels.get? name = some "MESSAGE"
      · rw [if_pos mapped, mapped, Option.bind_some, Option.none_or]
        cases isText : record.get? "MESSAGE" with
        | none => rfl
        | some text => exact (only text isText).1 name mapped
      · rw [if_neg mapped]
    · rw [metadata, bind_erase]
      by_cases mapped : config.metadata.get? name = some "MESSAGE"
      · rw [if_pos mapped, mapped, Option.bind_some]
        cases isText : record.get? "MESSAGE" with
        | none => rfl
        | some text => exact absurd mapped ((only text isText).2 name)
      · rw [if_neg mapped]

/-- A host on which the journal opens. -/
def openHost : JournalHost MemoryJournal.api where
  openJournal _ := .ok (.sample 1 [])
  fd _ := .ok 0
  register _ := .ok ()

def instanceLabel : Labels := SortedMap.empty.insert "instance" "web1"

def diskFull : JournalRecord := .ofList [("MESSAGE", "disk full"), ("PRIORITY", "3")]

theorem recordToEntry_follows_default :
    ∃ source : JournaldSource MemoryJournal.api,
      JournaldSource.new openHost .empty "journal" {} instanceLabel = .ok source ∧
        FollowsConfig {} instanceLabel diskFull (source.recordToEntry diskFull 0) := by
  have built : JournaldSource.new openHost .empty "journal" {} instanceLabel = .ok _ := rfl
  exact ⟨_, built, (recordToEntry_follows_iff built diskFull 0).mpr
    (messageOnly_default instanceLabel diskFull)⟩

/-- The message is to be kept as metadata as well. -/
def rawMessage : JournaldSourceConfig where
  metadata := SortedMap.empty.insert "raw" "MESSAGE"

theorem recordToEntry_loses_rawMessage :
    ∃ source : JournaldSource MemoryJournal.api,
      JournaldSource.new openHost .empty "journal" rawMessage instanceLabel = .ok source ∧
        (source.recordToEntry diskFull 0).metadata.get? "raw" = none ∧
        ¬ FollowsConfig rawMessage instanceLabel diskFull (source.recordToEntry diskFull 0) := by
  have built : JournaldSource.new openHost .empty "journal" rawMessage instanceLabel = .ok _ := rfl
  refine ⟨_, built, by decide +kernel, fun follows => ?_⟩
  exact absurd (follows.metadata "raw") (by decide +kernel)

end Ferrometer.Log.JournaldSource
