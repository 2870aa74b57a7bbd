import Ferrometer.Config.Model
import Ferrometer.Foundation.ProtoWire
import Ferrometer.Log.Sink.Labels
import Ferrometer.Log.Sink.Streams
import Mathlib.Algebra.BigOperators.Ring.List
import Mathlib.Algebra.Ring.Nat

/-!
Contract: the bytes of a push request.

Owns: the field numbers of `push.proto`, that every message decodes to itself, and that
a request is at most four times as long as the approximate size of its entries.

Does not own: the compression of a request, or the limit of a particular server.
-/

set_option autoImplicit false

namespace Ferrometer.Log.Loki

open Ferrometer.Config Ferrometer.Foundation
open Ferrometer.Foundation.ProtoWire

/-! ## Fields -/

private theorem zero_lt_three : 0 < 3 := by decide

instance : Message Timestamp where
  empty := ⟨0, 0⟩
  mergeField timestamp field :=
    match field.number, field.value with
    | 1, .varint value => some { timestamp with seconds := readInt64 value }
    | 1, _ => none
    | 2, .varint value => some { timestamp with nanos := readInt32 value }
    | 2, _ => none
    | _, _ => some timestamp
  fields timestamp :=
    (if timestamp.seconds = 0 then [] else [⟨1, int64Varint timestamp.seconds, Nat.zero_lt_one⟩]) ++
      (if timestamp.nanos = 0 then [] else [⟨2, int32Varint timestamp.nanos, Nat.zero_lt_two⟩])

instance : Message LabelPairAdapter where
  empty := ⟨"", ""⟩
  mergeField pair field :=
    match field.number, field.value with
    | 1, .lengthDelimited bytes => (Text.ofUtf8 bytes).map fun name => { pair with name }
    | 1, _ => none
    | 2, .lengthDelimited bytes => (Text.ofUtf8 bytes).map fun value => { pair with value }
    | 2, _ => none
    | _, _ => some pair
  fields pair := stringField 1 pair.name Nat.zero_lt_one ++ stringField 2 pair.value Nat.zero_lt_two

instance : Message EntryAdapter where
  empty := ⟨none, "", []⟩
  mergeField entry field :=
    match field.number, field.value with
    | 1, .lengthDelimited bytes =>
        (merge (entry.timestamp.getD Message.empty) bytes).map fun timestamp =>
          { entry with timestamp := some timestamp }
    | 1, _ => none
    | 2, .lengthDelimited bytes => (Text.ofUtf8 bytes).map fun line => { entry with line }
    | 2, _ => none
    | 3, .lengthDelimited bytes =>
        (decode bytes).map fun pair =>
          { entry with structuredMetadata := entry.structuredMetadata ++ [pair] }
    | 3, _ => none
    | _, _ => some entry
  fields entry :=
    (entry.timestamp.toList.map fun timestamp => ⟨1, embedded timestamp, Nat.zero_lt_one⟩) ++
      stringField 2 entry.line Nat.zero_lt_two ++
      entry.structuredMetadata.map fun pair => ⟨3, embedded pair, zero_lt_three⟩

instance : Message StreamAdapter where
  empty := ⟨"", [], 0⟩
  mergeField stream field :=
    match field.number, field.value with
    | 1, .lengthDelimited bytes => (Text.ofUtf8 bytes).map fun labels => { stream with labels }
    | 1, _ => none
    | 2, .lengthDelimited bytes =>
        (decode bytes).map fun entry => { stream with entries := stream.entries ++ [entry] }
    | 2, _ => none
    | 3, .varint value => some { stream with hash := .ofNat value }
    | 3, _ => none
    | _, _ => some stream
  fields stream :=
    stringField 1 stream.labels Nat.zero_lt_one ++
      (stream.entries.map fun entry => ⟨2, embedded entry, Nat.zero_lt_two⟩) ++
      (if stream.hash = 0 then [] else [⟨3, .varint stream.hash.toNat, zero_lt_three⟩])

instance : Message PushRequest where
  empty := ⟨[]⟩
  mergeField request field :=
    match field.number, field.value with
    | 1, .lengthDelimited bytes =>
        (decode bytes).map fun stream => ⟨request.streams ++ [stream]⟩
    | 1, _ => none
    | _, _ => some request
  fields request := request.streams.map fun stream => ⟨1, embedded stream, Nat.zero_lt_one⟩

/-! ## Every message decodes to itself -/

instance : LawfulMessage Timestamp where
  foldlM_fields timestamp := by
    rcases timestamp with ⟨seconds, nanos⟩
    have readSeconds : (if seconds = 0 then [] else
        [(⟨1, int64Varint seconds, by decide⟩ : WireField)]).foldlM Message.mergeField
          (Message.empty : Timestamp) = some ⟨seconds, 0⟩ := by
      by_cases zero : seconds = 0 <;> simp [zero, Message.mergeField, Message.empty, int64Varint]
    have readNanos : (if nanos = 0 then [] else
        [(⟨2, int32Varint nanos, by decide⟩ : WireField)]).foldlM Message.mergeField
          (Timestamp.mk seconds 0) = some ⟨seconds, nanos⟩ := by
      by_cases zero : nanos = 0 <;> simp [zero, Message.mergeField, int32Varint]
    exact foldlM_append_of readSeconds readNanos

instance : LawfulMessage LabelPairAdapter where
  foldlM_fields pair :=
    foldlM_append_of
      (foldlM_stringField (LabelPairAdapter.mk · "")
        (fun text => by simp [Message.mergeField]) pair.name)
      (foldlM_stringField (LabelPairAdapter.mk pair.name)
        (fun text => by simp [Message.mergeField]) pair.value)

instance : LawfulMessage EntryAdapter where
  foldlM_fields entry :=
    foldlM_append_of
      (foldlM_append_of
        (foldlM_optional (EntryAdapter.mk · "" []) _
          (fun timestamp => by
            have read : merge Message.empty (encode timestamp) = some timestamp :=
              decode_encode timestamp
            simp [Message.mergeField, embedded, read]) entry.timestamp)
        (foldlM_stringField (EntryAdapter.mk entry.timestamp · [])
          (fun text => by simp [Message.mergeField]) entry.line))
      (foldlM_repeated (EntryAdapter.mk entry.timestamp entry.line) _
        (fun pairs pair => by simp [Message.mergeField, embedded, decode_encode])
        [] entry.structuredMetadata)

instance : LawfulMessage StreamAdapter where
  foldlM_fields stream := by
    rcases stream with ⟨labels, entries, hash⟩
    have readHash : (if hash = 0 then [] else
        [(⟨3, .varint hash.toNat, by decide⟩ : WireField)]).foldlM Message.mergeField
          (StreamAdapter.mk labels entries 0) = some ⟨labels, entries, hash⟩ := by
      by_cases zero : hash = 0 <;> simp [zero, Message.mergeField]
    exact foldlM_append_of
      (foldlM_append_of
        (foldlM_stringField (StreamAdapter.mk · [] 0)
          (fun text => by simp [Message.mergeField]) labels)
        (foldlM_repeated (StreamAdapter.mk labels · 0)
          (fun entry => (⟨2, embedded entry, by decide⟩ : WireField))
          (fun entries entry => by simp [Message.mergeField, embedded, decode_encode])
          [] entries)) readHash

instance : LawfulMessage PushRequest where
  foldlM_fields request :=
    foldlM_repeated PushRequest.mk _ (fun streams stream => by
      simp [Message.mergeField, embedded, decode_encode]) [] request.streams

/-- The receiver of a body reads the request that was built. -/
theorem decode_encode_pushRequest (entries : List LogEntry) :
    decode (encode (pushRequest entries)) = some (pushRequest entries) :=
  decode_encode (pushRequest entries)

/-! ## How long a request is -/

/-- The text of a label pair, with what separates it from the next one. -/
private theorem utf8Len_intercalate_le (texts : List (List Char)) :
    String.utf8Len ([','].intercalate texts) ≤
      (texts.map fun text => String.utf8Len text + 1).sum := by
  induction texts with
  | nil => exact Nat.zero_le _
  | cons text rest inductionHypothesis =>
      cases rest with
      | nil =>
          rw [List.intercalate_singleton]
          simp
      | cons next others =>
          have comma : String.utf8Len [','] = 1 := by decide
          rw [List.intercalate_cons_cons, String.utf8Len_append, String.utf8Len_append, comma,
            List.map_cons, List.sum_cons]
          omega

/-- Escaping at most doubles a value. -/
private theorem utf8Len_escape_le (value : List Char) :
    String.utf8Len (value.flatMap LabelSet.escape) ≤ 2 * String.utf8Len value := by
  induction value with
  | nil => exact Nat.le_refl _
  | cons symbol rest inductionHypothesis =>
      have first : String.utf8Len (LabelSet.escape symbol) ≤ 2 * symbol.utf8Size := by
        unfold LabelSet.escape
        split
        · rename_i backslash
          rw [backslash]
          decide
        · split
          · rename_i quote
            rw [quote]
            decide
          · split
            · rename_i newline
              rw [newline]
              decide
            · rw [String.utf8Len_cons, String.utf8Len_nil]
              omega
      rw [List.flatMap_cons, String.utf8Len_append, String.utf8Len_cons]
      omega

private theorem utf8ByteSize_formatLabelString_le (labels : Labels) :
    (formatLabelString labels).utf8ByteSize ≤ 2 + 2 * approxFields labels := by
  have pairs : ∀ label : String × String,
      String.utf8Len (LabelSet.pairText (Prod.map String.toList String.toList label)) + 1 ≤
        2 * (label.1.utf8ByteSize + label.2.utf8ByteSize + fieldOverhead) := by
    intro label
    have value := utf8Len_escape_le label.2.toList
    have signs : String.utf8Len ['"'] = 1 ∧ ('=' : Char).utf8Size = 1 ∧
        ('"' : Char).utf8Size = 1 := by decide
    rw [String.utf8Len_toList] at value
    simp only [LabelSet.pairText, Prod.map_fst, Prod.map_snd, String.utf8Len_append,
      String.utf8Len_cons, String.utf8Len_toList, signs, fieldOverhead]
    omega
  have whole := utf8Len_intercalate_le ((symbols labels).map LabelSet.pairText)
  have braces : String.utf8Len ['\x7d'] = 1 ∧ ('\x7b' : Char).utf8Size = 1 := by decide
  have each : ((labels.entries.map (Prod.map String.toList String.toList)).map
      LabelSet.pairText |>.map fun text => String.utf8Len text + 1).sum ≤
        2 * approxFields labels := by
    rw [approxFields]
    induction labels.entries with
    | nil => exact Nat.le_refl _
    | cons label rest inductionHypothesis =>
        have first := pairs label
        simp only [List.map_cons, List.sum_cons]
        omega
  rw [← String.utf8Len_toList, toList_formatLabelString, LabelSet.write, String.utf8Len_append,
    String.utf8Len_cons, braces.1, braces.2]
  rw [symbols] at whole ⊢
  omega

/-- The approximate size of metadata pairs. -/
def pairsSize (pairs : List LabelPairAdapter) : Nat :=
  (pairs.map fun pair => pair.name.utf8ByteSize + pair.value.utf8ByteSize + fieldOverhead).sum

private theorem length_varint_le {number value : Nat} (positive : 0 < number) (isDefault : Prop)
    [Decidable isDefault] (small : number < 16) (fits : value < 2 ^ 64) :
    (encodeFields (if isDefault then [] else [⟨number, .varint value, positive⟩])).length ≤ 11 := by
  split
  · exact Nat.zero_le _
  · rw [encodeFields, List.flatMap_singleton]
    exact length_varintField positive small fits

private theorem length_timestamp_le (timestamp : Timestamp) :
    (encode timestamp).length ≤ 22 := by
  have seconds := length_varint_le Nat.one_pos (timestamp.seconds = 0) (by decide)
    timestamp.seconds.toUInt64.toNat_lt
  have nanos := length_varint_le Nat.two_pos (timestamp.nanos = 0) (by decide)
    (timestamp.nanos.toBitVec.signExtend 64).isLt
  show (encodeFields (_ ++ _)).length ≤ 22
  rw [length_encodeFields_append]
  exact Nat.add_le_add seconds nanos

private theorem length_pair_le (pair : LabelPairAdapter) (positive : 0 < 3) :
    (encodeField ⟨3, embedded pair, positive⟩).length ≤
      2 * (pair.name.utf8ByteSize + pair.value.utf8ByteSize + fieldOverhead) := by
  have name := length_stringField Nat.one_pos (by decide) pair.name
  have value := length_stringField Nat.two_pos (by decide) pair.value
  have content : (encode pair).length ≤
      (2 + pair.name.utf8ByteSize + pair.name.utf8ByteSize / 128) +
        (2 + pair.value.utf8ByteSize + pair.value.utf8ByteSize / 128) := by
    show (encodeFields (_ ++ _)).length ≤ _
    rw [length_encodeFields_append]
    exact Nat.add_le_add name value
  have whole := length_lengthDelimited positive (by decide) (encode pair)
  rw [fieldOverhead]
  exact whole.trans (by omega)

private theorem length_metadata_le (pairs : List LabelPairAdapter) (positive : 0 < 3) :
    (encodeFields (pairs.map fun pair => ⟨3, embedded pair, positive⟩)).length ≤
      2 * pairsSize pairs := by
  induction pairs with
  | nil => simp [encodeFields]
  | cons pair rest inductionHypothesis =>
      have first := length_pair_le pair positive
      rw [List.map_cons, encodeFields, List.flatMap_cons, List.length_append, ← encodeFields]
      rw [pairsSize, List.map_cons, List.sum_cons, ← pairsSize]
      omega

private theorem length_entry_le (entry : EntryAdapter) (positive : 0 < 2) :
    (encodeField ⟨2, embedded entry, positive⟩).length ≤
      30 + 2 * entry.line.utf8ByteSize + 3 * pairsSize entry.structuredMetadata := by
  have stamp : (encodeFields (entry.timestamp.toList.map fun timestamp =>
      ⟨1, embedded timestamp, by decide⟩)).length ≤ 24 := by
    cases entry.timestamp with
    | none => exact Nat.zero_le _
    | some timestamp =>
        have content := length_timestamp_le timestamp
        have whole := length_lengthDelimited Nat.one_pos (by decide) (encode timestamp)
        show (encodeFields [_]).length ≤ 24
        rw [encodeFields, List.flatMap_singleton]
        exact whole.trans (by omega)
  have line := length_stringField Nat.two_pos (by decide) entry.line
  have metadata := length_metadata_le entry.structuredMetadata (by decide)
  have content : (encode entry).length ≤
      24 + (2 + entry.line.utf8ByteSize + entry.line.utf8ByteSize / 128) +
        2 * pairsSize entry.structuredMetadata := by
    show (encodeFields (_ ++ _ ++ _)).length ≤ _
    rw [length_encodeFields_append, length_encodeFields_append]
    exact Nat.add_le_add (Nat.add_le_add stamp line) metadata
  have whole := length_lengthDelimited positive (by decide) (encode entry)
  exact whole.trans (by omega)

/-- What an entry of a stream adds to the approximate size. -/
def adapterSize (key : StreamKey) (entry : EntryAdapter) : Nat :=
  entryOverhead + entry.line.utf8ByteSize + approxFields key.labels +
    pairsSize entry.structuredMetadata

theorem adapterSize_entryAdapter (entry : LogEntry) :
    adapterSize (streamKey entry) (entryAdapter entry) = entry.approxSize := by
  rw [adapterSize, pairsSize, entryAdapter, List.map_map]
  rfl

/-- The entries of a stream, with room for what is written once for all of them. -/
private theorem length_entries_le (key : StreamKey) (kept : List EntryAdapter) (positive : 0 < 2) :
    (encodeFields (kept.map fun entry => ⟨2, embedded entry, positive⟩)).length +
        kept.length * (18 + 3 * approxFields key.labels) ≤
      3 * (kept.map (adapterSize key)).sum := by
  induction kept with
  | nil => simp [encodeFields]
  | cons entry rest inductionHypothesis =>
      have first := length_entry_le entry positive
      rw [List.map_cons, encodeFields, List.flatMap_cons, List.length_append, ← encodeFields,
        List.length_cons, Nat.succ_mul, List.map_cons, List.sum_cons]
      rw [adapterSize, entryOverhead]
      omega

/-- A stream is at most four times as long as the approximate sizes of its entries add up
to. Its labels are written once and counted with each entry. -/
private theorem length_stream_le (key : StreamKey) {kept : List EntryAdapter} (nonempty : kept ≠ [])
    (positive : 0 < 1) :
    (encodeField ⟨1, embedded
      (StreamAdapter.mk (formatLabelString key.labels) kept 0), positive⟩).length ≤
        4 * (kept.map (adapterSize key)).sum := by
  have labels := length_stringField Nat.one_pos (by decide) (formatLabelString key.labels)
  have text := utf8ByteSize_formatLabelString_le key.labels
  have entries := length_entries_le key kept Nat.two_pos
  have once : 18 + 3 * approxFields key.labels ≤
      kept.length * (18 + 3 * approxFields key.labels) :=
    Nat.le_mul_of_pos_left _ (List.length_pos_of_ne_nil nonempty)
  have content : (encode (StreamAdapter.mk (formatLabelString key.labels) kept 0)).length ≤
      3 * (kept.map (adapterSize key)).sum := by
    show (encodeFields (stringField 1 (formatLabelString key.labels) Nat.one_pos ++
      (kept.map fun entry => ⟨2, embedded entry, Nat.two_pos⟩) ++ [])).length ≤ _
    rw [List.append_nil, length_encodeFields_append]
    omega
  have whole := length_lengthDelimited positive (by decide)
    (encode (StreamAdapter.mk (formatLabelString key.labels) kept 0))
  exact whole.trans (by omega)

theorem length_pushRequest_le (entries : List LogEntry) :
    (encode (pushRequest entries)).length ≤ 4 * (entries.map LogEntry.approxSize).sum := by
  have streams : (encodeFields ((groupByStream entries).entries.map fun group =>
      ⟨1, embedded (StreamAdapter.mk (formatLabelString group.1.labels) group.2 0),
        Nat.one_pos⟩)).length ≤
      ((groupByStream entries).entries.map fun group =>
        4 * (group.2.map (adapterSize group.1)).sum).sum := by
    apply length_encodeFields_map
    intro group member
    rw [groupByStream_eq, Grouping.mem_entries_groupInto] at member
    apply length_stream_le
    rw [member.2]
    exact fun isEmpty => member.1 (List.map_eq_nil_iff.mp isEmpty)
  have whole := Grouping.totalOf_groupInto streamKey entryAdapter adapterSize entries
  rw [← groupByStream_eq] at whole
  have each : (fun entry => adapterSize (streamKey entry) (entryAdapter entry)) =
      LogEntry.approxSize := funext adapterSize_entryAdapter
  rw [each, Grouping.totalOf] at whole
  rw [List.sum_map_mul_left, whole] at streams
  show (encodeFields (((groupByStream entries).entries.map _).map _)).length ≤ _
  rw [List.map_map]
  exact streams

/-- The limit of Loki on a gRPC message. -/
def lokiMessageLimit : Nat := 4194304

theorem pushRequest_below_limit {entries : List LogEntry}
    (capped : (entries.map LogEntry.approxSize).sum ≤ defaultJournaldBatchMaxBytes) :
    (encode (pushRequest entries)).length < lokiMessageLimit := by
  have length := length_pushRequest_le entries
  unfold defaultJournaldBatchMaxBytes at capped
  unfold lokiMessageLimit
  omega

/-- An entry whose label value has a quote to escape. -/
def quotedEntry : LogEntry where
  timestamp := 1700000000123456789
  message := "started"
  labels := SortedMap.empty.insert "unit" "a\"b"
  metadata := SortedMap.empty.insert "pid" "1"

theorem pushRequest_below_limit_quoted :
    ([quotedEntry, quotedEntry].map LogEntry.approxSize).sum ≤ defaultJournaldBatchMaxBytes ∧
      (encode (pushRequest [quotedEntry, quotedEntry])).length < lokiMessageLimit := by
  have capped : ([quotedEntry, quotedEntry].map LogEntry.approxSize).sum ≤
      defaultJournaldBatchMaxBytes := by decide +kernel
  exact ⟨capped, pushRequest_below_limit capped⟩

end Ferrometer.Log.Loki
