import Ferrometer.Foundation.Grouping
import Ferrometer.Log.Sink.Push

/-!
Contract: the streams of a push request.

Owns: that a request is a stable partition of the entries it is made of, and that
every entry keeps its message, its metadata and its time.

Does not own: whether two label sets have the same text, or the bytes of a request.
-/

set_option autoImplicit false

namespace Ferrometer.Log.Loki

open Ferrometer.Foundation

/-- The stamp is that of the time, or of the epoch for an earlier time. A `SystemTime`
has its seconds in an `i64`, so that it is never later than the second bound. -/
structure Stamps (stamp : Timestamp) (time : SystemTime) : Prop where
  early : time ≤ 0 → stamp = ⟨0, 0⟩
  nanos : 0 ≤ stamp.nanos.toInt ∧ stamp.nanos.toInt < 1000000000
  whole : 0 ≤ time → time < 9223372036854775808 * 1000000000 →
    stamp.seconds.toInt * 1000000000 + stamp.nanos.toInt = time

theorem timestampOf_stamps (time : SystemTime) : Stamps (timestampOf time) time := by
  have small : time.toNat % 1000000000 < 2 ^ 31 := by omega
  have nanos : (Int32.ofNat (time.toNat % 1000000000)).toInt = (time.toNat % 1000000000 : Nat) :=
    Int32.toInt_ofNat_of_lt small
  exact {
    early := by
      intro early
      have isZero : time.toNat = 0 := Int.toNat_eq_zero.mpr early
      rw [timestampOf, isZero]
      rfl
    nanos := by
      show 0 ≤ (Int32.ofNat _).toInt ∧ (Int32.ofNat _).toInt < _
      rw [nanos]
      omega
    whole := by
      intro late inRange
      have bound : time.toNat < 9223372036854775808 * 1000000000 := (Int.toNat_lt late).mpr inRange
      have fits : time.toNat / 1000000000 < 2 ^ 63 := by omega
      refine Eq.trans ?_ (Int.toNat_of_nonneg late)
      show (Int64.ofNat _).toInt * 1000000000 + (Int32.ofNat _).toInt = _
      rw [nanos, Int64.toInt_ofNat_of_lt fits]
      omega }

/-- A request is a stable partition of the entries by their label sets. -/
structure StablePartition (entries : List LogEntry) (request : PushRequest) : Prop where
  /-- One stream for each label set that occurs, with its entries in their order. -/
  streams : ∃ labelSets : List Labels, labelSets.Nodup ∧
    (∀ labels, labels ∈ labelSets ↔ ∃ entry ∈ entries, entry.labels = labels) ∧
    request.streams = labelSets.map fun labels =>
      { labels := formatLabelString labels
        entries := (entries.filter fun entry => entry.labels = labels).map entryAdapter
        hash := 0 }
  /-- No entry is lost or sent twice. -/
  counted : (request.streams.map fun stream => stream.entries.length).sum = entries.length
  /-- What is sent of an entry is its own. -/
  kept : ∀ entry ∈ entries, (entryAdapter entry).line = entry.message ∧
    (entryAdapter entry).structuredMetadata.map (fun pair => (pair.name, pair.value)) =
      entry.metadata.entries ∧
    ∃ stamp, (entryAdapter entry).timestamp = some stamp ∧ Stamps stamp entry.timestamp

/-- The key that an entry is grouped under. -/
def streamKey (entry : LogEntry) : StreamKey := ⟨entry.labels⟩

theorem groupByStream_eq (entries : List LogEntry) :
    groupByStream entries = Grouping.groupInto streamKey entryAdapter entries := rfl

private theorem groupOf_eq (entries : List LogEntry) (labels : Labels) :
    Grouping.groupOf streamKey entries ⟨labels⟩ =
      entries.filter fun entry => entry.labels = labels := by
  apply List.filter_congr
  intro entry _
  simp [streamKey]

theorem streams_eq (entries : List LogEntry) :
    (pushRequest entries).streams =
      ((groupByStream entries).keys.map StreamKey.labels).map fun labels =>
        { labels := formatLabelString labels
          entries := (entries.filter fun entry => entry.labels = labels).map entryAdapter
          hash := 0 } := by
  rw [SortedMap.keys, List.map_map, List.map_map]
  apply List.map_congr_left
  rintro ⟨⟨labels⟩, kept⟩ member
  rw [groupByStream_eq, Grouping.mem_entries_groupInto] at member
  rw [member.2, groupOf_eq]
  rfl

theorem pushRequest_stablePartition (entries : List LogEntry) :
    StablePartition entries (pushRequest entries) where
  streams := by
    refine ⟨(groupByStream entries).keys.map StreamKey.labels, ?_, ?_, streams_eq entries⟩
    · have distinct : (groupByStream entries).keys.Nodup :=
        (groupByStream entries).sorted.imp ne_of_lt
      apply distinct.map
      rintro ⟨first⟩ ⟨second⟩ same
      exact congrArg StreamKey.mk same
    · intro labels
      rw [List.mem_map]
      constructor
      · rintro ⟨⟨same⟩, member, rfl⟩
        rw [groupByStream_eq, Grouping.mem_keys_groupInto] at member
        rcases member with ⟨entry, isEntry, equal⟩
        exact ⟨entry, isEntry, congrArg StreamKey.labels equal⟩
      · rintro ⟨entry, isEntry, rfl⟩
        refine ⟨⟨entry.labels⟩, ?_, rfl⟩
        rw [groupByStream_eq, Grouping.mem_keys_groupInto]
        exact ⟨entry, isEntry, rfl⟩
  counted := by
    have whole := Grouping.totalOf_groupInto streamKey entryAdapter (fun _ _ => 1) entries
    simp only [Grouping.totalOf, List.map_const', List.sum_replicate_nat,
      Nat.mul_one] at whole
    rw [← whole, pushRequest, groupByStream_eq, List.map_map]
    rfl
  kept := by
    intro entry _
    refine ⟨rfl, ?_, timestampOf entry.timestamp, rfl, timestampOf_stamps entry.timestamp⟩
    show (entry.metadata.entries.map _).map _ = _
    rw [List.map_map]
    exact List.map_id _

end Ferrometer.Log.Loki
