import Ferrometer.Forwarder.Otlphttp.Buffer
import Ferrometer.Forwarder.Otlphttp.Proto
import Ferrometer.Foundation.Fallible
import Mathlib.Data.List.Perm.Basic

/-!
Contract: the request body that `drain_and_send` streams.

Owns: `buildSliceRequest` and what it reads of a metric, the encoder state of
the body stream with its poll function, and what the streamed bytes decode to.

Does not own: the wire format, compression, or who polls the stream and when.

`encodeToVec` stands for the encoder that is generated from the `.proto` files.
Of it only the wire format is used: what it writes decodes to what it was given.
-/

set_option autoImplicit false

namespace Ferrometer.Forwarder.Otlphttp

open Ferrometer.Foundation
open Ferrometer.Foundation.ProtoWire

/-! ## One batch -/

def kv (key value : String) : KeyValue where
  key := key
  value := some ⟨some (.stringValue value)⟩

def labelsToAttributes (labels : Labels) : List KeyValue :=
  labels.entries.map fun label => kv label.1 label.2

/-- Times before the epoch become zero, and later ones lose what is above 64
bits. -/
def systemTimeToNanos (time : SystemTime) : UInt64 :=
  .ofNat time.toNat

def aggregationTemporalityCumulative : Int32 := 2

/-- `by_name`: the metrics of a slice under their names, in order of name. -/
def groupByName (slice : List Metric) : SortedMap String (List Metric) :=
  slice.foldl
    (fun byName metric => byName.upsert metric.name fun group => group.getD [] ++ [metric])
    .empty

def dataPoint (metric : Metric) : NumberDataPoint where
  attributes := labelsToAttributes metric.labels
  timeUnixNano := systemTimeToNanos metric.timestamp
  value := some (.asDouble metric.value)

/-- One entry of `by_name`. `none` is the panic of `group[0]` on an empty group. -/
def groupMetric (entry : String × List Metric) : Option OtlpMetric := do
  let first ← entry.2.head?
  let dataPoints := entry.2.map dataPoint
  let data := match first.metricType with
    | .gauge => .gauge { dataPoints }
    | .counter => .sum {
        dataPoints
        aggregationTemporality := aggregationTemporalityCumulative
        isMonotonic := true }
  some { name := entry.1, data := some data }

def buildSliceRequest (slice : List Metric) (resourceAttributes : List KeyValue) :
    Option ExportMetricsServiceRequest := do
  let otlpMetrics ← (groupByName slice).entries.mapM groupMetric
  some {
    resourceMetrics := [{
      resource := some { attributes := resourceAttributes }
      scopeMetrics := [{ metrics := otlpMetrics }] }] }

/-! ## The body stream -/

structure EncoderState where
  popped : List (List Metric)
  batchIdx : Nat
  resourceAttributes : List KeyValue
deriving DecidableEq

section Stream

variable (encodeToVec : ExportMetricsServiceRequest → List UInt8)

/-- The closure of `stream::unfold`: `some none` ends the stream, and the outer
`none` is a panic while encoding. -/
def EncoderState.poll (state : EncoderState) : Option (Option (List UInt8 × EncoderState)) :=
  if inRange : state.batchIdx < state.popped.length then do
    let request ← buildSliceRequest state.popped[state.batchIdx] state.resourceAttributes
    some (some (encodeToVec request, { state with batchIdx := state.batchIdx + 1 }))
  else some none

/-- All the bytes of a stream polled to its end, in at most `fuel` polls. -/
def EncoderState.collect : Nat → EncoderState → Option (List UInt8)
  | 0, _ => none
  | fuel + 1, state => do
      match ← state.poll encodeToVec with
      | none => some []
      | some (bytes, state) =>
          let rest ← collect fuel state
          some (bytes ++ rest)

/-- The uncompressed body. The stream ends within one poll more than it has
batches. -/
def bodyBytes (popped : List (List Metric)) (resourceAttributes : List KeyValue) :
    Option (List UInt8) :=
  EncoderState.collect encodeToVec (popped.length + 1)
    { popped, batchIdx := 0, resourceAttributes }

end Stream

/-! ## What a receiver reads -/

namespace OtlpMetric

def dataPoints (metric : OtlpMetric) : List NumberDataPoint :=
  match metric.data with
  | none => []
  | some (.gauge gauge) => gauge.dataPoints
  | some (.sum sum) => sum.dataPoints

end OtlpMetric

/-- A data point carries a metric: its labels, its value and, where 64 bits of
nanoseconds can hold it, its timestamp. -/
structure Carries (metric : Metric) (point : NumberDataPoint) : Prop where
  labels : point.attributes = metric.labels.entries.map fun label => kv label.1 label.2
  value : point.value = some (.asDouble metric.value)
  timestamp : 0 ≤ metric.timestamp → metric.timestamp < (2 ^ 64 : Int) →
    (point.timeUnixNano.toNat : Int) = metric.timestamp

def otlpMetrics (resourceMetrics : ResourceMetrics) : List OtlpMetric :=
  resourceMetrics.scopeMetrics.flatMap ScopeMetrics.metrics

/-- Every data point, next to the name it is under. -/
def namedPoints (metrics : List OtlpMetric) : List (String × NumberDataPoint) :=
  metrics.flatMap fun metric => metric.dataPoints.map fun point => (metric.name, point)

/-- One `ResourceMetrics` represents one batch. -/
structure Represents (resourceAttributes : List KeyValue) (batch : List Metric)
    (resourceMetrics : ResourceMetrics) : Prop where
  resource : resourceMetrics.resource = some ⟨resourceAttributes⟩
  /-- One OTLP metric for each distinct name. -/
  distinct : ((otlpMetrics resourceMetrics).map OtlpMetric.name).Nodup
  names : ∀ name, name ∈ (otlpMetrics resourceMetrics).map OtlpMetric.name ↔
    ∃ metric ∈ batch, metric.name = name
  /-- Within a name, the batch's metrics of that name in the batch's order. -/
  ordered : ∀ otlpMetric ∈ otlpMetrics resourceMetrics,
    List.Forall₂ Carries (batch.filter (·.name = otlpMetric.name)) otlpMetric.dataPoints
  /-- The data points are in bijection with the metrics of the batch. -/
  bijection : ∃ metrics : List Metric, metrics.Perm batch ∧
    List.Forall₂ (fun metric named => named.1 = metric.name ∧ Carries metric named.2)
      metrics (namedPoints (otlpMetrics resourceMetrics))

/-! ## Grouping by name -/

/-- Pushing a metric onto its group adds that metric and nothing else. -/
private theorem upsertEntries_push_perm (metric : Metric) (entries : List (String × List Metric)) :
    ((SortedMap.upsertEntries metric.name (fun group => group.getD [] ++ [metric])
      entries).flatMap Prod.snd).Perm (entries.flatMap Prod.snd ++ [metric]) := by
  induction entries with
  | nil => exact List.Perm.refl _
  | cons entry rest inductionHypothesis =>
      unfold SortedMap.upsertEntries
      split
      · exact @List.perm_append_comm _ [metric] _
      · split
        · simp only [Option.getD_some, List.flatMap_cons, List.append_assoc]
          exact List.Perm.append_left _ List.perm_append_comm
        · simp only [List.flatMap_cons, List.append_assoc]
          exact List.Perm.append_left _ inductionHypothesis

private theorem groupByName_append (slice : List Metric) (metric : Metric) :
    groupByName (slice ++ [metric]) =
      (groupByName slice).upsert metric.name fun group => group.getD [] ++ [metric] := by
  rw [groupByName, List.foldl_append]
  rfl

theorem groupByName_perm (slice : List Metric) :
    ((groupByName slice).entries.flatMap Prod.snd).Perm slice := by
  induction slice using List.reverseRecOn with
  | nil => exact List.Perm.refl _
  | append_singleton slice metric inductionHypothesis =>
      rw [groupByName_append]
      exact (upsertEntries_push_perm metric _).trans (inductionHypothesis.append_right _)

/-- A group is there exactly when its name is, and holds the metrics of that
name in order. -/
theorem get?_groupByName (slice : List Metric) (name : String) :
    (groupByName slice).get? name =
      if (∃ metric ∈ slice, metric.name = name) then some (slice.filter (·.name = name))
      else none := by
  induction slice using List.reverseRecOn with
  | nil => simp [groupByName]
  | append_singleton slice metric inductionHypothesis =>
      rw [groupByName_append, SortedMap.get?_upsert]
      by_cases same : name = metric.name
      · subst same
        have here : ∃ other ∈ slice ++ [metric], other.name = metric.name :=
          ⟨metric, by simp, rfl⟩
        rw [if_pos rfl, if_pos here, inductionHypothesis, List.filter_append]
        by_cases earlier : ∃ other ∈ slice, other.name = metric.name
        · rw [if_pos earlier]
          simp
        · have none : slice.filter (·.name = metric.name) = [] := by
            rw [List.filter_eq_nil_iff]
            intro other member
            simpa using fun equal => earlier ⟨other, member, equal⟩
          rw [if_neg earlier, none]
          simp
      · have unchanged : (slice ++ [metric]).filter (·.name = name) =
            slice.filter (·.name = name) := by
          simp [List.filter_append, Ne.symm same]
        have sameNames : (∃ other ∈ slice ++ [metric], other.name = name) ↔
            ∃ other ∈ slice, other.name = name := by
          simp [or_and_right, exists_or, Ne.symm same]
        rw [if_neg same, inductionHypothesis, unchanged]
        simp only [sameNames]

/-- The groups of a slice, one by one. -/
theorem group_of_mem {slice : List Metric} {entry : String × List Metric}
    (member : entry ∈ (groupByName slice).entries) :
    (∃ metric ∈ slice, metric.name = entry.1) ∧ entry.2 = slice.filter (·.name = entry.1) := by
  have found := (SortedMap.mem_entries_iff _ _ _).mp member
  rw [get?_groupByName] at found
  split at found
  · rename_i named
    exact ⟨named, (Option.some.inj found).symm⟩
  · exact absurd found (by simp)

/-! ## Encoding a batch -/

theorem dataPoint_carries (metric : Metric) : Carries metric (dataPoint metric) where
  labels := rfl
  value := rfl
  timestamp := by
    intro afterEpoch inRange
    have bound : metric.timestamp.toNat < 2 ^ 64 :=
      (Int.toNat_lt afterEpoch).mpr (by exact_mod_cast inRange)
    show ((UInt64.ofNat metric.timestamp.toNat).toNat : Int) = metric.timestamp
    rw [UInt64.toNat_ofNat', Nat.mod_eq_of_lt bound, Int.toNat_of_nonneg afterEpoch]

/-- What `groupMetric` makes of a group. -/
structure GroupEncoded (entry : String × List Metric) (otlpMetric : OtlpMetric) : Prop where
  name : otlpMetric.name = entry.1
  dataPoints : otlpMetric.dataPoints = entry.2.map dataPoint

private theorem groupMetric_encoded {entry : String × List Metric} (nonempty : entry.2 ≠ []) :
    ∃ otlpMetric, groupMetric entry = some otlpMetric ∧ GroupEncoded entry otlpMetric := by
  obtain ⟨name, group⟩ := entry
  cases group with
  | nil => exact absurd rfl nonempty
  | cons first rest =>
      refine ⟨_, rfl, rfl, ?_⟩
      cases first.metricType with
      | gauge => rfl
      | counter => rfl

private theorem mapM_forall₂ {Item Result : Type} {encodeOne : Item → Option Result}
    {Encoded : Item → Result → Prop} {items : List Item}
    (each : ∀ item ∈ items, ∃ result, encodeOne item = some result ∧ Encoded item result) :
    ∃ results, items.mapM encodeOne = some results ∧ List.Forall₂ Encoded items results := by
  induction items with
  | nil => exact ⟨[], rfl, List.Forall₂.nil⟩
  | cons item rest inductionHypothesis =>
      obtain ⟨result, encoded, related⟩ := each item List.mem_cons_self
      obtain ⟨results, encodedRest, relatedRest⟩ := inductionHypothesis fun other member =>
        each other (List.mem_cons_of_mem _ member)
      exact ⟨result :: results, by simp [encoded, encodedRest],
        List.Forall₂.cons related relatedRest⟩

private theorem names_of_encoded {entries : List (String × List Metric)}
    {metrics : List OtlpMetric} (encoded : List.Forall₂ GroupEncoded entries metrics) :
    metrics.map OtlpMetric.name = entries.map Prod.fst := by
  induction encoded with
  | nil => rfl
  | cons first _ inductionHypothesis =>
      rw [List.map_cons, List.map_cons, first.name, inductionHypothesis]

private theorem namedPoints_of_encoded {entries : List (String × List Metric)}
    {metrics : List OtlpMetric} (encoded : List.Forall₂ GroupEncoded entries metrics)
    (named : ∀ entry ∈ entries, ∀ metric ∈ entry.2, metric.name = entry.1) :
    namedPoints metrics =
      (entries.flatMap Prod.snd).map fun metric => (metric.name, dataPoint metric) := by
  induction encoded with
  | nil => rfl
  | @cons entry otlpMetric _ _ first _ inductionHypothesis =>
      have inGroup : (entry.2.map dataPoint).map (fun point => (entry.1, point)) =
          entry.2.map fun metric => (metric.name, dataPoint metric) := by
        rw [List.map_map]
        apply List.map_congr_left
        intro metric member
        rw [named entry List.mem_cons_self metric member]
        rfl
      rw [namedPoints, List.flatMap_cons, List.flatMap_cons, List.map_append, first.name,
        first.dataPoints, inGroup]
      exact congrArg _ (inductionHypothesis fun other member =>
        named other (List.mem_cons_of_mem _ member))

private theorem forall₂_map_right {Item Result : Type} {related : Item → Result → Prop}
    {encodeOne : Item → Result} (items : List Item)
    (each : ∀ item, related item (encodeOne item)) :
    List.Forall₂ related items (items.map encodeOne) := by
  rw [List.forall₂_map_right_iff]
  exact List.forall₂_same.mpr fun item _ => each item

/-- Encoding a batch never panics, and the request has one entry, which
represents the batch. -/
theorem buildSliceRequest_represents (batch : List Metric) (resourceAttributes : List KeyValue) :
    ∃ resourceMetrics,
      buildSliceRequest batch resourceAttributes = some ⟨[resourceMetrics]⟩ ∧
        Represents resourceAttributes batch resourceMetrics := by
  have groups : ∀ entry ∈ (groupByName batch).entries,
      (∃ metric ∈ batch, metric.name = entry.1) ∧ entry.2 = batch.filter (·.name = entry.1) :=
    fun entry member => group_of_mem member
  have each : ∀ entry ∈ (groupByName batch).entries,
      ∃ otlpMetric, groupMetric entry = some otlpMetric ∧ GroupEncoded entry otlpMetric := by
    intro entry member
    obtain ⟨⟨metric, inBatch, named⟩, group⟩ := groups entry member
    have grouped : metric ∈ entry.2 := by
      rw [group]
      exact List.mem_filter.mpr ⟨inBatch, by simpa using named⟩
    exact groupMetric_encoded (List.ne_nil_of_mem grouped)
  obtain ⟨metrics, encodedAll, encoded⟩ := mapM_forall₂ each
  have sameNames := names_of_encoded encoded
  refine ⟨⟨some ⟨resourceAttributes⟩, [⟨metrics⟩]⟩, by simp [buildSliceRequest, encodedAll], ?_⟩
  have only : otlpMetrics ⟨some ⟨resourceAttributes⟩, [⟨metrics⟩]⟩ = metrics := by
    simp [otlpMetrics]
  constructor
  case resource => rfl
  case distinct =>
    rw [only, sameNames]
    exact (groupByName batch).sorted.imp fun below => below.ne
  case names =>
    intro name
    rw [only, sameNames]
    refine (SortedMap.mem_keys_iff (groupByName batch) name).trans ?_
    rw [get?_groupByName]
    split <;> simp_all
  case ordered =>
    rw [only]
    intro otlpMetric member
    obtain ⟨entry, entryMember, encodedOne⟩ := exists_of_mem_right encoded member
    rw [encodedOne.name, encodedOne.dataPoints, (groups entry entryMember).2]
    exact forall₂_map_right _ dataPoint_carries
  case bijection =>
    rw [only, namedPoints_of_encoded encoded fun entry member metric inGroup => by
      rw [(groups entry member).2] at inGroup
      simpa using (List.mem_filter.mp inGroup).2]
    exact ⟨_, groupByName_perm batch,
      forall₂_map_right _ fun metric => ⟨rfl, dataPoint_carries metric⟩⟩

/-! ## The whole body -/

section Body

variable {encodeToVec : ExportMetricsServiceRequest → List UInt8}

/-- A stream with `remaining` batches to go ends with bytes that decode to one
entry for each of them. -/
theorem collect_decode
    (wireFormat : ∀ request, decode (encodeToVec request) = some request)
    (popped : List (List Metric)) (resourceAttributes : List KeyValue) (remaining : Nat) :
    ∀ batchIdx fuel, popped.length = batchIdx + remaining → remaining < fuel →
      ∃ bytes resourceMetrics,
        EncoderState.collect encodeToVec fuel { popped, batchIdx, resourceAttributes } =
          some bytes ∧
        decode bytes = some (ExportMetricsServiceRequest.mk resourceMetrics) ∧
        List.Forall₂ (Represents resourceAttributes) (popped.drop batchIdx) resourceMetrics := by
  induction remaining with
  | zero =>
      intro batchIdx fuel total enough
      obtain ⟨fuel, rfl⟩ : ∃ smaller, fuel = smaller + 1 := ⟨fuel - 1, by omega⟩
      refine ⟨[], [], ?_, rfl, ?_⟩
      · simp [EncoderState.collect, EncoderState.poll, total]
      · rw [List.drop_of_length_le (by omega)]
        exact List.Forall₂.nil
  | succ remaining inductionHypothesis =>
      intro batchIdx fuel total enough
      obtain ⟨fuel, rfl⟩ : ∃ smaller, fuel = smaller + 1 := ⟨fuel - 1, by omega⟩
      have inRange : batchIdx < popped.length := by omega
      obtain ⟨item, built, represents⟩ :=
        buildSliceRequest_represents popped[batchIdx] resourceAttributes
      obtain ⟨rest, items, collected, decoded, restRepresents⟩ :=
        inductionHypothesis (batchIdx + 1) fuel (by omega) (by omega)
      refine ⟨encodeToVec ⟨[item]⟩ ++ rest, item :: items, ?_,
        decode_request_append (wireFormat _) decoded, ?_⟩
      · simp [EncoderState.collect, EncoderState.poll, inRange, built, collected]
      · rw [List.drop_eq_getElem_cons inRange]
        exact List.Forall₂.cons represents restRepresents

end Body

end Ferrometer.Forwarder.Otlphttp
