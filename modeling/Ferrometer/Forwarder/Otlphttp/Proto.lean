import Ferrometer.Foundation.ProtoWire

/-!
Contract: the OTLP messages a metrics export is made of.

Owns: the message types with the field numbers of their `.proto` files, how a
decoder merges each field, and that every message decodes to itself.

Does not own: messages and fields that an export leaves at their default. They
are written nowhere, and a decoder skips a field it does not know.
-/

set_option autoImplicit false

namespace Ferrometer.Forwarder.Otlphttp

open Ferrometer.Foundation
open Ferrometer.Foundation.ProtoWire

/-! ## Messages -/

namespace AnyValue

inductive Value where
  | stringValue (value : String)
deriving DecidableEq

end AnyValue

structure AnyValue where
  value : Option AnyValue.Value
deriving DecidableEq

structure KeyValue where
  key : String
  value : Option AnyValue
deriving DecidableEq

structure Resource where
  attributes : List KeyValue
deriving DecidableEq

namespace NumberDataPoint

inductive Value where
  | asDouble (bits : UInt64)
deriving DecidableEq

end NumberDataPoint

structure NumberDataPoint where
  attributes : List KeyValue
  timeUnixNano : UInt64
  value : Option NumberDataPoint.Value
deriving DecidableEq

structure Gauge where
  dataPoints : List NumberDataPoint
deriving DecidableEq

structure Sum where
  dataPoints : List NumberDataPoint
  aggregationTemporality : Int32
  isMonotonic : Bool
deriving DecidableEq

namespace OtlpMetric

inductive Data where
  | gauge (gauge : Gauge)
  | sum (sum : Sum)
deriving DecidableEq

end OtlpMetric

structure OtlpMetric where
  name : String
  data : Option OtlpMetric.Data
deriving DecidableEq

structure ScopeMetrics where
  metrics : List OtlpMetric
deriving DecidableEq

structure ResourceMetrics where
  resource : Option Resource
  scopeMetrics : List ScopeMetrics
deriving DecidableEq

structure ExportMetricsServiceRequest where
  resourceMetrics : List ResourceMetrics
deriving DecidableEq

/-! ## Their fields -/

instance : Message AnyValue where
  empty := ⟨none⟩
  mergeField anyValue field :=
    match field.number, field.value with
    | 1, .lengthDelimited bytes => (Text.ofUtf8 bytes).map fun text => ⟨some (.stringValue text)⟩
    | 1, _ => none
    | _, _ => some anyValue
  fields anyValue :=
    match anyValue.value with
    | none => []
    | some (.stringValue text) => [⟨1, .lengthDelimited (Text.utf8Bytes text), by decide⟩]

instance : Message KeyValue where
  empty := ⟨"", none⟩
  mergeField keyValue field :=
    match field.number, field.value with
    | 1, .lengthDelimited bytes => (Text.ofUtf8 bytes).map fun key => { keyValue with key }
    | 1, _ => none
    | 2, .lengthDelimited bytes =>
        (merge (keyValue.value.getD Message.empty) bytes).map fun value =>
          { keyValue with value := some value }
    | 2, _ => none
    | _, _ => some keyValue
  fields keyValue :=
    stringField 1 keyValue.key (by decide) ++
      keyValue.value.toList.map fun value => ⟨2, embedded value, by decide⟩

instance : Message Resource where
  empty := ⟨[]⟩
  mergeField resource field :=
    match field.number, field.value with
    | 1, .lengthDelimited bytes =>
        (decode bytes).map fun keyValue => ⟨resource.attributes ++ [keyValue]⟩
    | 1, _ => none
    | _, _ => some resource
  fields resource := resource.attributes.map fun keyValue => ⟨1, embedded keyValue, by decide⟩

instance : Message NumberDataPoint where
  empty := ⟨[], 0, none⟩
  mergeField point field :=
    match field.number, field.value with
    | 3, .fixed64 bits => some { point with timeUnixNano := bits }
    | 3, _ => none
    | 4, .fixed64 bits => some { point with value := some (.asDouble bits) }
    | 4, _ => none
    | 7, .lengthDelimited bytes =>
        (decode bytes).map fun keyValue =>
          { point with attributes := point.attributes ++ [keyValue] }
    | 7, _ => none
    | _, _ => some point
  fields point :=
    (if point.timeUnixNano = 0 then [] else [⟨3, .fixed64 point.timeUnixNano, by decide⟩]) ++
      (match point.value with
        | none => []
        | some (.asDouble bits) => [⟨4, .fixed64 bits, by decide⟩]) ++
      point.attributes.map fun keyValue => ⟨7, embedded keyValue, by decide⟩

instance : Message Gauge where
  empty := ⟨[]⟩
  mergeField gauge field :=
    match field.number, field.value with
    | 1, .lengthDelimited bytes =>
        (decode bytes).map fun point => ⟨gauge.dataPoints ++ [point]⟩
    | 1, _ => none
    | _, _ => some gauge
  fields gauge := gauge.dataPoints.map fun point => ⟨1, embedded point, by decide⟩

instance : Message Sum where
  empty := ⟨[], 0, false⟩
  mergeField sum field :=
    match field.number, field.value with
    | 1, .lengthDelimited bytes =>
        (decode bytes).map fun point => { sum with dataPoints := sum.dataPoints ++ [point] }
    | 1, _ => none
    | 2, .varint value => some { sum with aggregationTemporality := readInt32 value }
    | 2, _ => none
    | 3, .varint value => some { sum with isMonotonic := value != 0 }
    | 3, _ => none
    | _, _ => some sum
  fields sum :=
    (sum.dataPoints.map fun point => ⟨1, embedded point, by decide⟩) ++
      (if sum.aggregationTemporality = 0 then []
        else [⟨2, int32Varint sum.aggregationTemporality, by decide⟩]) ++
      (if sum.isMonotonic then [⟨3, boolVarint sum.isMonotonic, by decide⟩] else [])

instance : Message OtlpMetric where
  empty := ⟨"", none⟩
  -- A second occurrence of the variant that is there already is merged into it.
  mergeField metric field :=
    match field.number, field.value with
    | 1, .lengthDelimited bytes => (Text.ofUtf8 bytes).map fun name => { metric with name }
    | 1, _ => none
    | 5, .lengthDelimited bytes =>
        let gauge := match metric.data with
          | some (.gauge gauge) => gauge
          | _ => Message.empty
        (merge gauge bytes).map fun gauge => { metric with data := some (.gauge gauge) }
    | 5, _ => none
    | 7, .lengthDelimited bytes =>
        let sum := match metric.data with
          | some (.sum sum) => sum
          | _ => Message.empty
        (merge sum bytes).map fun sum => { metric with data := some (.sum sum) }
    | 7, _ => none
    | _, _ => some metric
  fields metric :=
    stringField 1 metric.name (by decide) ++
      match metric.data with
      | none => []
      | some (.gauge gauge) => [⟨5, embedded gauge, by decide⟩]
      | some (.sum sum) => [⟨7, embedded sum, by decide⟩]

instance : Message ScopeMetrics where
  empty := ⟨[]⟩
  mergeField scope field :=
    match field.number, field.value with
    | 2, .lengthDelimited bytes => (decode bytes).map fun metric => ⟨scope.metrics ++ [metric]⟩
    | 2, _ => none
    | _, _ => some scope
  fields scope := scope.metrics.map fun metric => ⟨2, embedded metric, by decide⟩

instance : Message ResourceMetrics where
  empty := ⟨none, []⟩
  mergeField resourceMetrics field :=
    match field.number, field.value with
    | 1, .lengthDelimited bytes =>
        (merge (resourceMetrics.resource.getD Message.empty) bytes).map fun resource =>
          { resourceMetrics with resource := some resource }
    | 1, _ => none
    | 2, .lengthDelimited bytes =>
        (decode bytes).map fun scope =>
          { resourceMetrics with scopeMetrics := resourceMetrics.scopeMetrics ++ [scope] }
    | 2, _ => none
    | _, _ => some resourceMetrics
  fields resourceMetrics :=
    (resourceMetrics.resource.toList.map fun resource => ⟨1, embedded resource, by decide⟩) ++
      resourceMetrics.scopeMetrics.map fun scope => ⟨2, embedded scope, by decide⟩

instance : Message ExportMetricsServiceRequest where
  empty := ⟨[]⟩
  mergeField request field :=
    match field.number, field.value with
    | 1, .lengthDelimited bytes =>
        (decode bytes).map fun resourceMetrics =>
          ⟨request.resourceMetrics ++ [resourceMetrics]⟩
    | 1, _ => none
    | _, _ => some request
  fields request :=
    request.resourceMetrics.map fun resourceMetrics => ⟨1, embedded resourceMetrics, by decide⟩

/-! ## Every message decodes to itself -/

instance : LawfulMessage AnyValue where
  foldlM_fields anyValue := by
    obtain ⟨value⟩ := anyValue
    cases value with
    | none => rfl
    | some value =>
        cases value with
        | stringValue text => simp [Message.fields, Message.empty, Message.mergeField]

/-- An embedded message that is not there yet is read as it was written. -/
private theorem merge_encode {Value : Type} [Message Value] [LawfulMessage Value]
    (value : Value) : merge Message.empty (encode value) = some value :=
  decode_encode value

instance : LawfulMessage KeyValue where
  foldlM_fields keyValue :=
    foldlM_append_of
      (foldlM_stringField (KeyValue.mk · none)
        (fun text => by simp [Message.mergeField]) keyValue.key)
      (foldlM_optional (KeyValue.mk keyValue.key) _
        (fun value => by simp [Message.mergeField, embedded, merge_encode]) keyValue.value)

instance : LawfulMessage Resource where
  foldlM_fields resource :=
    foldlM_repeated Resource.mk _ (fun keyValues keyValue => by
      simp [Message.mergeField, embedded, decode_encode]) [] resource.attributes

instance : LawfulMessage NumberDataPoint where
  foldlM_fields point := by
    obtain ⟨keyValues, timeUnixNano, value⟩ := point
    have readTime : (if timeUnixNano = 0 then [] else
        [(⟨3, .fixed64 timeUnixNano, by decide⟩ : WireField)]).foldlM Message.mergeField
          (Message.empty : NumberDataPoint) = some ⟨[], timeUnixNano, none⟩ := by
      by_cases zero : timeUnixNano = 0 <;> simp [zero, Message.mergeField, Message.empty]
    have readKeyValues := foldlM_repeated (NumberDataPoint.mk · timeUnixNano value)
      (fun keyValue => (⟨7, embedded keyValue, by decide⟩ : WireField))
      (fun keyValues keyValue => by simp [Message.mergeField, embedded, decode_encode])
      [] keyValues
    cases value with
    | none => exact foldlM_append_of (foldlM_append_of readTime rfl) readKeyValues
    | some value =>
        cases value with
        | asDouble bits => exact foldlM_append_of (foldlM_append_of readTime rfl) readKeyValues

instance : LawfulMessage Gauge where
  foldlM_fields gauge :=
    foldlM_repeated Gauge.mk _ (fun points point => by
      simp [Message.mergeField, embedded, decode_encode]) [] gauge.dataPoints

instance : LawfulMessage Sum where
  foldlM_fields sum := by
    obtain ⟨points, aggregationTemporality, isMonotonic⟩ := sum
    have readPoints := foldlM_repeated (Sum.mk · 0 false)
      (fun point => (⟨1, embedded point, by decide⟩ : WireField))
      (fun points point => by simp [Message.mergeField, embedded, decode_encode]) [] points
    have readTemporality : (if aggregationTemporality = 0 then [] else
        [(⟨2, int32Varint aggregationTemporality, by decide⟩ : WireField)]).foldlM
          Message.mergeField (Sum.mk points 0 false) =
            some ⟨points, aggregationTemporality, false⟩ := by
      by_cases zero : aggregationTemporality = 0 <;>
        simp [zero, Message.mergeField, int32Varint]
    have readMonotonic : (if isMonotonic then
        [(⟨3, boolVarint isMonotonic, by decide⟩ : WireField)] else []).foldlM
          Message.mergeField (Sum.mk points aggregationTemporality false) =
            some ⟨points, aggregationTemporality, isMonotonic⟩ := by
      cases isMonotonic <;> simp [Message.mergeField, boolVarint]
    exact foldlM_append_of (foldlM_append_of readPoints readTemporality) readMonotonic

instance : LawfulMessage OtlpMetric where
  foldlM_fields metric := by
    obtain ⟨name, data⟩ := metric
    have readName : (stringField 1 name (by decide)).foldlM Message.mergeField
        (OtlpMetric.mk "" none) = some ⟨name, none⟩ :=
      foldlM_stringField (OtlpMetric.mk · none) (fun text => by simp [Message.mergeField]) name
    refine foldlM_append_of readName ?_
    cases data with
    | none => rfl
    | some data =>
        cases data with
        | gauge gauge => simp [Message.mergeField, embedded, merge_encode]
        | sum sum => simp [Message.mergeField, embedded, merge_encode]

instance : LawfulMessage ScopeMetrics where
  foldlM_fields scope :=
    foldlM_repeated ScopeMetrics.mk _ (fun metrics metric => by
      simp [Message.mergeField, embedded, decode_encode]) [] scope.metrics

instance : LawfulMessage ResourceMetrics where
  foldlM_fields resourceMetrics :=
    foldlM_append_of
      (foldlM_optional (ResourceMetrics.mk · []) _
        (fun resource => by simp [Message.mergeField, embedded, merge_encode])
        resourceMetrics.resource)
      (foldlM_repeated (ResourceMetrics.mk resourceMetrics.resource) _
        (fun scopes scope => by simp [Message.mergeField, embedded, decode_encode])
        [] resourceMetrics.scopeMetrics)

instance : LawfulMessage ExportMetricsServiceRequest where
  foldlM_fields request :=
    foldlM_repeated ExportMetricsServiceRequest.mk _ (fun items item => by
      simp [Message.mergeField, embedded, decode_encode]) [] request.resourceMetrics

/-! ## Requests in a row -/

/-- A request merges a field behind whatever it has read already. -/
private theorem mergeField_request (before own : List ResourceMetrics) (field : WireField) :
    Message.mergeField (ExportMetricsServiceRequest.mk (before ++ own)) field =
      (Message.mergeField (ExportMetricsServiceRequest.mk own) field).map
        fun request => ⟨before ++ request.resourceMetrics⟩ := by
  obtain ⟨number, value, positive⟩ := field
  simp only [Message.mergeField]
  split
  · rename_i bytes
    cases (decode bytes : Option ResourceMetrics) with
    | none => rfl
    | some item => simp
  · rfl
  · rfl

private theorem foldlM_request (before own : List ResourceMetrics) (fields : List WireField) :
    fields.foldlM Message.mergeField (ExportMetricsServiceRequest.mk (before ++ own)) =
      (fields.foldlM Message.mergeField (ExportMetricsServiceRequest.mk own)).map
        fun request => ⟨before ++ request.resourceMetrics⟩ := by
  induction fields generalizing own with
  | nil => rfl
  | cons field rest inductionHypothesis =>
      rw [List.foldlM_cons, List.foldlM_cons, mergeField_request]
      cases (Message.mergeField (ExportMetricsServiceRequest.mk own) field) with
      | none => rfl
      | some request => exact inductionHypothesis request.resourceMetrics

/-- Two encoded requests in a row decode as one, with the resource metrics of the
first and then those of the second. -/
theorem decode_request_append {first second : List UInt8}
    {firstRequest secondRequest : ExportMetricsServiceRequest}
    (decodedFirst : decode first = some firstRequest)
    (decodedSecond : decode second = some secondRequest) :
    decode (first ++ second) = some (ExportMetricsServiceRequest.mk
      (firstRequest.resourceMetrics ++ secondRequest.resourceMetrics)) := by
  obtain ⟨fields, parsed, merged⟩ := Option.bind_eq_some_iff.mp decodedSecond
  have behind := foldlM_request firstRequest.resourceMetrics [] fields
  rw [List.append_nil] at behind
  rw [decode, merge_append decodedFirst parsed, merge, parsed, Option.bind_some, behind]
  show Option.map _ (fields.foldlM Message.mergeField Message.empty) = _
  rw [merged]
  rfl

end Ferrometer.Forwarder.Otlphttp
