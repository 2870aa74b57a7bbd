import Ferrometer.Forwarder.Otlphttp.Encode
import Ferrometer.Pipeline.Tick

/-!
Contract: what becomes of the types of metrics that are encoded together.

Owns: for which batches every data point ends up under an OTLP metric of its own
type, and a batch of one scrape for which it does not.

Does not own: the rest of what a request says of a batch.
-/

set_option autoImplicit false

namespace Ferrometer.Pipeline

open Ferrometer.Collector Ferrometer.Config Ferrometer.Foundation
open Ferrometer.Forwarder.Otlphttp

/-! ## Model -/

/-- Gauges are OTLP gauges, counters are sums that are cumulative and monotonic. -/
def Under (metricType : MetricType) (otlpMetric : OtlpMetric) : Prop :=
  match metricType with
  | .gauge => ∃ gauge, otlpMetric.data = some (.gauge gauge)
  | .counter => ∃ sum, otlpMetric.data = some (.sum sum) ∧ sum.isMonotonic = true ∧
      sum.aggregationTemporality = aggregationTemporalityCumulative

/-- Under each name stand the data points of the batch's metrics of that name, each
under its own type. -/
def TypesSurvive (batch : List Metric) (resourceMetrics : ResourceMetrics) : Prop :=
  ∀ otlpMetric ∈ otlpMetrics resourceMetrics,
    List.Forall₂ (fun metric point => Under metric.metricType otlpMetric ∧ Carries metric point)
      (batch.filter (·.name = otlpMetric.name)) otlpMetric.dataPoints

/-- Metrics that share a name share a type. -/
def TypedByName (batch : List Metric) : Prop :=
  ∀ first ∈ batch, ∀ second ∈ batch, first.name = second.name →
    first.metricType = second.metricType

/-! ## One group -/

theorem Under.unique {first second : MetricType} {otlpMetric : OtlpMetric}
    (underFirst : Under first otlpMetric) (underSecond : Under second otlpMetric) :
    first = second := by
  cases first with
  | gauge =>
      cases second with
      | gauge => rfl
      | counter =>
          rcases underFirst with ⟨gauge, isGauge⟩
          rcases underSecond with ⟨sum, isSum, -⟩
          exact absurd (isGauge.symm.trans isSum) (by simp)
  | counter =>
      cases second with
      | counter => rfl
      | gauge =>
          rcases underFirst with ⟨sum, isSum, -⟩
          rcases underSecond with ⟨gauge, isGauge⟩
          exact absurd (isGauge.symm.trans isSum) (by simp)

/-- The first metric of a group decides for all of it. -/
theorem groupMetric_under {entry : String × List Metric} {otlpMetric : OtlpMetric}
    (encoded : groupMetric entry = some otlpMetric) :
    otlpMetric.name = entry.1 ∧
      ∃ first, entry.2.head? = some first ∧ Under first.metricType otlpMetric := by
  rcases entry with ⟨name, group⟩
  cases group with
  | nil => cases encoded
  | cons first rest =>
      cases encoded
      refine ⟨rfl, first, rfl, ?_⟩
      cases first.metricType with
      | gauge => exact ⟨_, rfl⟩
      | counter => exact ⟨_, rfl, rfl, rfl⟩

/-- What an option-valued map makes, it makes of some item. -/
private theorem exists_of_mem_mapM {Item Result : Type} {convert : Item → Option Result}
    {items : List Item} {results : List Result} (converted : items.mapM convert = some results)
    {result : Result} (member : result ∈ results) :
    ∃ item ∈ items, convert item = some result := by
  induction items generalizing results with
  | nil =>
      cases converted
      cases member
  | cons item rest inductionHypothesis =>
      rw [List.mapM_cons] at converted
      rcases Option.bind_eq_some_iff.mp converted with ⟨first, convertedFirst, others⟩
      rcases Option.bind_eq_some_iff.mp others with ⟨later, convertedLater, all⟩
      cases all
      rcases List.mem_cons.mp member with rfl | isLater
      · exact ⟨item, List.mem_cons_self, convertedFirst⟩
      · rcases inductionHypothesis convertedLater isLater with ⟨other, present, convertedOther⟩
        exact ⟨other, List.mem_cons_of_mem _ present, convertedOther⟩

/-! ## One batch -/

section Batch

variable {batch : List Metric} {resourceAttributes : List KeyValue}
  {resourceMetrics : ResourceMetrics}

/-- The type under a name is that of the first metric of the batch with this name. -/
theorem first_under
    (built : buildSliceRequest batch resourceAttributes = some ⟨[resourceMetrics]⟩)
    {otlpMetric : OtlpMetric} (member : otlpMetric ∈ otlpMetrics resourceMetrics) :
    ∃ first, (batch.filter (·.name = otlpMetric.name)).head? = some first ∧
      Under first.metricType otlpMetric := by
  unfold buildSliceRequest at built
  rcases Option.bind_eq_some_iff.mp built with ⟨metrics, encoded, request⟩
  cases request
  have listed : otlpMetric ∈ metrics := by simpa [otlpMetrics] using member
  rcases exists_of_mem_mapM encoded listed with ⟨entry, present, grouped⟩
  rcases groupMetric_under grouped with ⟨name, first, isFirst, under⟩
  rw [name, ← (group_of_mem present).2]
  exact ⟨first, isFirst, under⟩

theorem typesSurvive_of_typedByName
    (built : buildSliceRequest batch resourceAttributes = some ⟨[resourceMetrics]⟩)
    (represents : Represents resourceAttributes batch resourceMetrics)
    (typed : TypedByName batch) : TypesSurvive batch resourceMetrics := by
  intro otlpMetric member
  rcases first_under built member with ⟨first, isFirst, under⟩
  have firstListed := List.mem_filter.mp (List.mem_of_head? isFirst)
  have firstName : first.name = otlpMetric.name := by simpa using firstListed.2
  have sameType : ∀ metric ∈ batch.filter (·.name = otlpMetric.name),
      Under metric.metricType otlpMetric := by
    intro metric listed
    rcases List.mem_filter.mp listed with ⟨inBatch, named⟩
    have sameName : metric.name = first.name := by
      rw [firstName]
      simpa using named
    rwa [typed metric inBatch first firstListed.1 sameName]
  exact (List.forall₂_and_left _ _).mpr ⟨sameType, represents.ordered otlpMetric member⟩

theorem typedByName_of_typesSurvive
    (represents : Represents resourceAttributes batch resourceMetrics)
    (survive : TypesSurvive batch resourceMetrics) : TypedByName batch := by
  intro first firstListed second secondListed sameName
  have named := (represents.names first.name).mpr ⟨first, firstListed, rfl⟩
  rcases List.mem_map.mp named with ⟨otlpMetric, member, name⟩
  have under : ∀ metric ∈ batch, metric.name = otlpMetric.name →
      Under metric.metricType otlpMetric := by
    intro metric listed isNamed
    have grouped : metric ∈ batch.filter (·.name = otlpMetric.name) :=
      List.mem_filter.mpr ⟨listed, by simpa using isNamed⟩
    exact ((List.forall₂_and_left _ _).mp (survive otlpMetric member)).1 metric grouped
  exact (under first firstListed name.symm).unique
    (under second secondListed (sameName.symm.trans name.symm))

end Batch

/-- A batch is encoded whole, and with all its types exactly if no name stands for two
types in it. -/
theorem buildSliceRequest_types_iff (batch : List Metric) (resourceAttributes : List KeyValue) :
    ∃ resourceMetrics,
      buildSliceRequest batch resourceAttributes = some ⟨[resourceMetrics]⟩ ∧
        Represents resourceAttributes batch resourceMetrics ∧
        (TypesSurvive batch resourceMetrics ↔ TypedByName batch) := by
  rcases buildSliceRequest_represents batch resourceAttributes with
    ⟨resourceMetrics, built, represents⟩
  refine ⟨resourceMetrics, built, represents, ?_, ?_⟩
  · exact typedByName_of_typesSurvive represents
  · exact typesSurvive_of_typedByName built represents

/-- One scraper, whose target exports a line `up 1` without a type. -/
def relayConfig : MetricsConfig where
  collectors := .single "web" (.prometheus { url := "http://web" })
  forwarders := .single "backend" (.otlphttp { endpoint := "http://backend" })

/-- What the scheduler gets from the first tick. -/
def relayResult : CollectionResult :=
  tickResult sampleSupport "web" { url := "http://web" } [] 0 {
    endpoint := .answers 0 ⟨200, "200 OK"⟩ (.whole 0 "up 1")
    wallClock := fun _ => 0
    lag := 0 }

/-- The first tick, up to the batch that the forwarder is given. -/
def relayEvents : List SchedulerEvent :=
  [.iterate 0, .collected ⟨"web", 0⟩ relayResult.metrics, .receive, .iterate 1]

/-- The health series `up` is a gauge, and is sent as a counter. -/
theorem up_encoded_counter :
    ∃ scheduler batch,
      Scheduler.machine.run (Scheduler.new relayConfig 0) relayEvents = some scheduler ∧
        scheduler.forwarders = [[batch]] ∧
        ∃ resourceMetrics, buildSliceRequest batch [] = some ⟨[resourceMetrics]⟩ ∧
          ¬ TypesSurvive batch resourceMetrics := by
  have ends : (Scheduler.machine.run (Scheduler.new relayConfig 0) relayEvents).map
      Scheduler.forwarders = some [[relayResult.metrics.getD []]] := by decide +kernel
  rcases Option.map_eq_some_iff.mp ends with ⟨scheduler, ran, forwarders⟩
  rcases buildSliceRequest_represents (relayResult.metrics.getD []) [] with
    ⟨resourceMetrics, built, represents⟩
  refine ⟨scheduler, _, ran, forwarders, resourceMetrics, built, ?_⟩
  intro survive
  have typed := typedByName_of_typesSurvive represents survive
  have untyped : ¬ ∀ first ∈ relayResult.metrics.getD [],
      ∀ second ∈ relayResult.metrics.getD [], first.name = second.name →
        first.metricType = second.metricType := by decide +kernel
  exact untyped typed

end Ferrometer.Pipeline
