import Ferrometer.Collector.Prometheus
import Ferrometer.Config.Validate
import Ferrometer.Pipeline.Scheduler

/-!
Contract: what the scheduler gets from a tick of a Prometheus collector.

Owns: the task around `collect` with its hard deadline, and for which ticks and
configurations the health series survive that deadline.

Does not own: when a tick starts.
-/

set_option autoImplicit false

namespace Ferrometer.Pipeline

open Ferrometer.Collector Ferrometer.Config

/-- `tokio::time::timeout`. The future is polled before the deadline, and wins a tie. -/
def timeout {Item : Type} (limit elapsed : Duration) (item : Item) : Option Item :=
  if elapsed ≤ limit then some item else none

/-- A tick as its task meets it. `max_runtime` is armed first, and the request arms its
own timeout when it is sent: `lag` later, as the runtime has it. It is 0 when both fall
into the same millisecond of the timer, and then expire together. -/
structure TimedTick extends Tick where
  lag : Duration

/-- The spawned task of one tick. A collection that is cut off is cut off in its
request, and leaves the scraper as it was. -/
def collectTask (support : ScrapeSupport) (maxRuntime : Duration) (task : Started)
    (scraper : PrometheusScraper) (tick : TimedTick) : CollectionResult × PrometheusScraper :=
  let (elapsed, metrics, after) := scraper.collect support tick.toTick
  match timeout maxRuntime (tick.lag + elapsed) (metrics, after) with
  | some (metrics, after) =>
      ({ name := task.name, startedAt := task.startedAt, metrics := some metrics }, after)
  | none => ({ name := task.name, startedAt := task.startedAt, metrics := none }, scraper)

section Ticks

variable (support : ScrapeSupport) (name : String) (config : PrometheusCollectorConfig)

/-- The scraper after earlier ticks, each with the instant it started at. -/
def scraperAfter (ticks : List (Instant × TimedTick)) : PrometheusScraper :=
  ticks.foldl
    (fun scraper (startedAt, tick) =>
      (collectTask support (collectorScheduleParams (.prometheus config)).2 ⟨name, startedAt⟩
        scraper tick).2)
    (.new name config)

/-- What the scheduler gets from a tick after `ticks`. -/
def tickResult (ticks : List (Instant × TimedTick)) (startedAt : Instant) (tick : TimedTick) :
    CollectionResult :=
  (collectTask support (collectorScheduleParams (.prometheus config)).2 ⟨name, startedAt⟩
    (scraperAfter support name config ticks) tick).1

end Ticks

/-- The health series of a target are among the metrics. -/
structure ShowsHealth (labels : Labels) (completed : Bool) (metrics : List Metric) : Prop where
  up : ∃ metric ∈ metrics, metric.name = "up" ∧ metric.labels = labels ∧
    metric.value = if completed then f64One else f64Zero
  duration : ∃ metric ∈ metrics, metric.name = "scrape_duration_seconds" ∧
    metric.labels = labels
  samples : ∃ metric ∈ metrics, metric.name = "scrape_samples_scraped" ∧
    metric.labels = labels

def Visible (labels : Labels) (completed : Bool) (result : CollectionResult) : Prop :=
  ∃ metrics, result.metrics = some metrics ∧ ShowsHealth labels completed metrics

/-! ## The deadline -/

section Deadline

variable {support : ScrapeSupport} {name : String} {config : PrometheusCollectorConfig}

/-- The series are the last three metrics of a tick. -/
private theorem showsHealth_of_collects {scraper after : PrometheusScraper} {tick : Tick}
    {elapsed : Duration} {metrics : List Metric}
    (collects : scraper.Collects support tick elapsed metrics after) :
    ShowsHealth scraper.healthLabels
      (PrometheusScraper.completes support scraper.scrapeTimeout tick.endpoint) metrics := by
  rcases collects.series with ⟨others, samples, rfl, -⟩
  rw [← collects.healthLabels]
  have lastUp := collects.lastUp
  unfold PrometheusScraper.health
  exact {
    up := by
      refine ⟨_, List.mem_append_right _ List.mem_cons_self, rfl, rfl, ?_⟩
      simp [Metric.gauge, lastUp]
    duration :=
      ⟨_, List.mem_append_right _ (List.mem_cons_of_mem _ List.mem_cons_self), rfl, rfl⟩
    samples :=
      ⟨_, List.mem_append_right _
        (List.mem_cons_of_mem _ (List.mem_cons_of_mem _ List.mem_cons_self)), rfl, rfl⟩ }

private theorem collectTask_eq (support : ScrapeSupport) (maxRuntime : Duration) (task : Started)
    (scraper : PrometheusScraper) (tick : TimedTick) :
    (tick.lag + PrometheusScraper.requestEnd scraper.scrapeTimeout tick.endpoint ≤ maxRuntime ∧
      collectTask support maxRuntime task scraper tick =
        ({ name := task.name, startedAt := task.startedAt,
           metrics := some (scraper.collect support tick.toTick).2.1 },
          (scraper.collect support tick.toTick).2.2)) ∨
    (¬ tick.lag + PrometheusScraper.requestEnd scraper.scrapeTimeout tick.endpoint ≤ maxRuntime ∧
      collectTask support maxRuntime task scraper tick =
        ({ name := task.name, startedAt := task.startedAt, metrics := none }, scraper)) := by
  have ends := (scraper.collect_spec support tick.toTick).ends
  rw [← ends]
  unfold collectTask timeout
  by_cases inTime : tick.lag + (scraper.collect support tick.toTick).1 ≤ maxRuntime
  · exact Or.inl ⟨inTime, by simp [inTime]⟩
  · exact Or.inr ⟨inTime, by simp [inTime]⟩

/-- Ticks change neither the timeout nor the labels of the health series. -/
private theorem scraperAfter_fixed (ticks : List (Instant × TimedTick)) :
    (scraperAfter support name config ticks).scrapeTimeout = config.scrapeTimeout ∧
      (scraperAfter support name config ticks).healthLabels =
        (PrometheusScraper.new name config).healthLabels := by
  induction ticks using List.reverseRecOn with
  | nil => exact ⟨rfl, rfl⟩
  | append_singleton earlier last inductionHypothesis =>
      have collects := (scraperAfter support name config earlier).collect_spec support last.2.toTick
      unfold scraperAfter
      rw [List.foldl_append, List.foldl_cons, List.foldl_nil]
      show (collectTask support _ _ (scraperAfter support name config earlier) _).2.scrapeTimeout =
            _ ∧
          (collectTask support _ _ (scraperAfter support name config earlier) _).2.healthLabels =
            _
      rcases collectTask_eq support (collectorScheduleParams (.prometheus config)).2
        ⟨name, last.1⟩ (scraperAfter support name config earlier) last.2 with
        ⟨-, cutShort⟩ | ⟨-, cutShort⟩
      · rw [cutShort]
        exact ⟨collects.scrapeTimeout.trans inductionHypothesis.1,
          collects.healthLabels.trans inductionHypothesis.2⟩
      · rw [cutShort]
        exact inductionHypothesis

theorem tickResult_visible_iff (ticks : List (Instant × TimedTick)) (startedAt : Instant)
    (tick : TimedTick) :
    Visible (PrometheusScraper.new name config).healthLabels
        (PrometheusScraper.completes support config.scrapeTimeout tick.endpoint)
        (tickResult support name config ticks startedAt tick) ↔
      tick.lag + PrometheusScraper.requestEnd config.scrapeTimeout tick.endpoint ≤
        config.maxRuntime := by
  rcases scraperAfter_fixed ticks with ⟨timeout, labels⟩
  have collects := (scraperAfter support name config ticks).collect_spec support tick.toTick
  have shows := showsHealth_of_collects collects
  rw [timeout, labels] at shows
  have cut := collectTask_eq support config.maxRuntime ⟨name, startedAt⟩
    (scraperAfter support name config ticks) tick
  rw [timeout] at cut
  unfold Visible tickResult
  show (∃ metrics, (collectTask support config.maxRuntime _ _ _).1.metrics = some metrics ∧ _) ↔ _
  rcases cut with ⟨inTime, equal⟩ | ⟨late, equal⟩
  · rw [equal]
    exact iff_of_true ⟨_, rfl, shows⟩ inTime
  · rw [equal]
    apply iff_of_false _ late
    rintro ⟨metrics, handed, -⟩
    exact absurd handed nofun

variable (support name config) in
/-- Every tick whose request is sent within `bound` shows the health of the target. -/
def AlwaysVisible (bound : Duration) : Prop :=
  ∀ ticks startedAt tick, tick.lag ≤ bound →
    Visible (PrometheusScraper.new name config).healthLabels
      (PrometheusScraper.completes support config.scrapeTimeout tick.endpoint)
      (tickResult support name config ticks startedAt tick)

theorem alwaysVisible_iff (bound : Duration) :
    AlwaysVisible support name config bound ↔
      config.scrapeTimeout + bound ≤ config.maxRuntime := by
  constructor
  · intro visible
    -- The target that never answers takes the whole timeout.
    have silent := visible [] 0 { endpoint := .silent, wallClock := fun _ => 0, lag := bound } le_rfl
    have late := (tickResult_visible_iff [] 0 _).mp silent
    rw [Nat.add_comm]
    exact late
  · intro ordered ticks startedAt tick bounded
    apply (tickResult_visible_iff ticks startedAt tick).mpr
    calc tick.lag + PrometheusScraper.requestEnd config.scrapeTimeout tick.endpoint
      _ ≤ bound + config.scrapeTimeout :=
          Nat.add_le_add bounded (PrometheusScraper.requestEnd_le _ _)
      _ = config.scrapeTimeout + bound := Nat.add_comm _ _
      _ ≤ config.maxRuntime := ordered

/-- Between whole seconds there is room for any lag of at most one. -/
private theorem fromSecs_add_le_iff {earlier later : Nat} {bound : Duration} (positive : 0 < bound)
    (short : bound ≤ .fromSecs 1) :
    Duration.fromSecs earlier + bound ≤ Duration.fromSecs later ↔
      Duration.fromSecs earlier < Duration.fromSecs later := by
  simp only [Duration.fromSecs, Duration] at *
  omega

/-- The health series of a target reach the scheduler on every tick, whatever the
target does, exactly if the timeout of the request, armed after the hard deadline, is
up before it. One tick decides by when its request is over. In whole seconds, which are
all that a configuration can write, the timeout has to be the shorter of the two. -/
theorem prometheus_visible_iff (support : ScrapeSupport) (name : String)
    (config : PrometheusCollectorConfig) :
    (∀ ticks startedAt tick,
      Visible (PrometheusScraper.new name config).healthLabels
          (PrometheusScraper.completes support config.scrapeTimeout tick.endpoint)
          (tickResult support name config ticks startedAt tick) ↔
        tick.lag + PrometheusScraper.requestEnd config.scrapeTimeout tick.endpoint ≤
          config.maxRuntime) ∧
    (∀ bound, AlwaysVisible support name config bound ↔
      config.scrapeTimeout + bound ≤ config.maxRuntime) ∧
    ∀ scrapeTimeout maxRuntime, config.scrapeTimeout = .fromSecs scrapeTimeout →
      config.maxRuntime = .fromSecs maxRuntime → ∀ bound, 0 < bound → bound ≤ .fromSecs 1 →
        (AlwaysVisible support name config bound ↔
          config.scrapeTimeout < config.maxRuntime) := by
  refine ⟨tickResult_visible_iff, alwaysVisible_iff, ?_⟩
  intro scrapeTimeout maxRuntime wholeTimeout wholeRuntime bound positive short
  rw [alwaysVisible_iff, wholeTimeout, wholeRuntime]
  exact fromSecs_add_le_iff positive short

/-- The defaults leave five seconds. -/
theorem default_alwaysVisible :
    AlwaysVisible sampleSupport "web" { url := "http://web" } (.fromSecs 1) :=
  ((prometheus_visible_iff sampleSupport "web" { url := "http://web" }).2.2 10 15 rfl rfl
    (.fromSecs 1) (by decide) le_rfl).mpr (by decide)

/-- A configuration whose hard deadline is before the default timeout of a request. -/
def hastyConfig : PrometheusCollectorConfig where
  url := "http://web"
  maxRuntime := .fromSecs 5

def hasty : Config where
  instanceConfig := { name := "host" }
  metrics := {
    collectors := .single "web" (.prometheus hastyConfig)
    forwarders := .single "backend" (.otlphttp { endpoint := "http://backend" }) }
  logs := { shippers := .new }

/-- It is accepted, and of a target that hangs the scheduler hears nothing. -/
theorem hanging_target_invisible :
    validate (fun _ => .ok ()) hasty = .ok () ∧
      (tickResult sampleSupport "web" hastyConfig [] 0
        { endpoint := .silent, wallClock := fun _ => 0, lag := 0 }).metrics = none ∧
      ¬ Visible (PrometheusScraper.new "web" hastyConfig).healthLabels false
        (tickResult sampleSupport "web" hastyConfig [] 0
          { endpoint := .silent, wallClock := fun _ => 0, lag := 0 }) := by
  have nothing : (tickResult sampleSupport "web" hastyConfig [] 0
      { endpoint := .silent, wallClock := fun _ => 0, lag := 0 }).metrics = none := by decide +kernel
  refine ⟨rfl, nothing, ?_⟩
  rintro ⟨metrics, handed, -⟩
  exact absurd (nothing.symm.trans handed) nofun

end Deadline

end Ferrometer.Pipeline
