import Ferrometer.Collector.Prometheus
import Ferrometer.Foundation.Outages

/-!
Contract: what a scraper emits, counts and logs from its first tick on.

Owns: the lines that a tick logs, and for every history of ticks the state after each of
them, its series, and which lines stand in each run of failures.

Does not own: how a line is written out, or which levels are.
-/

set_option autoImplicit false

namespace Ferrometer.Collector

open Ferrometer.Config Ferrometer.Foundation

/-! ## Model -/

inductive Level where
  | debug
  | info
  | warn
deriving DecidableEq

/-- An event of `tracing`, with those of its fields that a scraper sets. -/
structure LogLine where
  level : Level
  message : String
  scraper : String
  url : Option String := none
  metric : Option String := none
  error : Option Error := none
  failedTicks : Option Nat := none
deriving DecidableEq

namespace PrometheusScraper

section Lines

variable (support : ScrapeSupport) (name : String) (scraper : PrometheusScraper)

/-- What `sampleToMetric` logs. -/
def sampleToMetricLines (sample : Sample) : List LogLine :=
  match sample.value with
  | .histogram | .summary =>
      [{ level := .debug
         message := "dropping unsupported histogram/summary sample"
         scraper := name
         metric := some sample.metric }]
  | _ => []

/-- What `scrapeAndParse` logs. -/
def scrapeAndParseLines (tick : Tick) : List LogLine :=
  match (scraper.scrape support tick.endpoint).2 with
  | .error _ => []
  | .ok body =>
      match support.parse body with
      | .error _ => []
      | .ok samples => samples.flatMap (sampleToMetricLines name)

/-- What a success logs, by the state that it finds. -/
def recoveryLines : List LogLine :=
  if scraper.lastUp = some false then
    [{ level := .info
       message := "scrape target recovered"
       scraper := name
       url := some scraper.url
       failedTicks := some scraper.failedTicks }]
  else []

/-- What a failure logs, once it has been counted. -/
def failureLine (failure : Error) : LogLine :=
  if scraper.lastUp = some false then
    { level := .debug
      message := "scrape still failing"
      scraper := name
      url := some scraper.url
      error := some failure
      failedTicks := some scraper.failedTicks }
  else
    { level := .warn
      message := "scrape target down"
      scraper := name
      url := some scraper.url
      error := some failure }

/-- `collect`, with the lines that it logs. -/
def collectLogged (tick : Tick) :
    (Duration × List Metric × PrometheusScraper) × List LogLine :=
  let dropped := scraper.scrapeAndParseLines support name tick
  match scraper.scrapeAndParse support tick with
  | (elapsed, .ok (metrics, samples), scraper) =>
      let lines := scraper.recoveryLines name
      let scraper := { scraper with lastUp := some true, failedTicks := 0 }
      ((elapsed, metrics ++ scraper.health support elapsed samples tick.wallClock metrics.length,
        scraper), dropped ++ lines)
  | (elapsed, .error failure, scraper) =>
      let scraper := { scraper with failedTicks := scraper.failedTicks + 1 }
      let line := scraper.failureLine name failure
      let scraper := { scraper with lastUp := some false }
      ((elapsed, scraper.health support elapsed 0 tick.wallClock 0, scraper), dropped ++ [line])

/-- Logging changes nothing. -/
theorem collectLogged_fst (tick : Tick) :
    (scraper.collectLogged support name tick).1 = scraper.collect support tick := by
  unfold collectLogged collect
  rcases scraper.scrapeAndParse support tick with ⟨elapsed, outcome, after⟩
  cases outcome with
  | ok parsed => rfl
  | error failure => rfl

end Lines

/-- A tick that has been, and the scraper after it. -/
structure Report where
  tick : Tick
  elapsed : Duration
  metrics : List Metric
  after : PrometheusScraper
  lines : List LogLine

section Runs

variable (support : ScrapeSupport) (name : String)

def report (scraper : PrometheusScraper) (tick : Tick) : Report :=
  match scraper.collectLogged support name tick with
  | ((elapsed, metrics, after), lines) => { tick, elapsed, metrics, after, lines }

/-- One tick after the other. -/
def history (scraper : PrometheusScraper) : List Tick → List Report
  | [] => []
  | tick :: rest =>
      let report := scraper.report support name tick
      report :: history report.after rest

theorem history_ticks (scraper : PrometheusScraper) (ticks : List Tick) :
    (scraper.history support name ticks).map Report.tick = ticks := by
  induction ticks generalizing scraper with
  | nil => rfl
  | cons tick rest inductionHypothesis => exact congrArg _ (inductionHypothesis _)

end Runs

/-! ## One tick -/

section Cases

variable (support : ScrapeSupport) (name : String) (scraper : PrometheusScraper)

/-- The samples of a body that is delivered and can be parsed. -/
def parsedSamples (timeout : Duration) (endpoint : Endpoint) : Option (List Sample) :=
  (delivered timeout endpoint).bind fun text => (support.parse text).toOption

theorem completes_eq (timeout : Duration) (endpoint : Endpoint) :
    completes support timeout endpoint = (parsedSamples support timeout endpoint).isSome := by
  unfold completes parsedSamples
  cases delivered timeout endpoint with
  | none => rfl
  | some text =>
      rw [Option.any_some, Option.bind_some]
      cases support.parse text <;> rfl

/-- The scraper after a failed tick. -/
def failed : PrometheusScraper :=
  { scraper with lastUp := some false, failedTicks := scraper.failedTicks + 1 }

/-- The scraper after a tick that has succeeded. -/
def succeeded (cache : LabelCache) : PrometheusScraper :=
  { scraper with cache, lastUp := some true, failedTicks := 0 }

/-- The one way to fail and the one way to succeed. -/
theorem report_cases (tick : Tick) :
    (parsedSamples support scraper.scrapeTimeout tick.endpoint = none ∧
      ∃ failure, scraper.report support name tick = {
        tick
        elapsed := requestEnd scraper.scrapeTimeout tick.endpoint
        metrics := scraper.failed.health support (requestEnd scraper.scrapeTimeout tick.endpoint)
          0 tick.wallClock 0
        after := scraper.failed
        lines := [{ scraper with failedTicks := scraper.failedTicks + 1 }.failureLine
          name failure] }) ∨
    ∃ samples, parsedSamples support scraper.scrapeTimeout tick.endpoint = some samples ∧
      ∃ metrics cache, samplesToMetrics tick.wallClock scraper.cache [] samples =
          (metrics, cache) ∧
        scraper.report support name tick = {
          tick
          elapsed := requestEnd scraper.scrapeTimeout tick.endpoint
          metrics := metrics ++ (scraper.succeeded cache).health support
            (requestEnd scraper.scrapeTimeout tick.endpoint) samples.length tick.wallClock
            metrics.length
          after := scraper.succeeded cache
          lines := samples.flatMap (sampleToMetricLines name) ++ scraper.recoveryLines name } := by
  rcases scrape_eq support scraper tick.endpoint with ⟨ends, yields⟩
  unfold report collectLogged scrapeAndParse scrapeAndParseLines parsedSamples
  rw [← ends, ← yields]
  rcases scraper.scrape support tick.endpoint with ⟨elapsed, outcome⟩
  cases outcome with
  | error failure => exact Or.inl ⟨rfl, failure, rfl⟩
  | ok body =>
      simp only [Except.toOption, Option.bind_some]
      cases support.parse body with
      | error message => exact Or.inl ⟨rfl, _, rfl⟩
      | ok samples => exact Or.inr ⟨samples, rfl, _, _, rfl, rfl⟩

end Cases

/-! ## The series of a tick -/

/-- What is kept of a metric's time series: all but the time. -/
def series (metric : Metric) : String × Labels × UInt64 × MetricType :=
  (metric.name, metric.labels, metric.value, metric.metricType)

/-- A sample as it is passed on. The base labels are over its own, and there is no series
for a histogram or a summary. -/
def forwarded (base : Labels) (sample : Sample) : Option (String × Labels × UInt64 × MetricType) :=
  let labels := LabelCache.withBase { base } (.ofList sample.labels)
  match sample.value with
  | .counter value => some (sample.metric, labels, value, .counter)
  | .gauge value => some (sample.metric, labels, value, .gauge)
  | .untyped value => some (sample.metric, labels, value, .counter)
  | .histogram | .summary => none

private theorem sampleToMetric_series (cache : LabelCache) (now : SystemTime) (sample : Sample) :
    (sampleToMetric cache now sample).1.map series = forwarded cache.base sample ∧
      (sampleToMetric cache now sample).2.base = cache.base := by
  have labels := cache.intern_labels (.ofList sample.labels)
  have base := cache.intern_base (.ofList sample.labels)
  unfold sampleToMetric forwarded
  cases sample.value with
  | counter value | gauge value | untyped value =>
      exact ⟨congrArg (fun labels => some (sample.metric, labels, value, _)) labels, base⟩
  | histogram | summary => exact ⟨rfl, rfl⟩

theorem samplesToMetrics_series (wallClock : Nat → SystemTime) (cache : LabelCache)
    (metrics : List Metric) (samples : List Sample) :
    (samplesToMetrics wallClock cache metrics samples).1.map series =
        metrics.map series ++ samples.filterMap (forwarded cache.base) ∧
      (samplesToMetrics wallClock cache metrics samples).2.base = cache.base := by
  induction samples generalizing cache metrics with
  | nil => exact ⟨(List.append_nil _).symm, rfl⟩
  | cons sample rest inductionHypothesis =>
      rcases sampleToMetric_series cache (wallClock metrics.length) sample with
        ⟨isSeries, sameBase⟩
      unfold samplesToMetrics
      rcases made : sampleToMetric cache (wallClock metrics.length) sample with ⟨metric, next⟩
      rw [made] at isSeries sameBase
      cases metric with
      | none =>
          rcases inductionHypothesis next metrics with ⟨others, othersBase⟩
          rw [sameBase] at others othersBase
          rw [List.filterMap_cons_none isSeries.symm]
          exact ⟨others, othersBase⟩
      | some metric =>
          rcases inductionHypothesis next (metrics ++ [metric]) with ⟨others, othersBase⟩
          rw [sameBase] at others othersBase
          rw [List.filterMap_cons_some isSeries.symm]
          refine ⟨?_, othersBase⟩
          rw [others, List.map_append, List.append_assoc]
          rfl

/-- The series of the samples, and after them those of the scrape itself. -/
structure Emits (support : ScrapeSupport) (name : String) (config : PrometheusCollectorConfig)
    (report : Report) (samples : List Sample) (target : List Metric) : Prop where
  metrics : report.metrics = target ++
    [.gauge "up"
        (if completes support config.scrapeTimeout report.tick.endpoint then f64One else f64Zero)
        (new name config).healthLabels (report.tick.wallClock target.length),
      .gauge "scrape_duration_seconds"
        (support.asSecsF64 (requestEnd config.scrapeTimeout report.tick.endpoint))
        (new name config).healthLabels (report.tick.wallClock (target.length + 1)),
      .gauge "scrape_samples_scraped" (support.usizeAsF64 samples.length)
        (new name config).healthLabels (report.tick.wallClock (target.length + 2))]
  target : target.map series = samples.filterMap (forwarded config.staticLabels)

/-! ## The whole history -/

section History

variable (support : ScrapeSupport) (name : String) (config : PrometheusCollectorConfig)

/-- What is logged above `debug`, but for the texts of the errors. -/
def loud (lines : List LogLine) : List LogLine :=
  (lines.filter fun line => line.level ≠ .debug).map fun line => { line with error := none }

/-- The scraper counts failed ticks, warns when they begin, and tells how many they were. -/
def outages : Observer Report LogLine where
  failed report := !completes support config.scrapeTimeout report.tick.endpoint
  counted report := report.after.failedTicks
  said report := loud report.lines
  began := {
    level := .warn
    message := "scrape target down"
    scraper := name
    url := some config.url }
  ended failures := {
    level := .info
    message := "scrape target recovered"
    scraper := name
    url := some config.url
    failedTicks := some failures }

/-- What does not change, and what the last outcome and the counter have to do with each other. -/
structure Tallies (scraper : PrometheusScraper) : Prop where
  scrapeTimeout : scraper.scrapeTimeout = config.scrapeTimeout
  url : scraper.url = config.url
  base : scraper.cache.base = config.staticLabels
  healthLabels : scraper.healthLabels = (new name config).healthLabels
  outage : scraper.lastUp = some false ↔ 0 < scraper.failedTicks

theorem new_tallies : Tallies name config (new name config) where
  scrapeTimeout := rfl
  url := rfl
  base := LabelCache.intern_base { base := config.staticLabels } _
  healthLabels := rfl
  outage := by simp [new]

/-- A tick that fails emits nothing of the target. -/
structure Shows (report : Report) : Prop where
  lastUp : report.after.lastUp =
    some (completes support config.scrapeTimeout report.tick.endpoint)
  emits : ∃ target,
    Emits support name config report
      ((parsedSamples support config.scrapeTimeout report.tick.endpoint).getD []) target ∧
    (completes support config.scrapeTimeout report.tick.endpoint = false → target = [])

variable {name config} {scraper : PrometheusScraper}

private theorem dropped_quiet (samples : List Sample) :
    loud (samples.flatMap (sampleToMetricLines name)) = [] := by
  rw [loud, List.map_eq_nil_iff, List.filter_eq_nil_iff]
  intro line member
  rcases List.mem_flatMap.mp member with ⟨sample, -, member⟩
  unfold sampleToMetricLines at member
  split at member
  · rw [List.mem_singleton.mp member]
    exact fun isLoud => of_decide_eq_true isLoud rfl
  · rw [List.mem_singleton.mp member]
    exact fun isLoud => of_decide_eq_true isLoud rfl
  · cases member

/-- Failures have been counted, or the target is not known to be down. -/
private theorem Tallies.cases (tallies : Tallies name config scraper) :
    (scraper.lastUp ≠ some false ∧ scraper.failedTicks = 0) ∨
      scraper.lastUp = some false ∧ ∃ failures, scraper.failedTicks = failures + 1 := by
  by_cases down : scraper.lastUp = some false
  · have counted := tallies.outage.mp down
    exact Or.inr ⟨down, scraper.failedTicks - 1, by omega⟩
  · have uncounted : ¬ 0 < scraper.failedTicks := fun counted => down (tallies.outage.mpr counted)
    exact Or.inl ⟨down, Nat.eq_zero_of_not_pos uncounted⟩

/-- The warning comes with the first failure. -/
private theorem failureLine_loud (tallies : Tallies name config scraper) (failure : Error) :
    loud [{ scraper with failedTicks := scraper.failedTicks + 1 }.failureLine name failure] =
      (outages support name config).call scraper.failedTicks true := by
  unfold failureLine
  rw [tallies.url]
  rcases tallies.cases with ⟨notDown, uncounted⟩ | ⟨down, failures, counted⟩
  · rw [if_neg notDown, uncounted]
    rfl
  · rw [if_pos down, counted]
    rfl

/-- The notice comes with the first success after a failure. -/
private theorem recoveryLines_loud (tallies : Tallies name config scraper) :
    loud (scraper.recoveryLines name) =
      (outages support name config).call scraper.failedTicks false := by
  unfold recoveryLines
  rw [tallies.url]
  rcases tallies.cases with ⟨notDown, uncounted⟩ | ⟨down, failures, counted⟩
  · rw [if_neg notDown, uncounted]
    rfl
  · rw [if_pos down, counted]
    rfl

private theorem loud_append (first second : List LogLine) :
    loud (first ++ second) = loud first ++ loud second := by
  rw [loud, List.filter_append, List.map_append]
  rfl

/-- A tick keeps the tally and says what the outcome calls for. -/
theorem Tallies.report (tallies : Tallies name config scraper) (tick : Tick) :
    Tallies name config (scraper.report support name tick).after ∧
      Shows support name config (scraper.report support name tick) ∧
      (outages support name config).Heeds scraper.failedTicks
        (scraper.report support name tick) := by
  rcases scraper.report_cases support name tick with
    ⟨unparsed, failure, isReport⟩ | ⟨samples, parsed, metrics, cache, made, isReport⟩
  · rw [isReport]
    rw [tallies.scrapeTimeout] at unparsed ⊢
    have incomplete : completes support config.scrapeTimeout tick.endpoint = false := by
      rw [completes_eq, unparsed]
      rfl
    have fails : (!completes support config.scrapeTimeout tick.endpoint) = true :=
      congrArg not incomplete
    refine ⟨?_, ⟨?_, [], ⟨?_, ?_⟩, fun _ => rfl⟩, ⟨?_, ?_⟩⟩
    · exact { tallies with outage := by simp [failed] }
    · rw [incomplete]
      rfl
    · rw [incomplete, unparsed]
      simp [health, failed, tallies.healthLabels]
    · rw [unparsed]
      rfl
    · exact (congrArg (Observer.count scraper.failedTicks) fails).symm
    · have called := congrArg ((outages support name config).call scraper.failedTicks) fails
      exact (failureLine_loud support tallies failure).trans called.symm
  · rw [isReport]
    rw [tallies.scrapeTimeout] at parsed ⊢
    have complete : completes support config.scrapeTimeout tick.endpoint = true := by
      rw [completes_eq, parsed]
      rfl
    have fails : (!completes support config.scrapeTimeout tick.endpoint) = false :=
      congrArg not complete
    rcases samplesToMetrics_series tick.wallClock scraper.cache [] samples with ⟨target, base⟩
    rw [made, tallies.base] at target base
    refine ⟨?_, ⟨?_, metrics, ⟨?_, ?_⟩, ?_⟩, ⟨?_, ?_⟩⟩
    · exact { tallies with base, outage := by simp [succeeded] }
    · rw [complete]
      rfl
    · rw [complete, parsed]
      simp [health, succeeded, tallies.healthLabels]
    · rw [parsed]
      exact target
    · intro incomplete
      rw [complete] at incomplete
      cases incomplete
    · exact (congrArg (Observer.count scraper.failedTicks) fails).symm
    · have called := congrArg ((outages support name config).call scraper.failedTicks) fails
      show loud (samples.flatMap (sampleToMetricLines name) ++ scraper.recoveryLines name) = _
      rw [loud_append, dropped_quiet, List.nil_append]
      exact (recoveryLines_loud support tallies).trans called.symm

/-- And so does one tick after the other. -/
theorem Tallies.history (tallies : Tallies name config scraper) (ticks : List Tick) :
    (∀ report ∈ scraper.history support name ticks, Shows support name config report) ∧
      (outages support name config).Follows scraper.failedTicks
        (scraper.history support name ticks) := by
  induction ticks generalizing scraper with
  | nil => exact ⟨nofun, trivial⟩
  | cons tick rest inductionHypothesis =>
      rcases tallies.report support tick with ⟨talliesAfter, shows, heeds⟩
      rcases inductionHypothesis talliesAfter with ⟨restShow, follows⟩
      refine ⟨?_, heeds, ?_⟩
      · intro report member
        rcases List.mem_cons.mp member with rfl | member
        · exact shows
        · exact restShow report member
      · rw [← heeds.counted]
        exact follows

end History

/-- What is to be said of the ticks of a scraper, from the first one on. -/
structure Accounts (support : ScrapeSupport) (name : String) (config : PrometheusCollectorConfig)
    (ticks : List Tick) : Prop where
  whole : ((new name config).history support name ticks).map Report.tick = ticks
  each : ∀ report ∈ (new name config).history support name ticks,
    Shows support name config report
  /-- `failedTicks` is the length of the trailing run of failures. -/
  failedTicks : ∀ earlier report later,
    (new name config).history support name ticks = earlier ++ report :: later →
      report.after.failedTicks =
        ((outages support name config).outage (earlier ++ [report])).length
  /-- One warning in each run of failures, and one notice after it with its length. -/
  speaks : (outages support name config).SpeaksPerRun
    ((new name config).history support name ticks)

theorem history_accounted (support : ScrapeSupport) (name : String)
    (config : PrometheusCollectorConfig) (ticks : List Tick) :
    Accounts support name config ticks := by
  rcases (new_tallies name config).history support ticks with ⟨each, follows⟩
  refine ⟨history_ticks support name _ ticks, each, ?_, ?_⟩
  · intro earlier report later isHistory
    rw [isHistory] at follows
    exact (outages support name config).counted_eq follows
  · exact (outages support name config).speaksPerRun follows

/-- Down for two ticks, and up again. -/
example :
    ((new "web" { url := "http://web" }).history sampleSupport "web"
      [{ endpoint := .silent, wallClock := fun _ => 0 },
        { endpoint := .refuses 1 "connection refused", wallClock := fun _ => 0 },
        { endpoint := .answers 1 { code := 200, display := "200 OK" } (.whole 0 "up 1")
          wallClock := fun _ => 0 }]).map
      (fun report => report.lines.map fun line => (line.level, line.failedTicks)) =
    [[(.warn, none)], [(.debug, some 2)], [(.info, some 2)]] := by
  decide +kernel

end PrometheusScraper

end Ferrometer.Collector
