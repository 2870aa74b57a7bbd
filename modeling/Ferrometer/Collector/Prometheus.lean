import Ferrometer.Collector.Float
import Ferrometer.Collector.LabelCache
import Ferrometer.Error
import Ferrometer.Http

/-!
Contract: one tick of a Prometheus scraper.

Owns: the request with its checks, the conversion of samples, the state that a
tick leaves behind, and the health series that every tick ends with.

Does not own: the text format, which is a parameter, and the credentials of the
request. Logging is left out.
-/

set_option autoImplicit false

namespace Ferrometer.Collector

open Ferrometer.Config

/-! ## Model -/

/-- The values are the bit patterns of the `f64`. -/
inductive Value where
  | counter (value : UInt64)
  | gauge (value : UInt64)
  | untyped (value : UInt64)
  | histogram
  | summary
deriving DecidableEq

structure Sample where
  metric : String
  value : Value
  /-- As the iteration over the labels lists them. -/
  labels : List (String × String)
  /-- Nanoseconds from the Unix epoch. -/
  timestamp : Int
deriving DecidableEq

/-- What a scraper takes from elsewhere. -/
structure ScrapeSupport where
  /-- `Scrape::parse` on the lines of a body. -/
  parse : String → Except String (List Sample)
  asSecsF64 : Duration → UInt64
  usizeAsF64 : Nat → UInt64
  /-- What a request says that has run out of time. -/
  timedOut : String

/-- What the outside decides during one tick. -/
structure Tick where
  endpoint : Endpoint
  /-- The wall clock when the metric at this place of the result is made. -/
  wallClock : Nat → SystemTime

structure PrometheusScraper where
  scrapeTimeout : Duration
  url : String
  cache : LabelCache
  healthLabels : Labels
  /-- The outcome of the previous tick. -/
  lastUp : Option Bool := none
  /-- Failed ticks in a row. -/
  failedTicks : Nat := 0

/-- `timestamp_nanos_opt`: nothing for a time that an `i64` cannot hold. -/
def timestampNanosOpt (timestamp : Int) : Option Int :=
  if -9223372036854775808 ≤ timestamp ∧ timestamp < 9223372036854775808 then some timestamp
  else none

def sampleToMetric (cache : LabelCache) (now : SystemTime) (sample : Sample) :
    Option Metric × LabelCache :=
  let typed : Option (UInt64 × MetricType) :=
    match sample.value with
    | .counter value => some (value, .counter)
    | .gauge value => some (value, .gauge)
    | .untyped value => some (value, .counter)
    | .histogram | .summary => none
  match typed with
  | none => (none, cache)
  | some (value, metricType) =>
      let (labels, cache) := cache.intern (.ofList sample.labels)
      let timestamp :=
        match timestampNanosOpt sample.timestamp with
        | some nanos => max nanos 0
        | none => now
      (some { name := sample.metric, labels, value, timestamp, metricType }, cache)

/-- The loop over the samples, with `metrics` as it carries them. -/
def samplesToMetrics (wallClock : Nat → SystemTime) :
    LabelCache → List Metric → List Sample → List Metric × LabelCache
  | cache, metrics, [] => (metrics, cache)
  | cache, metrics, sample :: rest =>
      match sampleToMetric cache (wallClock metrics.length) sample with
      | (some metric, cache) => samplesToMetrics wallClock cache (metrics ++ [metric]) rest
      | (none, cache) => samplesToMetrics wallClock cache metrics rest

namespace PrometheusScraper

def new (name : String) (config : PrometheusCollectorConfig) : PrometheusScraper :=
  let cache : LabelCache := { base := config.staticLabels }
  let (healthLabels, cache) := cache.intern (.ofList [("scraper", name)])
  { scrapeTimeout := config.scrapeTimeout, url := config.url, cache, healthLabels }

section Collect

variable (support : ScrapeSupport) (scraper : PrometheusScraper)

/-- The body, and when the request is over. -/
def scrape (endpoint : Endpoint) : Duration × Except Error String :=
  match endpoint.send scraper.scrapeTimeout support.timedOut with
  | (elapsed, .error message) =>
      (elapsed, .error (.collector ("scrape " ++ scraper.url ++ ": " ++ message)))
  | (elapsed, .ok (status, body)) =>
      if status.isSuccess then
        match body.text scraper.scrapeTimeout support.timedOut elapsed with
        | (elapsed, .error message) =>
            (elapsed,
              .error (.collector ("scrape " ++ scraper.url ++ ": body read: " ++ message)))
        | (elapsed, .ok text) => (elapsed, .ok text)
      else
        (elapsed,
          .error (.collector ("scrape " ++ scraper.url ++ ": HTTP " ++ status.display)))

/-- The metrics with the number of samples before any was dropped. Parsing takes no
time. -/
def scrapeAndParse (tick : Tick) :
    Duration × Except Error (List Metric × Nat) × PrometheusScraper :=
  match scraper.scrape support tick.endpoint with
  | (elapsed, .error failure) => (elapsed, .error failure, scraper)
  | (elapsed, .ok body) =>
      match support.parse body with
      | .error message =>
          (elapsed, .error (.collector ("parse scrape " ++ scraper.url ++ ": " ++ message)),
            scraper)
      | .ok samples =>
          let (metrics, cache) := samplesToMetrics tick.wallClock scraper.cache [] samples
          (elapsed, .ok (metrics, samples.length), { scraper with cache })

/-- The series that Prometheus itself would add. -/
def health (elapsed : Duration) (samples : Nat) (wallClock : Nat → SystemTime) (place : Nat) :
    List Metric :=
  [.gauge "up" (if scraper.lastUp = some true then f64One else f64Zero) scraper.healthLabels
      (wallClock place),
    .gauge "scrape_duration_seconds" (support.asSecsF64 elapsed) scraper.healthLabels
      (wallClock (place + 1)),
    .gauge "scrape_samples_scraped" (support.usizeAsF64 samples) scraper.healthLabels
      (wallClock (place + 2))]

/-- The metrics of a tick, when they are there, and the scraper after it. -/
def collect (tick : Tick) : Duration × List Metric × PrometheusScraper :=
  match scraper.scrapeAndParse support tick with
  | (elapsed, .ok (metrics, samples), scraper) =>
      let scraper := { scraper with lastUp := some true, failedTicks := 0 }
      (elapsed, metrics ++ scraper.health support elapsed samples tick.wallClock metrics.length,
        scraper)
  | (elapsed, .error _, scraper) =>
      let scraper := { scraper with
        lastUp := some false
        failedTicks := scraper.failedTicks + 1 }
      (elapsed, scraper.health support elapsed 0 tick.wallClock 0, scraper)

end Collect

/-! ## When a scrape completes -/

/-- When the exchange is over by itself. The body of a failure status is not read. -/
def finishes : Endpoint → Option Duration
  | .refuses after _ => some after
  | .answers after status body =>
      if status.isSuccess then
        match body with
        | .whole further _ | .broken further _ => some (after + further)
        | .stalls => none
      else some after
  | .silent => none

/-- When the request is over, by itself or by the timeout. -/
def requestEnd (timeout : Duration) (endpoint : Endpoint) : Duration :=
  match finishes endpoint with
  | some elapsed => min elapsed timeout
  | none => timeout

/-- The body, if the endpoint delivers one and does so in time. -/
def delivered (timeout : Duration) : Endpoint → Option String
  | .answers after status (.whole further text) =>
      if status.isSuccess ∧ after + further < timeout then some text else none
  | _ => none

/-- The endpoint delivers a body that can be parsed. -/
def completes (support : ScrapeSupport) (timeout : Duration) (endpoint : Endpoint) : Bool :=
  (delivered timeout endpoint).any fun text => (support.parse text).isOk

theorem requestEnd_le (timeout : Duration) (endpoint : Endpoint) :
    requestEnd timeout endpoint ≤ timeout := by
  unfold requestEnd
  split
  · exact Nat.min_le_right _ _
  · exact Nat.le_refl _

section Laws

variable (support : ScrapeSupport) (scraper : PrometheusScraper)

private theorem within_early {Item : Type} {timeout elapsed : Nat} {timedOut : String}
    {outcome : Except String Item} (inTime : elapsed < timeout) :
    within timeout elapsed timedOut outcome = (elapsed, outcome) :=
  if_pos inTime

private theorem within_late {Item : Type} {timeout elapsed : Nat} {timedOut : String}
    {outcome : Except String Item} (late : timeout ≤ elapsed) :
    within timeout elapsed timedOut outcome = (timeout, .error timedOut) :=
  if_neg (Nat.not_lt.mpr late)

private theorem delivered_of_failure {timeout after : Nat} {status : StatusCode}
    (refused : ¬ status.isSuccess = true) (body : BodyAnswer) :
    delivered timeout (.answers after status body) = none := by
  cases body <;> simp [delivered, refused]

/-- The second half of a request, after a head that has come in time. -/
private theorem text_eq {timeout after : Nat} {timedOut : String} {status : StatusCode}
    (accepted : status.isSuccess = true) (body : BodyAnswer) :
    (body.text timeout timedOut after).1 = requestEnd timeout (.answers after status body) ∧
      (body.text timeout timedOut after).2.toOption =
        delivered timeout (.answers after status body) := by
  cases body with
  | stalls => simp [BodyAnswer.text, requestEnd, finishes, delivered, accepted, Except.toOption]
  | whole further text =>
      by_cases whole : after + further < timeout
      · simp [BodyAnswer.text, within_early whole, requestEnd, finishes, delivered, accepted,
          whole, Nat.min_eq_left (Nat.le_of_lt whole), Except.toOption]
      · have late : timeout ≤ after + further := Nat.le_of_not_lt whole
        simp [BodyAnswer.text, within_late late, requestEnd, finishes, delivered, accepted,
          whole, Nat.min_eq_right late, Except.toOption]
  | broken further message =>
      by_cases broke : after + further < timeout
      · simp [BodyAnswer.text, within_early broke, requestEnd, finishes, delivered, accepted,
          Nat.min_eq_left (Nat.le_of_lt broke), Except.toOption]
      · have late : timeout ≤ after + further := Nat.le_of_not_lt broke
        simp [BodyAnswer.text, within_late late, requestEnd, finishes, delivered, accepted,
          Nat.min_eq_right late, Except.toOption]

/-- A head that comes late takes the body with it. -/
private theorem answers_late {timeout after : Nat} (late : timeout ≤ after)
    (status : StatusCode) (body : BodyAnswer) :
    requestEnd timeout (.answers after status body) = timeout ∧
      delivered timeout (.answers after status body) = none := by
  have later : ∀ further, timeout ≤ after + further :=
    fun further => late.trans (Nat.le_add_right after further)
  by_cases accepted : status.isSuccess = true
  · cases body with
    | stalls => simp [requestEnd, finishes, delivered, accepted]
    | whole further text =>
        simp [requestEnd, finishes, delivered, accepted, Nat.min_eq_right (later further),
          Nat.not_lt.mpr (later further)]
    | broken further message =>
        simp [requestEnd, finishes, delivered, accepted, Nat.min_eq_right (later further)]
  · refine ⟨by simp [requestEnd, finishes, accepted, Nat.min_eq_right late], ?_⟩
    exact delivered_of_failure accepted body

/-- A request ends with the exchange or with the timeout, and yields what has been
delivered by then. -/
theorem scrape_eq (endpoint : Endpoint) :
    (scraper.scrape support endpoint).1 = requestEnd scraper.scrapeTimeout endpoint ∧
      (scraper.scrape support endpoint).2.toOption =
        delivered scraper.scrapeTimeout endpoint := by
  cases endpoint with
  | silent => exact ⟨rfl, rfl⟩
  | refuses after message =>
      simp only [scrape, Endpoint.send]
      by_cases inTime : after < scraper.scrapeTimeout
      · simp [within_early inTime, requestEnd, finishes, delivered,
          Nat.min_eq_left (Nat.le_of_lt inTime), Except.toOption]
      · have late : scraper.scrapeTimeout ≤ after := Nat.le_of_not_lt inTime
        simp [within_late late, requestEnd, finishes, delivered, Nat.min_eq_right late,
          Except.toOption]
  | answers after status body =>
      simp only [scrape, Endpoint.send]
      by_cases inTime : after < scraper.scrapeTimeout
      · by_cases accepted : status.isSuccess = true
        · rw [within_early inTime]
          rcases text_eq accepted body with ⟨ends, yields⟩
          rw [← ends, ← yields]
          simp only [if_pos accepted]
          cases body.text scraper.scrapeTimeout support.timedOut after with
          | mk elapsed outcome => cases outcome <;> exact ⟨rfl, rfl⟩
        · rw [delivered_of_failure accepted]
          simp [within_early inTime, accepted, requestEnd, finishes,
            Nat.min_eq_left (Nat.le_of_lt inTime), Except.toOption]
      · have late : scraper.scrapeTimeout ≤ after := Nat.le_of_not_lt inTime
        rcases answers_late late status body with ⟨ends, nothing⟩
        rw [ends, nothing, within_late late]
        exact ⟨rfl, rfl⟩

/-- What a tick does, whatever the endpoint does. -/
structure Collects (tick : Tick) (elapsed : Duration) (result : List Metric)
    (after : PrometheusScraper) : Prop where
  ends : elapsed = requestEnd scraper.scrapeTimeout tick.endpoint
  lastUp : after.lastUp = some (completes support scraper.scrapeTimeout tick.endpoint)
  healthLabels : after.healthLabels = scraper.healthLabels
  scrapeTimeout : after.scrapeTimeout = scraper.scrapeTimeout
  /-- The health series come last, and after a failure nothing comes before them. -/
  series : ∃ metrics samples, result = metrics ++
      after.health support elapsed samples tick.wallClock metrics.length ∧
    (completes support scraper.scrapeTimeout tick.endpoint = false → metrics = [])

theorem collect_spec (tick : Tick) :
    scraper.Collects support tick (scraper.collect support tick).1
      (scraper.collect support tick).2.1 (scraper.collect support tick).2.2 := by
  rcases scrape_eq support scraper tick.endpoint with ⟨ends, yields⟩
  unfold collect scrapeAndParse
  rcases scraped : scraper.scrape support tick.endpoint with ⟨elapsed, outcome⟩
  rw [scraped] at ends yields
  cases outcome with
  | error failure =>
      have incomplete : completes support scraper.scrapeTimeout tick.endpoint = false := by
        rw [completes, ← yields]
        rfl
      exact ⟨ends, by rw [incomplete], rfl, rfl, [], 0, rfl, fun _ => rfl⟩
  | ok body =>
      have complete : completes support scraper.scrapeTimeout tick.endpoint =
          (support.parse body).isOk := by
        rw [completes, ← yields]
        rfl
      cases parsed : support.parse body with
      | error message =>
          rw [parsed] at complete
          simp only [parsed]
          exact ⟨ends, by rw [complete]; rfl, rfl, rfl, [], 0, rfl, fun _ => rfl⟩
      | ok samples =>
          rw [parsed] at complete
          simp only [parsed]
          refine ⟨ends, by rw [complete]; rfl, rfl, rfl, _, samples.length, rfl, ?_⟩
          intro incomplete
          rw [complete] at incomplete
          exact absurd incomplete nofun

end Laws

end PrometheusScraper

/-- The support of a scraper whose target answers at once with the line `up 1`. -/
def sampleSupport : ScrapeSupport where
  parse _ := .ok [{ metric := "up", value := .untyped f64One, labels := [], timestamp := 0 }]
  asSecsF64 _ := f64Zero
  usizeAsF64 _ := f64One
  timedOut := "operation timed out"

end Ferrometer.Collector
