import Ferrometer.Foundation.Machine
import Ferrometer.Pipeline.Scheduled
import Ferrometer.Signal
import Mathlib.Data.List.Nodup

/-!
Contract: the scheduler loop, interleaved with the collections it has started.

Owns: one iteration of `scheduler_loop` up to its wait, every outcome of the
wait, the channel of results, and that results are batched once and in order.

Does not own: what a collector collects, or what a forwarder does with a batch.
A result is an event, and so is a wakeup; any order of them is a run.
-/

set_option autoImplicit false

namespace Ferrometer.Pipeline

open Ferrometer.Config Ferrometer.Foundation

/-! ## Model -/

/-- How long a finished result waits for slower collectors to join it. -/
def softDeadline : Duration := .fromSecs 1

structure CollectionResult where
  name : String
  startedAt : Instant
  metrics : Option (List Metric)
deriving DecidableEq

structure Finished where
  metrics : List Metric
  softDeadlineAt : Instant
deriving DecidableEq

/-- What an iteration has found before it waits. -/
structure Wait where
  /-- The instant read at the top of the iteration. -/
  now : Instant
  earliestSoft : Option Instant
  nextDue : Option Instant
deriving DecidableEq

inductive SchedulerPoint where
  | top
  | waiting (wait : Wait)
  | returned
  | halted (reason : Halt)
deriving DecidableEq

inductive SchedulerEvent where
  | iterate (now : Instant)
  /-- A collection is over and its result is in the channel. -/
  | collected (task : Started) (metrics : Option (List Metric))
  | shutdown
  | receive
  | softDeadline (now : Instant)
  | due (now : Instant)
deriving DecidableEq

structure Scheduler where
  scheduleds : List Scheduled
  /-- The collections whose result is not in the channel yet. -/
  running : List Started
  channel : List CollectionResult
  finished : List Finished
  /-- For every forwarder, the batches it has been given, oldest first. -/
  forwarders : List (List (List Metric))
  point : SchedulerPoint
  clock : Instant
  /-- History: every collection started. -/
  started : List Started
  /-- History: every result that `handle_result` has taken. -/
  taken : List CollectionResult
  /-- History: what each `submit_batch` has drained. -/
  emitted : List (List Finished)

def channelCapacity : Nat := 32

/-- Clear `active` of the first entry with this name. -/
def clearActive (name : String) : List Scheduled → List Scheduled
  | [] => []
  | scheduled :: rest =>
      if scheduled.name = name then { scheduled with active := false } :: rest
      else scheduled :: clearActive name rest

/-- The entry that a result adds to `finished`. `none` is a panic on overflow. -/
def CollectionResult.finish (result : CollectionResult) : Option (List Finished) :=
  match result.metrics with
  | none | some [] => some []
  | some metrics => do
      let softDeadlineAt ← addDuration result.startedAt softDeadline
      some [{ metrics, softDeadlineAt }]

def batchOf (finished : List Finished) : List Metric :=
  finished.flatMap Finished.metrics

namespace Scheduler

/-- The scheduler as `run` starts it, with an entry for every collector. -/
def new (config : MetricsConfig) (now : Instant) : Scheduler where
  scheduleds := config.collectors.entries.map fun (name, collector) =>
    match collectorScheduleParams collector with
    | (interval, maxRuntime) => { name, interval, maxRuntime, nextRun := now, active := false }
  running := []
  channel := []
  finished := []
  forwarders := config.forwarders.entries.map fun _ => []
  point := .top
  clock := now
  started := []
  taken := []
  emitted := []

def submitBatch (scheduler : Scheduler) : Scheduler :=
  let batch := batchOf scheduler.finished
  if batch = [] then { scheduler with finished := [] }
  else
    { scheduler with
      finished := []
      forwarders := scheduler.forwarders.map fun inbox => inbox ++ [batch]
      emitted := scheduler.emitted ++ [scheduler.finished] }

def anyActive (scheduler : Scheduler) : Bool :=
  scheduler.scheduleds.any Scheduled.active

def earliestSoft (scheduler : Scheduler) : Option Instant :=
  (scheduler.finished.map Finished.softDeadlineAt).min?

def nextDue (scheduler : Scheduler) : Option Instant :=
  ((scheduler.scheduleds.filter fun scheduled => !scheduled.active).map Scheduled.nextRun).min?

def readyToEmit (scheduler : Scheduler) (now : Instant) : Bool :=
  !scheduler.finished.isEmpty &&
    (!scheduler.anyActive || scheduler.earliestSoft.any fun deadline => deadline ≤ now)

/-- The second and third part of an iteration: emit, return, or wait. -/
def emitOrWait (scheduler : Scheduler) (now : Instant) : Scheduler :=
  if scheduler.readyToEmit now then { scheduler.submitBatch with point := .top }
  else if !scheduler.anyActive && scheduler.finished.isEmpty && scheduler.nextDue.isNone then
    { scheduler with point := .returned }
  else
    { scheduler with point := .waiting {
        now
        earliestSoft := scheduler.earliestSoft
        nextDue := scheduler.nextDue } }

/-- One iteration, from the instant it reads to its wait. -/
def iterate (scheduler : Scheduler) (now : Instant) : Scheduler :=
  match startDue now scheduler.scheduleds with
  | .error reason => { scheduler with clock := now, point := .halted reason }
  | .ok (scheduleds, started) =>
      let scheduler := { scheduler with
        clock := now
        scheduleds
        running := scheduler.running ++ started
        started := scheduler.started ++ started }
      scheduler.emitOrWait now

def handleResult (scheduler : Scheduler) (result : CollectionResult) : Scheduler :=
  let scheduler := { scheduler with
    scheduleds := clearActive result.name scheduler.scheduleds }
  match result.finish with
  | none => { scheduler with point := .halted .overflow }
  | some finished =>
      { scheduler with
        finished := scheduler.finished ++ finished
        taken := scheduler.taken ++ [result]
        point := .top }

/-- Abort the collections in flight. -/
def abort (scheduler : Scheduler) : Scheduler :=
  { scheduler with
    scheduleds := scheduler.scheduleds.map fun scheduled => { scheduled with active := false }
    running := []
    point := .returned }

/-- The branch for the shutdown signal. -/
def shutDown (scheduler : Scheduler) : Scheduler :=
  let scheduler := scheduler.abort
  if scheduler.finished = [] then scheduler else scheduler.submitBatch

/-- The end of a spawned task: its result goes into the channel. -/
def sendResult (scheduler : Scheduler) (task : Started) (metrics : Option (List Metric)) :
    Scheduler :=
  let result : CollectionResult := { name := task.name, startedAt := task.startedAt, metrics }
  { scheduler with
    running := scheduler.running.erase task
    channel := scheduler.channel ++ [result] }

/-- The branches of the wait are tried in order: a timer is up only for an empty
channel. -/
def step (scheduler : Scheduler) : SchedulerEvent → Option Scheduler
  | .iterate now =>
      if scheduler.point = .top ∧ scheduler.clock ≤ now then some (scheduler.iterate now)
      else none
  | .collected task metrics =>
      if task ∈ scheduler.running ∧ scheduler.channel.length < channelCapacity then
        some (scheduler.sendResult task metrics)
      else none
  | .shutdown =>
      match scheduler.point with
      | .waiting _ => some scheduler.shutDown
      | _ => none
  | .receive =>
      match scheduler.point, scheduler.channel with
      | .waiting _, result :: rest => some ({ scheduler with channel := rest }.handleResult result)
      | _, _ => none
  | .softDeadline now =>
      match scheduler.point with
      | .waiting wait =>
          if scheduler.channel = [] ∧ scheduler.clock ≤ now ∧
              wait.earliestSoft.any fun deadline => deadline ≤ now then
            some { scheduler with clock := now, point := .top }
          else none
      | _ => none
  | .due now =>
      match scheduler.point with
      | .waiting wait =>
          if scheduler.channel = [] ∧ scheduler.clock ≤ now ∧
              wait.nextDue.any fun deadline => deadline ≤ now then
            some { scheduler with clock := now, point := .top }
          else none
      | _ => none

def machine : Machine Scheduler SchedulerEvent where
  step := step

/-! ## The invariant -/

/-- The collectors whose collection runs, or whose result is in the channel. -/
def flying (scheduler : Scheduler) : List String :=
  scheduler.running.map Started.name ++ scheduler.channel.map CollectionResult.name

/-- The metrics of a result, if there are any. -/
def contents (result : CollectionResult) : List (List Metric) :=
  match result.metrics with
  | none | some [] => []
  | some metrics => [metrics]

structure Valid (scheduler : Scheduler) : Prop where
  distinct : (scheduler.scheduleds.map Scheduled.name).Nodup
  single : scheduler.flying.Nodup
  active : scheduler.point ≠ .returned →
    ∀ scheduled ∈ scheduler.scheduleds,
      scheduled.active = true ↔ scheduled.name ∈ scheduler.flying
  filled : ∀ entry ∈ scheduler.finished, entry.metrics ≠ []
  once : (scheduler.emitted.flatten ++ scheduler.finished).map Finished.metrics =
    scheduler.taken.flatMap contents
  sameBatches : ∀ inbox ∈ scheduler.forwarders, inbox = scheduler.emitted.map batchOf
  waits : ∀ wait, scheduler.point = .waiting wait → scheduler.finished = [] ∨
    scheduler.anyActive = true ∧ wait.earliestSoft = scheduler.earliestSoft ∧
      ∀ deadline ∈ scheduler.earliestSoft, wait.now < deadline
  returned : scheduler.point = .returned → scheduler.finished = []

theorem new_valid (config : MetricsConfig) (now : Instant) : (new config now).Valid where
  distinct := by
    have names : (new config now).scheduleds.map Scheduled.name =
        config.collectors.entries.map Prod.fst := by
      simp [new, Function.comp_def]
    rw [names]
    exact config.collectors.distinct
  single := List.nodup_nil
  active := by
    intro _ scheduled member
    rcases List.mem_map.mp member with ⟨entry, -, rfl⟩
    simp [flying, new]
  filled := nofun
  once := rfl
  sameBatches := by
    intro inbox member
    rcases List.mem_map.mp member with ⟨entry, -, rfl⟩
    rfl
  waits := nofun
  returned := nofun

/-! ## Emitting -/

section Emit

variable {scheduler : Scheduler}

theorem batchOf_eq_nil {finished : List Finished} (filled : ∀ entry ∈ finished, entry.metrics ≠ [])
    (nothing : batchOf finished = []) : finished = [] := by
  cases finished with
  | nil => rfl
  | cons first rest =>
      have isEmpty := List.flatMap_eq_nil_iff.mp nothing first List.mem_cons_self
      exact absurd isEmpty (filled first List.mem_cons_self)

/-- Emitting moves what is finished into a batch for every forwarder. -/
theorem submitBatch_eq (filled : ∀ entry ∈ scheduler.finished, entry.metrics ≠ [])
    (nonempty : scheduler.finished ≠ []) :
    scheduler.submitBatch =
      { scheduler with
        finished := []
        forwarders := scheduler.forwarders.map fun inbox => inbox ++ [batchOf scheduler.finished]
        emitted := scheduler.emitted ++ [scheduler.finished] } := by
  have something : batchOf scheduler.finished ≠ [] :=
    fun nothing => nonempty (batchOf_eq_nil filled nothing)
  exact if_neg something

/-- The invariant without the point at which the scheduler stands. -/
theorem Valid.emitted (valid : scheduler.Valid) (nonempty : scheduler.finished ≠ [])
    (point : SchedulerPoint) (notWaiting : ∀ wait, point ≠ .waiting wait)
    (stays : point ≠ .returned → scheduler.point ≠ .returned) :
    { scheduler.submitBatch with point }.Valid := by
  rw [submitBatch_eq valid.filled nonempty]
  exact {
    distinct := valid.distinct
    single := valid.single
    active := fun alive => valid.active (stays alive)
    filled := nofun
    once := by
      rw [← valid.once]
      simp
    sameBatches := by
      intro inbox member
      rcases List.mem_map.mp member with ⟨before, present, rfl⟩
      rw [valid.sameBatches before present, List.map_append, List.map_singleton]
    waits := fun wait stands => absurd stands (notWaiting wait)
    returned := fun _ => rfl }

theorem Valid.emitOrWait (valid : scheduler.Valid) (top : scheduler.point = .top)
    (now : Instant) : (scheduler.emitOrWait now).Valid := by
  have alive : scheduler.point ≠ .returned := by simp [top]
  unfold Scheduler.emitOrWait
  split
  · rename_i ready
    simp only [readyToEmit, Bool.and_eq_true, Bool.not_eq_true', List.isEmpty_eq_false_iff] at ready
    exact valid.emitted ready.1 .top nofun fun _ => alive
  · rename_i notReady
    split
    · rename_i nothingLeft
      simp only [Bool.and_eq_true, List.isEmpty_iff] at nothingLeft
      exact { valid with
        active := fun stands => absurd rfl stands
        waits := nofun
        returned := fun _ => nothingLeft.1.2 }
    · exact { valid with
        active := fun _ => valid.active alive
        waits := by
          intro wait stands
          cases stands
          by_cases nothing : scheduler.finished = []
          · exact Or.inl nothing
          · -- Not ready with something finished: a collector runs, and no deadline is over.
            simp only [readyToEmit, List.isEmpty_eq_false_iff.mpr nothing, Bool.not_false,
              Bool.true_and, Bool.or_eq_true, Bool.not_eq_true', not_or, Bool.not_eq_false,
              Option.any_eq_true, decide_eq_true_eq, not_exists, not_and] at notReady
            refine Or.inr ⟨notReady.1, rfl, ?_⟩
            intro deadline isEarliest
            exact Nat.lt_of_not_le (notReady.2 deadline isEarliest)
        returned := nofun }

end Emit

/-! ## Starting and finishing -/

section Tasks

variable {scheduler : Scheduler}

private theorem started_flying {started : List Started} {now : Instant}
    {scheduleds : List Scheduled} :
    ({ scheduler with
      clock := now
      scheduleds
      running := scheduler.running ++ started
      started := scheduler.started ++ started }.flying).Perm
      (scheduler.flying ++ started.map Started.name) := by
  simp only [flying, List.map_append, List.append_assoc]
  exact List.Perm.append_left _ List.perm_append_comm

/-- Starting what is due puts nothing in flight twice. -/
theorem Valid.started (valid : scheduler.Valid) (top : scheduler.point = .top) {now : Instant}
    {scheduleds : List Scheduled} {started : List Started}
    (starts : StartsDue now scheduler.scheduleds scheduleds started) :
    { scheduler with
      clock := now
      scheduleds
      running := scheduler.running ++ started
      started := scheduler.started ++ started }.Valid := by
  have alive : scheduler.point ≠ .returned := by simp [top]
  have grounded : ∀ task ∈ started, task.name ∉ scheduler.flying := by
    intro task member flies
    rcases starts.due task member with ⟨before, present, idle, -, rfl⟩
    have isActive := (valid.active alive before present).mpr flies
    exact absurd (idle.symm.trans isActive) (by decide)
  exact { valid with
    distinct := by
      show (scheduleds.map Scheduled.name).Nodup
      rw [map_name_of_settings starts.settings]
      exact valid.distinct
    single := by
      apply started_flying.nodup_iff.mpr
      apply List.Nodup.append valid.single (starts.once.nodup valid.distinct)
      intro name flies isStarted
      rcases List.mem_map.mp isStarted with ⟨task, member, rfl⟩
      exact grounded task member flies
    active := by
      intro _ after member
      rw [started_flying.mem_iff, List.mem_append]
      rcases starts.each after member with ⟨before, present, ran⟩
      rcases before.start_cases ran with ⟨-, rfl, none⟩ | ⟨-, -, nextRun, -, rfl, own⟩
      · have notStarted : after.name ∉ started.map Started.name := by
          simpa using List.filter_eq_nil_iff.mp none
        rw [valid.active alive after present]
        exact (or_iff_left notStarted).symm
      · have isStarted : (⟨before.name, now⟩ : Started) ∈ started := by
          apply List.mem_of_mem_filter
          rw [own]
          exact List.mem_singleton_self _
        exact iff_of_true rfl (Or.inr (List.mem_map_of_mem isStarted))
    waits := fun wait stands => absurd (top.symm.trans stands) nofun
    returned := fun stands => absurd stands alive }

theorem Valid.iterate (valid : scheduler.Valid) (top : scheduler.point = .top) (now : Instant) :
    (scheduler.iterate now).Valid := by
  unfold Scheduler.iterate
  cases outcome : startDue now scheduler.scheduleds with
  | error reason =>
      exact { valid with
        active := fun _ => valid.active (by simp [top])
        waits := nofun
        returned := nofun }
  | ok pair =>
      have started := valid.started top (startDue_ok valid.distinct outcome)
      exact started.emitOrWait top now

theorem clearActive_eq_map {scheduleds : List Scheduled}
    (distinct : (scheduleds.map Scheduled.name).Nodup) (name : String) :
    clearActive name scheduleds = scheduleds.map fun scheduled =>
      if scheduled.name = name then { scheduled with active := false } else scheduled := by
  induction scheduleds with
  | nil => rfl
  | cons first rest inductionHypothesis =>
      rw [List.map_cons, List.nodup_cons] at distinct
      rw [clearActive, List.map_cons]
      by_cases found : first.name = name
      · have others : ∀ scheduled ∈ rest, scheduled.name ≠ name := by
          intro scheduled member same
          exact distinct.1 (List.mem_map.mpr ⟨scheduled, member, same.trans found.symm⟩)
        rw [if_pos found, if_pos found]
        apply congrArg (List.cons _)
        rw [List.map_congr_left (g := id)]
        · rw [List.map_id]
        · intro scheduled member
          exact if_neg (others scheduled member)
      · rw [if_neg found, if_neg found, inductionHypothesis distinct.2]

theorem clearActive_settings (name : String) (scheduleds : List Scheduled) :
    (clearActive name scheduleds).map Scheduled.settings =
      scheduleds.map Scheduled.settings := by
  induction scheduleds with
  | nil => rfl
  | cons first rest inductionHypothesis =>
      rw [clearActive]
      split
      · rfl
      · rw [List.map_cons, List.map_cons, inductionHypothesis]

theorem finish_eq_some {result : CollectionResult} {finished : List Finished}
    (ok : result.finish = some finished) :
    finished.map Finished.metrics = contents result ∧
      (∀ entry ∈ finished, entry.metrics ≠ []) ∧
      ∀ entry ∈ finished, entry.softDeadlineAt = result.startedAt + softDeadline := by
  unfold CollectionResult.finish at ok
  split at ok
  · rename_i nothing
    cases ok
    simp [contents, nothing]
  · rename_i isEmpty
    cases ok
    simp [contents, isEmpty]
  · rename_i metrics notEmpty something
    rcases Option.bind_eq_some_iff.mp ok with ⟨softDeadlineAt, added, equal⟩
    cases equal
    have filled : metrics ≠ [] := by
      rintro rfl
      exact notEmpty rfl
    refine ⟨?_, by simpa using filled, ?_⟩
    · cases metrics with
      | nil => exact absurd rfl filled
      | cons first rest => simp [contents, something]
    · simpa using (addDuration_eq_some.mp added).2

/-- A result that is taken clears the one collector that it is from. -/
theorem Valid.handleResult {result : CollectionResult} {rest : List CollectionResult}
    (valid : scheduler.Valid) (alive : scheduler.point ≠ .returned)
    (head : scheduler.channel = result :: rest) :
    ({ scheduler with channel := rest }.handleResult result).Valid := by
  have landed : scheduler.flying.Perm
      (result.name :: { scheduler with channel := rest }.flying) := by
    simp only [flying, head, List.map_cons]
    exact List.perm_middle
  have single := landed.nodup_iff.mp valid.single
  rw [List.nodup_cons] at single
  have active : ∀ scheduled ∈ clearActive result.name scheduler.scheduleds,
      scheduled.active = true ↔
        scheduled.name ∈ { scheduler with channel := rest }.flying := by
    intro after member
    rw [clearActive_eq_map valid.distinct] at member
    rcases List.mem_map.mp member with ⟨before, present, rfl⟩
    have flew := valid.active alive before present
    rw [landed.mem_iff, List.mem_cons] at flew
    split
    · rename_i same
      exact iff_of_false (by simp) (same ▸ single.1)
    · rename_i different
      rw [flew]
      exact or_iff_right different
  unfold Scheduler.handleResult
  cases finishes : result.finish with
  | none =>
      exact { valid with
        distinct := by
          rw [map_name_of_settings (clearActive_settings _ _)]
          exact valid.distinct
        single := single.2
        active := fun _ => active
        waits := nofun
        returned := nofun }
  | some finished =>
      rcases finish_eq_some finishes with ⟨gained, filled, -⟩
      exact { valid with
        distinct := by
          rw [map_name_of_settings (clearActive_settings _ _)]
          exact valid.distinct
        single := single.2
        active := fun _ => active
        filled := by
          intro entry member
          rcases List.mem_append.mp member with old | new
          · exact valid.filled entry old
          · exact filled entry new
        once := by
          rw [← List.append_assoc, List.map_append, valid.once, gained]
          simp
        waits := nofun
        returned := nofun }

private theorem Valid.abort (valid : scheduler.Valid) (nothing : scheduler.finished = []) :
    scheduler.abort.Valid :=
  { valid with
    distinct := by
      have names : scheduler.abort.scheduleds.map Scheduled.name =
          scheduler.scheduleds.map Scheduled.name := by
        simp [Scheduler.abort, Function.comp_def]
      rw [names]
      exact valid.distinct
    single := (List.sublist_append_right _ _).nodup valid.single
    active := fun stands => absurd rfl stands
    waits := nofun
    returned := fun _ => nothing }

private theorem submitBatch_abort (scheduler : Scheduler) :
    scheduler.abort.submitBatch = { scheduler.submitBatch with point := .top }.abort := by
  unfold submitBatch Scheduler.abort
  by_cases nothing : batchOf scheduler.finished = []
  · simp [nothing]
  · simp [nothing]

theorem Valid.shutDown (valid : scheduler.Valid) (alive : scheduler.point ≠ .returned) :
    scheduler.shutDown.Valid := by
  unfold Scheduler.shutDown
  by_cases nothing : scheduler.finished = []
  · rw [if_pos (show scheduler.abort.finished = [] from nothing)]
    exact valid.abort nothing
  · rw [if_neg (show scheduler.abort.finished ≠ [] from nothing), submitBatch_abort]
    apply (valid.emitted nothing .top nofun fun _ => alive).abort
    rw [submitBatch_eq valid.filled nothing]

/-- A collection that is over is in flight until its result is taken. -/
theorem Valid.sendResult (valid : scheduler.Valid) {task : Started}
    (present : task ∈ scheduler.running) (metrics : Option (List Metric)) :
    (scheduler.sendResult task metrics).Valid := by
  have moved : (scheduler.sendResult task metrics).flying.Perm scheduler.flying := by
    have erased := (List.perm_cons_erase present).map Started.name
    simp only [flying, Scheduler.sendResult, List.map_append, List.map_cons, List.map_nil]
    refine List.Perm.trans ?_ (erased.symm.append_right _)
    rw [← List.append_assoc]
    exact List.perm_append_comm
  exact { valid with
    single := moved.nodup_iff.mpr valid.single
    active := by
      intro live scheduled member
      rw [moved.mem_iff]
      exact valid.active live scheduled member }

end Tasks

theorem step_valid {scheduler next : Scheduler} {event : SchedulerEvent}
    (valid : scheduler.Valid) (stepped : scheduler.step event = some next) : next.Valid := by
  have alive : ∀ {wait}, scheduler.point = .waiting wait → scheduler.point ≠ .returned := by
    intro wait stands
    simp [stands]
  cases event with
  | iterate now =>
      rw [step] at stepped
      split at stepped
      · rename_i starts
        cases stepped
        exact valid.iterate starts.1 now
      · exact absurd stepped nofun
  | collected task metrics =>
      rw [step] at stepped
      split at stepped
      · rename_i present
        cases stepped
        exact valid.sendResult present.1 metrics
      · exact absurd stepped nofun
  | shutdown =>
      rw [step] at stepped
      split at stepped
      · rename_i wait stands
        cases stepped
        exact valid.shutDown (alive stands)
      · exact absurd stepped nofun
  | receive =>
      rw [step] at stepped
      split at stepped
      · rename_i wait result rest stands head
        cases stepped
        exact valid.handleResult (alive stands) head
      · exact absurd stepped nofun
  | softDeadline now =>
      rw [step] at stepped
      split at stepped
      · rename_i wait stands
        split at stepped
        · cases stepped
          exact { valid with
            active := fun _ => valid.active (alive stands)
            waits := nofun
            returned := nofun }
        · exact absurd stepped nofun
      · exact absurd stepped nofun
  | due now =>
      rw [step] at stepped
      split at stepped
      · rename_i wait stands
        split at stepped
        · cases stepped
          exact { valid with
            active := fun _ => valid.active (alive stands)
            waits := nofun
            returned := nofun }
        · exact absurd stepped nofun
      · exact absurd stepped nofun

theorem run_valid {config : MetricsConfig} {now : Instant} {events : List SchedulerEvent}
    {scheduler : Scheduler} (ran : machine.run (new config now) events = some scheduler) :
    scheduler.Valid :=
  machine.run_invariant (fun valid stepped => step_valid valid stepped) (new_valid config now) ran

/-! ## What a step emits -/

private theorem submitBatch_emits (scheduler : Scheduler) :
    ∃ batches, scheduler.submitBatch.emitted = scheduler.emitted ++ batches ∧
      ∀ batch ∈ batches, batchOf batch ≠ [] := by
  unfold submitBatch
  by_cases nothing : batchOf scheduler.finished = []
  · exact ⟨[], by simp [nothing], nofun⟩
  · exact ⟨[scheduler.finished], by simp [nothing], by simpa using nothing⟩

private theorem emitOrWait_emits (scheduler : Scheduler) (now : Instant) :
    ∃ batches, (scheduler.emitOrWait now).emitted = scheduler.emitted ++ batches ∧
      ∀ batch ∈ batches, batchOf batch ≠ [] := by
  unfold Scheduler.emitOrWait
  split
  · exact submitBatch_emits scheduler
  · split
    · exact ⟨[], by simp, nofun⟩
    · exact ⟨[], by simp, nofun⟩

private theorem shutDown_emits (scheduler : Scheduler) :
    ∃ batches, scheduler.shutDown.emitted = scheduler.emitted ++ batches ∧
      ∀ batch ∈ batches, batchOf batch ≠ [] := by
  by_cases nothing : scheduler.abort.finished = []
  · rw [Scheduler.shutDown, if_pos nothing]
    exact ⟨[], by simp [Scheduler.abort], nofun⟩
  · rw [Scheduler.shutDown, if_neg nothing]
    exact submitBatch_emits scheduler.abort

/-- A step adds batches that are not empty to those that are out, or none. -/
theorem step_emits {scheduler next : Scheduler} {event : SchedulerEvent}
    (stepped : scheduler.step event = some next) :
    ∃ batches, next.emitted = scheduler.emitted ++ batches ∧
      ∀ batch ∈ batches, batchOf batch ≠ [] := by
  have unchanged : ∀ {after : Scheduler}, after.emitted = scheduler.emitted →
      ∃ batches, after.emitted = scheduler.emitted ++ batches ∧
        ∀ batch ∈ batches, batchOf batch ≠ [] :=
    fun same => ⟨[], by simp [same], nofun⟩
  cases event with
  | iterate now =>
      rw [step] at stepped
      split at stepped
      · cases stepped
        unfold Scheduler.iterate
        split
        · exact unchanged rfl
        · exact emitOrWait_emits _ now
      · exact absurd stepped nofun
  | collected task metrics =>
      rw [step] at stepped
      split at stepped
      · cases stepped
        exact unchanged rfl
      · exact absurd stepped nofun
  | shutdown =>
      rw [step] at stepped
      split at stepped
      · cases stepped
        exact shutDown_emits scheduler
      · exact absurd stepped nofun
  | receive =>
      rw [step] at stepped
      split at stepped
      · cases stepped
        unfold Scheduler.handleResult
        split
        · exact unchanged rfl
        · exact unchanged rfl
      · exact absurd stepped nofun
  | softDeadline now =>
      rw [step] at stepped
      split at stepped
      · split at stepped
        · cases stepped
          exact unchanged rfl
        · exact absurd stepped nofun
      · exact absurd stepped nofun
  | due now =>
      rw [step] at stepped
      split at stepped
      · split at stepped
        · cases stepped
          exact unchanged rfl
        · exact absurd stepped nofun
      · exact absurd stepped nofun

/-- The end of a collection changes nothing that the loop itself decides. -/
theorem step_collected {scheduler next : Scheduler} {task : Started}
    {metrics : Option (List Metric)}
    (stepped : scheduler.step (.collected task metrics) = some next) :
    next.emitted = scheduler.emitted ∧ next.finished = scheduler.finished ∧
      next.taken = scheduler.taken ∧ next.point = scheduler.point := by
  rw [step] at stepped
  split at stepped
  · cases stepped
    exact ⟨rfl, rfl, rfl, rfl⟩
  · exact absurd stepped nofun

/-- Once the loop has returned, only collections go on. -/
theorem step_returned {scheduler next : Scheduler} {event : SchedulerEvent}
    (returned : scheduler.point = .returned) (stepped : scheduler.step event = some next) :
    ∃ task metrics, event = .collected task metrics := by
  cases event with
  | collected task metrics => exact ⟨task, metrics, rfl⟩
  | _ => simp [step, returned] at stepped

/-! ## Batches and waits -/

/-- What the scheduler owes to its collectors and forwarders. -/
structure Orderly (scheduler : Scheduler) : Prop where
  oneInFlight : (scheduler.running.map Started.name).Nodup
  /-- Every result with metrics is in one batch, or still to be emitted. -/
  exactlyOnce : scheduler.emitted.flatten.map Finished.metrics ++
    scheduler.finished.map Finished.metrics = scheduler.taken.flatMap contents
  /-- All forwarders are given the same batches in the same order. -/
  sameBatches : ∀ inbox ∈ scheduler.forwarders, inbox = scheduler.emitted.map batchOf
  /-- The metrics are in the order in which they have arrived. -/
  arrivalOrder : ∀ inbox ∈ scheduler.forwarders,
    inbox.flatten ++ batchOf scheduler.finished = (scheduler.taken.flatMap contents).flatten
  /-- A wait with something finished has a collector to wait for, and it wakes up
  for the earliest deadline, which is still to come. -/
  waits : ∀ wait, scheduler.point = .waiting wait → scheduler.finished = [] ∨
    (∃ scheduled ∈ scheduler.scheduleds,
      scheduled.active = true ∧ scheduled.name ∈ scheduler.flying) ∧
    ∃ deadline, wait.earliestSoft = some deadline ∧ wait.now < deadline ∧
      (∃ entry ∈ scheduler.finished, entry.softDeadlineAt = deadline) ∧
      ∀ entry ∈ scheduler.finished, deadline ≤ entry.softDeadlineAt
  returned : scheduler.point = .returned → scheduler.finished = []

private theorem batchOf_append (first second : List Finished) :
    batchOf (first ++ second) = batchOf first ++ batchOf second :=
  List.flatMap_append

private theorem batches_flatten (emitted : List (List Finished)) :
    (emitted.map batchOf).flatten = batchOf emitted.flatten := by
  induction emitted with
  | nil => rfl
  | cons first rest inductionHypothesis =>
      rw [List.map_cons, List.flatten_cons, List.flatten_cons, batchOf_append, inductionHypothesis]

private theorem earliestSoft_of_ne_nil {scheduler : Scheduler}
    (nonempty : scheduler.finished ≠ []) :
    ∃ deadline, scheduler.earliestSoft = some deadline ∧
      (∃ entry ∈ scheduler.finished, entry.softDeadlineAt = deadline) ∧
      ∀ entry ∈ scheduler.finished, deadline ≤ entry.softDeadlineAt := by
  have mapped : scheduler.finished.map Finished.softDeadlineAt ≠ [] := by simpa using nonempty
  rcases Option.isSome_iff_exists.mp (List.isSome_min?_of_ne_nil mapped) with ⟨deadline, isMin⟩
  rcases List.min?_eq_some_iff.mp isMin with ⟨member, least⟩
  refine ⟨deadline, isMin, List.mem_map.mp member, ?_⟩
  intro entry present
  exact least _ (List.mem_map_of_mem present)

theorem scheduler_run_orderly (config : MetricsConfig) (now : Instant)
    {events : List SchedulerEvent} {scheduler : Scheduler}
    (ran : machine.run (new config now) events = some scheduler) : scheduler.Orderly := by
  have valid := run_valid ran
  exact {
    oneInFlight := (List.sublist_append_left _ _).nodup valid.single
    exactlyOnce := by
      rw [← List.map_append]
      exact valid.once
    sameBatches := valid.sameBatches
    arrivalOrder := by
      intro inbox member
      rw [valid.sameBatches inbox member, ← valid.once, batches_flatten, ← batchOf_append]
      exact List.flatMap_def
    waits := by
      intro wait stands
      rcases valid.waits wait stands with nothing | ⟨anyActive, awaited, ahead⟩
      · exact Or.inl nothing
      · by_cases nothing : scheduler.finished = []
        · exact Or.inl nothing
        · apply Or.inr
          rcases List.any_eq_true.mp anyActive with ⟨scheduled, member, isActive⟩
          have alive : scheduler.point ≠ .returned := by simp [stands]
          refine ⟨⟨scheduled, member, isActive, ?_⟩, ?_⟩
          · exact (valid.active alive scheduled member).mp isActive
          · rcases earliestSoft_of_ne_nil nothing with ⟨deadline, isEarliest, attained, least⟩
            exact ⟨deadline, awaited.trans isEarliest, ahead deadline isEarliest, attained, least⟩
    returned := valid.returned }

def sampleConfig : MetricsConfig where
  collectors := { entries := [("host", .unix {}), ("web", .prometheus { url := "http://web" })] }
  forwarders := { entries := [("backend", .otlphttp { endpoint := "http://backend" })] }

def loadMetric : Metric where
  name := "node_load1"
  labels := SortedMap.empty
  value := 0
  timestamp := 0
  metricType := .gauge

/-- One of two collectors is done, and the scheduler waits for the other. -/
def slowerCollector : List SchedulerEvent :=
  [.iterate 0, .collected ⟨"host", 0⟩ (some [loadMetric]), .receive, .iterate 5]

theorem scheduler_run_orderly_slower :
    ∃ scheduler, machine.run (new sampleConfig 0) slowerCollector = some scheduler ∧
      scheduler.finished ≠ [] ∧ scheduler.Orderly := by
  have ends : (machine.run (new sampleConfig 0) slowerCollector).map
      (fun scheduler => scheduler.finished.length) = some 1 := by decide +kernel
  rcases Option.map_eq_some_iff.mp ends with ⟨scheduler, ran, single⟩
  refine ⟨scheduler, ran, ?_, scheduler_run_orderly sampleConfig 0 ran⟩
  intro nothing
  rw [nothing] at single
  exact absurd single (by decide)

end Scheduler

end Ferrometer.Pipeline
