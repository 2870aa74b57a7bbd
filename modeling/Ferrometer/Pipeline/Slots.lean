import Ferrometer.Config.Units
import Ferrometer.Config.Validate
import Ferrometer.Pipeline.Scheduler

/-!
Contract: a collector is started at most once per slot of its interval.

Owns: that every step keeps each next run on the grid of its collector, that the
starts of a collector are in ever later slots, and for which intervals the
scheduler gets past its catch-up loop at all.

Does not own: how the scheduler batches what the collectors return.
-/

set_option autoImplicit false

namespace Ferrometer.Pipeline

open Ferrometer.Config Ferrometer.Foundation

/-! ## Every start in its own slot -/

/-- When the collector with this name has been started. -/
def startsOf (name : String) (started : List Started) : List Instant :=
  (started.filter fun task => task.name = name).map Started.startedAt

/-- One entry, given the instants at which it has been started. -/
structure Scheduled.InSlots (scheduled : Scheduled) (start : Instant) (starts : List Instant) :
    Prop where
  grid : ∃ k, scheduled.nextRun = start + k * scheduled.interval
  before : ∀ instant ∈ starts, start ≤ instant ∧ instant < scheduled.nextRun
  increasing : (starts.map (slotOf start scheduled.interval)).Pairwise (· < ·)

/-- A start is in a slot of its own, since the loop leaves the next run behind it. -/
theorem Scheduled.InSlots.start {scheduled next : Scheduled} {start now : Instant}
    {starts : List Instant} {own : List Started} (inSlots : scheduled.InSlots start starts)
    (ok : scheduled.start now = .ok (next, own)) :
    next.InSlots start (starts ++ own.map Started.startedAt) := by
  rcases scheduled.start_cases ok with ⟨-, rfl, rfl⟩ | ⟨-, due, nextRun, caughtUp, rfl, rfl⟩
  · simpa using inSlots
  · rcases inSlots.grid with ⟨k, onGrid⟩
    rw [onGrid] at due caughtUp
    rcases catchUp_done due caughtUp with ⟨positive, rfl⟩
    have begun : start ≤ now := (Nat.le_add_right _ _).trans due
    have isNext := isNextSlot_nextSlot positive begun
    exact {
      grid := ⟨_, rfl⟩
      before := by
        intro instant member
        rcases List.mem_append.mp member with earlier | isNow
        · rcases inSlots.before instant earlier with ⟨afterStart, beforeRun⟩
          rw [onGrid] at beforeRun
          exact ⟨afterStart, beforeRun.trans_le (due.trans (Nat.le_of_lt isNext.after))⟩
        · obtain rfl := List.mem_singleton.mp isNow
          exact ⟨begun, isNext.after⟩
      increasing := by
        rw [List.map_append, List.pairwise_append]
        refine ⟨inSlots.increasing, List.pairwise_singleton _ _, ?_⟩
        intro earlierSlot isEarlier lastSlot isLast
        rcases List.mem_map.mp isEarlier with ⟨instant, member, rfl⟩
        obtain rfl := List.mem_singleton.mp isLast
        rcases inSlots.before instant member with ⟨afterStart, beforeRun⟩
        rw [onGrid] at beforeRun
        exact Nat.lt_of_lt_of_le (slotOf_lt afterStart beforeRun) (le_slotOf positive due) }

namespace Scheduler

/-! ## What a step does to the schedule -/

/-- Neither an interval nor a next run has changed, and nothing has been started. -/
structure KeepsSchedule (scheduler next : Scheduler) : Prop where
  settings : next.scheduleds.map Scheduled.settings = scheduler.scheduleds.map Scheduled.settings
  nextRuns : ∀ after ∈ next.scheduleds, ∃ before ∈ scheduler.scheduleds,
    after.settings = before.settings ∧ after.nextRun = before.nextRun
  started : next.started = scheduler.started
  clock : scheduler.clock ≤ next.clock
  hung : next.point = .halted .hung → scheduler.point = .halted .hung

theorem KeepsSchedule.of_eq {scheduler next : Scheduler}
    (scheduleds : next.scheduleds = scheduler.scheduleds)
    (started : next.started = scheduler.started) (clock : scheduler.clock ≤ next.clock)
    (hung : next.point = .halted .hung → scheduler.point = .halted .hung) :
    KeepsSchedule scheduler next where
  settings := by rw [scheduleds]
  nextRuns := fun after member => ⟨after, scheduleds ▸ member, rfl, rfl⟩
  started := started
  clock := clock
  hung := hung

private theorem submitBatch_keeps (scheduler : Scheduler) :
    KeepsSchedule scheduler scheduler.submitBatch := by
  unfold submitBatch
  by_cases nothing : batchOf scheduler.finished = []
  · simp only [if_pos nothing]
    exact .of_eq rfl rfl (Nat.le_refl _) id
  · simp only [if_neg nothing]
    exact .of_eq rfl rfl (Nat.le_refl _) id

theorem KeepsSchedule.trans {scheduler middle next : Scheduler}
    (first : KeepsSchedule scheduler middle) (second : KeepsSchedule middle next) :
    KeepsSchedule scheduler next where
  settings := second.settings.trans first.settings
  nextRuns := by
    intro after member
    rcases second.nextRuns after member with ⟨between, present, settings, nextRun⟩
    rcases first.nextRuns between present with ⟨before, original, same, sameRun⟩
    exact ⟨before, original, settings.trans same, nextRun.trans sameRun⟩
  started := second.started.trans first.started
  clock := first.clock.trans second.clock
  hung := first.hung ∘ second.hung

private theorem emitOrWait_keeps (scheduler : Scheduler) (now : Instant) :
    KeepsSchedule scheduler (scheduler.emitOrWait now) := by
  unfold emitOrWait
  split
  · apply (submitBatch_keeps scheduler).trans
    exact .of_eq rfl rfl (Nat.le_refl _) nofun
  · split
    · exact .of_eq rfl rfl (Nat.le_refl _) nofun
    · exact .of_eq rfl rfl (Nat.le_refl _) nofun

private theorem clearActive_nextRun {name : String} {scheduleds : List Scheduled}
    {after : Scheduled} (member : after ∈ clearActive name scheduleds) :
    ∃ before ∈ scheduleds, after.settings = before.settings ∧ after.nextRun = before.nextRun := by
  induction scheduleds with
  | nil => exact absurd member nofun
  | cons first rest inductionHypothesis =>
      rw [clearActive] at member
      split at member
      · rcases List.mem_cons.mp member with rfl | later
        · exact ⟨first, List.mem_cons_self, rfl, rfl⟩
        · exact ⟨after, List.mem_cons_of_mem _ later, rfl, rfl⟩
      · rcases List.mem_cons.mp member with rfl | later
        · exact ⟨after, List.mem_cons_self, rfl, rfl⟩
        · rcases inductionHypothesis later with ⟨before, present, same⟩
          exact ⟨before, List.mem_cons_of_mem _ present, same⟩

private theorem handleResult_keeps (scheduler : Scheduler) (result : CollectionResult) :
    KeepsSchedule scheduler (scheduler.handleResult result) := by
  unfold handleResult
  cases result.finish with
  | none =>
      exact ⟨clearActive_settings _ _, fun _ => clearActive_nextRun, rfl, Nat.le_refl _, nofun⟩
  | some finished =>
      exact ⟨clearActive_settings _ _, fun _ => clearActive_nextRun, rfl, Nat.le_refl _, nofun⟩

private theorem abort_keeps (scheduler : Scheduler) :
    KeepsSchedule scheduler scheduler.abort where
  settings := by
    simp only [abort, List.map_map]
    rfl
  nextRuns := by
    intro after member
    rcases List.mem_map.mp member with ⟨before, present, rfl⟩
    exact ⟨before, present, rfl, rfl⟩
  started := rfl
  clock := Nat.le_refl _
  hung := nofun

private theorem shutDown_keeps (scheduler : Scheduler) :
    KeepsSchedule scheduler scheduler.shutDown := by
  have aborts := abort_keeps scheduler
  unfold shutDown
  by_cases nothing : scheduler.abort.finished = []
  · simp only [if_pos nothing]
    exact aborts
  · simp only [if_neg nothing]
    exact aborts.trans (submitBatch_keeps _)

/-- An iteration looks for what is due; nothing else starts a collector or can hang. -/
theorem step_schedule {scheduler next : Scheduler} {event : SchedulerEvent}
    (stepped : scheduler.step event = some next) :
    KeepsSchedule scheduler next ∨
    ∃ now, scheduler.clock ≤ now ∧
      ((∃ reason, startDue now scheduler.scheduleds = .error reason ∧
        next = { scheduler with clock := now, point := .halted reason }) ∨
      ∃ scheduleds started, startDue now scheduler.scheduleds = .ok (scheduleds, started) ∧
        KeepsSchedule { scheduler with
          clock := now
          scheduleds
          running := scheduler.running ++ started
          started := scheduler.started ++ started } next ∧
        scheduler.point = .top) := by
  cases event with
  | iterate now =>
      rw [step] at stepped
      split at stepped
      · rename_i starts
        cases stepped
        refine Or.inr ⟨now, starts.2, ?_⟩
        unfold iterate
        cases outcome : startDue now scheduler.scheduleds with
        | error reason => exact Or.inl ⟨reason, rfl, rfl⟩
        | ok pair => exact Or.inr ⟨pair.1, pair.2, rfl, emitOrWait_keeps _ now, starts.1⟩
      · cases stepped
  | collected task metrics =>
      rw [step] at stepped
      split at stepped
      · cases stepped
        exact Or.inl (.of_eq rfl rfl (Nat.le_refl _) id)
      · cases stepped
  | shutdown =>
      rw [step] at stepped
      split at stepped
      · cases stepped
        exact Or.inl (shutDown_keeps scheduler)
      · cases stepped
  | receive =>
      rw [step] at stepped
      split at stepped
      · rename_i wait result rest stands head
        cases stepped
        have taken : KeepsSchedule scheduler { scheduler with channel := rest } :=
          .of_eq rfl rfl (Nat.le_refl _) id
        exact Or.inl (taken.trans (handleResult_keeps _ result))
      · cases stepped
  | softDeadline now =>
      rw [step] at stepped
      split at stepped
      · split at stepped
        · rename_i up
          cases stepped
          exact Or.inl (.of_eq rfl rfl up.2.1 fun hung => by cases hung)
        · cases stepped
      · cases stepped
  | due now =>
      rw [step] at stepped
      split at stepped
      · split at stepped
        · rename_i up
          cases stepped
          exact Or.inl (.of_eq rfl rfl up.2.1 fun hung => by cases hung)
        · cases stepped
      · cases stepped

/-! ## Runs -/

structure OnSchedule (start : Instant) (scheduler : Scheduler) : Prop where
  inSlots : ∀ scheduled ∈ scheduler.scheduleds,
    scheduled.InSlots start (startsOf scheduled.name scheduler.started)
  hung : scheduler.point = .halted .hung →
    ∃ scheduled ∈ scheduler.scheduleds, scheduled.interval = 0

private theorem OnSchedule.keeps {start : Instant} {scheduler next : Scheduler}
    (onSchedule : scheduler.OnSchedule start) (keeps : KeepsSchedule scheduler next) :
    next.OnSchedule start where
  inSlots := by
    intro after member
    rcases keeps.nextRuns after member with ⟨before, present, same, nextRun⟩
    have inSlots := onSchedule.inSlots before present
    rcases Prod.mk.inj same with ⟨sameName, rest⟩
    rcases Prod.mk.inj rest with ⟨sameInterval, -⟩
    rw [keeps.started, sameName]
    exact {
      grid := by rw [nextRun, sameInterval]; exact inSlots.grid
      before := by rw [nextRun]; exact inSlots.before
      increasing := by rw [sameInterval]; exact inSlots.increasing }
  hung := by
    intro stands
    rcases onSchedule.hung (keeps.hung stands) with ⟨before, present, zero⟩
    have listed : before.settings ∈ next.scheduleds.map Scheduled.settings := by
      rw [keeps.settings]
      exact List.mem_map_of_mem present
    rcases List.mem_map.mp listed with ⟨after, member, same⟩
    exact ⟨after, member, (congrArg (fun settings => settings.2.1) same).trans zero⟩

private theorem OnSchedule.halted {start now : Instant} {scheduler : Scheduler} {reason : Halt}
    (onSchedule : scheduler.OnSchedule start)
    (failed : startDue now scheduler.scheduleds = .error reason) :
    { scheduler with clock := now, point := .halted reason }.OnSchedule start where
  inSlots := onSchedule.inSlots
  hung := by
    intro stands
    cases stands
    rcases startDue_error failed with ⟨scheduled, member, due, startFailed⟩
    refine ⟨scheduled, member, ?_⟩
    rcases (onSchedule.inSlots scheduled member).grid with ⟨k, onGrid⟩
    rw [Scheduled.start] at startFailed
    split at startFailed
    · cases caughtUp : catchUp scheduled.interval now scheduled.nextRun with
      | running nextRun =>
          rw [onGrid] at caughtUp due
          exact catchUp_running due caughtUp
      | done nextRun =>
          rw [caughtUp] at startFailed
          cases startFailed
      | overflow =>
          rw [caughtUp] at startFailed
          cases startFailed
    · cases startFailed

private theorem OnSchedule.started {start now : Instant} {scheduler : Scheduler}
    {scheduleds : List Scheduled} {started : List Started}
    (onSchedule : scheduler.OnSchedule start) (top : scheduler.point = .top)
    (starts : StartsDue now scheduler.scheduleds scheduleds started) :
    { scheduler with
      clock := now
      scheduleds
      running := scheduler.running ++ started
      started := scheduler.started ++ started }.OnSchedule start where
  inSlots := by
    intro after member
    rcases starts.each after member with ⟨before, present, ran⟩
    have same : after.name = before.name := by
      rcases before.start_cases ran with ⟨-, rfl, -⟩ | ⟨-, -, _, -, rfl, -⟩ <;> rfl
    have inSlots := (onSchedule.inSlots before present).start ran
    rw [same]
    simpa [startsOf] using inSlots
  hung := fun stands => absurd (top.symm.trans stands) nofun

theorem step_onSchedule {start : Instant} {scheduler next : Scheduler} {event : SchedulerEvent}
    (valid : scheduler.Valid) (onSchedule : scheduler.OnSchedule start)
    (stepped : scheduler.step event = some next) :
    next.OnSchedule start ∧
      next.scheduleds.map Scheduled.settings = scheduler.scheduleds.map Scheduled.settings := by
  rcases step_schedule stepped with keeps | ⟨now, -, ⟨reason, failed, rfl⟩ | started⟩
  · exact ⟨onSchedule.keeps keeps, keeps.settings⟩
  · exact ⟨onSchedule.halted failed, rfl⟩
  · rcases started with ⟨scheduleds, started, ok, keeps, top⟩
    have starts := startDue_ok valid.distinct ok
    exact ⟨(onSchedule.started top starts).keeps keeps, keeps.settings.trans starts.settings⟩

private theorem new_onSchedule (config : MetricsConfig) (start : Instant) :
    (new config start).OnSchedule start where
  inSlots := by
    intro scheduled member
    rcases List.mem_map.mp member with ⟨entry, -, rfl⟩
    exact {
      grid := ⟨0, by simp⟩
      before := nofun
      increasing := List.Pairwise.nil }
  hung := nofun

private theorem run_onSchedule {config : MetricsConfig} {start : Instant}
    {events : List SchedulerEvent} {scheduler : Scheduler}
    (ran : machine.run (new config start) events = some scheduler) :
    scheduler.OnSchedule start ∧
      scheduler.scheduleds.map Scheduled.settings =
        (new config start).scheduleds.map Scheduled.settings := by
  have kept : ∀ {state event next},
      (state.Valid ∧ state.OnSchedule start ∧ state.scheduleds.map Scheduled.settings =
        (new config start).scheduleds.map Scheduled.settings) →
      step state event = some next →
      (next.Valid ∧ next.OnSchedule start ∧ next.scheduleds.map Scheduled.settings =
        (new config start).scheduleds.map Scheduled.settings) := by
    intro state event next before stepped
    rcases step_onSchedule before.1 before.2.1 stepped with ⟨onSchedule, settings⟩
    exact ⟨step_valid before.1 stepped, onSchedule, settings.trans before.2.2⟩
  have all := machine.run_invariant kept
    ⟨new_valid config start, new_onSchedule config start, rfl⟩ ran
  exact all.2

/-- What the interval of every configured collector decides. -/
structure Punctual (config : MetricsConfig) (start : Instant) : Prop where
  /-- For an entry that is due, the loop ends and leaves the next run at the least
  slot after `now`, exactly if there is an interval and the clock can count that far. -/
  catchesUp : ∀ name collector, (name, collector) ∈ config.collectors.entries →
    ∀ k now, start + k * (collectorScheduleParams collector).1 ≤ now →
      ((∃ fuel final, catchUpLoop (collectorScheduleParams collector).1 now fuel
          (start + k * (collectorScheduleParams collector).1) = .done final ∧
        IsNextSlot start (collectorScheduleParams collector).1 now final) ↔
      (collectorScheduleParams collector).1 ≠ 0 ∧
        nextSlot start (collectorScheduleParams collector).1 now ≤ instantMax)
  /-- In every run, the starts of a collector are in ever later slots. -/
  oncePerSlot : ∀ events scheduler, machine.run (new config start) events = some scheduler →
    ∀ name collector, (name, collector) ∈ config.collectors.entries →
      ((startsOf name scheduler.started).map
        (slotOf start (collectorScheduleParams collector).1)).Pairwise (· < ·)
  /-- Only a collector without an interval hangs the scheduler. -/
  hangs : ∀ events scheduler, machine.run (new config start) events = some scheduler →
    scheduler.point = .halted .hung →
    ∃ entry ∈ config.collectors.entries, (collectorScheduleParams entry.2).1 = 0

private theorem new_settings (config : MetricsConfig) (start : Instant) :
    (new config start).scheduleds.map Scheduled.settings =
      config.collectors.entries.map fun entry => (entry.1, collectorScheduleParams entry.2) := by
  simp only [new, List.map_map]
  rfl

theorem scheduler_punctual (config : MetricsConfig) (start : Instant) :
    Punctual config start where
  catchesUp := fun _ _ _ _ _ due => catchUpLoop_ends_iff due
  oncePerSlot := by
    intro events scheduler ran name collector member
    rcases run_onSchedule ran with ⟨onSchedule, settings⟩
    have listed : (name, collectorScheduleParams collector) ∈
        scheduler.scheduleds.map Scheduled.settings := by
      rw [settings, new_settings]
      exact List.mem_map_of_mem (f := fun entry => (entry.1, collectorScheduleParams entry.2))
        member
    rcases List.mem_map.mp listed with ⟨scheduled, present, same⟩
    rcases Prod.mk.inj same with ⟨rfl, params⟩
    rw [← params]
    exact (onSchedule.inSlots scheduled present).increasing
  hangs := by
    intro events scheduler ran stands
    rcases run_onSchedule ran with ⟨onSchedule, settings⟩
    rcases onSchedule.hung stands with ⟨scheduled, present, zero⟩
    have listed := List.mem_map_of_mem (f := Scheduled.settings) present
    rw [settings, new_settings] at listed
    rcases List.mem_map.mp listed with ⟨entry, member, same⟩
    refine ⟨entry, member, ?_⟩
    exact (congrArg (fun settings => settings.2.1) same).trans zero

/-- A configuration with `interval = "0s"` for its one collector. -/
def zeroInterval : Config where
  instanceConfig := { name := "host" }
  metrics := {
    collectors := .single "web" (.prometheus { url := "http://web", interval := 0 })
    forwarders := .single "backend" (.otlphttp { endpoint := "http://backend" }) }
  logs := { shippers := .new }

/-- It is accepted, and the scheduler never gets past its first iteration. -/
theorem catchUpLoop_never_ends :
    parseDuration true "0s" = some (.ok 0) ∧
      validate (fun _ => .ok ()) zeroInterval = .ok () ∧
      (∀ fuel final, catchUpLoop 0 0 fuel 0 ≠ .done final) ∧
      ∃ scheduler, machine.run (new zeroInterval.metrics 0) [.iterate 0] = some scheduler ∧
        scheduler.point = .halted .hung :=
  ⟨rfl, rfl, catchUpLoop_zero (Nat.le_refl 0), _, rfl, rfl⟩

end Scheduler

end Ferrometer.Pipeline
