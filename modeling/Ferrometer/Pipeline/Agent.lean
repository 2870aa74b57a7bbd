import Ferrometer.Config.Validate
import Ferrometer.Forwarder.Otlphttp.Calls
import Ferrometer.Foundation.Components
import Ferrometer.Pipeline.Scheduler
import Mathlib.Data.List.Flatten
import Mathlib.Data.List.Sort

/-!
Contract: `run`, the metrics side of the whole process.

Owns: the scheduler's task, the forwarders' tasks next to it, the calls of `submit` and
`shutdown` between them in the order in which the scheduler's task makes them, and where
every metric is that the scheduler has taken, in every interleaving of the tasks.

Does not own: the scheduler loop and the send loop themselves. Their machines run here
side by side, each with the clock that its task reads. The panic at the `try_unwrap`
of a send, which the send loop leaves out, is left out here too.

The log shippers share nothing with this side.
-/

set_option autoImplicit false

namespace Ferrometer.Pipeline

open Ferrometer.Config Ferrometer.Foundation Ferrometer.Forwarder.Otlphttp

/-! ## Model -/

/-- What a forwarder keeps of its configuration for its buffer and its send loop. -/
structure ForwarderSettings where
  limits : Limits
  backoffInitial : Duration
  backoffMax : Duration

/-- A forwarder and the task that runs it. -/
structure ForwarderTask where
  settings : ForwarderSettings
  loop : RunLoop

/-- The buffer and a request have room for a metric. -/
def HasRoom : ForwarderConfig → Prop
  | .otlphttp config => 0 < config.bufferMaxMetrics ∧ 0 < config.requestMaxMetrics

def buildForwarder : (config : ForwarderConfig) → HasRoom config → ForwarderTask
  | .otlphttp config, room =>
      { settings := {
          limits := {
            bufferMaxMetrics := config.bufferMaxMetrics
            requestMaxMetrics := config.requestMaxMetrics
            bufferPositive := room.1
            requestPositive := room.2 }
          backoffInitial := config.backoffInitial
          backoffMax := config.backoffMax }
        loop := RunLoop.initial }

/-- Every accepted configuration has room. -/
theorem hasRoom_of_validate {regexNew : String → Except String Unit} {config : Config}
    (accepted : validate regexNew config = .ok ()) :
    ∀ entry ∈ config.metrics.forwarders.entries, HasRoom entry.2 := by
  intro entry member
  rcases entry with ⟨name, forwarder⟩
  cases forwarder with
  | otlphttp config =>
      rcases limits_of_validate accepted member with ⟨-, buffer, request, -⟩
      exact ⟨buffer, request⟩

namespace ForwarderTask

def step (task : ForwarderTask) (event : RunEvent) : Option ForwarderTask := do
  let loop ← RunLoop.step task.settings.limits task.settings.backoffInitial
    task.settings.backoffMax task.loop event
  some { task with loop }

def call (task : ForwarderTask) (call : Call) : Option ForwarderTask :=
  task.step (call.event task.loop)

/-- The machine of its send loop. -/
def machine (task : ForwarderTask) : Machine RunLoop RunEvent :=
  RunLoop.machine task.settings.limits task.settings.backoffInitial task.settings.backoffMax

end ForwarderTask

/-- One batch for every forwarder in turn. -/
def submitCalls (count : Nat) (batch : List Metric) : List (Nat × Call) :=
  (List.range count).flatMap fun index => [(index, .submit batch), (index, .notifySubmit)]

/-- The signal to flush and exit, for every forwarder in turn. -/
def shutdownCalls (count : Nat) : List (Nat × Call) :=
  (List.range count).flatMap fun index => [(index, .shutdown), (index, .notifyShutdown)]

inductive AgentEvent where
  | scheduler (event : SchedulerEvent)
  /-- The scheduler's task takes the next step of its calls. -/
  | call
  | forwarder (index : Nat) (event : RunEvent)
deriving DecidableEq

structure Agent where
  scheduler : Scheduler
  forwarders : List ForwarderTask
  /-- What the scheduler's task has to call before it goes on. -/
  calls : List (Nat × Call)
  /-- History: the calls it has made. -/
  made : List (Nat × Call)

namespace Agent

/-- `run` from the spawned forwarders on. -/
def new (config : MetricsConfig) (room : ∀ entry ∈ config.forwarders.entries, HasRoom entry.2)
    (now : Instant) : Agent where
  scheduler := Scheduler.new config now
  forwarders := config.forwarders.entries.pmap (fun entry room => buildForwarder entry.2 room) room
  calls := []
  made := []

/-- A panic in any task ends the process. -/
def dead (agent : Agent) : Bool :=
  agent.scheduler.point = .halted .overflow ||
    agent.forwarders.any fun task => task.loop.point = .aborted

/-- The calls that a step of the scheduler leads to. -/
def callsOf (count : Nat) (scheduler next : Scheduler) : List (Nat × Call) :=
  (next.emitted.drop scheduler.emitted.length).flatMap
      (fun finished => submitCalls count (batchOf finished)) ++
    if next.point = .returned ∧ scheduler.point ≠ .returned then shutdownCalls count else []

/-- The end of a collection is a step of that collection's own task. -/
def goesOn (agent : Agent) : SchedulerEvent → Bool
  | .collected _ _ => true
  | _ => agent.calls.isEmpty

def step (agent : Agent) (event : AgentEvent) : Option Agent :=
  if agent.dead then none
  else
    match event with
    | .scheduler event =>
        if agent.goesOn event then do
          let scheduler ← agent.scheduler.step event
          some { agent with
            scheduler
            calls := agent.calls ++ callsOf agent.forwarders.length agent.scheduler scheduler }
        else none
    | .call =>
        match agent.calls with
        | [] => none
        | (index, call) :: rest => do
            let forwarders ← Components.stepAt ForwarderTask.call agent.forwarders index call
            some { agent with forwarders, calls := rest, made := agent.made ++ [(index, call)] }
    | .forwarder index event =>
        if event.isOwn then do
          let forwarders ← Components.stepAt ForwarderTask.step agent.forwarders index event
          some { agent with forwarders }
        else none

def machine : Machine Agent AgentEvent where
  step := step

/-- `run` has awaited every task. -/
def joined (agent : Agent) : Prop :=
  agent.scheduler.point = .returned ∧ agent.calls = [] ∧
    ∀ task ∈ agent.forwarders, task.loop.point = .returned

/-! ## What a step can do -/

/-- Every step that `step` takes. -/
inductive Steps (agent : Agent) : AgentEvent → Agent → Prop where
  | scheduled {event : SchedulerEvent} {scheduler : Scheduler}
      (free : agent.goesOn event = true) (taken : agent.scheduler.step event = some scheduler) :
      Steps agent (.scheduler event) { agent with
        scheduler
        calls := agent.calls ++ callsOf agent.forwarders.length agent.scheduler scheduler }
  | called {index : Nat} {call : Call} {rest : List (Nat × Call)}
      {forwarders : List ForwarderTask} (next : agent.calls = (index, call) :: rest)
      (taken : Components.stepAt ForwarderTask.call agent.forwarders index call =
        some forwarders) :
      Steps agent .call { agent with
        forwarders, calls := rest, made := agent.made ++ [(index, call)] }
  | forwarded {index : Nat} {event : RunEvent} {forwarders : List ForwarderTask}
      (own : event.isOwn = true)
      (taken : Components.stepAt ForwarderTask.step agent.forwarders index event =
        some forwarders) :
      Steps agent (.forwarder index event) { agent with forwarders }

theorem steps_of_step {agent next : Agent} {event : AgentEvent}
    (stepped : agent.step event = some next) : agent.dead = false ∧ agent.Steps event next := by
  unfold step at stepped
  split at stepped
  · exact absurd stepped nofun
  · rename_i alive
    apply And.intro (Bool.eq_false_of_not_eq_true alive)
    cases event with
    | scheduler event =>
        simp only at stepped
        split at stepped
        · rename_i free
          rcases Option.bind_eq_some_iff.mp stepped with ⟨scheduler, taken, equal⟩
          cases equal
          exact .scheduled free taken
        · exact absurd stepped nofun
    | call =>
        simp only at stepped
        split at stepped
        · exact absurd stepped nofun
        · rename_i index call rest next
          rcases Option.bind_eq_some_iff.mp stepped with ⟨forwarders, taken, equal⟩
          cases equal
          exact .called next taken
    | forwarder index event =>
        simp only at stepped
        split at stepped
        · rename_i own
          rcases Option.bind_eq_some_iff.mp stepped with ⟨forwarders, taken, equal⟩
          cases equal
          exact .forwarded own taken
        · exact absurd stepped nofun

theorem step_of_steps {agent next : Agent} {event : AgentEvent} (alive : agent.dead = false)
    (steps : agent.Steps event next) : agent.step event = some next := by
  unfold step
  rw [if_neg (by simp [alive])]
  cases steps with
  | scheduled free taken => simp [free, taken]
  | called next taken => simp [next, taken]
  | forwarded own taken => simp [own, taken]

/-! ## The program of calls -/

/-- All calls that the scheduler's task makes, from its start to where the scheduler is
now. -/
def program (count : Nat) (scheduler : Scheduler) : List (Nat × Call) :=
  scheduler.emitted.flatMap (fun finished => submitCalls count (batchOf finished)) ++
    if scheduler.point = .returned then shutdownCalls count else []

theorem program_step {scheduler next : Scheduler} {event : SchedulerEvent}
    (stepped : scheduler.step event = some next) (count : Nat) :
    program count next = program count scheduler ++ callsOf count scheduler next := by
  by_cases returned : scheduler.point = .returned
  · rcases Scheduler.step_returned returned stepped with ⟨task, metrics, rfl⟩
    rcases Scheduler.step_collected stepped with ⟨emitted, -, -, point⟩
    simp [program, callsOf, emitted, point, returned]
  · rcases Scheduler.step_emits stepped with ⟨batches, emitted, -⟩
    simp [program, callsOf, emitted, returned]

/-- The calls of one forwarder. -/
def callsTo (index : Nat) (calls : List (Nat × Call)) : List Call :=
  (calls.filter fun entry => entry.1 == index).map Prod.snd

@[simp] theorem callsTo_nil (index : Nat) : callsTo index [] = [] := rfl

@[simp] theorem callsTo_append (index : Nat) (first second : List (Nat × Call)) :
    callsTo index (first ++ second) = callsTo index first ++ callsTo index second := by
  simp [callsTo]

@[simp] theorem callsTo_cons_self (index : Nat) (call : Call) (rest : List (Nat × Call)) :
    callsTo index ((index, call) :: rest) = call :: callsTo index rest := by
  simp [callsTo]

theorem callsTo_cons_of_ne {index other : Nat} (different : other ≠ index) (call : Call)
    (rest : List (Nat × Call)) : callsTo index ((other, call) :: rest) = callsTo index rest := by
  simp [callsTo, different]

private theorem callsTo_everyone (first second : Call) (index count : Nat) :
    callsTo index ((List.range count).flatMap fun other => [(other, first), (other, second)]) =
      if index < count then [first, second] else [] := by
  induction count with
  | zero => rfl
  | succ count inductionHypothesis =>
      rw [List.range_succ, List.flatMap_append, callsTo_append, inductionHypothesis]
      by_cases same : count = index
      · subst same
        simp
      · have others : callsTo index [(count, first), (count, second)] = [] := by
          rw [callsTo_cons_of_ne same, callsTo_cons_of_ne same, callsTo_nil]
        have bound : index < count + 1 ↔ index < count := by omega
        simp [others, bound]

/-- Every forwarder gets every batch, and the shutdown at the end. -/
theorem callsTo_program {index count : Nat} (inside : index < count) (scheduler : Scheduler) :
    callsTo index (program count scheduler) =
      callProgram (scheduler.emitted.map batchOf) (scheduler.point = .returned) := by
  have submits : ∀ emitted : List (List Finished),
      callsTo index (emitted.flatMap fun finished => submitCalls count (batchOf finished)) =
        (emitted.map batchOf).flatMap fun batch => [.submit batch, .notifySubmit] := by
    intro emitted
    induction emitted with
    | nil => rfl
    | cons first rest inductionHypothesis =>
        rw [List.flatMap_cons, callsTo_append, inductionHypothesis, submitCalls,
          callsTo_everyone, if_pos inside]
        rfl
  rw [program, callsTo_append, submits, callProgram]
  by_cases returned : scheduler.point = .returned
  · simp [returned, shutdownCalls, callsTo_everyone, inside]
  · simp [returned]

theorem index_lt_of_program {count : Nat} {scheduler : Scheduler} {entry : Nat × Call}
    (member : entry ∈ program count scheduler) : entry.1 < count := by
  have everyone : ∀ first second : Call,
      (entry ∈ (List.range count).flatMap fun other => [(other, first), (other, second)]) →
      entry.1 < count := by
    intro first second present
    rcases List.mem_flatMap.mp present with ⟨other, below, own⟩
    have same : entry.1 = other := by
      simp only [List.mem_cons, List.not_mem_nil, or_false] at own
      rcases own with rfl | rfl <;> rfl
    exact same ▸ List.mem_range.mp below
  rcases List.mem_append.mp member with submits | signals
  · rcases List.mem_flatMap.mp submits with ⟨finished, -, present⟩
    exact everyone _ _ present
  · split at signals
    · exact everyone _ _ signals
    · exact absurd signals (by simp)

/-! ## The invariant -/

structure Valid (config : MetricsConfig) (now : Instant) (agent : Agent) : Prop where
  /-- The scheduler is where it can be by itself. -/
  scheduler : Scheduler.machine.Reaches (Scheduler.new config now) agent.scheduler
  /-- The calls are made in order. -/
  inOrder : agent.made ++ agent.calls = program agent.forwarders.length agent.scheduler
  /-- So is every forwarder, and it keeps the calls that it has got. -/
  forwarders : ∀ index (task : ForwarderTask), agent.forwarders[index]? = some task →
    task.machine.Reaches RunLoop.initial task.loop ∧
      task.loop.Served (callsTo index agent.made)

section Invariant

variable {config : MetricsConfig} {now : Instant} {agent next : Agent}

theorem new_valid (room : ∀ entry ∈ config.forwarders.entries, HasRoom entry.2) :
    (new config room now).Valid config now where
  scheduler := .refl _ _
  inOrder := rfl
  forwarders := by
    intro index task found
    rcases List.mem_pmap.mp (List.mem_of_getElem? found) with ⟨entry, member, rfl⟩
    have initial : (buildForwarder entry.2 (room entry member)).loop = RunLoop.initial := by
      rcases entry with ⟨name, forwarder⟩
      cases forwarder
      rfl
    rw [initial]
    exact ⟨.refl _ _, RunLoop.initial_served⟩

/-- No batch that the scheduler has emitted is empty. -/
theorem batch_ne_nil {scheduler : Scheduler}
    (reached : Scheduler.machine.Reaches (Scheduler.new config now) scheduler) :
    ∀ batch ∈ scheduler.emitted.map batchOf, batch ≠ [] := by
  rcases reached with ⟨events, ran⟩
  have filled : ∀ finished ∈ scheduler.emitted, batchOf finished ≠ [] := by
    have kept : ∀ {state event after}, (∀ finished ∈ state.emitted, batchOf finished ≠ []) →
        Scheduler.machine.step state event = some after →
        ∀ finished ∈ after.emitted, batchOf finished ≠ [] := by
      intro state event after before stepped finished member
      rcases Scheduler.step_emits stepped with ⟨batches, emitted, fresh⟩
      rw [emitted, List.mem_append] at member
      exact member.elim (before finished) (fresh finished)
    exact Scheduler.machine.run_invariant kept (by simp [Scheduler.new]) ran
  simpa using filled

theorem Valid.loop (valid : agent.Valid config now) {index : Nat} {task : ForwarderTask}
    (found : agent.forwarders[index]? = some task) : task.loop.Valid task.settings.limits := by
  rcases (valid.forwarders index task found).1 with ⟨events, ran⟩
  exact RunLoop.run_valid ran

theorem alive_of_dead (alive : agent.dead = false) :
    agent.scheduler.point ≠ .halted .overflow ∧
      ∀ task ∈ agent.forwarders, task.loop.point ≠ .aborted := by
  simpa [dead] using alive

/-- The calls of one forwarder, those made and those to come. -/
theorem Valid.callsTo_eq (valid : agent.Valid config now) {index : Nat}
    (inside : index < agent.forwarders.length) :
    callsTo index agent.made ++ callsTo index agent.calls =
      callProgram (agent.scheduler.emitted.map batchOf) (agent.scheduler.point = .returned) := by
  rw [← callsTo_append, valid.inOrder, callsTo_program inside]

private theorem submit_filled {handed : List (List Metric)} {returned : Bool}
    (filled : ∀ batch ∈ handed, batch ≠ []) {call : Call}
    (member : call ∈ callProgram handed returned) :
    ∀ metrics, call = .submit metrics → metrics ≠ [] := by
  rintro metrics rfl
  apply filled metrics
  rw [← batches_callProgram handed returned]
  exact List.mem_filterMap.mpr ⟨_, member, rfl⟩

/-- The next call is always free, whatever its forwarder is doing, and leaves that
forwarder's loop where it is. -/
theorem Valid.call (valid : agent.Valid config now) (alive : agent.dead = false)
    {index : Nat} {call : Call} {rest : List (Nat × Call)}
    (next : agent.calls = (index, call) :: rest) :
    ∃ task after, agent.forwarders[index]? = some task ∧ task.call call = some after ∧
      after.settings = task.settings ∧ after.loop.point = task.loop.point ∧
      after.loop.Served (callsTo index agent.made ++ [call]) := by
  have member : (index, call) ∈ program agent.forwarders.length agent.scheduler := by
    rw [← valid.inOrder, next]
    simp
  have inside : index < agent.forwarders.length := index_lt_of_program member
  have found : agent.forwarders[index]? = some agent.forwarders[index] :=
    List.getElem?_eq_getElem inside
  have split := valid.callsTo_eq inside
  rw [next, callsTo_cons_self] at split
  have filled := submit_filled (batch_ne_nil valid.scheduler)
    (split ▸ List.mem_append_right _ List.mem_cons_self)
  rcases (valid.forwarders index _ found).2.call (valid.loop found)
      ((alive_of_dead alive).2 _ (List.mem_of_getElem? found)) (mayFollow_of_program split)
      filled with ⟨loop, taken, served, stays⟩
  refine ⟨_, { agent.forwarders[index] with loop }, found, ?_, rfl, stays, served⟩
  rw [ForwarderTask.call, ForwarderTask.step, taken]
  rfl

theorem step_eq_some {task after : ForwarderTask} {event : RunEvent}
    (stepped : task.step event = some after) :
    ∃ loop, task.machine.step task.loop event = some loop ∧ after = { task with loop } := by
  rcases Option.bind_eq_some_iff.mp stepped with ⟨loop, taken, equal⟩
  cases equal
  exact ⟨loop, taken, rfl⟩

theorem step_valid {event : AgentEvent} (valid : agent.Valid config now)
    (stepped : agent.step event = some next) : next.Valid config now := by
  rcases steps_of_step stepped with ⟨alive, steps⟩
  cases steps with
  | scheduled _ taken =>
      exact {
        scheduler := valid.scheduler.step taken
        inOrder := by
          rw [program_step taken, ← valid.inOrder, List.append_assoc]
        forwarders := valid.forwarders }
  | @called index call rest forwarders head taken =>
      rcases valid.call alive head with ⟨task, after, found, called, -, -, served⟩
      exact {
        scheduler := valid.scheduler
        inOrder := by
          rw [Components.length_stepAt taken, ← valid.inOrder, head, List.append_assoc]
          rfl
        forwarders := by
          intro other result present
          rcases Components.getElem?_stepAt taken present with
            ⟨different, unchanged⟩ | ⟨rfl, before, own, stepped⟩
          · rw [callsTo_append, callsTo_cons_of_ne different.symm, callsTo_nil, List.append_nil]
            exact valid.forwarders other result unchanged
          · obtain rfl := Option.some.inj (found.symm.trans own)
            obtain rfl := Option.some.inj (called.symm.trans stepped)
            rcases step_eq_some called with ⟨loop, moved, rfl⟩
            rw [callsTo_append, callsTo_cons_self, callsTo_nil]
            exact ⟨(valid.forwarders other task found).1.step moved, served⟩ }
  | forwarded own taken =>
      exact {
        scheduler := valid.scheduler
        inOrder := by rw [Components.length_stepAt taken, valid.inOrder]
        forwarders := by
          refine Components.forall_stepAt valid.forwarders ?_ taken
          intro task after found stepped
          rcases step_eq_some stepped with ⟨loop, moved, rfl⟩
          rcases valid.forwarders _ task found with ⟨reached, served⟩
          exact ⟨reached.step moved, served.of_isOwn own moved⟩ }

theorem step_count {event : AgentEvent} (stepped : agent.step event = some next) :
    next.forwarders.length = agent.forwarders.length := by
  cases (steps_of_step stepped).2 with
  | scheduled _ _ => rfl
  | called _ taken => exact Components.length_stepAt taken
  | forwarded _ taken => exact Components.length_stepAt taken

theorem run_valid {room : ∀ entry ∈ config.forwarders.entries, HasRoom entry.2}
    {events : List AgentEvent} (ran : machine.run (new config room now) events = some agent) :
    agent.Valid config now :=
  machine.run_invariant (fun valid stepped => step_valid valid stepped) (new_valid room) ran

end Invariant

/-! ## Where the metrics are -/

/-- Everything that the collectors have handed to the scheduler, in order of arrival. -/
def arrived (agent : Agent) : List Metric :=
  (agent.scheduler.taken.flatMap Scheduler.contents).flatten

/-- The batches that the scheduler has emitted and not yet handed to a forwarder. -/
def handing (agent : Agent) (index : Nat) : List (List Metric) :=
  batches (callsTo index agent.calls)

/-- What the process owes to one of its forwarders. -/
structure Accounts (agent : Agent) (index : Nat) (task : ForwarderTask) : Prop where
  /-- It gets the scheduler's batches, all of them and in order. -/
  handedOver : task.loop.cycle.submitted.map Submission.metrics ++ agent.handing index =
    agent.scheduler.emitted.map batchOf
  /-- Every metric is in one place. -/
  everyMetricOnce : ((task.loop.cycle.delivered ++ task.loop.cycle.evicted ++
      task.loop.cycle.inFlight ++ task.loop.cycle.state.batches).flatMap Submission.metrics ++
    (agent.handing index).flatten ++ batchOf agent.scheduler.finished).Perm agent.arrived
  /-- What its endpoint has accepted is in order of arrival. -/
  deliveredInOrder : (task.loop.cycle.delivered.flatMap Submission.metrics).Sublist agent.arrived
  bounded : (task.loop.cycle.state.batches.flatMap Submission.metrics).length ≤
    task.settings.limits.bufferMaxMetrics

private theorem length_metrics (submissions : List Submission) :
    (submissions.flatMap Submission.metrics).length = OldestFirst.total len submissions := by
  induction submissions with
  | nil => rfl
  | cons first rest inductionHypothesis =>
      rw [List.flatMap_cons, List.length_append, inductionHypothesis, OldestFirst.total_cons]
      rfl

/-- What has been delivered is a part of the submissions, in their order. -/
theorem delivered_sublist {limits : Limits} {cycle : SendCycle} (valid : cycle.Valid limits) :
    cycle.delivered.Sublist cycle.submitted := by
  have part : cycle.delivered.Subperm cycle.submitted := by
    refine List.Subperm.trans (List.Sublist.subperm ?_) valid.accounted.subperm
    rw [List.append_assoc, List.append_assoc]
    exact List.sublist_append_left _ _
  have ordered : cycle.delivered.Pairwise fun first second => first.number < second.number := by
    have all := List.pairwise_map.mp valid.ordered
    exact (List.pairwise_append.mp all).1
  have numbered : cycle.submitted.Pairwise fun first second => first.number < second.number := by
    apply List.pairwise_map.mp
    rw [valid.numbered]
    exact List.pairwise_lt_range
  have antisymmetric : Std.Antisymm fun first second : Submission =>
      first.number < second.number :=
    ⟨fun first second less greater => absurd less (Nat.lt_asymm greater)⟩
  exact List.sublist_of_subperm_of_pairwise part ordered numbered

private theorem batches_flatten (emitted : List (List Finished)) :
    (emitted.map batchOf).flatten = batchOf emitted.flatten := by
  induction emitted with
  | nil => rfl
  | cons first rest inductionHypothesis =>
      rw [List.map_cons, List.flatten_cons, List.flatten_cons, inductionHypothesis]
      exact List.flatMap_append.symm

/-- What has arrived is what has been emitted, and what waits to be. -/
theorem Valid.arrived_eq {config : MetricsConfig} {now : Instant} {agent : Agent}
    (valid : agent.Valid config now) :
    (agent.scheduler.emitted.map batchOf).flatten ++ batchOf agent.scheduler.finished =
      agent.arrived := by
  rcases valid.scheduler with ⟨events, ran⟩
  have appended : batchOf (agent.scheduler.emitted.flatten ++ agent.scheduler.finished) =
      batchOf agent.scheduler.emitted.flatten ++ batchOf agent.scheduler.finished :=
    List.flatMap_append
  rw [arrived, ← (Scheduler.run_valid ran).once, batches_flatten, ← appended]
  exact List.flatMap_def

theorem Valid.accounts {config : MetricsConfig} {now : Instant} {agent : Agent}
    (valid : agent.Valid config now) {index : Nat} {task : ForwarderTask}
    (found : agent.forwarders[index]? = some task) : agent.Accounts index task := by
  have inside : index < agent.forwarders.length := (List.getElem?_eq_some_iff.mp found).1
  have cycle : task.loop.cycle.Valid task.settings.limits := (valid.loop found).cycle
  have handedOver : task.loop.cycle.submitted.map Submission.metrics ++ agent.handing index =
      agent.scheduler.emitted.map batchOf := by
    rw [(valid.forwarders index task found).2.submitted, handing, ← batches_append,
      valid.callsTo_eq inside, batches_callProgram]
  have whole : (task.loop.cycle.submitted.flatMap Submission.metrics ++
      (agent.handing index).flatten) ++ batchOf agent.scheduler.finished = agent.arrived := by
    rw [← valid.arrived_eq, ← handedOver, List.flatten_append, ← List.flatMap_def]
  exact {
    handedOver := handedOver
    everyMetricOnce := by
      rw [← whole]
      exact ((cycle.accounted.flatMap_right _).append_right _).append_right _
    deliveredInOrder := by
      rw [← whole, List.append_assoc]
      exact ((delivered_sublist cycle).flatMap _).trans (List.sublist_append_left _ _)
    bounded := (length_metrics _).trans_le cycle.bounded }

/-- In every interleaving of the tasks, and for each forwarder by itself, every metric
that the scheduler has taken is in one of six places, and nothing else is. -/
theorem agent_run_accounts {config : MetricsConfig}
    {room : ∀ entry ∈ config.forwarders.entries, HasRoom entry.2} {now : Instant}
    {events : List AgentEvent} {agent : Agent}
    (ran : machine.run (new config room now) events = some agent) :
    ∀ index task, agent.forwarders[index]? = some task → agent.Accounts index task :=
  fun _ _ found => (run_valid ran).accounts found

/-- Both collectors are done. Their batch is with the forwarder, which has sent it before
the call of `submit` has notified. -/
def oneBatch : List AgentEvent :=
  [.scheduler (.iterate 0), .scheduler (.collected ⟨"host", 0⟩ (some [Scheduler.loadMetric])),
    .scheduler (.collected ⟨"web", 0⟩ none), .scheduler .receive, .scheduler (.iterate 1),
    .scheduler .receive, .scheduler (.iterate 2), .call, .forwarder 0 .proceed,
    .forwarder 0 .proceed, .forwarder 0 .proceed, .forwarder 0 .proceed, .forwarder 0 .accepted]

theorem sampleConfig_hasRoom :
    ∀ entry ∈ Scheduler.sampleConfig.forwarders.entries, HasRoom entry.2 := by
  simp [Scheduler.sampleConfig, HasRoom, defaultBufferMaxMetrics, defaultRequestMaxMetrics]

theorem agent_run_accounts_oneBatch :
    ∃ agent task, machine.run (new Scheduler.sampleConfig sampleConfig_hasRoom 0) oneBatch =
        some agent ∧
      agent.forwarders[0]? = some task ∧ task.loop.cycle.delivered ≠ [] ∧
      agent.Accounts 0 task := by
  have ends : ((machine.run (new Scheduler.sampleConfig sampleConfig_hasRoom 0) oneBatch).bind
      fun agent => (agent.forwarders[0]?).map fun task => task.loop.cycle.delivered.length) =
        some 1 := by decide +kernel
  rcases Option.bind_eq_some_iff.mp ends with ⟨agent, ran, counted⟩
  rcases Option.map_eq_some_iff.mp counted with ⟨task, found, single⟩
  refine ⟨agent, task, ran, found, ?_, agent_run_accounts ran 0 task found⟩
  intro nothing
  rw [nothing] at single
  exact absurd single (by decide)

end Agent

end Ferrometer.Pipeline
