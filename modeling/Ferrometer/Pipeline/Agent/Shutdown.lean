import Ferrometer.Forwarder.Otlphttp.Flush
import Ferrometer.Pipeline.Agent

/-!
Contract: the end of `run`, from the return of the scheduler loop to the last forwarder
that is awaited.

Owns: that a forwarder is told to flush after its last batch and before its final send,
and that `run` comes to its end whatever the endpoints answer.

Does not own: what the final send of a forwarder can carry.
-/

set_option autoImplicit false

namespace Ferrometer.Pipeline.Agent

open Ferrometer.Config Ferrometer.Foundation Ferrometer.Forwarder.Otlphttp

variable {config : MetricsConfig} {now : Instant} {agent later : Agent}

/-! ## Nothing comes after the signal -/

/-- What no step changes once the scheduler loop has returned. -/
structure Settled (agent later : Agent) : Prop where
  returned : later.scheduler.point = .returned
  emitted : later.scheduler.emitted = agent.scheduler.emitted
  made : agent.made <+: later.made
  calls : agent.calls = [] → later.calls = []
  count : later.forwarders.length = agent.forwarders.length

theorem Settled.refl (returned : agent.scheduler.point = .returned) : agent.Settled agent where
  returned := returned
  emitted := rfl
  made := List.prefix_refl _
  calls := id
  count := rfl

theorem Settled.step {next : Agent} {event : AgentEvent} (settled : agent.Settled later)
    (stepped : later.step event = some next) : agent.Settled next := by
  cases (steps_of_step stepped).2 with
  | scheduled _ taken =>
      rcases Scheduler.step_returned settled.returned taken with ⟨task, metrics, rfl⟩
      rcases Scheduler.step_collected taken with ⟨emitted, -, -, point⟩
      exact {
        returned := point.trans settled.returned
        emitted := emitted.trans settled.emitted
        made := settled.made
        calls := by
          intro nothing
          simp [callsOf, settled.calls nothing, emitted, settled.returned]
        count := settled.count }
  | called head taken =>
      exact {
        returned := settled.returned
        emitted := settled.emitted
        made := settled.made.trans (List.prefix_append _ _)
        calls := fun nothing => absurd (settled.calls nothing) (by simp [head])
        count := (Components.length_stepAt taken).trans settled.count }
  | forwarded _ taken =>
      exact { settled with count := (Components.length_stepAt taken).trans settled.count }

theorem run_settled {events : List AgentEvent} (returned : agent.scheduler.point = .returned)
    (ran : machine.run agent events = some later) : agent.Settled later :=
  machine.run_invariant (fun settled stepped => settled.step stepped) (.refl returned) ran

/-- A forwarder that has been told to flush has got everything. -/
theorem Valid.of_shutdown (valid : agent.Valid config now) {index : Nat} {task : ForwarderTask}
    (found : agent.forwarders[index]? = some task) (told : task.loop.shutdown = true) :
    agent.scheduler.point = .returned ∧
      task.loop.cycle.submitted.map Submission.metrics = agent.scheduler.emitted.map batchOf := by
  have inside : index < agent.forwarders.length := (List.getElem?_eq_some_iff.mp found).1
  have served := (valid.forwarders index task found).2
  rcases batches_of_shutdown (valid.callsTo_eq inside) (served.shutdown.mp told) with
    ⟨returned, every⟩
  exact ⟨of_decide_eq_true returned, served.submitted.trans every⟩

theorem Valid.finished_of_returned (valid : agent.Valid config now)
    (returned : agent.scheduler.point = .returned) : agent.scheduler.finished = [] := by
  rcases valid.scheduler with ⟨events, ran⟩
  exact (Scheduler.run_valid ran).returned returned

/-- The numbers of the submissions add nothing to their order. -/
theorem submitted_ext {limits otherLimits : Limits} {first second : SendCycle}
    (valid : first.Valid limits) (other : second.Valid otherLimits)
    (same : first.submitted.map Submission.metrics = second.submitted.map Submission.metrics) :
    first.submitted = second.submitted := by
  have sameLength : first.submitted.length = second.submitted.length := by
    simpa using congrArg List.length same
  have sameNumbers : first.submitted.map Submission.number =
      second.submitted.map Submission.number := by
    rw [valid.numbered, other.numbered, sameLength]
  have pairs : Function.Injective fun submission : Submission =>
      (submission.number, submission.metrics) := by
    rintro ⟨number, metrics⟩ ⟨otherNumber, otherMetrics⟩ equal
    cases equal
    rfl
  apply List.map_injective_iff.mpr pairs
  rw [← List.zip_map', ← List.zip_map', sameNumbers, same]

/-- How the process ends for one of its forwarders. -/
structure EndsInOrder (agent : Agent) (index : Nat) (task : ForwarderTask) : Prop where
  /-- It comes to its final drain only after it has been told to. -/
  told : task.loop.point.isFinal = true → task.loop.shutdown = true
  /-- By then the scheduler has returned, with nothing left, and the forwarder has got all
  of its batches. -/
  afterLast : task.loop.shutdown = true → agent.scheduler.point = .returned ∧
    agent.scheduler.finished = [] ∧
    task.loop.cycle.submitted.map Submission.metrics = agent.scheduler.emitted.map batchOf
  /-- It gets no other. -/
  nothingAfter : task.loop.shutdown = true → ∀ events later laterTask,
    machine.run agent events = some later → later.forwarders[index]? = some laterTask →
    laterTask.loop.cycle.submitted = task.loop.cycle.submitted
  /-- When it has returned, each metric has been accepted, evicted or left behind. -/
  ended : task.loop.point = .returned →
    ((task.loop.cycle.delivered ++ task.loop.cycle.evicted ++
      task.loop.cycle.state.batches).flatMap Submission.metrics).Perm agent.arrived

theorem agent_run_endsInOrder {room : ∀ entry ∈ config.forwarders.entries, HasRoom entry.2}
    {events : List AgentEvent} (ran : machine.run (new config room now) events = some agent) :
    ∀ index task, agent.forwarders[index]? = some task → agent.EndsInOrder index task := by
  intro index task found
  have valid := run_valid ran
  have loop := valid.loop found
  rcases (valid.forwarders index task found).1 with ⟨runEvents, loopRan⟩
  have seen := RunLoop.run_isFinal loopRan
  exact {
    told := seen
    afterLast := by
      intro told
      rcases valid.of_shutdown found told with ⟨returned, every⟩
      exact ⟨returned, valid.finished_of_returned returned, every⟩
    nothingAfter := by
      intro told events later laterTask ranOn laterFound
      rcases valid.of_shutdown found told with ⟨returned, every⟩
      have settled := run_settled returned ranOn
      have laterValid : later.Valid config now :=
        machine.run_invariant (fun valid stepped => step_valid valid stepped) valid ranOn
      have laterTold : laterTask.loop.shutdown = true := by
        rcases settled.made with ⟨more, appended⟩
        apply (laterValid.forwarders index laterTask laterFound).2.shutdown.mpr
        rw [← appended, callsTo_append]
        apply List.mem_append_left
        exact (valid.forwarders index task found).2.shutdown.mp told
      have laterEvery := (laterValid.of_shutdown laterFound laterTold).2
      refine submitted_ext (laterValid.loop laterFound).cycle loop.cycle ?_
      rw [laterEvery, settled.emitted, every]
    ended := by
      intro ended
      have told := seen (by rw [ended]; rfl)
      rcases valid.of_shutdown found told with ⟨returned, all⟩
      have idle : task.loop.cycle.inFlight = [] := loop.inFlight (by rw [ended]; rfl)
      rw [← valid.arrived_eq, valid.finished_of_returned returned, ← all, ← List.flatMap_def]
      have accounted := loop.cycle.accounted
      rw [idle, List.append_nil] at accounted
      simpa [batchOf] using accounted.flatMap_right Submission.metrics }

/-- The signal comes while one collector is done and the other is not. -/
def interrupted : List AgentEvent :=
  [.scheduler (.iterate 0), .scheduler (.collected ⟨"host", 0⟩ (some [Scheduler.loadMetric])),
    .scheduler .receive, .scheduler (.iterate 1), .scheduler .shutdown,
    .call, .call, .call, .call]

/-- The final send of the one forwarder fails. -/
def finalFailure : List AgentEvent :=
  [.forwarder 0 .proceed, .forwarder 0 .proceed, .forwarder 0 .failed]

theorem agent_run_endsInOrder_interrupted :
    ∃ agent task, machine.run (new Scheduler.sampleConfig sampleConfig_hasRoom 0)
        (interrupted ++ finalFailure) = some agent ∧
      agent.forwarders[0]? = some task ∧ task.loop.point = .returned ∧
      agent.EndsInOrder 0 task := by
  have ends : ((machine.run (new Scheduler.sampleConfig sampleConfig_hasRoom 0)
      (interrupted ++ finalFailure)).bind fun agent =>
        (agent.forwarders[0]?).map fun task => task.loop.point) = some .returned := by
    decide +kernel
  rcases Option.bind_eq_some_iff.mp ends with ⟨agent, ran, pointed⟩
  rcases Option.map_eq_some_iff.mp pointed with ⟨task, found, returned⟩
  exact ⟨agent, task, ran, found, returned, agent_run_endsInOrder ran 0 task found⟩

/-! ## The end is reached -/

/-- A bound on the moves that all forwarders together have left, once they have been told to
flush. -/
def movesLeft (points : List Point) : Nat :=
  Components.total RunLoop.movesLeft points

def points (agent : Agent) : List Point :=
  agent.forwarders.map fun task => task.loop.point

private theorem unclosed_callProgram (handed : List (List Metric)) (returned : Bool) :
    unclosed (callProgram handed returned) = none := by
  induction handed with
  | nil => cases returned <;> rfl
  | cons metrics rest inductionHypothesis =>
      rw [callProgram_cons]
      cases program : callProgram rest returned with
      | nil => rfl
      | cons first others =>
          rw [program] at inductionHypothesis
          simpa only [unclosed, List.getLast?_cons_cons] using inductionHypothesis

/-- The scheduler loop has returned, and every forwarder has been told to flush. -/
structure Signalled (config : MetricsConfig) (now : Instant) (agent : Agent) : Prop where
  valid : agent.Valid config now
  returned : agent.scheduler.point = .returned
  noCalls : agent.calls = []

theorem Signalled.told (signalled : agent.Signalled config now) {index : Nat}
    {task : ForwarderTask} (found : agent.forwarders[index]? = some task) :
    task.loop.shutdown = true ∧ task.loop.shuttingDown = 0 := by
  have inside : index < agent.forwarders.length := (List.getElem?_eq_some_iff.mp found).1
  have calls := signalled.valid.callsTo_eq inside
  rw [signalled.noCalls, callsTo_nil, List.append_nil] at calls
  have served := (signalled.valid.forwarders index task found).2
  constructor
  · apply served.shutdown.mpr
    rw [calls, signalled.returned, decide_eq_true rfl]
    exact shutdown_mem_callProgram
  · rw [served.shuttingDown, calls, unclosed_callProgram]
    rfl

theorem Signalled.step {next : Agent} {event : AgentEvent}
    (signalled : agent.Signalled config now) (stepped : agent.step event = some next) :
    next.Signalled config now := by
  have settled := (Settled.refl signalled.returned).step stepped
  exact ⟨step_valid signalled.valid stepped, settled.returned, settled.calls signalled.noCalls⟩

private theorem task_moves {task after : ForwarderTask} {event : RunEvent}
    (own : event.isOwn = true) (told : task.loop.shutdown = true)
    (stepped : task.step event = some after) :
    after.loop.point = task.loop.point ∨
      RunLoop.movesLeft after.loop.point < RunLoop.movesLeft task.loop.point := by
  rcases step_eq_some stepped with ⟨loop, moved, rfl⟩
  by_cases healthy : event.healthy = true
  · exact RunLoop.step_moves told healthy moved
  · have failed : event = .failed := by
      cases event <;> simp_all [RunEvent.healthy, RunEvent.isOwn]
    subst failed
    exact RunLoop.step_moves_failed moved

theorem Signalled.step_moves {next : Agent} {event : AgentEvent}
    (signalled : agent.Signalled config now) (stepped : agent.step event = some next) :
    next.points = agent.points ∨ movesLeft next.points < movesLeft agent.points := by
  cases (steps_of_step stepped).2 with
  | scheduled _ _ => exact Or.inl rfl
  | called head _ => exact absurd (signalled.noCalls.symm.trans head) nofun
  | @forwarded index event forwarders own taken =>
      rcases Components.stepAt_eq_some.mp taken with ⟨task, after, found, moved, rfl⟩
      have set : (agent.forwarders.set index after).map (fun task => task.loop.point) =
          agent.points.set index after.loop.point := List.map_set
      have here : agent.points[index]? = some task.loop.point := by
        simp [points, found]
      simp only [points, set]
      rcases task_moves own (signalled.told found).1 moved with same | lower
      · left
        rw [same]
        exact Components.set_of_getElem? here
      · right
        have ranks : Components.total RunLoop.movesLeft (agent.points.set index after.loop.point) +
            RunLoop.movesLeft task.loop.point =
              Components.total RunLoop.movesLeft agent.points +
                RunLoop.movesLeft after.loop.point := Components.total_set here
        simp only [movesLeft, points] at ranks ⊢
        omega

/-- What can be done with no time passing and no request refused. -/
def Immediate (event : AgentEvent) : Prop :=
  event = .call ∨
    ∃ index, ∃ own ∈ [RunEvent.proceed, .pollNotified, .accepted], event = .forwarder index own

/-- From where the scheduler loop has returned, whatever the endpoints answer. -/
structure Finishes (agent : Agent) (events : List AgentEvent) (later : Agent) : Prop where
  /-- While there are calls to be made, the next one is free. -/
  callsFree : later.dead = false → later.calls ≠ [] →
    ∃ next, machine.step later .call = some next ∧
      later.calls.length = next.calls.length + 1 ∧ next.points = later.points
  /-- After the last one, the forwarders move nine times each at most. -/
  bounded : agent.calls = [] →
    machine.moves points agent events ≤ 9 * agent.forwarders.length
  /-- Until `run` has awaited all of them, one can move, with no time passing. -/
  goesOn : later.dead = false → later.calls = [] → later.joined ∨
    ∃ index, ∃ event ∈ [RunEvent.proceed, .pollNotified, .accepted], ∃ next,
      machine.step later (.forwarder index event) = some next ∧ next.points ≠ later.points
  /-- With no panic before, the end of `run` can be reached from here. -/
  reaches : later.dead = false → ∃ more final, (∀ event ∈ more, Immediate event) ∧
    machine.run later more = some final ∧ final.joined

theorem Valid.callsFree (valid : later.Valid config now) (alive : later.dead = false)
    (remain : later.calls ≠ []) :
    ∃ next, machine.step later .call = some next ∧
      later.calls.length = next.calls.length + 1 ∧ next.points = later.points := by
  rcases List.exists_cons_of_ne_nil remain with ⟨⟨index, call⟩, rest, head⟩
  rcases valid.call alive head with ⟨task, after, found, called, -, stays, -⟩
  have taken := Components.stepAt_eq_some.mpr ⟨task, after, found, called, rfl⟩
  refine ⟨_, step_of_steps alive (.called head taken), by simp [head], ?_⟩
  have set : (later.forwarders.set index after).map (fun task => task.loop.point) =
      later.points.set index after.loop.point := List.map_set
  simp only [points] at set ⊢
  rw [set, stays]
  exact Components.set_of_getElem? (by simp [found])

/-- Once the scheduler loop has returned, only a backoff can overflow. -/
private theorem dead_eq_false_iff (returned : agent.scheduler.point = .returned) :
    agent.dead = false ↔ ∀ point ∈ agent.points, point ≠ .aborted := by
  simp [dead, points, returned]

private theorem Signalled.goesOn (signalled : later.Signalled config now)
    (alive : later.dead = false) :
    later.joined ∨ ∃ index, ∃ event ∈ [RunEvent.proceed, .pollNotified, .accepted], ∃ next,
      machine.step later (.forwarder index event) = some next ∧ next.points ≠ later.points ∧
        next.dead = false := by
  by_cases ended : ∀ task ∈ later.forwarders, task.loop.point = .returned
  · exact Or.inl ⟨signalled.returned, signalled.noCalls, ended⟩
  · right
    simp only [not_forall] at ended
    rcases ended with ⟨task, member, running⟩
    rcases List.getElem?_of_mem member with ⟨index, found⟩
    rcases signalled.told found with ⟨told, completed⟩
    rcases (signalled.valid.forwarders index task found).1 with ⟨runEvents, loopRan⟩
    have notAborted := (alive_of_dead alive).2 task member
    have closing : task.loop.Closing task.settings.limits :=
      ⟨signalled.valid.loop found, told, notAborted, RunLoop.run_sends loopRan⟩
    rcases @RunLoop.closing_goesOn task.settings.limits task.settings.backoffInitial
        task.settings.backoffMax task.loop closing completed running with
      ⟨event, own, loop, steps, moved, -⟩
    have loopStepped := RunLoop.step_of_steps notAborted steps
    have stepped : task.step event = some { task with loop } := by
      rw [ForwarderTask.step, loopStepped]
      rfl
    have isOwn : event.isOwn = true ∧ event.healthy = true := by
      simp only [List.mem_cons, List.not_mem_nil, or_false] at own
      rcases own with rfl | rfl | rfl <;> exact ⟨rfl, rfl⟩
    have taken := Components.stepAt_eq_some.mpr ⟨task, _, found, stepped, rfl⟩
    have set : (later.forwarders.set index { task with loop }).map
        (fun task => task.loop.point) = later.points.set index loop.point := List.map_set
    refine ⟨index, event, own, _, step_of_steps alive (.forwarded isOwn.1 taken), ?_, ?_⟩
    · intro same
      rcases List.getElem?_eq_some_iff.mp found with ⟨inside, rfl⟩
      have here := congrArg (fun points : List Point => points[index]?) same
      simp only [points, List.map_set] at here
      exact moved (by simpa [inside] using here)
    · refine (dead_eq_false_iff ?_).mpr ?_
      · exact signalled.returned
      · intro point present
        rw [points, set] at present
        rcases List.mem_or_eq_of_mem_set present with before | rfl
        · exact (dead_eq_false_iff signalled.returned).mp alive point before
        · exact (RunLoop.step_closing closing isOwn.2 loopStepped).alive

/-- The scheduler loop has returned, and no task has panicked. -/
structure Ending (config : MetricsConfig) (now : Instant) (agent : Agent) : Prop where
  valid : agent.Valid config now
  returned : agent.scheduler.point = .returned
  alive : agent.dead = false

/-- One more call is made, or one more forwarder moves. -/
private theorem Ending.progress (ending : agent.Ending config now) :
    agent.joined ∨ ∃ event next, Immediate event ∧ machine.step agent event = some next ∧
      next.Ending config now ∧
      next.calls.length + movesLeft next.points < agent.calls.length + movesLeft agent.points := by
  have stays : ∀ {event next}, agent.step event = some next → next.dead = false →
      next.Ending config now := by
    intro event next stepped alive
    have settled := (Settled.refl ending.returned).step stepped
    exact ⟨step_valid ending.valid stepped, settled.returned, alive⟩
  by_cases noCalls : agent.calls = []
  · have signalled : agent.Signalled config now := ⟨ending.valid, ending.returned, noCalls⟩
    rcases signalled.goesOn ending.alive with
      joined | ⟨index, event, own, next, stepped, moved, alive⟩
    · exact Or.inl joined
    · right
      have stepped : agent.step (.forwarder index event) = some next := stepped
      have lower := (signalled.step_moves stepped).resolve_left moved
      have noneLeft := (signalled.step stepped).noCalls
      refine ⟨_, next, Or.inr ⟨index, event, own, rfl⟩, stepped, stays stepped alive, ?_⟩
      simpa [noCalls, noneLeft] using lower
  · rcases ending.valid.callsFree ending.alive noCalls with ⟨next, stepped, fewer, same⟩
    right
    have stepped : agent.step .call = some next := stepped
    have settled := (Settled.refl ending.returned).step stepped
    have alive : next.dead = false := by
      rw [dead_eq_false_iff settled.returned, same]
      exact (dead_eq_false_iff ending.returned).mp ending.alive
    refine ⟨_, next, Or.inl rfl, stepped, stays stepped alive, ?_⟩
    rw [same]
    omega

theorem agent_returned_finishes {room : ∀ entry ∈ config.forwarders.entries, HasRoom entry.2}
    {before events : List AgentEvent}
    (ran : machine.run (new config room now) before = some agent)
    (returned : agent.scheduler.point = .returned)
    (ranOn : machine.run agent events = some later) : agent.Finishes events later := by
  have valid := run_valid ran
  have settled := run_settled returned ranOn
  have laterValid : later.Valid config now :=
    machine.run_invariant (fun valid stepped => step_valid valid stepped) valid ranOn
  exact {
    callsFree := fun alive => laterValid.callsFree alive
    bounded := by
      intro noCalls
      have everyStep : machine.Along (fun _ _ => True) agent events :=
        Machine.Along.of_forall (fun _ _ => trivial) agent
      have ranked : machine.moves points agent events + movesLeft later.points ≤
          movesLeft agent.points :=
        machine.moves_add_rank_le (fun signalled _ stepped => signalled.step stepped)
          (fun signalled _ stepped => signalled.step_moves stepped)
          (⟨valid, returned, noCalls⟩ : agent.Signalled config now) everyStep ranOn
      have most : movesLeft agent.points ≤ 9 * agent.points.length :=
        Components.total_le RunLoop.movesLeft_le agent.points
      have sameCount : agent.points.length = agent.forwarders.length := List.length_map _
      omega
    goesOn := by
      intro alive noCalls
      rcases Signalled.goesOn ⟨laterValid, settled.returned, noCalls⟩ alive with
        joined | ⟨index, event, own, next, stepped, moved, -⟩
      · exact Or.inl joined
      · exact Or.inr ⟨index, event, own, next, stepped, moved⟩
    reaches := by
      intro alive
      exact machine.exists_run_of_progress Ending.progress
        (⟨laterValid, settled.returned, alive⟩ : later.Ending config now) }

theorem agent_returned_finishes_interrupted :
    ∃ agent later, machine.run (new Scheduler.sampleConfig sampleConfig_hasRoom 0) interrupted =
        some agent ∧ agent.calls = [] ∧ machine.run agent finalFailure = some later ∧
      agent.Finishes finalFailure later := by
  have ends : ((machine.run (new Scheduler.sampleConfig sampleConfig_hasRoom 0) interrupted).map
      fun agent => (agent.calls, decide (agent.scheduler.point = .returned),
        (machine.run agent finalFailure).isSome)) = some ([], true, true) := by decide +kernel
  rcases Option.map_eq_some_iff.mp ends with ⟨agent, ran, equal⟩
  simp only [Prod.mk.injEq, decide_eq_true_eq] at equal
  rcases equal with ⟨noCalls, returned, goes⟩
  rcases Option.isSome_iff_exists.mp goes with ⟨later, ranOn⟩
  exact ⟨agent, later, ran, noCalls, ranOn, agent_returned_finishes ran returned ranOn⟩

end Ferrometer.Pipeline.Agent
