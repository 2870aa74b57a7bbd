import Ferrometer.Pipeline.Agent

/-!
Contract: the forwarders of one process, apart from each other.

Owns: that what happens at one endpoint is invisible to the scheduler and to every other
forwarder: without it, the rest of a run is still a run.

Does not own: a forwarder that overflows an instant. Its panic ends the process.
-/

set_option autoImplicit false

namespace Ferrometer.Pipeline

open Ferrometer.Config Ferrometer.Foundation Ferrometer.Forwarder.Otlphttp

/-- Not a step of the forwarder at `index`, nor of its clock or its endpoint. -/
def AgentEvent.isElsewhere (index : Nat) : AgentEvent → Bool
  | .forwarder other _ => other != index
  | _ => true

namespace Agent

variable {config : MetricsConfig} {now : Instant} {index : Nat}

/-- The same process, but for what one forwarder has done by itself. -/
structure AgreesApart (config : MetricsConfig) (now : Instant) (index : Nat)
    (agent follower : Agent) : Prop where
  valid : follower.Valid config now
  scheduler : follower.scheduler = agent.scheduler
  calls : follower.calls = agent.calls
  made : follower.made = agent.made
  count : follower.forwarders.length = agent.forwarders.length
  others : ∀ other, other ≠ index → follower.forwarders[other]? = agent.forwarders[other]?
  /-- Standing still, it does not panic. -/
  alive : ∀ task, follower.forwarders[index]? = some task → task.loop.point ≠ .aborted

section Step

variable {agent next follower : Agent} (agrees : AgreesApart config now index agent follower)
include agrees

theorem AgreesApart.dead_eq_false (alive : agent.dead = false) : follower.dead = false := by
  rcases alive_of_dead alive with ⟨notHalted, notAborted⟩
  have every : ∀ task ∈ follower.forwarders, task.loop.point ≠ .aborted := by
    intro task member
    rcases List.getElem?_of_mem member with ⟨place, found⟩
    by_cases own : place = index
    · exact agrees.alive task (own ▸ found)
    · rw [agrees.others place own] at found
      exact notAborted task (List.mem_of_getElem? found)
  rw [← agrees.scheduler] at notHalted
  simpa [dead, notHalted] using every

/-- A step of the forwarder at `index` is none for the others. -/
theorem AgreesApart.ignored {event : AgentEvent} (own : event.isElsewhere index = false)
    (stepped : agent.step event = some next) : AgreesApart config now index next follower := by
  cases (steps_of_step stepped).2 with
  | scheduled _ _ => cases own
  | called _ _ => cases own
  | @forwarded place _ _ _ taken =>
      obtain rfl : place = index := by simpa [AgentEvent.isElsewhere] using own
      exact { agrees with
        count := agrees.count.trans (Components.length_stepAt taken).symm
        others := by
          intro other different
          rw [Components.getElem?_stepAt_of_ne different taken]
          exact agrees.others other different }

/-- What another component does, it can do in both. -/
private theorem AgreesApart.stepAt_other {Event : Type}
    {step : ForwarderTask → Event → Option ForwarderTask} {place : Nat} {event : Event}
    {forwarders : List ForwarderTask} (elsewhere : place ≠ index)
    (taken : Components.stepAt step agent.forwarders place event = some forwarders) :
    ∃ after, Components.stepAt step follower.forwarders place event = some after ∧
      after.length = forwarders.length ∧
      (∀ other, other ≠ index → after[other]? = forwarders[other]?) ∧
      after[index]? = follower.forwarders[index]? := by
  rcases Components.stepAt_eq_some.mp taken with ⟨task, result, found, moved, rfl⟩
  rw [← agrees.others place elsewhere] at found
  refine ⟨follower.forwarders.set place result,
    Components.stepAt_eq_some.mpr ⟨task, result, found, moved, rfl⟩, ?_, ?_, ?_⟩
  · simpa using agrees.count
  · intro other different
    rw [List.getElem?_set, List.getElem?_set, agrees.count, agrees.others other different]
  · exact List.getElem?_set_ne elsewhere

theorem AgreesApart.followed {event : AgentEvent} (elsewhere : event.isElsewhere index = true)
    (stepped : agent.step event = some next) :
    ∃ after, follower.step event = some after ∧ AgreesApart config now index next after := by
  rcases steps_of_step stepped with ⟨alive, steps⟩
  have followerAlive := agrees.dead_eq_false alive
  have follows : ∀ {after}, follower.Steps event after → follower.step event = some after :=
    fun steps => step_of_steps followerAlive steps
  cases steps with
  | @scheduled event scheduler free taken =>
      have sameFree : follower.goesOn event = true := by
        rw [← free]
        cases event <;> simp only [goesOn, agrees.calls]
      have sameTaken : follower.scheduler.step event = some scheduler := by
        rw [agrees.scheduler, taken]
      have moves := follows (.scheduled sameFree sameTaken)
      exact ⟨_, moves, {
        valid := step_valid agrees.valid moves
        scheduler := rfl
        calls := by rw [agrees.calls, agrees.count, agrees.scheduler]
        made := agrees.made
        count := agrees.count
        others := agrees.others
        alive := agrees.alive }⟩
  | @called place call rest forwarders head taken =>
      have sameHead : follower.calls = (place, call) :: rest := agrees.calls.trans head
      have sameMade : follower.made ++ [(place, call)] = agent.made ++ [(place, call)] := by
        rw [agrees.made]
      by_cases own : place = index
      -- The call finds this forwarder elsewhere in its loop, and is free all the same.
      · subst own
        rcases agrees.valid.call followerAlive sameHead with
          ⟨task, after, found, called, -, stays, -⟩
        have sameTaken := Components.stepAt_eq_some.mpr ⟨task, after, found, called, rfl⟩
        have moves := follows (.called sameHead sameTaken)
        exact ⟨_, moves, {
          valid := step_valid agrees.valid moves
          scheduler := agrees.scheduler
          calls := rfl
          made := sameMade
          count := by
            rw [Components.length_stepAt taken]
            exact (Components.length_stepAt sameTaken).trans agrees.count
          others := by
            intro other different
            rw [Components.getElem?_stepAt_of_ne different taken,
              Components.getElem?_stepAt_of_ne different sameTaken]
            exact agrees.others other different
          alive := by
            intro result present
            have inside : place < follower.forwarders.length :=
              (List.getElem?_eq_some_iff.mp found).1
            obtain rfl : after = result := by simpa [inside] using present
            rw [stays]
            exact agrees.alive task found }⟩
      · rcases agrees.stepAt_other own taken with ⟨after, sameTaken, count, others, atIndex⟩
        have moves := follows (.called sameHead sameTaken)
        exact ⟨_, moves, {
          valid := step_valid agrees.valid moves
          scheduler := agrees.scheduler
          calls := rfl
          made := sameMade
          count := count
          others := others
          alive := fun result present => agrees.alive result (atIndex ▸ present) }⟩
  | @forwarded place event forwarders own taken =>
      have different : place ≠ index := by simpa [AgentEvent.isElsewhere] using elsewhere
      rcases agrees.stepAt_other different taken with ⟨after, sameTaken, count, others, atIndex⟩
      have moves := follows (.forwarded own sameTaken)
      exact ⟨_, moves, {
        valid := step_valid agrees.valid moves
        scheduler := agrees.scheduler
        calls := agrees.calls
        made := agrees.made
        count := count
        others := others
        alive := fun result present => agrees.alive result (atIndex ▸ present) }⟩

end Step

private theorem new_agrees (room : ∀ entry ∈ config.forwarders.entries, HasRoom entry.2) :
    AgreesApart config now index (new config room now) (new config room now) where
  valid := new_valid room
  scheduler := rfl
  calls := rfl
  made := rfl
  count := rfl
  others := fun _ _ => rfl
  alive := by
    intro task found
    rcases List.mem_pmap.mp (List.mem_of_getElem? found) with ⟨⟨name, forwarder⟩, member, rfl⟩
    cases forwarder
    simp [buildForwarder, RunLoop.initial]

/-- One forwarder may hang, be refused or be slow: the scheduler and every other forwarder
do what they would do if it stood still from the start, and are called just the same. -/
theorem agent_run_isolated {room : ∀ entry ∈ config.forwarders.entries, HasRoom entry.2}
    {events : List AgentEvent} {agent : Agent}
    (ran : machine.run (new config room now) events = some agent) (index : Nat) :
    ∃ follower, machine.run (new config room now) (events.filter (·.isElsewhere index)) =
        some follower ∧
      follower.scheduler = agent.scheduler ∧ follower.calls = agent.calls ∧
      ∀ other, other ≠ index → follower.forwarders[other]? = agent.forwarders[other]? := by
  have ignored : ∀ {state follower : Agent} {event next},
      AgreesApart config now index state follower → event.isElsewhere index = false →
      machine.step state event = some next → AgreesApart config now index next follower :=
    fun agrees own stepped => agrees.ignored own stepped
  have followed : ∀ {state follower : Agent} {event next},
      AgreesApart config now index state follower → event.isElsewhere index = true →
      machine.step state event = some next →
      ∃ after, machine.step follower event = some after ∧
        AgreesApart config now index next after :=
    fun agrees elsewhere stepped => agrees.followed elsewhere stepped
  rcases @Machine.run_filter _ _ machine _ machine (·.isElsewhere index)
      (AgreesApart config now index) ignored followed _ _ _ _ (new_agrees room) ran with
    ⟨follower, followerRan, agrees⟩
  exact ⟨follower, followerRan, agrees.scheduler, agrees.calls, agrees.others⟩

def twoForwarders : MetricsConfig where
  collectors := { entries := [("host", .unix {})] }
  forwarders := { entries := [("first", .otlphttp { endpoint := "http://first" }),
    ("second", .otlphttp { endpoint := "http://second" })] }

theorem twoForwarders_hasRoom :
    ∀ entry ∈ twoForwarders.forwarders.entries, HasRoom entry.2 := by
  simp [twoForwarders, HasRoom, defaultBufferMaxMetrics, defaultRequestMaxMetrics]

/-- The first endpoint never answers. The second one accepts the batch. -/
def hangingFirst : List AgentEvent :=
  [.scheduler (.iterate 0), .scheduler (.collected ⟨"host", 0⟩ (some [Scheduler.loadMetric])),
    .scheduler .receive, .scheduler (.iterate 1), .call, .forwarder 0 .proceed,
    .forwarder 0 .proceed, .forwarder 0 .proceed, .forwarder 0 .proceed, .call, .call, .call,
    .forwarder 1 .proceed, .forwarder 1 .proceed, .forwarder 1 .proceed, .forwarder 1 .proceed,
    .forwarder 1 .accepted]

theorem agent_run_isolated_hangingFirst :
    ∃ agent, machine.run (new twoForwarders twoForwarders_hasRoom 0) hangingFirst = some agent ∧
      ∃ follower, machine.run (new twoForwarders twoForwarders_hasRoom 0)
          (hangingFirst.filter (·.isElsewhere 0)) = some follower ∧
        follower.scheduler = agent.scheduler ∧ follower.calls = agent.calls ∧
        ∀ other, other ≠ 0 → follower.forwarders[other]? = agent.forwarders[other]? := by
  have goes : (machine.run (new twoForwarders twoForwarders_hasRoom 0) hangingFirst).isSome := by
    decide +kernel
  rcases Option.isSome_iff_exists.mp goes with ⟨agent, ran⟩
  exact ⟨agent, ran, agent_run_isolated ran 0⟩

end Agent

end Ferrometer.Pipeline
