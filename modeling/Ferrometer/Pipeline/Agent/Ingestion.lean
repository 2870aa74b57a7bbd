import Ferrometer.Http
import Ferrometer.Pipeline.Agent.Shutdown
import Ferrometer.Pipeline.Agent.Startup

/-!
Contract: the metrics side of the process next to the endpoints of its forwarders, request
by request.

Owns: the requests that the forwarders of a started configuration make while the agent runs,
and what can be read back from those that an endpoint has accepted.

Does not own: a request that an endpoint has taken without saying so. Its batches are sent
again, and a server that wants them once has to see that they are the same.
-/

set_option autoImplicit false

namespace Ferrometer.Pipeline

open Ferrometer.Config Ferrometer.Foundation Ferrometer.Forwarder.Otlphttp

variable {Certificate Identity : Type}

/-! ## Requests -/

/-- A request of one of the forwarders, and what became of it. -/
structure Exchanged where
  index : Nat
  post : Post
  outcome : Except String StatusCode

/-- The end of a send, for a transport error or a status. -/
def endOfSend : Except String StatusCode → RunEvent
  | .ok status => if status.isSuccess then .accepted else .failed
  | .error _ => .failed

def Exchanged.accepted (exchanged : Exchanged) : Bool :=
  endOfSend exchanged.outcome = .accepted

structure Ingesting where
  agent : Agent
  /-- History: the requests made. -/
  exchanged : List Exchanged

inductive IngestEvent where
  | agent (event : AgentEvent)
  /-- The request of this forwarder is over. -/
  | answered (index : Nat) (outcome : Except String StatusCode)

def AgentEvent.endsSend : AgentEvent → Bool
  | .forwarder _ event => event = .accepted || event = .failed
  | _ => false

namespace Ingesting

/-- The requests that the endpoint of one forwarder has accepted. -/
def acceptedFrom (index : Nat) (exchanged : List Exchanged) : List Exchanged :=
  exchanged.filter fun exchanged => exchanged.index = index && exchanged.accepted

theorem acceptedFrom_concat (index : Nat) (exchanged : List Exchanged) (last : Exchanged) :
    acceptedFrom index (exchanged ++ [last]) = acceptedFrom index exchanged ++
      if index = last.index ∧ endOfSend last.outcome = .accepted then [last] else [] := by
  rw [acceptedFrom, List.filter_append]
  by_cases takes : index = last.index ∧ endOfSend last.outcome = .accepted
  · simp [acceptedFrom, Exchanged.accepted, takes]
  · rw [if_neg takes]
    have refused : last.index = index → endOfSend last.outcome ≠ .accepted :=
      fun same accepts => takes ⟨same.symm, accepts⟩
    simpa [acceptedFrom, Exchanged.accepted] using refused

section Machine

variable (gzip : Gzip) (forwarders : List (OtlphttpForwarder Certificate Identity))

/-- The request that a forwarder has out. -/
def request? (agent : Agent) (index : Nat) : Option Post := do
  let forwarder ← forwarders[index]?
  let task ← agent.forwarders[index]?
  forwarder.request gzip (task.loop.cycle.inFlight.map Submission.metrics)

def step (ingesting : Ingesting) : IngestEvent → Option Ingesting
  | .agent event =>
      if event.endsSend then none
      else do
        let agent ← ingesting.agent.step event
        some { ingesting with agent }
  | .answered index outcome => do
      let post ← request? gzip forwarders ingesting.agent index
      let agent ← ingesting.agent.step (.forwarder index (endOfSend outcome))
      some { agent, exchanged := ingesting.exchanged ++ [⟨index, post, outcome⟩] }

def machine : Machine Ingesting IngestEvent where
  step := step gzip forwarders

end Machine

/-! ## What a step can do -/

/-- Every step that `step` takes. -/
inductive Steps (gzip : Gzip) (forwarders : List (OtlphttpForwarder Certificate Identity))
    (ingesting : Ingesting) : IngestEvent → Ingesting → Prop where
  | went {event : AgentEvent} {agent : Agent} (goesOn : event.endsSend = false)
      (taken : ingesting.agent.step event = some agent) :
      Steps gzip forwarders ingesting (.agent event) { ingesting with agent }
  | answered {index : Nat} {outcome : Except String StatusCode} {agent : Agent}
      {forwarder : OtlphttpForwarder Certificate Identity} {task : ForwarderTask} {post : Post}
      (builds : forwarders[index]? = some forwarder)
      (found : ingesting.agent.forwarders[index]? = some task)
      (requested : forwarder.request gzip (task.loop.cycle.inFlight.map Submission.metrics) =
        some post)
      (taken : ingesting.agent.step (.forwarder index (endOfSend outcome)) = some agent) :
      Steps gzip forwarders ingesting (.answered index outcome)
        { agent, exchanged := ingesting.exchanged ++ [⟨index, post, outcome⟩] }

variable {gzip : Gzip} {forwarders : List (OtlphttpForwarder Certificate Identity)}
  {ingesting next : Ingesting}

theorem steps_of_step {event : IngestEvent}
    (stepped : ingesting.step gzip forwarders event = some next) :
    Steps gzip forwarders ingesting event next := by
  cases event with
  | agent event =>
      simp only [step] at stepped
      split at stepped
      · exact absurd stepped (by simp)
      · rename_i goesOn
        rcases Option.bind_eq_some_iff.mp stepped with ⟨agent, taken, equal⟩
        cases equal
        exact .went (Bool.eq_false_of_not_eq_true goesOn) taken
  | answered index outcome =>
      simp only [step, Option.bind_eq_bind, Option.bind_eq_some_iff] at stepped
      rcases stepped with ⟨post, asked, agent, taken, equal⟩
      cases equal
      simp only [request?, Option.bind_eq_bind, Option.bind_eq_some_iff] at asked
      rcases asked with ⟨forwarder, builds, task, found, requested⟩
      exact .answered builds found requested taken

/-! ## Refinement -/

section Refinement

variable {config : MetricsConfig} {now : Instant}
  {room : ∀ entry ∈ config.forwarders.entries, HasRoom entry.2}

/-- Every run next to the endpoints is a run of the agent. -/
theorem run_refines {events : List IngestEvent}
    (ran : (machine gzip forwarders).run ⟨Agent.new config room now, []⟩ events =
      some ingesting) :
    ∃ agentEvents,
      Agent.machine.run (Agent.new config room now) agentEvents = some ingesting.agent := by
  have simulated : ∀ {ingesting : Ingesting} {agent : Agent} {event : IngestEvent}
      {next : Ingesting}, ingesting.agent = agent →
      (machine gzip forwarders).step ingesting event = some next →
      ∃ agentEvents after, Agent.machine.run agent agentEvents = some after ∧
        next.agent = after := by
    rintro ingesting agent event next rfl stepped
    have one : ∀ {event after}, ingesting.agent.step event = some after →
        Agent.machine.run ingesting.agent [event] = some after :=
      fun taken => Agent.machine.run_cons_eq_some.mpr ⟨_, taken, rfl⟩
    cases steps_of_step stepped with
    | went _ taken => exact ⟨_, _, one taken, rfl⟩
    | answered _ _ _ taken => exact ⟨_, _, one taken, rfl⟩
  rcases (machine gzip forwarders).run_simulation simulated rfl ran with
    ⟨agentEvents, agent, agentRan, rfl⟩
  exact ⟨agentEvents, agentRan⟩

/-- There is always a request to answer, so that the agent can take every step as before. -/
private theorem step_lifts {agent after : Agent} {event : AgentEvent}
    (count : agent.forwarders.length = forwarders.length)
    (stepped : agent.step event = some after) (exchanged : List Exchanged) :
    ∃ ingestEvent next, step gzip forwarders ⟨agent, exchanged⟩ ingestEvent = some next ∧
      next.agent = after := by
  by_cases quiet : event.endsSend = true
  · have ends : ∃ index outcome, event = .forwarder index (endOfSend outcome) := by
      unfold AgentEvent.endsSend at quiet
      split at quiet
      · rename_i index event
        simp only [Bool.or_eq_true, decide_eq_true_eq] at quiet
        rcases quiet with rfl | rfl
        · exact ⟨index, .ok ⟨200, "200 OK"⟩, rfl⟩
        · exact ⟨index, .error "", rfl⟩
      · cases quiet
    rcases ends with ⟨index, outcome, rfl⟩
    cases (Agent.steps_of_step stepped).2 with
    | forwarded _ taken =>
        rcases Components.stepAt_eq_some.mp taken with ⟨task, -, found, -⟩
        have inside : index < forwarders.length :=
          count ▸ (List.getElem?_eq_some_iff.mp found).1
        rcases request_carried gzip forwarders[index]
          (task.loop.cycle.inFlight.map Submission.metrics) with ⟨post, requested, -⟩
        have asked : request? gzip forwarders agent index = some post := by
          simp [request?, found, inside, requested]
        exact ⟨.answered index outcome, _, by simp only [step, asked, stepped]; rfl, rfl⟩
  · exact ⟨.agent event, _, by simp only [step, if_neg quiet, stepped]; rfl, rfl⟩

/-- Every run of the agent is one next to some endpoints. -/
theorem run_lifts (count : forwarders.length = config.forwarders.entries.length)
    {events : List AgentEvent} {agent : Agent}
    (ran : Agent.machine.run (Agent.new config room now) events = some agent) :
    ∃ ingestEvents ingesting, (machine gzip forwarders).run
        ⟨Agent.new config room now, []⟩ ingestEvents = some ingesting ∧
      ingesting.agent = agent := by
  have simulated : ∀ {agent : Agent} {ingesting : Ingesting} {event : AgentEvent}
      {after : Agent}, (agent.forwarders.length = forwarders.length ∧ ingesting.agent = agent) →
      Agent.machine.step agent event = some after →
      ∃ ingestEvents next, (machine gzip forwarders).run ingesting ingestEvents = some next ∧
        after.forwarders.length = forwarders.length ∧ next.agent = after := by
    rintro agent ingesting event after ⟨sameCount, rfl⟩ stepped
    rcases step_lifts sameCount stepped ingesting.exchanged with
      ⟨ingestEvent, next, taken, sameAgent⟩
    have ranOne : (machine gzip forwarders).run ingesting [ingestEvent] = some next :=
      (machine gzip forwarders).run_cons_eq_some.mpr ⟨next, taken, rfl⟩
    exact ⟨_, next, ranOne, (Agent.step_count stepped).trans sameCount, sameAgent⟩
  have start : (Agent.new config room now).forwarders.length = forwarders.length ∧
      (⟨Agent.new config room now, []⟩ : Ingesting).agent = Agent.new config room now :=
    ⟨List.length_pmap.trans count.symm, rfl⟩
  rcases Agent.machine.run_simulation simulated start ran with
    ⟨ingestEvents, ingesting, ingestRan, -, same⟩
  exact ⟨ingestEvents, ingesting, ingestRan, same⟩

end Refinement

/-! ## What an answer delivers -/

section Delivery

variable {agent after : Agent} {index : Nat} {task : ForwarderTask}

private theorem task_delivers {before : ForwarderTask} {event : RunEvent}
    (moved : before.step event = some task) :
    task.loop.cycle.delivered = before.loop.cycle.delivered ++
      if event = .accepted then before.loop.cycle.inFlight else [] := by
  rcases Agent.step_eq_some moved with ⟨loop, taken, rfl⟩
  exact RunLoop.step_delivers taken

/-- A step that ends no send delivers nothing. -/
private theorem delivered_of_quiet {event : AgentEvent} (quiet : event.endsSend = false)
    (stepped : agent.step event = some after) (found : after.forwarders[index]? = some task) :
    ∃ before, agent.forwarders[index]? = some before ∧
      task.loop.cycle.delivered = before.loop.cycle.delivered := by
  cases (Agent.steps_of_step stepped).2 with
  | scheduled _ _ => exact ⟨task, found, rfl⟩
  | @called _ call _ _ _ taken =>
      rcases Components.getElem?_stepAt taken found with ⟨-, same⟩ | ⟨rfl, before, own, moved⟩
      · exact ⟨task, same, rfl⟩
      · have other : call.event before.loop ≠ .accepted := by cases call <;> simp [Call.event]
        exact ⟨before, own, by rw [task_delivers moved, if_neg other, List.append_nil]⟩
  | @forwarded _ event _ _ taken =>
      rcases Components.getElem?_stepAt taken found with ⟨-, same⟩ | ⟨rfl, before, own, moved⟩
      · exact ⟨task, same, rfl⟩
      · have other : event ≠ .accepted := by
          rintro rfl
          cases quiet
        exact ⟨before, own, by rw [task_delivers moved, if_neg other, List.append_nil]⟩

/-- The end of a send delivers what its own forwarder has had in flight, if it was accepted. -/
private theorem delivered_of_endOfSend {sender : Nat} {outcome : Except String StatusCode}
    (stepped : agent.step (.forwarder sender (endOfSend outcome)) = some after)
    (found : after.forwarders[index]? = some task) :
    ∃ before, agent.forwarders[index]? = some before ∧
      task.loop.cycle.delivered = before.loop.cycle.delivered ++
        if index = sender ∧ endOfSend outcome = .accepted then before.loop.cycle.inFlight
        else [] := by
  cases (Agent.steps_of_step stepped).2 with
  | forwarded _ taken =>
      rcases Components.getElem?_stepAt taken found with ⟨other, same⟩ | ⟨rfl, before, own, moved⟩
      · exact ⟨task, same, by simp [other]⟩
      · exact ⟨before, own, by simpa using task_delivers moved⟩

end Delivery

/-! ## The invariant -/

/-- The bodies that were accepted from one forwarder are what it counts as delivered. -/
structure Ingested (gzip : Gzip) (forwarder : OtlphttpForwarder Certificate Identity)
    (accepted : List Exchanged) (delivered : List Submission)
    (requests : List ExportMetricsServiceRequest) : Prop where
  read : accepted.map (fun exchanged => gzip.read exchanged.post) = requests.map some
  represents : List.Forall₂ (Represents forwarder.resourceAttributes)
    (delivered.map Submission.metrics)
    (requests.flatMap ExportMetricsServiceRequest.resourceMetrics)

/-- What holds of the requests after every step. -/
structure Recorded (gzip : Gzip) (forwarders : List (OtlphttpForwarder Certificate Identity))
    (ingesting : Ingesting) : Prop where
  addressed : ∀ exchanged ∈ ingesting.exchanged, ∃ forwarder,
    forwarders[exchanged.index]? = some forwarder ∧
      exchanged.post.endpoint = forwarder.endpoint ∧
      exchanged.post.header "Authorization" = forwarder.authHeader
  ingested : ∀ index task forwarder, ingesting.agent.forwarders[index]? = some task →
    forwarders[index]? = some forwarder →
    ∃ requests, Ingested gzip forwarder (acceptedFrom index ingesting.exchanged) task.loop.cycle.delivered
      requests

theorem step_recorded {event : IngestEvent} (recorded : ingesting.Recorded gzip forwarders)
    (stepped : ingesting.step gzip forwarders event = some next) :
    next.Recorded gzip forwarders := by
  cases steps_of_step stepped with
  | went goesOn taken =>
      refine ⟨recorded.addressed, ?_⟩
      intro index task forwarder found builds
      rcases delivered_of_quiet goesOn taken found with ⟨before, own, same⟩
      rw [same]
      exact recorded.ingested index before forwarder own builds
  | @answered sender outcome agent sent sending post builtSender foundSender requested taken =>
      rcases request_carried gzip sent (sending.loop.cycle.inFlight.map Submission.metrics) with
        ⟨same, isRequest, carried⟩
      obtain rfl : same = post := Option.some.inj (isRequest.symm.trans requested)
      constructor
      · intro exchanged made
        rcases List.mem_append.mp made with earlier | fresh
        · exact recorded.addressed exchanged earlier
        · cases List.mem_singleton.mp fresh
          exact ⟨sent, builtSender, carried.endpoint, carried.authorization⟩
      · intro index task forwarder found builds
        rcases delivered_of_endOfSend taken found with ⟨before, own, delivered⟩
        rcases recorded.ingested index before forwarder own builds with ⟨requests, ingested⟩
        rw [acceptedFrom_concat, delivered]
        by_cases takes : index = sender ∧ endOfSend outcome = .accepted
        · rcases takes with ⟨rfl, accepts⟩
          obtain rfl := Option.some.inj (own.symm.trans foundSender)
          obtain rfl := Option.some.inj (builds.symm.trans builtSender)
          rcases carried.body with ⟨request, read, represents⟩
          rw [if_pos ⟨rfl, accepts⟩, if_pos ⟨rfl, accepts⟩]
          refine ⟨requests ++ [request], ?_, ?_⟩
          · rw [List.map_append, List.map_append, ← ingested.read, List.map_singleton, read]
            rfl
          · rw [List.map_append, List.flatMap_append, List.flatMap_singleton]
            exact List.rel_append ingested.represents represents
        · rw [if_neg takes, if_neg takes, List.append_nil, List.append_nil]
          exact ⟨requests, ingested⟩

/-! ## What has been ingested -/

/-- What the endpoint of one forwarder has been sent, and what it can read of it. -/
structure Ingests (gzip : Gzip) (settings : OtlphttpForwarderConfig) (authHeader : Option String)
    (ingesting : Ingesting) (index : Nat) (task : ForwarderTask)
    (requests : List ExportMetricsServiceRequest) : Prop where
  /-- Every request goes where the configuration says, with its credentials. -/
  addressed : ∀ exchanged ∈ ingesting.exchanged, exchanged.index = index →
    exchanged.post.endpoint = metricsEndpoint settings.endpoint ∧
      exchanged.post.header "Authorization" = authHeader
  /-- Every accepted body can be read. -/
  read : (acceptedFrom index ingesting.exchanged).map
    (fun exchanged => gzip.read exchanged.post) = requests.map some
  /-- It has one entry for each batch that counts as delivered, in their order. -/
  represents : List.Forall₂ (Represents (configuredAttributes settings))
    (task.loop.cycle.delivered.map Submission.metrics)
    (requests.flatMap ExportMetricsServiceRequest.resourceMetrics)
  /-- Every metric that is not in them is in one of the other places. -/
  accounts : ingesting.agent.Accounts index task
  /-- After an end at which nothing was evicted or left behind, it has everything. -/
  complete : ingesting.agent.joined → task.loop.cycle.evicted = [] →
    task.loop.cycle.state.batches = [] →
    List.Forall₂ (Represents (configuredAttributes settings))
        (ingesting.agent.scheduler.emitted.map batchOf)
        (requests.flatMap ExportMetricsServiceRequest.resourceMetrics) ∧
      (ingesting.agent.scheduler.emitted.map batchOf).flatten = ingesting.agent.arrived

end Ingesting

end Ferrometer.Pipeline
