import Ferrometer.Forwarder.Otlphttp.SendCycle
import Ferrometer.Foundation.Notify
import Ferrometer.Time

/-!
Contract: the send loop `run` of one `OtlphttpForwarder`, interleaved with the
calls of `submit` and `shutdown`.

Owns: where `run` stands, the notifier that `submit` and `shutdown` share, the
backoff with its two waits, and that no signal for `run` is lost.

Does not own: what a send does with its batches, which is the send cycle's, or
the answers of the endpoint. They are events, and any order of them is a run.
Nor the panic at the `try_unwrap` of `drain_and_send`, which ends the process when
an answer comes while the body is still being read. That is part of the model of
one upload; here every send returns.

A call of `submit` or `shutdown` is two steps, the change and the `notify_one`
after it, so that `run` can go on in between.
-/

set_option autoImplicit false

namespace Ferrometer.Forwarder.Otlphttp

open Ferrometer.Config Ferrometer.Foundation

/-! ## Model -/

/-- Where `run` stands. `final` tells the send after a shutdown from the others. -/
inductive Point where
  /-- At the top of the loop, before the shutdown flag is read. -/
  | loadShutdown
  | checkData
  /-- At `notified().await`, without data. -/
  | awaitData
  | checkBackoff
  | startSleep (wait : Duration)
  /-- In the `select!` over the sleep and `notified()`. -/
  | awaitBackoff (wakeAt : Instant)
  | drain (final : Bool)
  | sending (final : Bool)
  | returned
  /-- An addition has overflowed and ended the process. -/
  | aborted
deriving DecidableEq

inductive RunEvent where
  | submit (metrics : List Metric)
  /-- The `notify_one` of the `submit` call with this number. -/
  | notifySubmit (number : Nat)
  | shutdown
  | notifyShutdown
  | timePasses (later : Instant)
  /-- `run` takes a step in which it waits for nothing. -/
  | proceed
  | pollNotified
  | sleepElapsed
  | accepted
  | failed
deriving DecidableEq

structure RunLoop where
  cycle : SendCycle
  notify : Notify
  shutdown : Bool
  point : Point
  backoff : Duration
  backoffUntil : Option Instant
  clock : Instant
  /-- The `submit` calls that have pushed and not notified yet. -/
  announcing : List Nat
  /-- How many `shutdown` calls have set the flag and not notified yet. -/
  shuttingDown : Nat
deriving DecidableEq

namespace Point

/-- At one of the two waits for a notification. -/
def parked : Point → Bool
  | .awaitData | .awaitBackoff _ => true
  | _ => false

/-- Past the look at the shutdown flag that found it unset, and not in a send yet. -/
def pastLoad : Point → Bool
  | .checkData | .awaitData | .checkBackoff | .startSleep _ | .awaitBackoff _ => true
  | _ => false

def isSending : Point → Bool
  | .sending _ => true
  | _ => false

end Point

namespace RunLoop

def initial : RunLoop where
  cycle := SendCycle.initial
  notify := .idle false
  shutdown := false
  point := .loadShutdown
  backoff := 0
  backoffUntil := none
  clock := 0
  announcing := []
  shuttingDown := 0

/-- What `run` makes of a `drain_and_send` that has returned `Ok`. -/
def sent (loop : RunLoop) (final : Bool) : RunLoop :=
  if final then { loop with point := .returned }
  else { loop with backoff := 0, backoffUntil := none, point := .loadShutdown }

section Step

variable (limits : Limits) (backoffInitial backoffMax : Duration)

/-- What `run` makes of a `drain_and_send` that has returned `Err`. -/
def notSent (loop : RunLoop) (final : Bool) : RunLoop :=
  if final then { loop with point := .returned }
  else
    let backingOff := do
      let backoff ← nextBackoff backoffInitial backoffMax loop.backoff
      let deadline ← addDuration loop.clock backoff
      some (backoff, deadline)
    match backingOff with
    | none => { loop with point := .aborted }
    | some (backoff, deadline) =>
        { loop with backoff, backoffUntil := some deadline, point := .loadShutdown }

def proceed (loop : RunLoop) : Option RunLoop :=
  match loop.point with
  | .loadShutdown =>
      if loop.shutdown then some { loop with point := .drain true }
      else some { loop with point := .checkData }
  | .checkData =>
      if loop.cycle.state.batches = [] then some { loop with point := .awaitData }
      else some { loop with point := .checkBackoff }
  | .checkBackoff =>
      match loop.backoffUntil with
      | none => some { loop with point := .drain false }
      | some deadline =>
          if loop.clock ≤ deadline then
            some { loop with point := .startSleep (deadline - loop.clock) }
          else some { loop with point := .drain false }
  | .startSleep wait => some { loop with point := .awaitBackoff (loop.clock + wait) }
  | .drain final => do
      let cycle ← SendCycle.step limits loop.cycle .popForSend
      let loop := { loop with cycle }
      if cycle.inFlight = [] then some (loop.sent final)
      else some { loop with point := .sending final }
  | _ => none

/-- Poll `notified()`, where `run` waits for it. -/
def pollNotified (loop : RunLoop) : RunLoop :=
  match loop.notify.poll with
  | (true, notify) => { loop with notify, point := .loadShutdown }
  | (false, notify) => { loop with notify }

def step (loop : RunLoop) (event : RunEvent) : Option RunLoop :=
  if loop.point = .aborted then none
  else
    match event with
    | .submit metrics => do
        let cycle ← SendCycle.step limits loop.cycle (.submit metrics)
        some { loop with
          cycle
          announcing :=
            if metrics = [] then loop.announcing
            else loop.announcing ++ [loop.cycle.submitted.length] }
    | .notifySubmit number =>
        if number ∈ loop.announcing then
          some { loop with
            notify := loop.notify.notifyOne
            announcing := loop.announcing.erase number }
        else none
    | .shutdown => some { loop with shutdown := true, shuttingDown := loop.shuttingDown + 1 }
    | .notifyShutdown =>
        if 0 < loop.shuttingDown then
          some { loop with
            notify := loop.notify.notifyOne
            shuttingDown := loop.shuttingDown - 1 }
        else none
    | .timePasses later => if loop.clock ≤ later then some { loop with clock := later } else none
    | .proceed => loop.proceed limits
    | .pollNotified => if loop.point.parked then some loop.pollNotified else none
    | .sleepElapsed =>
        match loop.point with
        | .awaitBackoff wakeAt =>
            if wakeAt ≤ loop.clock then
              some { loop with notify := loop.notify.drop, point := .drain false }
            else none
        | _ => none
    | .accepted =>
        match loop.point with
        | .sending final => do
            let cycle ← SendCycle.step limits loop.cycle .success
            some ({ loop with cycle }.sent final)
        | _ => none
    | .failed =>
        match loop.point with
        | .sending final => do
            let cycle ← SendCycle.step limits loop.cycle .failure
            some ({ loop with cycle }.notSent backoffInitial backoffMax final)
        | _ => none

def machine : Machine RunLoop RunEvent where
  step := step limits backoffInitial backoffMax

end Step

/-! ## What a send leaves behind -/

section Outcome

variable (loop : RunLoop) (final : Bool)

@[simp] theorem sent_cycle : (loop.sent final).cycle = loop.cycle := by
  cases final <;> rfl

@[simp] theorem sent_clock : (loop.sent final).clock = loop.clock := by
  cases final <;> rfl

@[simp] theorem sent_pastLoad : (loop.sent final).point.pastLoad = false := by
  cases final <;> rfl

variable {backoffInitial backoffMax : Duration}

theorem notSent_cases :
    (final = true ∧
      loop.notSent backoffInitial backoffMax final = { loop with point := .returned }) ∨
    (final = false ∧
      loop.notSent backoffInitial backoffMax final = { loop with point := .aborted }) ∨
    ∃ backoff deadline, final = false ∧
      nextBackoff backoffInitial backoffMax loop.backoff = some backoff ∧
      addDuration loop.clock backoff = some deadline ∧
      loop.notSent backoffInitial backoffMax final =
        { loop with backoff, backoffUntil := some deadline, point := .loadShutdown } := by
  cases final with
  | true => exact Or.inl ⟨rfl, rfl⟩
  | false =>
      apply Or.inr
      cases next : nextBackoff backoffInitial backoffMax loop.backoff with
      | none => exact Or.inl ⟨rfl, by simp [notSent, next]⟩
      | some backoff =>
          cases added : addDuration loop.clock backoff with
          | none => exact Or.inl ⟨rfl, by simp [notSent, next, added]⟩
          | some deadline =>
              exact Or.inr ⟨backoff, deadline, rfl, rfl, added, by simp [notSent, next, added]⟩

@[simp] theorem notSent_cycle :
    (loop.notSent backoffInitial backoffMax final).cycle = loop.cycle := by
  rcases notSent_cases loop final with ⟨-, equal⟩ | ⟨-, equal⟩ | ⟨_, _, -, -, -, equal⟩
  all_goals rw [equal]

@[simp] theorem notSent_clock :
    (loop.notSent backoffInitial backoffMax final).clock = loop.clock := by
  rcases notSent_cases loop final with ⟨-, equal⟩ | ⟨-, equal⟩ | ⟨_, _, -, -, -, equal⟩
  all_goals rw [equal]

@[simp] theorem notSent_pastLoad :
    (loop.notSent backoffInitial backoffMax final).point.pastLoad = false := by
  rcases notSent_cases loop final with ⟨-, equal⟩ | ⟨-, equal⟩ | ⟨_, _, -, -, -, equal⟩
  all_goals rw [equal]; rfl

end Outcome

/-! ## What a step can do -/

variable {limits : Limits} {backoffInitial backoffMax : Duration}

/-- Every step that `step` takes, by the branch of the code that it is. -/
inductive Steps (limits : Limits) (backoffInitial backoffMax : Duration) (loop : RunLoop) :
    RunEvent → RunLoop → Prop where
  | submitted {metrics : List Metric} {cycle : SendCycle}
      (taken : SendCycle.step limits loop.cycle (.submit metrics) = some cycle) :
      Steps limits backoffInitial backoffMax loop (.submit metrics) { loop with
        cycle
        announcing :=
          if metrics = [] then loop.announcing
          else loop.announcing ++ [loop.cycle.submitted.length] }
  | submitNotified {number : Nat} (announced : number ∈ loop.announcing) :
      Steps limits backoffInitial backoffMax loop (.notifySubmit number) { loop with
        notify := loop.notify.notifyOne
        announcing := loop.announcing.erase number }
  | shutdownSet :
      Steps limits backoffInitial backoffMax loop .shutdown
        { loop with shutdown := true, shuttingDown := loop.shuttingDown + 1 }
  | shutdownNotified (announced : 0 < loop.shuttingDown) :
      Steps limits backoffInitial backoffMax loop .notifyShutdown { loop with
        notify := loop.notify.notifyOne
        shuttingDown := loop.shuttingDown - 1 }
  | timePassed {later : Instant} (forward : loop.clock ≤ later) :
      Steps limits backoffInitial backoffMax loop (.timePasses later) { loop with clock := later }
  | sawShutdown (top : loop.point = .loadShutdown) (isSet : loop.shutdown = true) :
      Steps limits backoffInitial backoffMax loop .proceed { loop with point := .drain true }
  | sawNoShutdown (top : loop.point = .loadShutdown) (isUnset : loop.shutdown = false) :
      Steps limits backoffInitial backoffMax loop .proceed { loop with point := .checkData }
  | noData (checks : loop.point = .checkData) (isEmpty : loop.cycle.state.batches = []) :
      Steps limits backoffInitial backoffMax loop .proceed { loop with point := .awaitData }
  | hasData (checks : loop.point = .checkData) (nonempty : loop.cycle.state.batches ≠ []) :
      Steps limits backoffInitial backoffMax loop .proceed { loop with point := .checkBackoff }
  | noBackoff (checks : loop.point = .checkBackoff)
      (past : ∀ deadline ∈ loop.backoffUntil, deadline < loop.clock) :
      Steps limits backoffInitial backoffMax loop .proceed { loop with point := .drain false }
  | mustBackOff {deadline : Instant} (checks : loop.point = .checkBackoff)
      (backingOff : loop.backoffUntil = some deadline) (ahead : loop.clock ≤ deadline) :
      Steps limits backoffInitial backoffMax loop .proceed
        { loop with point := .startSleep (deadline - loop.clock) }
  | sleeps {wait : Duration} (starts : loop.point = .startSleep wait) :
      Steps limits backoffInitial backoffMax loop .proceed
        { loop with point := .awaitBackoff (loop.clock + wait) }
  | nothingToSend {final : Bool} {cycle : SendCycle} (drains : loop.point = .drain final)
      (taken : SendCycle.step limits loop.cycle .popForSend = some cycle)
      (nothing : cycle.inFlight = []) :
      Steps limits backoffInitial backoffMax loop .proceed ({ loop with cycle }.sent final)
  | popped {final : Bool} {cycle : SendCycle} (drains : loop.point = .drain final)
      (taken : SendCycle.step limits loop.cycle .popForSend = some cycle)
      (something : cycle.inFlight ≠ []) :
      Steps limits backoffInitial backoffMax loop .proceed
        { loop with cycle, point := .sending final }
  | woke (waits : loop.point.parked = true) (ready : loop.notify.signalled = true) :
      Steps limits backoffInitial backoffMax loop .pollNotified
        { loop with notify := loop.notify.poll.2, point := .loadShutdown }
  | notYet (waits : loop.point.parked = true) (pending : loop.notify.signalled = false) :
      Steps limits backoffInitial backoffMax loop .pollNotified
        { loop with notify := loop.notify.poll.2 }
  | sleptOut {wakeAt : Instant} (waits : loop.point = .awaitBackoff wakeAt)
      (slept : wakeAt ≤ loop.clock) :
      Steps limits backoffInitial backoffMax loop .sleepElapsed
        { loop with notify := loop.notify.drop, point := .drain false }
  | succeeded {final : Bool} {cycle : SendCycle} (sends : loop.point = .sending final)
      (taken : SendCycle.step limits loop.cycle .success = some cycle) :
      Steps limits backoffInitial backoffMax loop .accepted ({ loop with cycle }.sent final)
  | failed {final : Bool} {cycle : SendCycle} (sends : loop.point = .sending final)
      (taken : SendCycle.step limits loop.cycle .failure = some cycle) :
      Steps limits backoffInitial backoffMax loop .failed
        ({ loop with cycle }.notSent backoffInitial backoffMax final)

private theorem steps_of_proceed {loop next : RunLoop} (stepped : loop.proceed limits = some next) :
    Steps limits backoffInitial backoffMax loop .proceed next := by
  unfold proceed at stepped
  split at stepped
  · rename_i top
    split at stepped
    · rename_i isSet
      cases stepped
      exact .sawShutdown top isSet
    · rename_i isUnset
      cases stepped
      exact .sawNoShutdown top (Bool.eq_false_of_not_eq_true isUnset)
  · rename_i checks
    split at stepped
    · rename_i isEmpty
      cases stepped
      exact .noData checks isEmpty
    · rename_i nonempty
      cases stepped
      exact .hasData checks nonempty
  · rename_i checks
    split at stepped
    · rename_i noDeadline
      cases stepped
      apply Steps.noBackoff checks
      simp [noDeadline]
    · rename_i deadline backingOff
      split at stepped
      · rename_i ahead
        cases stepped
        exact .mustBackOff checks backingOff ahead
      · rename_i past
        cases stepped
        apply Steps.noBackoff checks
        intro other isDeadline
        rw [backingOff, Option.mem_some_iff] at isDeadline
        exact isDeadline ▸ Nat.lt_of_not_le past
  · rename_i wait starts
    cases stepped
    exact .sleeps starts
  · rename_i final drains
    rcases Option.bind_eq_some_iff.mp stepped with ⟨cycle, taken, drained⟩
    split at drained
    · rename_i nothing
      cases drained
      exact .nothingToSend drains taken nothing
    · rename_i something
      cases drained
      exact .popped drains taken something
  · exact absurd stepped nofun

theorem pollNotified_cases (loop : RunLoop) :
    (loop.notify.signalled = true ∧
      loop.pollNotified = { loop with notify := loop.notify.poll.2, point := .loadShutdown }) ∨
    (loop.notify.signalled = false ∧
      loop.pollNotified = { loop with notify := loop.notify.poll.2 }) := by
  have ready := Notify.poll_ready loop.notify
  rw [← ready]
  unfold pollNotified
  split
  · rename_i notify polled
    exact Or.inl ⟨by rw [polled], by rw [polled]⟩
  · rename_i notify polled
    exact Or.inr ⟨by rw [polled], by rw [polled]⟩

theorem steps_of_step {loop next : RunLoop} {event : RunEvent}
    (stepped : step limits backoffInitial backoffMax loop event = some next) :
    loop.point ≠ .aborted ∧ Steps limits backoffInitial backoffMax loop event next := by
  unfold step at stepped
  split at stepped
  · exact absurd stepped nofun
  · rename_i alive
    apply And.intro alive
    cases event with
    | submit metrics =>
        rcases Option.bind_eq_some_iff.mp stepped with ⟨cycle, taken, equal⟩
        cases equal
        exact .submitted taken
    | notifySubmit number =>
        simp only at stepped
        split at stepped
        · rename_i announced
          cases stepped
          exact .submitNotified announced
        · exact absurd stepped nofun
    | shutdown =>
        cases stepped
        exact .shutdownSet
    | notifyShutdown =>
        simp only at stepped
        split at stepped
        · rename_i announced
          cases stepped
          exact .shutdownNotified announced
        · exact absurd stepped nofun
    | timePasses later =>
        simp only at stepped
        split at stepped
        · rename_i forward
          cases stepped
          exact .timePassed forward
        · exact absurd stepped nofun
    | proceed => exact steps_of_proceed stepped
    | pollNotified =>
        simp only at stepped
        split at stepped
        · rename_i waits
          cases stepped
          rcases pollNotified_cases loop with ⟨ready, polled⟩ | ⟨pending, polled⟩
          · exact polled ▸ .woke waits ready
          · exact polled ▸ .notYet waits pending
        · exact absurd stepped nofun
    | sleepElapsed =>
        simp only at stepped
        split at stepped
        · rename_i wakeAt waits
          split at stepped
          · rename_i timeOver
            cases stepped
            exact .sleptOut waits timeOver
          · exact absurd stepped nofun
        · exact absurd stepped nofun
    | accepted =>
        simp only at stepped
        split at stepped
        · rename_i final sends
          rcases Option.bind_eq_some_iff.mp stepped with ⟨cycle, taken, equal⟩
          cases equal
          exact .succeeded sends taken
        · exact absurd stepped nofun
    | failed =>
        simp only at stepped
        split at stepped
        · rename_i final sends
          rcases Option.bind_eq_some_iff.mp stepped with ⟨cycle, taken, equal⟩
          cases equal
          exact .failed sends taken
        · exact absurd stepped nofun

theorem step_of_steps {loop next : RunLoop} {event : RunEvent} (alive : loop.point ≠ .aborted)
    (steps : Steps limits backoffInitial backoffMax loop event next) :
    step limits backoffInitial backoffMax loop event = some next := by
  unfold step
  rw [if_neg alive]
  cases steps with
  | submitted taken => simp [taken]
  | submitNotified announced => exact if_pos announced
  | shutdownSet => rfl
  | shutdownNotified announced => exact if_pos announced
  | timePassed forward => exact if_pos forward
  | sawShutdown top isSet => simp [proceed, top, isSet]
  | sawNoShutdown top isUnset => simp [proceed, top, isUnset]
  | noData checks isEmpty => simp [proceed, checks, isEmpty]
  | hasData checks nonempty => simp [proceed, checks, nonempty]
  | noBackoff checks past =>
      cases backingOff : loop.backoffUntil with
      | none => simp [proceed, checks, backingOff]
      | some deadline => simp [proceed, checks, backingOff, past deadline backingOff]
  | mustBackOff checks backingOff ahead => simp [proceed, checks, backingOff, ahead]
  | sleeps starts => simp [proceed, starts]
  | nothingToSend drains taken nothing =>
      simp only [proceed, drains, taken, Option.bind_eq_bind, Option.bind_some, if_pos nothing]
  | popped drains taken something =>
      simp only [proceed, drains, taken, Option.bind_eq_bind, Option.bind_some, if_neg something]
  | woke waits ready =>
      rcases pollNotified_cases loop with ⟨-, polled⟩ | ⟨pending, -⟩
      · exact (if_pos waits).trans (congrArg some polled)
      · exact absurd (ready.symm.trans pending) (by decide)
  | notYet waits pending =>
      rcases pollNotified_cases loop with ⟨ready, -⟩ | ⟨-, polled⟩
      · exact absurd (ready.symm.trans pending) (by decide)
      · exact (if_pos waits).trans (congrArg some polled)
  | sleptOut waits timeOver => simp [waits, timeOver]
  | succeeded sends taken => simp [sends, taken]
  | failed sends taken => simp [sends, taken]

/-! ## Refinement -/

/-- Every step is one step of the send cycle, or none. -/
theorem step_refines {loop next : RunLoop} {event : RunEvent}
    (stepped : step limits backoffInitial backoffMax loop event = some next) :
    ∃ events, (SendCycle.machine limits).run loop.cycle events = some next.cycle := by
  have one : ∀ {sendEvent cycle}, SendCycle.step limits loop.cycle sendEvent = some cycle →
      (SendCycle.machine limits).run loop.cycle [sendEvent] = some cycle :=
    fun taken => (Machine.run_cons_eq_some _).mpr ⟨_, taken, rfl⟩
  cases (steps_of_step stepped).2 with
  | submitted taken => exact ⟨_, one taken⟩
  | nothingToSend _ taken _ => exact ⟨_, (one taken).trans (by simp)⟩
  | popped _ taken _ => exact ⟨_, one taken⟩
  | succeeded _ taken => exact ⟨_, (one taken).trans (by simp)⟩
  | failed _ taken => exact ⟨_, (one taken).trans (by simp)⟩
  | _ => exact ⟨[], rfl⟩

/-! ## What a step delivers -/

/-- Nothing is delivered but what the endpoint has accepted. -/
theorem step_delivers {loop next : RunLoop} {event : RunEvent}
    (stepped : step limits backoffInitial backoffMax loop event = some next) :
    next.cycle.delivered =
      loop.cycle.delivered ++ if event = .accepted then loop.cycle.inFlight else [] := by
  cases (steps_of_step stepped).2 with
  | submitted taken => simp [(SendCycle.delivered_of_submit taken).1]
  | nothingToSend _ taken _ => simp [SendCycle.delivered_of_popForSend taken]
  | popped _ taken _ => simp [SendCycle.delivered_of_popForSend taken]
  | succeeded _ taken => simp [(SendCycle.delivered_of_success taken).1]
  | failed _ taken => simp [(SendCycle.delivered_of_failure taken).1]
  | _ => simp

/-! ## The invariant -/

/-- The earliest instant at which the next ordinary send can start, where that is
settled. -/
def sendsFrom (loop : RunLoop) : Option Instant :=
  match loop.point with
  | .startSleep wait => some (loop.clock + wait)
  | .awaitBackoff wakeAt => some wakeAt
  | .drain false | .sending false => some loop.clock
  | _ => none

structure Valid (limits : Limits) (loop : RunLoop) : Prop where
  cycle : loop.cycle.Valid limits
  inFlight : loop.point.isSending = false → loop.cycle.inFlight = []
  /-- A flag that `run` has not seen comes with a signal, stored or still to come. -/
  shutdownHeard : loop.point.pastLoad = true → loop.notify.signalled = false →
    loop.shutdown = true → 0 < loop.shuttingDown
  /-- So does a batch. -/
  dataHeard : loop.point = .awaitData → loop.notify.signalled = false →
    ∀ batch ∈ loop.cycle.state.batches, batch.number ∈ loop.announcing
  notEarly : ∀ start ∈ loop.sendsFrom, ∀ deadline ∈ loop.backoffUntil, deadline ≤ start

theorem initial_valid (limits : Limits) : initial.Valid limits where
  cycle := SendCycle.initial_valid limits
  inFlight := fun _ => rfl
  shutdownHeard := nofun
  dataHeard := nofun
  notEarly := nofun

private theorem cycle_valid {loop next : RunLoop} {event : RunEvent}
    (valid : loop.cycle.Valid limits)
    (stepped : step limits backoffInitial backoffMax loop event = some next) :
    next.cycle.Valid limits := by
  rcases step_refines stepped with ⟨events, ran⟩
  exact (SendCycle.machine limits).run_invariant
    (fun valid stepped => SendCycle.step_valid valid stepped) valid ran

theorem inFlight_of_submit {cycle next : SendCycle} {metrics : List Metric}
    (taken : SendCycle.step limits cycle (.submit metrics) = some next) :
    next.inFlight = cycle.inFlight := by
  rcases Option.bind_eq_some_iff.mp taken with ⟨outcome, -, equal⟩
  cases equal
  rfl

theorem inFlight_of_success {cycle next : SendCycle}
    (taken : SendCycle.step limits cycle .success = some next) : next.inFlight = [] := by
  simp only [SendCycle.step] at taken
  split at taken
  · cases taken
  · cases taken
    rfl

theorem inFlight_of_failure {cycle next : SendCycle}
    (taken : SendCycle.step limits cycle .failure = some next) : next.inFlight = [] := by
  simp only [SendCycle.step] at taken
  split at taken
  · cases taken
  · rcases Option.bind_eq_some_iff.mp taken with ⟨outcome, -, equal⟩
    cases equal
    rfl

private theorem step_inFlight {loop next : RunLoop} {event : RunEvent}
    (idle : loop.point.isSending = false → loop.cycle.inFlight = [])
    (steps : Steps limits backoffInitial backoffMax loop event next) :
    next.point.isSending = false → next.cycle.inFlight = [] := by
  cases steps with
  | submitted taken => rwa [inFlight_of_submit taken]
  | nothingToSend _ _ nothing => simpa using fun _ => nothing
  | popped _ _ _ => simp [Point.isSending]
  | succeeded _ taken => simpa using fun _ => inFlight_of_success taken
  | failed _ taken => simpa using fun _ => inFlight_of_failure taken
  | woke waits _ =>
      intro _
      apply idle
      cases stands : loop.point <;> simp_all [Point.parked, Point.isSending]
  | _ => simp_all [Point.isSending]

private theorem step_shutdownHeard {loop next : RunLoop} {event : RunEvent}
    (heard : loop.point.pastLoad = true → loop.notify.signalled = false →
      loop.shutdown = true → 0 < loop.shuttingDown)
    (steps : Steps limits backoffInitial backoffMax loop event next) :
    next.point.pastLoad = true → next.notify.signalled = false →
      next.shutdown = true → 0 < next.shuttingDown := by
  cases steps with
  | shutdownSet => exact fun _ _ _ => Nat.succ_pos _
  | submitNotified _ => simp
  | shutdownNotified _ => simp
  -- The flag has just been read and found unset.
  | sawNoShutdown _ isUnset => simp [isUnset]
  | notYet _ pending => exact fun past _ => heard past pending
  | nothingToSend _ _ _ => simp
  | succeeded _ _ => simp
  | failed _ _ => simp
  | _ => simp_all [Point.pastLoad]

private theorem buffered_of_submit {cycle next : SendCycle} {metrics : List Metric}
    (valid : cycle.Valid limits)
    (taken : SendCycle.step limits cycle (.submit metrics) = some next) :
    ∀ batch ∈ next.state.batches, batch ∈ cycle.state.batches ∨
      metrics ≠ [] ∧ batch.number = cycle.submitted.length := by
  intro batch member
  by_cases isEmpty : metrics = []
  · rw [isEmpty, SendCycle.step_submit_empty] at taken
    cases taken
    exact Or.inl member
  · rw [SendCycle.step_submit valid isEmpty] at taken
    cases taken
    have isSuffix := OldestFirst.kept_suffix len limits.bufferMaxMetrics
      (cycle.state.batches ++ [cycle.nextSubmission metrics])
    rcases List.mem_append.mp (isSuffix.subset member) with older | newest
    · exact Or.inl older
    · rw [List.mem_singleton.mp newest]
      exact Or.inr ⟨isEmpty, rfl⟩

private theorem ne_awaitData {point : Point} (notPast : point.pastLoad = false) :
    point ≠ .awaitData := by
  intro waits
  rw [waits] at notPast
  exact absurd notPast nofun

private theorem step_dataHeard {loop next : RunLoop} {event : RunEvent}
    (valid : loop.Valid limits)
    (steps : Steps limits backoffInitial backoffMax loop event next) :
    next.point = .awaitData → next.notify.signalled = false →
      ∀ batch ∈ next.cycle.state.batches, batch.number ∈ next.announcing := by
  cases steps with
  | submitted taken =>
      intro waits pending batch member
      rcases buffered_of_submit valid.cycle taken batch member with older | ⟨nonempty, numbered⟩
      · have announced := valid.dataHeard waits pending batch older
        show batch.number ∈ if _ then loop.announcing else _
        split
        · exact announced
        · exact List.mem_append_left _ announced
      · show batch.number ∈ if _ then loop.announcing else _
        rw [if_neg nonempty, numbered]
        exact List.mem_append_right _ (List.mem_singleton_self _)
  | submitNotified _ => simp
  | shutdownNotified _ => simp
  -- The buffer has just been looked into and found empty.
  | noData _ isEmpty => simp [isEmpty]
  | notYet _ pending => exact fun waits _ => valid.dataHeard waits pending
  | shutdownSet => exact valid.dataHeard
  | timePassed _ => exact valid.dataHeard
  | nothingToSend _ _ _ => exact fun waits => absurd waits (ne_awaitData (sent_pastLoad _ _))
  | succeeded _ _ => exact fun waits => absurd waits (ne_awaitData (sent_pastLoad _ _))
  | failed _ _ => exact fun waits => absurd waits (ne_awaitData (notSent_pastLoad _ _))
  | _ => simp

@[simp] theorem sent_sendsFrom (loop : RunLoop) (final : Bool) :
    (loop.sent final).sendsFrom = none := by
  cases final <;> rfl

@[simp] theorem notSent_sendsFrom (loop : RunLoop) (final : Bool) :
    (loop.notSent backoffInitial backoffMax final).sendsFrom = none := by
  rcases notSent_cases loop final with ⟨-, equal⟩ | ⟨-, equal⟩ | ⟨_, _, -, -, -, equal⟩
  all_goals rw [equal]; rfl

private theorem sendsFrom_mono {loop : RunLoop} {later start : Instant}
    (forward : loop.clock ≤ later) (isStart : start ∈ { loop with clock := later }.sendsFrom) :
    ∃ earlier ∈ loop.sendsFrom, earlier ≤ start := by
  unfold sendsFrom at isStart ⊢
  cases stands : loop.point with
  | startSleep wait =>
      rw [stands] at isStart
      cases isStart
      exact ⟨_, rfl, Nat.add_le_add_right forward wait⟩
  | awaitBackoff wakeAt =>
      rw [stands] at isStart
      cases isStart
      exact ⟨_, rfl, Nat.le_refl _⟩
  | drain final =>
      rw [stands] at isStart
      cases final with
      | true => exact absurd isStart nofun
      | false =>
          cases isStart
          exact ⟨_, rfl, forward⟩
  | sending final =>
      rw [stands] at isStart
      cases final with
      | true => exact absurd isStart nofun
      | false =>
          cases isStart
          exact ⟨_, rfl, forward⟩
  | _ =>
      rw [stands] at isStart
      exact absurd isStart nofun

private theorem step_notEarly {loop next : RunLoop} {event : RunEvent}
    (notEarly : ∀ start ∈ loop.sendsFrom, ∀ deadline ∈ loop.backoffUntil, deadline ≤ start)
    (steps : Steps limits backoffInitial backoffMax loop event next) :
    ∀ start ∈ next.sendsFrom, ∀ deadline ∈ next.backoffUntil, deadline ≤ start := by
  cases steps with
  | submitted _ => exact notEarly
  | submitNotified _ => exact notEarly
  | shutdownSet => exact notEarly
  | shutdownNotified _ => exact notEarly
  | timePassed forward =>
      intro start isStart deadline isDeadline
      rcases sendsFrom_mono forward isStart with ⟨earlier, isEarlier, notLater⟩
      exact (notEarly earlier isEarlier deadline isDeadline).trans notLater
  | noBackoff _ past =>
      intro start isStart deadline isDeadline
      cases isStart
      exact Nat.le_of_lt (past deadline isDeadline)
  | mustBackOff _ backingOff ahead =>
      intro start isStart deadline isDeadline
      cases isStart
      cases backingOff.symm.trans isDeadline
      exact Nat.le_of_eq (Nat.add_sub_of_le ahead).symm
  | sleeps starts =>
      intro start isStart
      apply notEarly start
      rw [sendsFrom, starts]
      exact isStart
  | @popped final _ drains _ _ =>
      cases final with
      | true => exact nofun
      | false =>
          intro start isStart
          apply notEarly start
          rw [sendsFrom, drains]
          exact isStart
  | notYet _ _ => exact notEarly
  | @sleptOut wakeAt waits timeOver =>
      intro start isStart deadline isDeadline
      cases isStart
      have started : deadline ≤ wakeAt := by
        apply notEarly wakeAt _ deadline isDeadline
        rw [sendsFrom, waits]
        exact Option.mem_some_self wakeAt
      exact started.trans timeOver
  | nothingToSend _ _ _ => simp
  | succeeded _ _ => simp
  | failed _ _ => simp
  | _ => simp [sendsFrom]

theorem step_valid {loop next : RunLoop} {event : RunEvent} (valid : loop.Valid limits)
    (stepped : step limits backoffInitial backoffMax loop event = some next) :
    next.Valid limits := by
  have steps := (steps_of_step stepped).2
  exact {
    cycle := cycle_valid valid.cycle stepped
    inFlight := step_inFlight valid.inFlight steps
    shutdownHeard := step_shutdownHeard valid.shutdownHeard steps
    dataHeard := step_dataHeard valid steps
    notEarly := step_notEarly valid.notEarly steps }

theorem run_valid {loop : RunLoop} {events : List RunEvent}
    (ran : (machine limits backoffInitial backoffMax).run initial events = some loop) :
    loop.Valid limits :=
  (machine limits backoffInitial backoffMax).run_invariant
    (fun valid stepped => step_valid valid stepped) (initial_valid limits) ran

/-! ## Signals and deadlines -/

theorem step_clock {loop next : RunLoop} {event : RunEvent}
    (stepped : step limits backoffInitial backoffMax loop event = some next) :
    loop.clock ≤ next.clock := by
  cases (steps_of_step stepped).2 with
  | timePassed forward => exact forward
  | nothingToSend _ _ _ => simp
  | succeeded _ _ => simp
  | failed _ _ => simp
  | _ => exact Nat.le_refl _

/-- On the way from the wait that ends at `wakeAt` to the send after a shutdown. -/
def Flushing (wakeAt : Instant) (loop : RunLoop) : Prop :=
  loop.shutdown = true ∧
    (loop.point = .awaitBackoff wakeAt ∧ loop.notify.signalled = true ∨
      loop.point = .loadShutdown ∨ loop.point = .drain true ∨ loop.point = .sending true ∨
      loop.point = .returned)

private theorem step_flushing {wakeAt : Instant} {loop next : RunLoop} {event : RunEvent}
    (flushing : loop.Flushing wakeAt) (early : loop.clock < wakeAt)
    (stepped : step limits backoffInitial backoffMax loop event = some next) :
    next.Flushing wakeAt := by
  rcases flushing with ⟨isSet, stands⟩
  cases (steps_of_step stepped).2 with
  | submitted _ => exact ⟨isSet, stands⟩
  | submitNotified _ => exact ⟨isSet, stands.imp_left fun waits => ⟨waits.1, by simp⟩⟩
  | shutdownSet => exact ⟨rfl, stands⟩
  | shutdownNotified _ => exact ⟨isSet, stands.imp_left fun waits => ⟨waits.1, by simp⟩⟩
  | timePassed _ => exact ⟨isSet, stands⟩
  | sawShutdown _ _ => exact ⟨isSet, by simp⟩
  | sawNoShutdown _ isUnset => exact absurd (isSet.symm.trans isUnset) (by decide)
  | woke _ _ => exact ⟨isSet, by simp⟩
  | notYet waits pending =>
      rcases stands with ⟨-, ready⟩ | elsewhere
      · exact absurd (ready.symm.trans pending) (by decide)
      · exact ⟨isSet, Or.inr elsewhere⟩
  | sleptOut waits timeOver =>
      rw [waits] at stands
      rcases stands with ⟨same, -⟩ | stands
      · cases same
        exact absurd timeOver (Nat.not_le.mpr early)
      · simp at stands
  | @popped final _ drains _ _ =>
      obtain rfl : final = true := by simpa [drains] using stands
      exact ⟨isSet, by simp⟩
  | @nothingToSend final _ drains _ _ =>
      obtain rfl : final = true := by simpa [drains] using stands
      exact ⟨isSet, by simp [sent]⟩
  | @succeeded final _ sends _ =>
      obtain rfl : final = true := by simpa [sends] using stands
      exact ⟨isSet, by simp [sent]⟩
  | @failed final _ sends _ =>
      obtain rfl : final = true := by simpa [sends] using stands
      exact ⟨isSet, by simp [notSent]⟩
  | _ => simp_all

private theorem run_flushing {wakeAt : Instant} {loop later : RunLoop} {events : List RunEvent}
    (flushing : loop.Flushing wakeAt)
    (ran : (machine limits backoffInitial backoffMax).run loop events = some later)
    (early : later.clock < wakeAt) : later.Flushing wakeAt := by
  have kept : ∀ {state event next}, (state.clock < wakeAt → state.Flushing wakeAt) →
      step limits backoffInitial backoffMax state event = some next →
      next.clock < wakeAt → next.Flushing wakeAt := by
    intro state event next before stepped nextEarly
    have stateEarly : state.clock < wakeAt := Nat.lt_of_le_of_lt (step_clock stepped) nextEarly
    exact step_flushing (before stateEarly) stateEarly stepped
  exact (machine limits backoffInitial backoffMax).run_invariant kept (fun _ => flushing) ran
    early

/-- What `run` owes to the calls of `submit` and `shutdown`. -/
structure Responsive (limits : Limits) (backoffInitial backoffMax : Duration)
    (loop : RunLoop) : Prop where
  /-- Parked without a signal, `run` misses no shutdown whose call has notified. -/
  shutdownHeard : loop.point.parked = true → loop.notify.signalled = false →
    loop.shuttingDown = 0 → loop.shutdown = false
  /-- Parked without a signal and without data, it misses no batch: one that is in
  the buffer belongs to a `submit` that has not notified yet. -/
  dataHeard : loop.point = .awaitData → loop.notify.signalled = false →
    ∀ batch ∈ loop.cycle.state.batches, batch.number ∈ loop.announcing
  /-- A signal ends either wait. -/
  wakes : loop.point.parked = true → loop.notify.signalled = true →
    ∃ woken, step limits backoffInitial backoffMax loop .pollNotified = some woken ∧
      woken.point = .loadShutdown ∧ woken.cycle = loop.cycle
  /-- No ordinary send starts before the deadline of the backoff. -/
  notEarly : loop.point = .sending false ∨ loop.point = .drain false →
    ∀ deadline ∈ loop.backoffUntil, deadline ≤ loop.clock
  /-- After a shutdown, `run` gets from the backoff to the final send while no time
  passes. -/
  flushes : ∀ wakeAt, loop.point = .awaitBackoff wakeAt → loop.shutdown = true →
    loop.shuttingDown = 0 →
    ∃ flushed, (machine limits backoffInitial backoffMax).run loop
        [.pollNotified, .proceed, .proceed] = some flushed ∧
      flushed.clock = loop.clock ∧
      SendCycle.step limits loop.cycle .popForSend = some flushed.cycle ∧
      flushed.point = if flushed.cycle.inFlight = [] then .returned else .sending true
  /-- Before the deadline, it does nothing else. -/
  flushesFirst : ∀ wakeAt, loop.point = .awaitBackoff wakeAt → loop.shutdown = true →
    loop.shuttingDown = 0 → ∀ events later,
    (machine limits backoffInitial backoffMax).run loop events = some later →
    later.clock < wakeAt → later.Flushing wakeAt

private theorem ne_aborted {point : Point} (waits : point.parked = true) :
    point ≠ .aborted := by
  intro dead
  rw [dead] at waits
  exact absurd waits (by decide)

theorem step_pollNotified {loop : RunLoop} (waits : loop.point.parked = true)
    (ready : loop.notify.signalled = true) :
    step limits backoffInitial backoffMax loop .pollNotified =
      some { loop with notify := loop.notify.poll.2, point := .loadShutdown } := by
  rw [step, if_neg (ne_aborted waits)]
  show (if loop.point.parked then some loop.pollNotified else none) = _
  rw [if_pos waits]
  rcases pollNotified_cases loop with ⟨-, polled⟩ | ⟨pending, -⟩
  · rw [polled]
  · exact absurd (ready.symm.trans pending) (by decide)

private theorem step_drain_final {loop : RunLoop} {cycle : SendCycle}
    (drains : loop.point = .drain true)
    (taken : SendCycle.step limits loop.cycle .popForSend = some cycle) :
    step limits backoffInitial backoffMax loop .proceed = some { loop with
      cycle
      point := if cycle.inFlight = [] then .returned else .sending true } := by
  have alive : loop.point ≠ .aborted := by simp [drains]
  rw [step, if_neg alive]
  simp only [proceed, drains, taken, Option.bind_eq_bind, Option.bind_some]
  split
  · rfl
  · rfl

private theorem run_flush {loop : RunLoop} (valid : loop.Valid limits)
    (waits : loop.point.parked = true) (ready : loop.notify.signalled = true)
    (isSet : loop.shutdown = true) :
    ∃ flushed, (machine limits backoffInitial backoffMax).run loop
        [.pollNotified, .proceed, .proceed] = some flushed ∧
      flushed.clock = loop.clock ∧
      SendCycle.step limits loop.cycle .popForSend = some flushed.cycle ∧
      flushed.point = if flushed.cycle.inFlight = [] then .returned else .sending true := by
  have idle : loop.cycle.inFlight = [] := by
    apply valid.inFlight
    cases stands : loop.point <;> simp_all [Point.parked, Point.isSending]
  have pops := SendCycle.step_popForSend valid.cycle idle
  rcases Option.isSome_iff_exists.mp (Option.isSome_of_eq_some pops) with ⟨cycle, taken⟩
  let woken : RunLoop := { loop with notify := loop.notify.poll.2, point := .loadShutdown }
  let draining : RunLoop := { woken with point := .drain true }
  have polls : step limits backoffInitial backoffMax loop .pollNotified = some woken :=
    step_pollNotified waits ready
  have reads : step limits backoffInitial backoffMax woken .proceed = some draining := by
    show (if loop.shutdown then some draining else _) = some draining
    rw [if_pos isSet]
  let flushed : RunLoop := { draining with
    cycle
    point := if cycle.inFlight = [] then .returned else .sending true }
  have drains : step limits backoffInitial backoffMax draining .proceed = some flushed :=
    step_drain_final rfl taken
  refine ⟨flushed, ?_, ?_, taken, ?_⟩
  · apply (Machine.run_cons_eq_some _).mpr
    refine ⟨woken, polls, ?_⟩
    apply (Machine.run_cons_eq_some _).mpr
    refine ⟨draining, reads, ?_⟩
    exact (Machine.run_cons_eq_some _).mpr ⟨flushed, drains, rfl⟩
  · rfl
  · rfl

theorem runLoop_responsive (limits : Limits) (backoffInitial backoffMax : Duration)
    {events : List RunEvent} {loop : RunLoop}
    (ran : (machine limits backoffInitial backoffMax).run initial events = some loop) :
    Responsive limits backoffInitial backoffMax loop := by
  have valid := run_valid ran
  have pastLoad : loop.point.parked = true → loop.point.pastLoad = true := by
    cases stands : loop.point <;> simp [Point.parked, Point.pastLoad]
  have signalled : ∀ {wakeAt}, loop.point = .awaitBackoff wakeAt → loop.shutdown = true →
      loop.shuttingDown = 0 → loop.notify.signalled = true := by
    intro wakeAt waits isSet completed
    by_contra pending
    have owed := valid.shutdownHeard (by rw [waits]; rfl) (by simpa using pending) isSet
    omega
  exact {
    shutdownHeard := by
      intro waits pending completed
      by_contra isSet
      have owed := valid.shutdownHeard (pastLoad waits) pending (by simpa using isSet)
      omega
    dataHeard := valid.dataHeard
    wakes := fun waits ready => ⟨_, step_pollNotified waits ready, rfl, rfl⟩
    notEarly := by
      intro sends
      apply valid.notEarly loop.clock
      rcases sends with sending | drains
      · simp [sendsFrom, sending]
      · simp [sendsFrom, drains]
    flushes := by
      intro wakeAt waits isSet completed
      have ready := signalled waits isSet completed
      exact run_flush valid (by rw [waits]; rfl) ready isSet
    flushesFirst := by
      intro wakeAt waits isSet completed events later ranOn early
      have ready := signalled waits isSet completed
      exact run_flushing ⟨isSet, Or.inl ⟨waits, ready⟩⟩ ranOn early }

/-- A failed send, another submit during the backoff, and a shutdown before its end. -/
def shutdownInBackoff : List RunEvent :=
  [.submit (SendCycle.sampleBatch 1), .notifySubmit 0, .proceed, .proceed, .proceed, .proceed,
    .failed, .proceed, .proceed, .proceed, .proceed, .submit (SendCycle.sampleBatch 1),
    .notifySubmit 1, .pollNotified, .proceed, .proceed, .proceed, .proceed, .shutdown,
    .notifyShutdown]

theorem runLoop_responsive_backoff :
    ∃ loop, (machine SendCycle.sampleLimits 1000 8000).run initial shutdownInBackoff =
        some loop ∧
      loop.point = .awaitBackoff 1000 ∧ Responsive SendCycle.sampleLimits 1000 8000 loop := by
  have ends : ((machine SendCycle.sampleLimits 1000 8000).run initial shutdownInBackoff).map
      point = some (.awaitBackoff 1000) := by decide +kernel
  rcases Option.map_eq_some_iff.mp ends with ⟨loop, ran, waits⟩
  exact ⟨loop, ran, waits, runLoop_responsive SendCycle.sampleLimits 1000 8000 ran⟩

/-- `run` waits for data, is woken by a submit, and sends it. -/
def firstSend : List RunEvent :=
  [.proceed, .proceed, .pollNotified, .submit (SendCycle.sampleBatch 1), .notifySubmit 0,
    .pollNotified, .proceed, .proceed, .proceed, .proceed]

end RunLoop

end Ferrometer.Forwarder.Otlphttp
