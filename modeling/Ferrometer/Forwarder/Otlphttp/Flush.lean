import Ferrometer.Forwarder.Otlphttp.Run

/-!
Contract: what `run` does between the call of `shutdown` and its return, with an
endpoint that accepts every request.

Owns: that `run` returns, after a bounded number of moves and without waiting for time
to pass, what it has delivered by then, and when it leaves batches in the buffer.

Does not own: the answers of an endpoint that is down. The final send is not repeated,
so a failure there loses what it carried.
-/

set_option autoImplicit false

namespace Ferrometer.Forwarder.Otlphttp

open Ferrometer.Config Ferrometer.Foundation

/-! ## Healthy steps -/

/-- A step after the scheduler's final `submit`, with an endpoint that accepts every
request. -/
def RunEvent.healthy : RunEvent → Bool
  | .submit _ | .failed => false
  | _ => true

/-- At the final drain or past it. -/
def Point.isFinal : Point → Bool
  | .drain true | .sending true | .returned => true
  | _ => false

namespace SendCycle

variable {limits : Limits} {cycle next : SendCycle}

/-- Every batch that is not lost, in the order of its `submit` calls. -/
def unlost (cycle : SendCycle) : List Submission :=
  cycle.delivered ++ (cycle.inFlight ++ cycle.state.batches)

private theorem unlost_popForSend (valid : cycle.Valid limits) (idle : cycle.inFlight = [])
    (taken : step limits cycle .popForSend = some next) : next.unlost = cycle.unlost := by
  rw [step_popForSend valid idle] at taken
  cases taken
  simp [unlost, idle]

private theorem unlost_success (taken : step limits cycle .success = some next) :
    next.unlost = cycle.unlost := by
  by_cases idle : cycle.inFlight = []
  · rw [step, if_pos idle] at taken
    cases taken
  · rw [step_success idle] at taken
    cases taken
    simp [unlost]

private theorem batches_success (taken : step limits cycle .success = some next) :
    next.state.batches = cycle.state.batches := by
  by_cases idle : cycle.inFlight = []
  · rw [step, if_pos idle] at taken
    cases taken
  · rw [step_success idle] at taken
    cases taken
    rfl

/-- One pop empties the buffer exactly when a single request may carry all of it. -/
private theorem batches_popForSend (valid : cycle.Valid limits) (idle : cycle.inFlight = [])
    (taken : step limits cycle .popForSend = some next) :
    next.state.batches = [] ↔ cycle.state.batches.length ≤ 1 ∨
      OldestFirst.total len cycle.state.batches ≤ limits.requestMaxMetrics := by
  have filled : ∀ batch ∈ cycle.state.batches, len batch ≠ 0 := by
    intro batch member isZero
    apply valid.filled batch (List.mem_append_right _ member)
    exact List.length_eq_zero_iff.mp isZero
  rw [step_popForSend valid idle] at taken
  cases taken
  exact BufferState.drop_popCount_eq_nil_iff limits.requestMaxMetrics filled

end SendCycle

namespace RunLoop

variable {limits : Limits} {backoffInitial backoffMax : Duration}

/-! ## How far `run` is from its return -/

/-- An upper bound on the moves that are left, once the shutdown flag is set. -/
def movesLeft : Point → Nat
  | .returned | .aborted => 0
  | .sending true => 1
  | .drain true => 2
  | .loadShutdown => 3
  | .sending false | .awaitData => 4
  | .drain false => 5
  | .awaitBackoff _ => 6
  | .startSleep _ => 7
  | .checkBackoff => 8
  | .checkData => 9

theorem movesLeft_le (point : Point) : movesLeft point ≤ 9 := by
  cases point with
  | drain final => cases final <;> decide
  | sending final => cases final <;> decide
  | _ => simp [movesLeft]

private theorem movesLeft_lt {loop next : RunLoop} {here there : Point}
    (stands : loop.point = here) (goesTo : next.point = there)
    (lower : movesLeft there < movesLeft here) :
    next.point = loop.point ∨ movesLeft next.point < movesLeft loop.point := by
  rw [stands, goesTo]
  exact Or.inr lower

theorem step_moves {loop next : RunLoop} {event : RunEvent}
    (isSet : loop.shutdown = true) (healthy : event.healthy = true)
    (stepped : step limits backoffInitial backoffMax loop event = some next) :
    next.point = loop.point ∨ movesLeft next.point < movesLeft loop.point := by
  cases (steps_of_step stepped).2 with
  | submitted _ => cases healthy
  | failed _ _ => cases healthy
  | submitNotified _ => exact Or.inl rfl
  | shutdownSet => exact Or.inl rfl
  | shutdownNotified _ => exact Or.inl rfl
  | timePassed _ => exact Or.inl rfl
  | notYet _ _ => exact Or.inl rfl
  | sawShutdown stands _ => exact movesLeft_lt stands rfl (by simp [movesLeft])
  | sawNoShutdown _ isUnset => exact absurd (isSet.symm.trans isUnset) (by decide)
  | noData stands _ => exact movesLeft_lt stands rfl (by simp [movesLeft])
  | hasData stands _ => exact movesLeft_lt stands rfl (by simp [movesLeft])
  | noBackoff stands _ => exact movesLeft_lt stands rfl (by simp [movesLeft])
  | mustBackOff stands _ _ => exact movesLeft_lt stands rfl (by simp [movesLeft])
  | sleeps stands => exact movesLeft_lt stands rfl (by simp [movesLeft])
  | sleptOut stands _ => exact movesLeft_lt stands rfl (by simp [movesLeft])
  | woke waits _ =>
      cases stands : loop.point with
      | awaitData => exact stands ▸ movesLeft_lt stands rfl (by simp [movesLeft])
      | awaitBackoff wakeAt => exact stands ▸ movesLeft_lt stands rfl (by simp [movesLeft])
      | _ => simp [stands, Point.parked] at waits
  | @nothingToSend final _ stands _ _ =>
      cases final with
      | true => exact movesLeft_lt stands rfl (by simp [movesLeft, sent])
      | false => exact movesLeft_lt stands rfl (by simp [movesLeft, sent])
  | @popped final _ stands _ _ =>
      cases final with
      | true => exact movesLeft_lt stands rfl (by simp [movesLeft])
      | false => exact movesLeft_lt stands rfl (by simp [movesLeft])
  | @succeeded final _ stands _ =>
      cases final with
      | true => exact movesLeft_lt stands rfl (by simp [movesLeft, sent])
      | false => exact movesLeft_lt stands rfl (by simp [movesLeft, sent])

/-- A failure ends a send as well, the final one and any other. -/
theorem step_moves_failed {loop next : RunLoop}
    (stepped : step limits backoffInitial backoffMax loop .failed = some next) :
    next.point = loop.point ∨ movesLeft next.point < movesLeft loop.point := by
  cases (steps_of_step stepped).2 with
  | @failed final cycle stands _ =>
      have outcome := @notSent_cases { loop with cycle } final backoffInitial backoffMax
      rcases outcome with ⟨rfl, equal⟩ | ⟨rfl, equal⟩ | ⟨_, _, rfl, -, -, equal⟩
      · exact movesLeft_lt stands (congrArg point equal) (by simp [movesLeft])
      · exact movesLeft_lt stands (congrArg point equal) (by simp [movesLeft])
      · exact movesLeft_lt stands (congrArg point equal) (by simp [movesLeft])

/-! ## Between the call and the return -/

/-- What holds from the call of `shutdown` on. -/
structure Closing (limits : Limits) (loop : RunLoop) : Prop where
  valid : loop.Valid limits
  isSet : loop.shutdown = true
  alive : loop.point ≠ .aborted
  sends : loop.point.isSending = true → loop.cycle.inFlight ≠ []

private theorem step_sends {loop next : RunLoop} {event : RunEvent}
    (sends : loop.point.isSending = true → loop.cycle.inFlight ≠ [])
    (steps : Steps limits backoffInitial backoffMax loop event next) :
    next.point.isSending = true → next.cycle.inFlight ≠ [] := by
  cases steps with
  | submitted taken => rwa [inFlight_of_submit taken]
  | popped _ _ something => exact fun _ => something
  | @nothingToSend final _ _ _ _ => cases final <;> simp [sent, Point.isSending]
  | @succeeded final _ _ _ => cases final <;> simp [sent, Point.isSending]
  | @failed final cycle _ _ =>
      rcases notSent_cases { loop with cycle } final with
        ⟨-, equal⟩ | ⟨-, equal⟩ | ⟨_, _, -, -, -, equal⟩
      all_goals rw [equal]; simp [Point.isSending]
  | submitNotified _ => exact sends
  | shutdownSet => exact sends
  | shutdownNotified _ => exact sends
  | timePassed _ => exact sends
  | notYet _ _ => exact sends
  | _ => simp [Point.isSending]

theorem run_sends {loop : RunLoop} {events : List RunEvent}
    (ran : (machine limits backoffInitial backoffMax).run initial events = some loop) :
    loop.point.isSending = true → loop.cycle.inFlight ≠ [] :=
  (machine limits backoffInitial backoffMax).run_invariant
    (fun sends stepped => step_sends sends (steps_of_step stepped).2)
    (fun sending => absurd sending (by decide)) ran

theorem step_closing {loop next : RunLoop} {event : RunEvent}
    (closing : loop.Closing limits) (healthy : event.healthy = true)
    (stepped : step limits backoffInitial backoffMax loop event = some next) :
    next.Closing limits := by
  have steps := (steps_of_step stepped).2
  refine ⟨step_valid closing.valid stepped, ?_, ?_, step_sends closing.sends steps⟩
  · cases steps with
    | submitted _ => cases healthy
    | failed _ _ => cases healthy
    | shutdownSet => rfl
    | @nothingToSend final _ _ _ _ => cases final <;> exact closing.isSet
    | @succeeded final _ _ _ => cases final <;> exact closing.isSet
    | _ => exact closing.isSet
  · have alive := closing.alive
    cases steps with
    | submitted _ => cases healthy
    | failed _ _ => cases healthy
    | @nothingToSend final _ _ _ _ => cases final <;> simp [sent]
    | @succeeded final _ _ _ => cases final <;> simp [sent]
    | submitNotified _ => exact alive
    | shutdownSet => exact alive
    | shutdownNotified _ => exact alive
    | timePassed _ => exact alive
    | notYet _ _ => exact alive
    | _ => simp

/-- Once the call of `shutdown` is over, `run` can always go on, and need not wait for
time to pass. -/
theorem closing_goesOn {loop : RunLoop} (closing : loop.Closing limits)
    (completed : loop.shuttingDown = 0) (running : loop.point ≠ .returned) :
    ∃ event ∈ [RunEvent.proceed, .pollNotified, .accepted], ∃ next,
      Steps limits backoffInitial backoffMax loop event next ∧
        next.point ≠ loop.point ∧ next.clock = loop.clock := by
  have woken : loop.point.parked = true → loop.notify.signalled = true := by
    intro waits
    by_contra pending
    have past : loop.point.pastLoad = true := by
      cases stands : loop.point <;> simp_all [Point.parked, Point.pastLoad]
    have owed := closing.valid.shutdownHeard past (by simpa using pending) closing.isSet
    omega
  cases stands : loop.point with
  | loadShutdown =>
      exact ⟨.proceed, by simp, _, .sawShutdown stands closing.isSet, by simp, rfl⟩
  | checkData =>
      by_cases isEmpty : loop.cycle.state.batches = []
      · exact ⟨.proceed, by simp, _, .noData stands isEmpty, by simp, rfl⟩
      · exact ⟨.proceed, by simp, _, .hasData stands isEmpty, by simp, rfl⟩
  | awaitData =>
      have waits : loop.point.parked = true := by rw [stands]; rfl
      exact ⟨.pollNotified, by simp, _, .woke waits (woken waits), by simp, rfl⟩
  | awaitBackoff wakeAt =>
      have waits : loop.point.parked = true := by rw [stands]; rfl
      exact ⟨.pollNotified, by simp, _, .woke waits (woken waits), by simp, rfl⟩
  | checkBackoff =>
      by_cases past : ∀ deadline ∈ loop.backoffUntil, deadline < loop.clock
      · exact ⟨.proceed, by simp, _, .noBackoff stands past, by simp, rfl⟩
      · simp only [not_forall] at past
        rcases past with ⟨deadline, backingOff, ahead⟩
        exact ⟨.proceed, by simp, _,
          .mustBackOff stands backingOff (Nat.le_of_not_lt ahead), by simp, rfl⟩
  | startSleep wait => exact ⟨.proceed, by simp, _, .sleeps stands, by simp, rfl⟩
  | drain final =>
      have idle : loop.cycle.inFlight = [] := closing.valid.inFlight (by rw [stands]; rfl)
      have pops := SendCycle.step_popForSend closing.valid.cycle idle
      rcases Option.isSome_iff_exists.mp (Option.isSome_of_eq_some pops) with ⟨cycle, taken⟩
      by_cases nothing : cycle.inFlight = []
      · refine ⟨.proceed, by simp, _, .nothingToSend stands taken nothing, ?_, by simp⟩
        cases final <;> simp [sent]
      · exact ⟨.proceed, by simp, _, .popped stands taken nothing, by simp, rfl⟩
  | sending final =>
      have taken : SendCycle.step limits loop.cycle .success = some _ :=
        SendCycle.step_success (closing.sends (by rw [stands]; rfl))
      refine ⟨.accepted, by simp, _, .succeeded stands taken, ?_, by simp⟩
      cases final <;> simp [sent]
  | returned => exact absurd stands running
  | aborted => exact absurd stands closing.alive

/-- Without a submit and without a failure, no batch is lost before the return. -/
private theorem step_unlost {loop next : RunLoop} {event : RunEvent}
    (closing : loop.Closing limits) (healthy : event.healthy = true)
    (stepped : step limits backoffInitial backoffMax loop event = some next) :
    next.cycle.unlost = loop.cycle.unlost := by
  have idle : loop.point.isSending = false → loop.cycle.inFlight = [] := closing.valid.inFlight
  cases (steps_of_step stepped).2 with
  | submitted _ => cases healthy
  | failed _ _ => cases healthy
  | nothingToSend stands taken _ =>
      rw [sent_cycle]
      exact SendCycle.unlost_popForSend closing.valid.cycle (idle (by rw [stands]; rfl)) taken
  | popped stands taken _ =>
      exact SendCycle.unlost_popForSend closing.valid.cycle (idle (by rw [stands]; rfl)) taken
  | succeeded _ taken =>
      rw [sent_cycle]
      exact SendCycle.unlost_success taken
  | _ => rfl

private theorem run_unlost {loop later : RunLoop} {events : List RunEvent}
    (closing : loop.Closing limits) (healthy : ∀ event ∈ events, event.healthy = true)
    (ran : (machine limits backoffInitial backoffMax).run loop events = some later) :
    later.cycle.unlost = loop.cycle.unlost := by
  have kept : ∀ {state event next},
      (state.Closing limits ∧ state.cycle.unlost = loop.cycle.unlost) → event.healthy = true →
      step limits backoffInitial backoffMax state event = some next →
      next.Closing limits ∧ next.cycle.unlost = loop.cycle.unlost := by
    intro state event next held healthy stepped
    exact ⟨step_closing held.1 healthy stepped, (step_unlost held.1 healthy stepped).trans held.2⟩
  exact ((machine limits backoffInitial backoffMax).run_invariant_along kept ⟨closing, rfl⟩
    (.of_forall healthy loop) ran).2

/-! ## What the final drain leaves behind -/

/-- Where the final drain starts, a single request may carry the whole buffer: it holds at
most one batch, or no more metrics than a request. -/
def FitsFinal (limits : Limits) (loop : RunLoop) (event : RunEvent) : Prop :=
  loop.point = .drain true → event = .proceed →
    loop.cycle.state.batches.length ≤ 1 ∨
      OldestFirst.total len loop.cycle.state.batches ≤ limits.requestMaxMetrics

/-- Past the final drain, with batches left. -/
def LeftBehind (loop : RunLoop) : Prop :=
  (loop.point = .sending true ∨ loop.point = .returned) ∧ loop.cycle.state.batches ≠ []

private theorem step_isFinal {loop next : RunLoop} {event : RunEvent}
    (seen : loop.point.isFinal = true → loop.shutdown = true)
    (steps : Steps limits backoffInitial backoffMax loop event next) :
    next.point.isFinal = true → next.shutdown = true := by
  cases steps with
  | submitted _ => exact seen
  | submitNotified _ => exact seen
  | shutdownSet => exact fun _ => rfl
  | shutdownNotified _ => exact seen
  | timePassed _ => exact seen
  | notYet _ _ => exact seen
  | sawShutdown _ isSet => exact fun _ => isSet
  | @nothingToSend final _ drains _ _ =>
      cases final with
      | true => exact fun _ => seen (by rw [drains]; rfl)
      | false => exact fun past => absurd past (by simp [sent, Point.isFinal])
  | @popped final _ drains _ _ =>
      cases final with
      | true => exact fun _ => seen (by rw [drains]; rfl)
      | false => exact fun past => absurd past (by simp [Point.isFinal])
  | @succeeded final _ sends _ =>
      cases final with
      | true => exact fun _ => seen (by rw [sends]; rfl)
      | false => exact fun past => absurd past (by simp [sent, Point.isFinal])
  | @failed final cycle sends _ =>
      rcases notSent_cases { loop with cycle } final with
        ⟨isTrue, equal⟩ | ⟨-, equal⟩ | ⟨_, _, -, -, -, equal⟩
      · rw [equal]
        exact fun _ => seen (by rw [sends, isTrue]; rfl)
      · rw [equal]
        exact fun past => absurd past (by simp [Point.isFinal])
      · rw [equal]
        exact fun past => absurd past (by simp [Point.isFinal])
  | _ => simp [Point.isFinal]

/-- Before the call of `shutdown`, `run` has not come to the final drain. -/
theorem run_isFinal {loop : RunLoop} {events : List RunEvent}
    (ran : (machine limits backoffInitial backoffMax).run initial events = some loop) :
    loop.point.isFinal = true → loop.shutdown = true :=
  (machine limits backoffInitial backoffMax).run_invariant
    (fun seen stepped => step_isFinal seen (steps_of_step stepped).2)
    (fun past => absurd past (by decide)) ran

private theorem leftBehind_sent {loop : RunLoop} {cycle : SendCycle} {final : Bool} :
    ({ loop with cycle }.sent final).LeftBehind ↔ final = true ∧ cycle.state.batches ≠ [] := by
  cases final <;> simp [sent, LeftBehind]

private theorem step_leftBehind {loop next : RunLoop} {event : RunEvent}
    (closing : loop.Closing limits) (healthy : event.healthy = true)
    (stepped : step limits backoffInitial backoffMax loop event = some next) :
    next.LeftBehind ↔ loop.LeftBehind ∨ ¬ FitsFinal limits loop event := by
  have pops : ∀ {final cycle}, loop.point = .drain final →
      SendCycle.step limits loop.cycle .popForSend = some cycle →
      (final = true ∧ cycle.state.batches ≠ [] ↔
        loop.LeftBehind ∨ ¬ FitsFinal limits loop .proceed) := by
    intro final cycle stands taken
    have idle : loop.cycle.inFlight = [] := closing.valid.inFlight (by rw [stands]; rfl)
    rw [ne_eq, SendCycle.batches_popForSend closing.valid.cycle idle taken]
    simp [LeftBehind, FitsFinal, stands]
  have other : event ≠ .proceed → FitsFinal limits loop event := fun ne _ equal => absurd equal ne
  cases (steps_of_step stepped).2 with
  | submitted _ => cases healthy
  | failed _ _ => cases healthy
  | nothingToSend stands taken _ =>
      rw [leftBehind_sent]
      exact pops stands taken
  | popped stands taken _ =>
      rw [← pops stands taken]
      simp [LeftBehind]
  | @succeeded final cycle stands taken =>
      rw [leftBehind_sent, SendCycle.batches_success taken]
      simp [LeftBehind, stands, other]
  | submitNotified _ => simp [LeftBehind, other]
  | shutdownSet => simp [LeftBehind, other]
  | shutdownNotified _ => simp [LeftBehind, other]
  | timePassed _ => simp [LeftBehind, other]
  | notYet _ _ => simp [LeftBehind, other]
  | woke waits _ =>
      cases stands : loop.point <;> simp_all [LeftBehind, Point.parked]
  | sleptOut stands _ => simp [LeftBehind, stands, other]
  | _ => simp_all [LeftBehind, FitsFinal]

/-! ## The call -/

private theorem called_eq {loop called : RunLoop}
    (calls : step limits backoffInitial backoffMax loop .shutdown = some called) :
    called = { loop with shutdown := true, shuttingDown := loop.shuttingDown + 1 } := by
  cases (steps_of_step calls).2 with
  | shutdownSet => rfl

private theorem closing_of_shutdown {before : List RunEvent} {loop called : RunLoop}
    (ran : (machine limits backoffInitial backoffMax).run initial before = some loop)
    (calls : step limits backoffInitial backoffMax loop .shutdown = some called) :
    called.Closing limits := by
  have sends := run_sends ran
  have alive := (steps_of_step calls).1
  have valid := step_valid (run_valid ran) calls
  rw [called_eq calls] at valid ⊢
  exact ⟨valid, rfl, alive, sends⟩

private theorem not_leftBehind_of_shutdown {before : List RunEvent} {loop called : RunLoop}
    (ran : (machine limits backoffInitial backoffMax).run initial before = some loop)
    (running : loop.shutdown = false)
    (calls : step limits backoffInitial backoffMax loop .shutdown = some called) :
    ¬ called.LeftBehind := by
  rintro ⟨past, -⟩
  rw [called_eq calls] at past
  have isFinal : loop.point.isFinal = true := by
    rcases past with stands | stands <;> rw [stands] <;> rfl
  exact absurd ((run_isFinal ran isFinal).symm.trans running) (by decide)

private theorem fitsFinal_shutdown {loop called : RunLoop}
    (calls : step limits backoffInitial backoffMax loop .shutdown = some called)
    (after : List RunEvent) :
    (machine limits backoffInitial backoffMax).Along (FitsFinal limits) loop
        (.shutdown :: after) ↔
      (machine limits backoffInitial backoffMax).Along (FitsFinal limits) called after := by
  constructor
  · intro whole
    exact whole.2 called calls
  · intro rest
    refine ⟨nofun, fun next other => ?_⟩
    obtain rfl := Option.some.inj (calls.symm.trans other)
    exact rest

/-- The call itself moves nothing. -/
private theorem moves_shutdown {loop called : RunLoop}
    (calls : step limits backoffInitial backoffMax loop .shutdown = some called)
    (after : List RunEvent) :
    (machine limits backoffInitial backoffMax).moves point loop (.shutdown :: after) =
      (machine limits backoffInitial backoffMax).moves point called after := by
  have taken : (machine limits backoffInitial backoffMax).step loop .shutdown = some called :=
    calls
  have still : called.point = loop.point := by rw [called_eq calls]
  simp only [Machine.moves, taken, if_pos still, Nat.zero_add]

/-- A run from the call of `shutdown` on, against an endpoint that accepts every
request. -/
structure Flushes (limits : Limits) (backoffInitial backoffMax : Duration)
    (loop : RunLoop) (events : List RunEvent) (later : RunLoop) : Prop where
  /-- It moves nine times at most. -/
  bounded : (machine limits backoffInitial backoffMax).moves point loop events ≤ 9
  /-- When the call of `shutdown` is over, it has returned or can move, with no time
  passing. -/
  goesOn : later.shuttingDown = 0 → later.point = .returned ∨
    ∃ event ∈ [RunEvent.proceed, .pollNotified, .accepted], ∃ next,
      step limits backoffInitial backoffMax later event = some next ∧
        next.point ≠ later.point ∧ next.clock = later.clock
  /-- It returns with an empty buffer if and only if the final drain has found no more
  than one request may carry. -/
  emptied : later.point = .returned →
    (later.cycle.state.batches = [] ↔
      (machine limits backoffInitial backoffMax).Along (FitsFinal limits) loop events)
  /-- Then every batch that was buffered or in flight has been delivered, in order. -/
  delivered : later.point = .returned →
    (machine limits backoffInitial backoffMax).Along (FitsFinal limits) loop events →
    later.cycle.delivered =
      loop.cycle.delivered ++ (loop.cycle.inFlight ++ loop.cycle.state.batches)

theorem shutdown_flushes (limits : Limits) (backoffInitial backoffMax : Duration)
    {before after : List RunEvent} {loop later : RunLoop}
    (ran : (machine limits backoffInitial backoffMax).run initial before = some loop)
    (running : loop.shutdown = false)
    (healthy : ∀ event ∈ after, event.healthy = true)
    (ranOn : (machine limits backoffInitial backoffMax).run loop (.shutdown :: after) =
      some later) :
    Flushes limits backoffInitial backoffMax loop (.shutdown :: after) later := by
  rcases (Machine.run_cons_eq_some _).mp ranOn with ⟨called, taken, ranAfter⟩
  have calls : step limits backoffInitial backoffMax loop .shutdown = some called := taken
  have start := closing_of_shutdown ran calls
  have along : (machine limits backoffInitial backoffMax).Along
      (fun _ event => event.healthy = true) called after := .of_forall healthy called
  have closing : later.Closing limits :=
    (machine limits backoffInitial backoffMax).run_invariant_along step_closing start along ranAfter
  have intact := (machine limits backoffInitial backoffMax).intact_iff_along step_closing
    step_leftBehind start along ranAfter
  rw [and_iff_right (not_leftBehind_of_shutdown ran running calls),
    ← fitsFinal_shutdown calls] at intact
  have emptied : later.point = .returned → (later.cycle.state.batches = [] ↔
      (machine limits backoffInitial backoffMax).Along (FitsFinal limits) loop
        (.shutdown :: after)) := by
    intro returned
    rw [← intact]
    simp [LeftBehind, returned]
  exact {
    bounded := by
      have ranked : (machine limits backoffInitial backoffMax).moves point called after +
          movesLeft later.point ≤ movesLeft called.point :=
        (machine limits backoffInitial backoffMax).moves_add_rank_le step_closing
          (fun closing healthy stepped => step_moves closing.isSet healthy stepped)
          start along ranAfter
      have first := movesLeft_le called.point
      rw [moves_shutdown calls]
      omega
    goesOn := by
      intro completed
      by_cases returned : later.point = .returned
      · exact Or.inl returned
      · rcases closing_goesOn closing completed returned with
          ⟨event, own, next, steps, moved, sameTime⟩
        exact Or.inr ⟨event, own, next, step_of_steps closing.alive steps, moved, sameTime⟩
    emptied := emptied
    delivered := by
      intro returned fits
      have kept := run_unlost start healthy ranAfter
      have idle : later.cycle.inFlight = [] := closing.valid.inFlight (by rw [returned]; rfl)
      have isEmpty := (emptied returned).mpr fits
      rw [SendCycle.unlost, idle, isEmpty, called_eq calls] at kept
      simpa [SendCycle.unlost] using kept }

/-- The call of `shutdown` comes while a send is under way. That send is accepted, and so
is the final one. -/
def finalSend : List RunEvent := [.notifyShutdown, .accepted, .proceed, .proceed, .accepted]

theorem shutdown_flushes_oneBatch :
    let before := firstSend ++ [.submit (SendCycle.sampleBatch 1), .notifySubmit 1]
    ∃ loop later, (machine SendCycle.sampleLimits 1000 8000).run initial before = some loop ∧
      (machine SendCycle.sampleLimits 1000 8000).run loop (.shutdown :: finalSend) = some later ∧
      later.point = .returned ∧ later.cycle.state.batches = [] ∧
      Flushes SendCycle.sampleLimits 1000 8000 loop (.shutdown :: finalSend) later := by
  intro before
  have ran : (machine SendCycle.sampleLimits 1000 8000).run initial before = some _ := rfl
  refine ⟨_, _, ran, rfl, rfl, rfl, ?_⟩
  exact shutdown_flushes SendCycle.sampleLimits 1000 8000 ran rfl (by decide) rfl

/-- Two batches of one metric behind the send, with a request limit of one. -/
theorem shutdown_leaves_secondBatch :
    ¬ ∀ before after loop later,
      (machine SendCycle.sampleLimits 1000 8000).run initial before = some loop →
      loop.shutdown = false → (∀ event ∈ after, RunEvent.healthy event = true) →
      (machine SendCycle.sampleLimits 1000 8000).run loop (.shutdown :: after) = some later →
      later.point = .returned → later.cycle.state.batches = [] := by
  intro flushed
  let before := firstSend ++ [.submit (SendCycle.sampleBatch 1), .notifySubmit 1,
    .submit (SendCycle.sampleBatch 1), .notifySubmit 2]
  have left := flushed before finalSend _ _ rfl rfl (by decide) rfl rfl
  exact absurd left (by simp)

end RunLoop

end Ferrometer.Forwarder.Otlphttp
