import Ferrometer.Forwarder.Otlphttp.Run
import Ferrometer.Foundation.CappedDoubling
import Ferrometer.Log.Shipper
import Ferrometer.Log.Source.Batches

/-!
Contract: when the send loop of a forwarder and the loop of a shipper send again after
a failure.

Owns: the number of failures since the last reset, for either loop, the deadline that
it leads to, and that no later send starts before it.

Does not own: the final send of a forwarder that shuts down, which waits for nothing.
-/

set_option autoImplicit false

namespace Ferrometer

open Ferrometer.Config Ferrometer.Foundation

theorem nextBackoff_eq_some {backoffInitial backoffMax backoff next : Duration}
    (computed : nextBackoff backoffInitial backoffMax backoff = some next) :
    next = CappedDoubling.grow backoffInitial backoffMax backoff := by
  unfold nextBackoff at computed
  unfold CappedDoubling.grow
  split at computed
  · rename_i isZero
    cases computed
    exact (if_pos isZero).symm
  · rename_i nonzero
    rcases Option.map_eq_some_iff.mp computed with ⟨doubled, fits, equal⟩
    unfold doubleDuration at fits
    split at fits
    · cases fits
      rw [if_neg nonzero]
      exact equal.symm
    · cases fits

/-! ## The send loop of a forwarder -/

namespace Forwarder.Otlphttp

open CappedDoubling

variable {limits : Limits} {backoffInitial backoffMax : Duration}

def RunEvent.countFailure (count : Nat) : RunEvent → Nat
  | .failed => count + 1
  | .accepted => 0
  | _ => count

/-- The failures since the last request that was accepted. -/
def failuresSince (events : List RunEvent) : Nat :=
  events.foldl RunEvent.countFailure 0

/-- Neither a failure nor a success. -/
def RunEvent.isQuiet : RunEvent → Bool
  | .failed | .accepted => false
  | _ => true

namespace RunLoop

/-- An ordinary drain with a backoff behind it finds something to send. -/
def DrainsData (loop : RunLoop) (event : RunEvent) : Prop :=
  loop.point = .drain false → event = .proceed → loop.backoffUntil ≠ none →
    loop.cycle.state.batches ≠ []

instance (loop : RunLoop) (event : RunEvent) : Decidable (loop.DrainsData event) :=
  inferInstanceAs (Decidable (_ → _ → _ → _))

/-- No send is to come. -/
def Over (loop : RunLoop) : Prop :=
  loop.point = .returned ∨ loop.point = .aborted

/-- `backoff` is that of this many failures, and only a first send has no deadline. -/
def Counts (backoffInitial backoffMax : Duration) (count : Nat) (loop : RunLoop) : Prop :=
  loop.backoff = value backoffInitial backoffMax count ∧ (loop.backoffUntil = none → count = 0)

private theorem not_nothing {loop : RunLoop} {cycle : SendCycle} (valid : loop.Valid limits)
    (drains : loop.point = .drain false) (met : loop.DrainsData .proceed)
    (taken : SendCycle.step limits loop.cycle .popForSend = some cycle)
    (nothing : cycle.inFlight = []) : loop.backoffUntil = none := by
  by_contra backingOff
  have nonempty := met drains rfl backingOff
  have idle : loop.cycle.inFlight = [] := valid.inFlight (by rw [drains]; rfl)
  rw [SendCycle.step_popForSend valid.cycle idle] at taken
  cases taken
  have some := BufferState.popCount_pos limits.requestMaxMetrics nonempty
  rcases List.take_eq_nil_iff.mp nothing with none | isEmpty
  · omega
  · exact nonempty isEmpty

/-- Every step that can be followed by a send keeps the backoff, unless it is an empty
ordinary drain, a success or a failure. -/
private theorem step_backoff {loop next : RunLoop} {event : RunEvent}
    (steps : Steps limits backoffInitial backoffMax loop event next) :
    next.Over ∨
      (event.isQuiet = true ∧ ¬ loop.Over ∧ next.backoff = loop.backoff ∧
        next.backoffUntil = loop.backoffUntil) ∨
      (event = .proceed ∧ loop.point = .drain false ∧ (∃ cycle,
        SendCycle.step limits loop.cycle .popForSend = some cycle ∧ cycle.inFlight = []) ∧
        next.backoff = 0 ∧ next.backoffUntil = none) ∨
      (event = .accepted ∧ next.backoff = 0 ∧ next.backoffUntil = none) ∨
      (event = .failed ∧ ¬ loop.Over ∧
        next.backoff = grow backoffInitial backoffMax loop.backoff ∧
        next.backoffUntil = some (loop.clock + next.backoff)) := by
  have keeps : ∀ {point : Point}, loop.point = point →
      ¬ (point = .returned ∨ point = .aborted) → ¬ loop.Over := by
    intro point stands going isOver
    rw [Over, stands] at isOver
    exact going isOver
  have stays : next.point = loop.point → event.isQuiet = true → next.backoff = loop.backoff →
      next.backoffUntil = loop.backoffUntil → next.Over ∨ (event.isQuiet = true ∧ ¬ loop.Over ∧
        next.backoff = loop.backoff ∧ next.backoffUntil = loop.backoffUntil) := by
    intro same quiet backoff deadline
    by_cases isOver : loop.Over
    · exact Or.inl (by rw [Over, same]; exact isOver)
    · exact Or.inr ⟨quiet, isOver, backoff, deadline⟩
  cases steps with
  | submitted _ => exact (stays rfl rfl rfl rfl).imp_right Or.inl
  | submitNotified _ => exact (stays rfl rfl rfl rfl).imp_right Or.inl
  | shutdownSet => exact (stays rfl rfl rfl rfl).imp_right Or.inl
  | shutdownNotified _ => exact (stays rfl rfl rfl rfl).imp_right Or.inl
  | timePassed _ => exact (stays rfl rfl rfl rfl).imp_right Or.inl
  | notYet _ _ => exact (stays rfl rfl rfl rfl).imp_right Or.inl
  | woke waits _ =>
      have going : ¬ loop.Over := by
        rintro (ended | ended)
        · simp [ended, Point.parked] at waits
        · simp [ended, Point.parked] at waits
      exact Or.inr (Or.inl ⟨rfl, going, rfl, rfl⟩)
  | popped stands _ _ => exact Or.inr (Or.inl ⟨rfl, keeps stands (by simp), rfl, rfl⟩)
  | sawShutdown stands _ => exact Or.inr (Or.inl ⟨rfl, keeps stands (by simp), rfl, rfl⟩)
  | sawNoShutdown stands _ => exact Or.inr (Or.inl ⟨rfl, keeps stands (by simp), rfl, rfl⟩)
  | noData stands _ => exact Or.inr (Or.inl ⟨rfl, keeps stands (by simp), rfl, rfl⟩)
  | hasData stands _ => exact Or.inr (Or.inl ⟨rfl, keeps stands (by simp), rfl, rfl⟩)
  | noBackoff stands _ => exact Or.inr (Or.inl ⟨rfl, keeps stands (by simp), rfl, rfl⟩)
  | mustBackOff stands _ _ => exact Or.inr (Or.inl ⟨rfl, keeps stands (by simp), rfl, rfl⟩)
  | sleeps stands => exact Or.inr (Or.inl ⟨rfl, keeps stands (by simp), rfl, rfl⟩)
  | sleptOut stands _ => exact Or.inr (Or.inl ⟨rfl, keeps stands (by simp), rfl, rfl⟩)
  | @nothingToSend final cycle drains taken nothing =>
      cases final with
      | true => exact Or.inl (Or.inl rfl)
      | false =>
          exact Or.inr (Or.inr (Or.inl ⟨rfl, drains, ⟨cycle, taken, nothing⟩, rfl, rfl⟩))
  | @succeeded final cycle _ _ =>
      cases final with
      | true => exact Or.inl (Or.inl rfl)
      | false => exact Or.inr (Or.inr (Or.inr (Or.inl ⟨rfl, rfl, rfl⟩)))
  | @failed final cycle sends _ =>
      rcases notSent_cases { loop with cycle } final with
        ⟨-, equal⟩ | ⟨-, equal⟩ | ⟨backoff, deadline, -, computed, added, equal⟩
      · rw [equal]
        exact Or.inl (Or.inl rfl)
      · rw [equal]
        exact Or.inl (Or.inr rfl)
      · rw [equal]
        refine Or.inr (Or.inr (Or.inr (Or.inr ⟨rfl, keeps sends (by simp), ?_, ?_⟩)))
        · exact nextBackoff_eq_some computed
        · exact congrArg some (addDuration_eq_some.mp added).2

private theorem step_counts (ordered : backoffInitial ≤ backoffMax) {loop next : RunLoop}
    {event : RunEvent} {count : Nat} (valid : loop.Valid limits)
    (counts : loop.Over ∨ loop.Counts backoffInitial backoffMax count)
    (met : loop.DrainsData event)
    (stepped : step limits backoffInitial backoffMax loop event = some next) :
    next.Over ∨ next.Counts backoffInitial backoffMax (event.countFailure count) := by
  rcases step_backoff (steps_of_step stepped).2 with isOver | ⟨quiet, going, backoff, deadline⟩ |
    ⟨rfl, drains, ⟨cycle, taken, nothing⟩, backoff, deadline⟩ | ⟨rfl, backoff, deadline⟩ |
    ⟨rfl, going, backoff, deadline⟩
  · exact Or.inl isOver
  · have same : event.countFailure count = count := by
      cases event <;> first | rfl | cases quiet
    rw [Counts, same, backoff, deadline]
    exact Or.inr (counts.resolve_left going)
  · have fresh : count = 0 := by
      rcases counts with isOver | counts
      · simp [Over, drains] at isOver
      · exact counts.2 (not_nothing valid drains met taken nothing)
    exact Or.inr ⟨by rw [backoff, fresh]; rfl, fun _ => fresh⟩
  · exact Or.inr ⟨backoff, fun _ => rfl⟩
  · refine Or.inr ⟨?_, fun none => absurd (deadline.symm.trans none) nofun⟩
    rw [backoff, (counts.resolve_left going).1]
    exact grow_value ordered count

private theorem run_counts (ordered : backoffInitial ≤ backoffMax) {loop later : RunLoop}
    {events : List RunEvent} {count : Nat} (valid : loop.Valid limits)
    (counts : loop.Over ∨ loop.Counts backoffInitial backoffMax count)
    (met : (machine limits backoffInitial backoffMax).Along DrainsData loop events)
    (ran : (machine limits backoffInitial backoffMax).run loop events = some later) :
    later.Over ∨
      later.Counts backoffInitial backoffMax (events.foldl RunEvent.countFailure count) := by
  induction events generalizing loop count with
  | nil =>
      cases ran
      exact counts
  | cons event rest inductionHypothesis =>
      rcases (Machine.run_cons_eq_some _).mp ran with ⟨next, stepped, ranRest⟩
      exact inductionHypothesis (step_valid valid stepped)
        (step_counts ordered valid counts met.1 stepped) (met.2 next stepped) ranRest

/-- A quiet step leaves the deadline as it is. -/
private theorem step_deadline {loop next : RunLoop} {event : RunEvent} {deadline : Instant}
    (valid : loop.Valid limits) (held : loop.Over ∨ loop.backoffUntil = some deadline)
    (met : loop.DrainsData event) (quiet : event.isQuiet = true)
    (stepped : step limits backoffInitial backoffMax loop event = some next) :
    next.Over ∨ next.backoffUntil = some deadline := by
  rcases step_backoff (steps_of_step stepped).2 with isOver | ⟨-, going, -, same⟩ |
    ⟨rfl, drains, ⟨cycle, taken, nothing⟩, -, -⟩ | ⟨rfl, -, -⟩ | ⟨rfl, -, -, -⟩
  · exact Or.inl isOver
  · rw [same]
    exact Or.inr (held.resolve_left going)
  · rcases held with isOver | held
    · simp [Over, drains] at isOver
    · have noDeadline := not_nothing valid drains met taken nothing
      exact absurd (held.symm.trans noDeadline) nofun
  · cases quiet
  · cases quiet

/-- A failure sets the deadline by its number. -/
private theorem failed_deadline (ordered : backoffInitial ≤ backoffMax) {loop failed : RunLoop}
    {count : Nat} (counts : loop.Over ∨ loop.Counts backoffInitial backoffMax count)
    (stepped : step limits backoffInitial backoffMax loop .failed = some failed) :
    failed.Over ∨ failed.backoffUntil =
      some (loop.clock + value backoffInitial backoffMax (count + 1)) := by
  rcases step_backoff (steps_of_step stepped).2 with isOver | ⟨quiet, -⟩ | ⟨event, -⟩ |
    ⟨event, -⟩ | ⟨-, going, backoff, deadline⟩
  · exact Or.inl isOver
  · cases quiet
  · cases event
  · cases event
  · rw [deadline, backoff, (counts.resolve_left going).1, grow_value ordered]
    exact Or.inr rfl

end RunLoop

open RunLoop in
/-- The backoff of `run` over all of its runs. The failure after `before` is number `count`
since the last success; `quiet` brings neither a failure nor a success. -/
structure BacksOff (limits : Limits) (backoffInitial backoffMax : Duration) : Prop where
  /-- The deadline is as far behind the failure as its number says. -/
  deadline : ∀ {before quiet : List RunEvent} {loop later : RunLoop} {count : Nat},
    (machine limits backoffInitial backoffMax).run initial before = some loop →
    (machine limits backoffInitial backoffMax).run loop (.failed :: quiet) = some later →
    (∀ event ∈ quiet, event.isQuiet = true) →
    (machine limits backoffInitial backoffMax).Along DrainsData initial
      (before ++ .failed :: quiet) →
    count = failuresSince (before ++ [.failed]) →
    later.Over ∨ later.backoffUntil =
      some (loop.clock + min (backoffInitial * 2 ^ (count - 1)) backoffMax)
  /-- No ordinary drain, which is where a send starts, comes before it. -/
  notEarly : ∀ {before quiet : List RunEvent} {loop later : RunLoop} {count : Nat},
    (machine limits backoffInitial backoffMax).run initial before = some loop →
    (machine limits backoffInitial backoffMax).run loop (.failed :: quiet) = some later →
    (∀ event ∈ quiet, event.isQuiet = true) →
    (machine limits backoffInitial backoffMax).Along DrainsData initial
      (before ++ .failed :: quiet) →
    count = failuresSince (before ++ [.failed]) →
    later.point = .drain false →
    loop.clock + min (backoffInitial * 2 ^ (count - 1)) backoffMax ≤ later.clock
  /-- The first failure after a success waits for the initial backoff. -/
  first : ∀ {before : List RunEvent} {loop failed : RunLoop},
    (machine limits backoffInitial backoffMax).run initial before = some loop →
    step limits backoffInitial backoffMax loop .failed = some failed →
    (machine limits backoffInitial backoffMax).Along DrainsData initial before →
    failuresSince before = 0 →
    failed.Over ∨ failed.backoffUntil = some (loop.clock + backoffInitial)

open RunLoop in
private theorem failed_counted (ordered : backoffInitial ≤ backoffMax)
    {before : List RunEvent} {loop failed : RunLoop}
    (ran : (machine limits backoffInitial backoffMax).run initial before = some loop)
    (met : (machine limits backoffInitial backoffMax).Along DrainsData initial before)
    (stepped : step limits backoffInitial backoffMax loop .failed = some failed) :
    failed.Over ∨ failed.backoffUntil =
      some (loop.clock + min (backoffInitial * 2 ^ failuresSince before) backoffMax) := by
  have start : RunLoop.initial.Counts backoffInitial backoffMax 0 := ⟨rfl, fun _ => rfl⟩
  have counts := run_counts ordered (initial_valid limits) (Or.inr start) met ran
  exact failed_deadline ordered counts stepped

open RunLoop in
/-- The deadline of a failure lasts as long as the steps after it are quiet. -/
private theorem quiet_deadline (ordered : backoffInitial ≤ backoffMax)
    {before quiet : List RunEvent} {loop later : RunLoop}
    (ran : (machine limits backoffInitial backoffMax).run initial before = some loop)
    (ranOn : (machine limits backoffInitial backoffMax).run loop (.failed :: quiet) = some later)
    (isQuiet : ∀ event ∈ quiet, event.isQuiet = true)
    (met : (machine limits backoffInitial backoffMax).Along DrainsData initial
      (before ++ .failed :: quiet)) :
    later.Valid limits ∧ (later.Over ∨ later.backoffUntil =
      some (loop.clock + min (backoffInitial * 2 ^ failuresSince before) backoffMax)) := by
  rcases (Machine.along_append _).mp met with ⟨metBefore, metOn⟩
  rcases (Machine.run_cons_eq_some _).mp ranOn with ⟨failed, taken, ranQuiet⟩
  have stepped : step limits backoffInitial backoffMax loop .failed = some failed := taken
  have set := failed_counted ordered ran metBefore stepped
  generalize loop.clock + min (backoffInitial * 2 ^ failuresSince before) backoffMax = deadline
    at set ⊢
  have kept : ∀ {state event next},
      (state.Valid limits ∧ (state.Over ∨ state.backoffUntil = some deadline)) →
      (DrainsData state event ∧ event.isQuiet = true) →
      step limits backoffInitial backoffMax state event = some next →
      next.Valid limits ∧ (next.Over ∨ next.backoffUntil = some deadline) := by
    intro state event next held allowed stepped
    exact ⟨step_valid held.1 stepped,
      step_deadline held.1 held.2 allowed.1 allowed.2 stepped⟩
  exact (machine limits backoffInitial backoffMax).run_invariant_along kept
    ⟨step_valid (run_valid ran) stepped, set⟩
    (((metOn loop ran).2 failed taken).and (.of_forall isQuiet failed)) ranQuiet

/-- The failure itself is the last one that counts. -/
private theorem failuresSince_concat (before : List RunEvent) :
    failuresSince (before ++ [.failed]) - 1 = failuresSince before := by
  rw [failuresSince, List.foldl_append]
  rfl

open RunLoop in
theorem backsOff (limits : Limits) {backoffInitial backoffMax : Duration}
    (ordered : backoffInitial ≤ backoffMax) : BacksOff limits backoffInitial backoffMax where
  deadline := by
    intro before quiet loop later count ran ranOn isQuiet met counted
    rw [counted, failuresSince_concat]
    exact (quiet_deadline ordered ran ranOn isQuiet met).2
  notEarly := by
    intro before quiet loop later count ran ranOn isQuiet met counted drains
    rw [counted, failuresSince_concat]
    rcases quiet_deadline ordered ran ranOn isQuiet met with ⟨valid, isOver | backingOff⟩
    · simp [Over, drains] at isOver
    · have isStart : later.sendsFrom = some later.clock := by simp [sendsFrom, drains]
      exact valid.notEarly later.clock isStart _ backingOff
  first := by
    intro before loop failed ran stepped met none
    have set := failed_counted ordered ran met stepped
    rwa [none, pow_zero, Nat.mul_one, Nat.min_eq_left ordered] at set

end Forwarder.Otlphttp

/-! ## The loop of a shipper -/

namespace Log

open CappedDoubling

/-- What an answer means for the backoff. -/
inductive Verdict where
  | resets
  | neutral
  | failure
deriving DecidableEq

def verdict : Except Error Unit → Verdict
  | .ok () => .resets
  | .error (.sinkRejected _) => .resets
  | .error (.sinkPayloadTooLarge _) => .neutral
  | .error _ => .failure

def Action.verdict : Action → Verdict
  | .sent _ answer => Log.verdict answer
  | .acked _ _ => .neutral

def Verdict.countFailure (count : Nat) : Verdict → Nat
  | .resets => 0
  | .neutral => count
  | .failure => count + 1

/-- The failures since the last reset. -/
def failuresSince (actions : List Action) : Nat :=
  (actions.map Action.verdict).foldl Verdict.countFailure 0

/-- When the answer of an iteration is there. -/
def LoopEvent.answered {kind : Source} : LoopEvent kind → Instant
  | .iteration input => input.answered
  | .shutdown => 0

namespace Shipper

variable {kind : Source}

/-- When the wait at the top of the loop, entered at `now`, is over. -/
def waitsUntil (backoffUntil : Option Instant) (now : Instant) : Instant :=
  match backoffUntil with
  | none => now
  | some deadline => if now ≤ deadline then now + (deadline - now) else now

/-- An iteration resumes when the sleep that the code computes from the clock is over, or
later. -/
theorem timely_iff (shipper : Shipper kind) (input : Iteration kind) :
    shipper.Timely input ↔
      (∃ now, shipper.clock ≤ now ∧ waitsUntil shipper.backoffUntil now ≤ input.resumed) ∧
        input.resumed ≤ input.answered := by
  unfold Timely waitsUntil
  cases shipper.backoffUntil with
  | none =>
      constructor
      · exact fun timely => ⟨⟨input.resumed, timely.1, Nat.le_refl _⟩, timely.2.1⟩
      · rintro ⟨⟨now, after, resumes⟩, answers⟩
        exact ⟨Nat.le_trans after resumes, answers, nofun⟩
  | some deadline =>
      constructor
      · rintro ⟨after, answers, slept⟩
        have slept : deadline ≤ input.resumed := slept deadline rfl
        refine ⟨⟨input.resumed, after, ?_⟩, answers⟩
        show (if _ then _ else _) ≤ _
        split
        · rename_i early
          exact Nat.le_of_eq ((Nat.add_sub_of_le early).trans (Nat.le_antisymm slept early))
        · exact Nat.le_refl _
      · rintro ⟨⟨now, after, resumes⟩, answers⟩
        change (if _ then _ else _) ≤ _ at resumes
        split at resumes
        · rename_i early
          rw [Nat.add_sub_of_le early] at resumes
          refine ⟨after.trans (early.trans resumes), answers, fun _ same => ?_⟩
          cases same
          exact resumes
        · rename_i late
          refine ⟨after.trans resumes, answers, fun _ same => ?_⟩
          cases same
          exact (Nat.le_of_not_le late).trans resumes

/-- The backoff and its deadline. -/
def waiting (shipper : Shipper kind) : Duration × Option Instant :=
  (shipper.backoff, shipper.backoffUntil)

/-- What a verdict that is there at `answered` makes of the backoff. -/
def backsOff (backoffInitial backoffMax : Duration) (answered : Instant)
    (waiting : Duration × Option Instant) : Verdict → Duration × Option Instant
  | .resets => (0, none)
  | .neutral => waiting
  | .failure =>
      let backoff := grow backoffInitial backoffMax waiting.1
      (backoff, some (answered + backoff))

/-- From `shipper` to `next`, these actions were taken, and the backoff follows from their
verdicts, unless it has overflowed. -/
structure Acts (answered : Instant) (shipper next : Shipper kind) (added : List Action) :
    Prop where
  actions : next.actions = shipper.actions ++ added
  alive : next.aborted = false → shipper.aborted = false
  waiting : next.aborted = false → next.waiting = (added.map Action.verdict).foldl
    (backsOff shipper.backoffInitial shipper.backoffMax answered) shipper.waiting
  backoffInitial : next.backoffInitial = shipper.backoffInitial
  backoffMax : next.backoffMax = shipper.backoffMax

theorem Acts.append {answered : Instant} {shipper middle next : Shipper kind}
    {first second : List Action} (acts : Acts answered shipper middle first)
    (goesOn : Acts answered middle next second) : Acts answered shipper next (first ++ second) where
  actions := by rw [goesOn.actions, acts.actions, List.append_assoc]
  alive := fun alive => acts.alive (goesOn.alive alive)
  waiting := by
    intro alive
    rw [goesOn.waiting alive, acts.waiting (goesOn.alive alive), acts.backoffInitial,
      acts.backoffMax, List.map_append, List.foldl_append]
  backoffInitial := goesOn.backoffInitial.trans acts.backoffInitial
  backoffMax := goesOn.backoffMax.trans acts.backoffMax

private theorem finishBatch_acts (answered : Instant) (shipper : Shipper kind) (batch : Batch)
    (input : kind.AckInput) :
    ∃ added, Acts answered shipper (shipper.finishBatch batch input) added := by
  unfold finishBatch
  rcases kind.ack batch.endCursor input shipper.source with ⟨source, saved⟩
  refine ⟨[.acked batch.endCursor saved], ?_⟩
  cases saved with
  | ok => exact ⟨rfl, id, fun _ => rfl, rfl, rfl⟩
  | error failure => exact ⟨rfl, id, fun _ => rfl, rfl, rfl⟩

private theorem finishIfSent_acts (answered : Instant) (shipper : Shipper kind) (batch : Batch)
    (input : kind.AckInput) :
    ∃ added, Acts answered shipper (shipper.finishIfSent batch input) added := by
  unfold finishIfSent
  split
  · exact finishBatch_acts answered shipper batch input
  · exact ⟨[], (List.append_nil _).symm, id, fun _ => rfl, rfl, rfl⟩

/-- A failure that may be tried again backs off, or overflows. -/
private theorem backOff_acts (shipper : Shipper kind) (slice : List LogEntry)
    (answered : Instant) {answer : Except Error Unit} (fails : verdict answer = .failure) :
    Acts answered shipper ((shipper.requested slice answer).backOff answered)
      [.sent slice answer] := by
  rcases (shipper.requested slice answer).backOff_cases answered with
    equal | ⟨backoff, deadline, computed, added, equal⟩
  · rw [equal]
    exact ⟨rfl, nofun, nofun, rfl, rfl⟩
  · rw [equal]
    refine ⟨rfl, id, fun _ => ?_, rfl, rfl⟩
    rw [List.map_singleton, Action.verdict, fails, (addDuration_eq_some.mp added).2,
      nextBackoff_eq_some computed]
    rfl

/-- The answer to a request decides over the backoff. An ack that follows it does not. -/
private theorem handleAnswer_acts (shipper : Shipper kind) (batch : Batch)
    (slice : List LogEntry) (input : Iteration kind) :
    ∃ added, Acts input.answered shipper
      ((shipper.requested slice input.answer).handleAnswer batch slice input) added := by
  have finishes : ∀ {next : Shipper kind},
      Acts input.answered shipper next [.sent slice input.answer] →
      ∃ added, Acts input.answered shipper (next.finishIfSent batch input.ack) added := by
    intro next acts
    rcases finishIfSent_acts input.answered next batch input.ack with ⟨added, goesOn⟩
    exact ⟨_, acts.append goesOn⟩
  unfold handleAnswer
  cases answered : input.answer with
  | ok => exact finishes ⟨by rw [answered]; rfl, id, fun _ => by rw [answered]; rfl, rfl, rfl⟩
  | error failure =>
      cases failure with
      | sinkPayloadTooLarge message =>
          by_cases single : slice.length = 1
          · simp only [if_pos single]
            exact finishes ⟨by rw [answered]; rfl, id, fun _ => by rw [answered]; rfl, rfl, rfl⟩
          · simp only [if_neg single]
            exact ⟨_, rfl, id, fun _ => rfl, rfl, rfl⟩
      | sinkRejected message =>
          exact finishes ⟨by rw [answered]; rfl, id, fun _ => by rw [answered]; rfl, rfl, rfl⟩
      | _ => exact ⟨_, backOff_acts shipper slice input.answered rfl⟩

private theorem ship_acts (shipper : Shipper kind) (batch : Batch) (input : Iteration kind) :
    ∃ added, Acts input.answered shipper (shipper.ship batch input) added := by
  simp only [ship]
  split
  · exact finishBatch_acts input.answered shipper batch input.ack
  · exact handleAnswer_acts shipper batch _ input

theorem step_acts {shipper next : Shipper kind} {event : LoopEvent kind}
    (stepped : shipper.step event = some next) :
    ∃ added, Acts event.answered shipper next added := by
  rcases (step_cases stepped).2 with ⟨rfl, equal⟩ | ⟨input, source, outcome, rfl, -, -, does⟩
  · rw [equal]
    exact ⟨[], (List.append_nil _).symm, id, fun _ => rfl, rfl, rfl⟩
  · cases outcome with
    | error failure =>
        rw [does]
        exact ⟨[], (List.append_nil _).symm, id, fun _ => rfl, rfl, rfl⟩
    | ok peek =>
        cases peek with
        | waiting => exact absurd does id
        | exhausted =>
            rw [does]
            exact ⟨[], (List.append_nil _).symm, id, fun _ => rfl, rfl, rfl⟩
        | batch batch =>
            have peeked : Acts input.answered shipper
                { shipper with source, clock := input.answered } [] :=
              ⟨(List.append_nil _).symm, id, fun _ => rfl, rfl, rfl⟩
            rcases ship_acts { shipper with source, clock := input.answered } batch input with
              ⟨added, goesOn⟩
            rw [does]
            exact ⟨_, peeked.append goesOn⟩

/-- `backoff` is that of the failures in the history. -/
def Counts (backoffInitial backoffMax : Duration) (shipper : Shipper kind) : Prop :=
  shipper.backoffInitial = backoffInitial ∧ shipper.backoffMax = backoffMax ∧
    (shipper.aborted = false →
      shipper.backoff = value backoffInitial backoffMax (failuresSince shipper.actions))

private theorem foldl_backsOff {backoffInitial backoffMax : Duration}
    (ordered : backoffInitial ≤ backoffMax) (answered : Instant)
    {waiting : Duration × Option Instant} {count : Nat}
    (counts : waiting.1 = value backoffInitial backoffMax count) (verdicts : List Verdict) :
    (verdicts.foldl (backsOff backoffInitial backoffMax answered) waiting).1 =
      value backoffInitial backoffMax (verdicts.foldl Verdict.countFailure count) := by
  induction verdicts generalizing waiting count with
  | nil => exact counts
  | cons verdict rest inductionHypothesis =>
      apply inductionHypothesis
      cases verdict with
      | resets => rfl
      | neutral => exact counts
      | failure =>
          show grow backoffInitial backoffMax waiting.1 = _
          rw [counts]
          exact grow_value ordered count

private theorem foldl_neutral (backoffInitial backoffMax : Duration) (answered : Instant)
    (waiting : Duration × Option Instant) {verdicts : List Verdict}
    (neutral : ∀ verdict ∈ verdicts, verdict = .neutral) :
    verdicts.foldl (backsOff backoffInitial backoffMax answered) waiting = waiting := by
  induction verdicts with
  | nil => rfl
  | cons verdict rest inductionHypothesis =>
      rw [List.foldl_cons, neutral verdict (by simp)]
      exact inductionHypothesis fun other member => neutral other (List.mem_cons_of_mem _ member)

private theorem step_counts {backoffInitial backoffMax : Duration}
    (ordered : backoffInitial ≤ backoffMax) {shipper next : Shipper kind} {event : LoopEvent kind}
    (counts : shipper.Counts backoffInitial backoffMax)
    (stepped : shipper.step event = some next) : next.Counts backoffInitial backoffMax := by
  rcases counts with ⟨isInitial, isCap, counted⟩
  rcases step_acts stepped with ⟨added, acts⟩
  refine ⟨acts.backoffInitial.trans isInitial, acts.backoffMax.trans isCap, fun alive => ?_⟩
  have waits := congrArg Prod.fst (acts.waiting alive)
  rw [isInitial, isCap,
    foldl_backsOff ordered event.answered (counted (alive_of_step stepped))] at waits
  rw [acts.actions, failuresSince, List.map_append, List.foldl_append]
  exact waits

/-- From `shipper` to `later`, no answer was a success, a rejection or a failure. -/
def Quiet (shipper later : Shipper kind) : Prop :=
  ∃ added, later.actions = shipper.actions ++ added ∧ ∀ action ∈ added, action.verdict = .neutral

/-- The actions from `shipper` on, and that its deadline stands while they are neutral. -/
def Waits (shipper state : Shipper kind) : Prop :=
  ∃ added, state.actions = shipper.actions ++ added ∧
    ((∀ action ∈ added, action.verdict = .neutral) → state.aborted = false →
      state.backoffUntil = shipper.backoffUntil)

private theorem step_waits {shipper state next : Shipper kind} {event : LoopEvent kind}
    (waits : Waits shipper state) (stepped : state.step event = some next) :
    Waits shipper next := by
  rcases waits with ⟨added, history, held⟩
  rcases step_acts stepped with ⟨more, acts⟩
  refine ⟨added ++ more, by rw [acts.actions, history, List.append_assoc], ?_⟩
  intro neutral alive
  rw [← held (fun action member => neutral action (List.mem_append_left _ member))
    (alive_of_step stepped)]
  have same := congrArg Prod.snd (acts.waiting alive)
  rw [foldl_neutral] at same
  · exact same
  · intro verdict member
    rcases List.mem_map.mp member with ⟨action, isMember, isVerdict⟩
    rw [← isVerdict]
    exact neutral action (List.mem_append_right _ isMember)

private theorem alive_of_run {shipper later : Shipper kind} {events : List (LoopEvent kind)}
    (ran : (machine kind).run shipper events = some later) :
    later.aborted = false → shipper.aborted = false := by
  have kept : ∀ {state next : Shipper kind} {event : LoopEvent kind},
      (state.aborted = false → shipper.aborted = false) → state.step event = some next →
      next.aborted = false → shipper.aborted = false :=
    fun before stepped _ => before (alive_of_step stepped)
  exact (machine kind).run_invariant kept id ran

private theorem run_deadline {shipper later : Shipper kind} {events : List (LoopEvent kind)}
    (ran : (machine kind).run shipper events = some later) (quiet : Quiet shipper later)
    (alive : later.aborted = false) : later.backoffUntil = shipper.backoffUntil := by
  have start : Waits shipper shipper := ⟨[], (List.append_nil _).symm, fun _ _ => rfl⟩
  rcases (machine kind).run_invariant step_waits start ran with ⟨added, history, held⟩
  rcases quiet with ⟨others, sameHistory, neutral⟩
  have same : added = others := List.append_cancel_left (history.symm.trans sameHistory)
  exact held (same ▸ neutral) alive

end Shipper

open Shipper in
/-- The backoff of `run` over all of its runs. In the iteration with `input`, a request fails
as number `count` since the last reset; from then to `later`, the answers are neutral. -/
structure BacksOff (kind : Source) (source : kind.State) (backoffInitial backoffMax : Duration) :
    Prop where
  /-- The deadline is as far behind the failure as its number says. -/
  deadline : ∀ {before quiet : List (LoopEvent kind)} {shipper failed later : Shipper kind}
    {input : Iteration kind} {slice : List LogEntry} {answer : Except Error Unit} {count : Nat},
    (machine kind).run { source, backoffInitial, backoffMax } before = some shipper →
    shipper.step (.iteration input) = some failed →
    failed.actions = shipper.actions ++ [.sent slice answer] → verdict answer = .failure →
    count = failuresSince failed.actions →
    (machine kind).run failed quiet = some later → Quiet failed later →
    later.aborted = true ∨ later.backoffUntil =
      some (input.answered + min (backoffInitial * 2 ^ (count - 1)) backoffMax)
  /-- No later iteration asks the source or the sink for anything before it. -/
  notEarly : ∀ {before quiet : List (LoopEvent kind)} {shipper failed later next : Shipper kind}
    {input resumes : Iteration kind} {slice : List LogEntry} {answer : Except Error Unit}
    {count : Nat},
    (machine kind).run { source, backoffInitial, backoffMax } before = some shipper →
    shipper.step (.iteration input) = some failed →
    failed.actions = shipper.actions ++ [.sent slice answer] → verdict answer = .failure →
    count = failuresSince failed.actions →
    (machine kind).run failed quiet = some later → Quiet failed later →
    later.step (.iteration resumes) = some next →
    input.answered + min (backoffInitial * 2 ^ (count - 1)) backoffMax ≤ resumes.resumed
  /-- The first failure after a reset waits for the initial backoff. -/
  first : ∀ {before : List (LoopEvent kind)} {shipper failed : Shipper kind}
    {input : Iteration kind} {slice : List LogEntry} {answer : Except Error Unit},
    (machine kind).run { source, backoffInitial, backoffMax } before = some shipper →
    shipper.step (.iteration input) = some failed →
    failed.actions = shipper.actions ++ [.sent slice answer] → verdict answer = .failure →
    failuresSince shipper.actions = 0 →
    failed.aborted = true ∨ failed.backoffUntil = some (input.answered + backoffInitial)

open Shipper in
private theorem failed_deadline {kind : Source} {source : kind.State}
    {backoffInitial backoffMax : Duration} (ordered : backoffInitial ≤ backoffMax)
    {before : List (LoopEvent kind)} {shipper failed : Shipper kind} {input : Iteration kind}
    {slice : List LogEntry} {answer : Except Error Unit}
    (ran : (machine kind).run { source, backoffInitial, backoffMax } before = some shipper)
    (stepped : shipper.step (.iteration input) = some failed)
    (asked : failed.actions = shipper.actions ++ [.sent slice answer])
    (fails : verdict answer = .failure) :
    failuresSince failed.actions = failuresSince shipper.actions + 1 ∧
      (failed.aborted = false → failed.backoffUntil = some (input.answered +
        min (backoffInitial * 2 ^ failuresSince shipper.actions) backoffMax)) := by
  have start : Shipper.Counts backoffInitial backoffMax
      ({ source, backoffInitial, backoffMax } : Shipper kind) := ⟨rfl, rfl, fun _ => rfl⟩
  have counts := (machine kind).run_invariant (step_counts ordered) start ran
  rcases counts with ⟨isInitial, isCap, counted⟩
  rcases step_acts stepped with ⟨added, acts⟩
  have once : added = [.sent slice answer] :=
    List.append_cancel_left (acts.actions.symm.trans asked)
  have verdicts : added.map Action.verdict = [.failure] := by
    rw [once]
    exact congrArg (fun verdict => [verdict]) fails
  constructor
  · rw [acts.actions, failuresSince, List.map_append, List.foldl_append, verdicts]
    rfl
  · intro alive
    have waits := congrArg Prod.snd (acts.waiting alive)
    rw [verdicts, isInitial, isCap] at waits
    change failed.backoffUntil =
      some (input.answered + grow backoffInitial backoffMax shipper.backoff) at waits
    rw [waits, counted (alive_of_step stepped), grow_value ordered]
    rfl

open Shipper in
theorem backsOff (kind : Source) (source : kind.State) {backoffInitial backoffMax : Duration}
    (ordered : backoffInitial ≤ backoffMax) : BacksOff kind source backoffInitial backoffMax where
  deadline := by
    intro before quiet shipper failed later input slice answer count ran stepped asked fails
      counted ranOn isQuiet
    rcases failed_deadline ordered ran stepped asked fails with ⟨number, set⟩
    rw [counted, number, Nat.add_sub_cancel, or_iff_not_imp_left, Bool.not_eq_true]
    intro alive
    rw [run_deadline ranOn isQuiet alive, set (alive_of_run ranOn alive)]
  notEarly := by
    intro before quiet shipper failed later next input resumes slice answer count ran stepped
      asked fails counted ranOn isQuiet steppedNext
    rcases failed_deadline ordered ran stepped asked fails with ⟨number, set⟩
    rw [counted, number, Nat.add_sub_cancel]
    have timely : later.Timely resumes := by
      rcases (step_cases steppedNext).2 with ⟨other, -⟩ | ⟨_, _, _, same, timely, -, -⟩
      · cases other
      · cases same
        exact timely
    have alive := alive_of_step steppedNext
    apply timely.2.2
    rw [run_deadline ranOn isQuiet alive, set (alive_of_run ranOn alive)]
    rfl
  first := by
    intro before shipper failed input slice answer ran stepped asked fails fresh
    rcases failed_deadline ordered ran stepped asked fails with ⟨-, set⟩
    rw [or_iff_not_imp_left, Bool.not_eq_true]
    intro alive
    rw [set alive, fresh, pow_zero, Nat.mul_one, Nat.min_eq_left ordered]

end Log

/-! ## Both loops -/

theorem backoff_schedule (limits : Forwarder.Otlphttp.Limits) (kind : Log.Source)
    (source : kind.State) {backoffInitial backoffMax : Duration}
    (ordered : backoffInitial ≤ backoffMax) :
    Forwarder.Otlphttp.BacksOff limits backoffInitial backoffMax ∧
      Log.BacksOff kind source backoffInitial backoffMax :=
  ⟨Forwarder.Otlphttp.backsOff limits ordered, Log.backsOff kind source ordered⟩

namespace Forwarder.Otlphttp.RunLoop

/-- From a failure to the wait for the end of its backoff. -/
def backOff : List RunEvent :=
  [.proceed, .proceed, .proceed, .proceed, .pollNotified]

/-- The wait ends at this instant, and a drain is next. -/
def waitFor (wakeAt : Instant) : List RunEvent :=
  backOff ++ [.timePasses wakeAt, .sleepElapsed]

/-- When the sleep is over and `run` has not been polled yet, a submit that is larger than
the buffer evicts everything, itself included. The drain then sends nothing and counts as a
success. The next submit is sent at once. -/
def emptyDrain : List RunEvent :=
  firstSend ++ .failed :: backOff ++
    [.timePasses 1000, .submit (SendCycle.sampleBatch 11), .notifySubmit 1, .sleepElapsed,
      .proceed, .proceed, .proceed, .pollNotified, .proceed, .proceed, .pollNotified,
      .submit (SendCycle.sampleBatch 1), .notifySubmit 2, .pollNotified, .proceed, .proceed,
      .proceed, .proceed]

end Forwarder.Otlphttp.RunLoop

open Forwarder.Otlphttp Forwarder.Otlphttp.RunLoop in
theorem backoff_schedule_firstFailure :
    (∃ loop later, (machine SendCycle.sampleLimits 1000 8000).run initial firstSend = some loop ∧
      (machine SendCycle.sampleLimits 1000 8000).run loop (.failed :: waitFor 1000) =
        some later ∧
      later.point = .drain false ∧ loop.clock + 1000 ≤ later.clock) ∧
    Log.BacksOff (Log.JournaldSource.asSource Log.MemoryJournal.api)
      (Log.Caller.sampleSource (.sample 1 [0, 0, 4]), FileTree.empty) 1000 8000 := by
  have schedule := backoff_schedule SendCycle.sampleLimits
    (Log.JournaldSource.asSource Log.MemoryJournal.api)
    (Log.Caller.sampleSource (.sample 1 [0, 0, 4]), FileTree.empty)
    (show 1000 ≤ 8000 by decide)
  have ran : (machine SendCycle.sampleLimits 1000 8000).run initial firstSend = some _ := rfl
  have met : (machine SendCycle.sampleLimits 1000 8000).Along DrainsData initial
      (firstSend ++ .failed :: waitFor 1000) := by decide +kernel
  refine ⟨⟨_, _, ran, rfl, rfl, ?_⟩, schedule.2⟩
  exact schedule.1.notEarly ran rfl (by decide) met rfl rfl

open Forwarder.Otlphttp Forwarder.Otlphttp.RunLoop in
/-- After its second failure in a row, `run` waits for the initial backoff again. -/
theorem backoff_schedule_emptyDrain :
    ¬ ∀ before quiet loop later count,
      (machine SendCycle.sampleLimits 1000 8000).run initial before = some loop →
      (machine SendCycle.sampleLimits 1000 8000).run loop (.failed :: quiet) = some later →
      (∀ event ∈ quiet, RunEvent.isQuiet event = true) →
      count = failuresSince (before ++ [.failed]) →
      later.point = .drain false →
      loop.clock + min (1000 * 2 ^ (count - 1)) 8000 ≤ later.clock := by
  intro waits
  have early := waits emptyDrain (waitFor 2000) _ _ _ rfl rfl (by decide) rfl rfl
  exact absurd early (by decide)

end Ferrometer
