import Ferrometer.Foundation.Machine
import Ferrometer.Log.Source
import Ferrometer.Time

/-!
Contract: the loop that ships the batches of a source to a sink.

Owns: the delivery progress with its split and drop paths, the backoff, one
iteration of the loop with every answer a sink can give, and what a shipper has
done as a list of actions.

Does not own: the source and the sink. The source is any implementation of the
trait; the answers of the sink and the passing of time are inputs. Logging is
left out.
-/

set_option autoImplicit false

namespace Ferrometer.Log

open Ferrometer.Config Ferrometer.Foundation

/-- Delivery progress of the in-flight batch. -/
structure Progress where
  /-- Entries from the front that are settled, but not yet acked. -/
  sent : Nat := 0
  /-- How many entries go into one request: `usize::MAX`, or less after a split. -/
  chunk : Nat := 2 ^ 64 - 1
  requests : UInt32 := 0
  splits : UInt32 := 0
  dropped : Nat := 0
  rejected : Nat := 0
deriving DecidableEq

inductive Action where
  | sent (slice : List LogEntry) (answer : Except Error Unit)
  | acked (cursor : Cursor) (saved : Except Error Unit)

/-- The entries that a request settles: they have been delivered, were rejected for
good, or make up a request of one that is too large. -/
def settledBy (slice : List LogEntry) : Except Error Unit → List LogEntry
  | .ok () => slice
  | .error (.sinkRejected _) => slice
  | .error (.sinkPayloadTooLarge _) => if slice.length = 1 then slice else []
  | .error _ => []

/-- Whether a request is too large, but not because of a single entry. -/
def isSplit (slice : List LogEntry) : Except Error Unit → Bool
  | .error (.sinkPayloadTooLarge _) => slice.length ≠ 1
  | _ => false

def Action.settled : Action → List LogEntry
  | .sent slice answer => settledBy slice answer
  | .acked _ _ => []

/-- The entries settled, in the order in which they were. -/
def settled (actions : List Action) : List LogEntry :=
  actions.flatMap Action.settled

structure Shipper (kind : Source) where
  source : kind.State
  backoffInitial : Duration
  backoffMax : Duration
  backoff : Duration := 0
  backoffUntil : Option Instant := none
  progress : Progress := {}
  /-- What `run` has returned. -/
  stopped : Option (Except Error Unit) := none
  /-- An addition has overflowed and ended the process. -/
  aborted : Bool := false
  clock : Instant := 0
  /-- History. -/
  actions : List Action := []

/-- What the outside decides during one iteration of the loop. -/
structure Iteration (kind : Source) where
  /-- When the wait for the backoff, if there is one, is over. -/
  resumed : Instant := 0
  peek : kind.PeekInput
  answer : Except Error Unit := .ok ()
  /-- When the answer is there. -/
  answered : Instant := 0
  ack : kind.AckInput

inductive LoopEvent (kind : Source) where
  | iteration (input : Iteration kind)
  /-- `ctrl_c`, at any of the three waits. -/
  | shutdown

namespace Shipper

variable {kind : Source}

/-- Time goes on, and no backoff ends early. -/
def Timely (shipper : Shipper kind) (input : Iteration kind) : Prop :=
  shipper.clock ≤ input.resumed ∧ input.resumed ≤ input.answered ∧
    ∀ deadline ∈ shipper.backoffUntil, deadline ≤ input.resumed

instance (shipper : Shipper kind) (input : Iteration kind) : Decidable (shipper.Timely input) :=
  inferInstanceAs (Decidable (_ ∧ _ ∧ _))

def finishBatch (shipper : Shipper kind) (batch : Batch) (input : kind.AckInput) :
    Shipper kind :=
  match kind.ack batch.endCursor input shipper.source with
  | (source, saved) =>
      let shipper := { shipper with
        source
        actions := shipper.actions ++ [Action.acked batch.endCursor saved] }
      match saved with
      | .ok () => { shipper with progress := {} }
      | .error failure => { shipper with stopped := some (.error failure) }

def finishIfSent (shipper : Shipper kind) (batch : Batch) (input : kind.AckInput) :
    Shipper kind :=
  if shipper.progress.sent ≥ batch.entries.length then shipper.finishBatch batch input
  else shipper

/-- What the loop makes of a failure that it may try again. -/
def backOff (shipper : Shipper kind) (answered : Instant) : Shipper kind :=
  let backingOff := do
    let backoff ← nextBackoff shipper.backoffInitial shipper.backoffMax shipper.backoff
    let deadline ← addDuration answered backoff
    some (backoff, deadline)
  match backingOff with
  | none => { shipper with aborted := true }
  | some (backoff, deadline) => { shipper with backoff, backoffUntil := some deadline }

/-- What the loop makes of the answer to a request for `slice`. -/
def handleAnswer (shipper : Shipper kind) (batch : Batch) (slice : List LogEntry)
    (input : Iteration kind) : Shipper kind :=
  let progress := shipper.progress
  let n := slice.length
  match input.answer with
  | .ok () =>
      let shipper := { shipper with
        progress := { progress with sent := progress.sent + n }
        backoff := 0
        backoffUntil := none }
      shipper.finishIfSent batch input.ack
  | .error (.sinkPayloadTooLarge _) =>
      if n = 1 then
        let shipper := { shipper with
          progress := { progress with
            sent := progress.sent + 1
            dropped := progress.dropped + 1 } }
        shipper.finishIfSent batch input.ack
      else
        { shipper with
          progress := { progress with
            chunk := n / 2
            splits := progress.splits + 1 } }
  | .error (.sinkRejected _) =>
      let shipper := { shipper with
        progress := { progress with
          sent := progress.sent + n
          rejected := progress.rejected + n }
        backoff := 0
        backoffUntil := none }
      shipper.finishIfSent batch input.ack
  | .error _ => shipper.backOff input.answered

/-- A request has been made. -/
def requested (shipper : Shipper kind) (slice : List LogEntry) (answer : Except Error Unit) :
    Shipper kind :=
  { shipper with
    progress := { shipper.progress with requests := shipper.progress.requests + 1 }
    actions := shipper.actions ++ [Action.sent slice answer] }

/-- The rest of an iteration that has peeked a batch. -/
def ship (shipper : Shipper kind) (batch : Batch) (input : Iteration kind) : Shipper kind :=
  let total := batch.entries.length
  let pending := batch.entries.drop (min shipper.progress.sent total)
  if pending.isEmpty then
    shipper.finishBatch batch input.ack
  else
    let n := min pending.length shipper.progress.chunk
    let slice := pending.take n
    (shipper.requested slice input.answer).handleAnswer batch slice input

/-- One iteration of the loop. A peek that still waits is none. -/
def iterate (shipper : Shipper kind) (input : Iteration kind) : Option (Shipper kind) :=
  match kind.peekBatch input.peek shipper.source with
  | (_, .ok .waiting) => none
  | (source, .ok .exhausted) => some { shipper with source, stopped := some (.ok ()) }
  | (source, .ok (.batch batch)) =>
      let shipper := { shipper with source, clock := input.answered }
      some (shipper.ship batch input)
  | (source, .error failure) => some { shipper with source, stopped := some (.error failure) }

def step (shipper : Shipper kind) (event : LoopEvent kind) : Option (Shipper kind) :=
  if shipper.stopped.isSome || shipper.aborted then none
  else
    match event with
    | .iteration input => if shipper.Timely input then shipper.iterate input else none
    | .shutdown => some { shipper with stopped := some (.ok ()) }

def machine (kind : Source) : Machine (Shipper kind) (LoopEvent kind) where
  step := step

/-- An aborted process takes no step. -/
theorem alive_of_step {shipper next : Shipper kind} {event : LoopEvent kind}
    (stepped : shipper.step event = some next) : shipper.aborted = false := by
  unfold step at stepped
  split at stepped
  · exact absurd stepped nofun
  · rename_i alive
    simp only [Bool.or_eq_true, not_or, Bool.not_eq_true] at alive
    exact alive.2

/-- Everything that a step can do. -/
theorem step_cases {shipper next : Shipper kind} {event : LoopEvent kind}
    (stepped : shipper.step event = some next) :
    shipper.stopped = none ∧
      ((event = .shutdown ∧ next = { shipper with stopped := some (.ok ()) }) ∨
        ∃ input source outcome, event = .iteration input ∧ shipper.Timely input ∧
          kind.peekBatch input.peek shipper.source = (source, outcome) ∧
          match outcome with
          | .ok .waiting => False
          | .ok .exhausted => next = { shipper with source, stopped := some (.ok ()) }
          | .ok (.batch batch) =>
              next = ({ shipper with source, clock := input.answered } : Shipper kind).ship
                batch input
          | .error failure =>
              next = { shipper with source, stopped := some (.error failure) }) := by
  unfold step at stepped
  split at stepped
  · exact absurd stepped nofun
  · rename_i alive
    simp only [Bool.or_eq_true, not_or, Bool.not_eq_true] at alive
    refine ⟨by simpa using alive.1, ?_⟩
    cases event with
    | shutdown => exact Or.inl ⟨rfl, (Option.some.inj stepped).symm⟩
    | iteration input =>
        simp only at stepped
        split at stepped
        · rename_i timely
          unfold iterate at stepped
          rcases peeked : kind.peekBatch input.peek shipper.source with ⟨source, outcome⟩
          rw [peeked] at stepped
          refine Or.inr ⟨input, source, outcome, rfl, timely, peeked, ?_⟩
          cases outcome with
          | error failure => exact (Option.some.inj stepped).symm
          | ok peek =>
              cases peek with
              | waiting => exact absurd stepped nofun
              | exhausted => exact (Option.some.inj stepped).symm
              | batch batch => exact (Option.some.inj stepped).symm
        · exact absurd stepped nofun

/-! ## What an answer does -/

theorem backOff_cases (shipper : Shipper kind) (answered : Instant) :
    shipper.backOff answered = { shipper with aborted := true } ∨
      ∃ backoff deadline,
        nextBackoff shipper.backoffInitial shipper.backoffMax shipper.backoff = some backoff ∧
        addDuration answered backoff = some deadline ∧
        shipper.backOff answered = { shipper with backoff, backoffUntil := some deadline } := by
  cases next : nextBackoff shipper.backoffInitial shipper.backoffMax shipper.backoff with
  | none => exact Or.inl (by simp [backOff, next])
  | some backoff =>
      cases added : addDuration answered backoff with
      | none => exact Or.inl (by simp [backOff, next, added])
      | some deadline => exact Or.inr ⟨backoff, deadline, rfl, added, by simp [backOff, next, added]⟩

/-- It leaves everything else as it is. -/
theorem backOff_kept (shipper : Shipper kind) (answered : Instant) :
    (shipper.backOff answered).source = shipper.source ∧
      (shipper.backOff answered).actions = shipper.actions ∧
      (shipper.backOff answered).stopped = shipper.stopped ∧
      (shipper.backOff answered).progress = shipper.progress := by
  rcases shipper.backOff_cases answered with equal | ⟨_, _, -, -, equal⟩
  all_goals rw [equal]; exact ⟨rfl, rfl, rfl, rfl⟩

section Answer

variable (shipper : Shipper kind) (batch : Batch) (slice : List LogEntry)
  (input : Iteration kind)

/-- Whatever the answer is, `sent` grows by the number of entries settled, and the
batch is finished if that makes all of it. A split halves the request. -/
theorem handleAnswer_eq :
    ∃ next : Shipper kind,
      (shipper.handleAnswer batch slice input = next.finishIfSent batch input.ack ∨
        settledBy slice input.answer = [] ∧ shipper.handleAnswer batch slice input = next) ∧
      next.source = shipper.source ∧ next.actions = shipper.actions ∧
      next.stopped = shipper.stopped ∧
      next.progress.sent =
        shipper.progress.sent + (settledBy slice input.answer).length ∧
      next.progress.chunk =
        if isSplit slice input.answer then slice.length / 2 else shipper.progress.chunk := by
  unfold handleAnswer
  cases answered : input.answer with
  | ok => exact ⟨_, Or.inl rfl, rfl, rfl, rfl, rfl, rfl⟩
  | error failure =>
      cases failure with
      | sinkPayloadTooLarge message =>
          by_cases single : slice.length = 1
          · simp only [settledBy, isSplit, if_pos single]
            exact ⟨_, Or.inl rfl, rfl, rfl, rfl, by rw [single], by simp [single]⟩
          · simp only [settledBy, isSplit, if_neg single]
            exact ⟨_, Or.inr ⟨trivial, rfl⟩, rfl, rfl, rfl, rfl, by simp [single]⟩
      | sinkRejected message => exact ⟨_, Or.inl rfl, rfl, rfl, rfl, rfl, rfl⟩
      | _ =>
          rcases shipper.backOff_kept input.answered with ⟨source, actions, stopped, progress⟩
          exact ⟨_, Or.inr ⟨rfl, rfl⟩, source, actions, stopped, congrArg Progress.sent progress,
            congrArg Progress.chunk progress⟩

/-- Only a request for a single entry that is too large drops an entry. -/
theorem handleAnswer_dropped :
    ∃ next : Shipper kind,
      (shipper.handleAnswer batch slice input = next.finishIfSent batch input.ack ∨
        shipper.handleAnswer batch slice input = next) ∧
      (next.progress.dropped = shipper.progress.dropped ∨
        slice.length = 1 ∧ (∃ message, input.answer = .error (.sinkPayloadTooLarge message)) ∧
          next.progress.dropped = shipper.progress.dropped + 1) := by
  unfold handleAnswer
  cases answered : input.answer with
  | ok => exact ⟨_, Or.inl rfl, Or.inl rfl⟩
  | error failure =>
      cases failure with
      | sinkPayloadTooLarge message =>
          by_cases single : slice.length = 1
          · simp only [if_pos single]
            exact ⟨_, Or.inl rfl, Or.inr ⟨single, ⟨message, rfl⟩, rfl⟩⟩
          · simp only [if_neg single]
            exact ⟨_, Or.inr rfl, Or.inl rfl⟩
      | sinkRejected message => exact ⟨_, Or.inl rfl, Or.inl rfl⟩
      | _ =>
          have progress := (shipper.backOff_kept input.answered).2.2.2
          exact ⟨_, Or.inr rfl, Or.inl (congrArg Progress.dropped progress)⟩

/-- A request settles all of its slice, or nothing. -/
theorem settledBy_cases (answer : Except Error Unit) :
    settledBy slice answer = slice ∨ settledBy slice answer = [] := by
  unfold settledBy
  split
  · exact Or.inl rfl
  · exact Or.inl rfl
  · split
    · exact Or.inl rfl
    · exact Or.inr rfl
  · exact Or.inr rfl

end Answer

end Shipper

end Ferrometer.Log
