import Ferrometer.Log.Delivery
import Mathlib.Data.List.DropRight
import Mathlib.Data.Nat.Log

/-!
Contract: how many requests a batch can cost that a sink does not take whole.

Owns: the part of the source trait that the progress of a shipper rests on, the
measure that every answer moves on, and the bound on the answers until the ack.

Does not own: transient failures. They cost a batch no progress and any number of
requests.
-/

set_option autoImplicit false

namespace Ferrometer.Log

open Ferrometer.Foundation

/-! ## Model -/

/-- What the trait promises a shipper: until it is acked, a batch is only appended to. -/
structure SourceContract (kind : Source) where
  /-- The batch handed out and not acked. -/
  inFlight : kind.State → Option Batch
  peek_flying : ∀ {input state next batch},
    kind.peekBatch input state = (next, .ok (.batch batch)) → inFlight next = some batch
  peek_appends : ∀ {input state next old batch}, inFlight state = some old →
    kind.peekBatch input state = (next, .ok (.batch batch)) → old.entries <+: batch.entries
  ack_clears : ∀ {cursor input state next},
    kind.ack cursor input state = (next, .ok ()) → inFlight next = none

/-- Whether the loop does anything with an answer but wait. -/
def isFinal : Except Error Unit → Bool
  | .ok () => true
  | .error (.sinkPayloadTooLarge _) => true
  | .error (.sinkRejected _) => true
  | .error _ => false

namespace Action

def isAck : Action → Bool
  | .sent _ _ => false
  | .acked _ _ => true

def isFinal : Action → Bool
  | .sent _ answer => Log.isFinal answer
  | .acked _ _ => false

def isSplit : Action → Bool
  | .sent slice answer => Log.isSplit slice answer
  | .acked _ _ => false

end Action

/-- What has been done since the last ack. -/
def sinceAck (actions : List Action) : List Action :=
  actions.rtakeWhile fun action => !action.isAck

/-- The answers that were not transient. -/
def finalAnswers (actions : List Action) : Nat :=
  (sinceAck actions).countP Action.isFinal

def splits (actions : List Action) : Nat :=
  (sinceAck actions).countP Action.isSplit

variable {kind : Source} {contract : SourceContract kind}

/-- The length of the batch in flight. -/
def SourceContract.flightLength (contract : SourceContract kind) (state : kind.State) : Nat :=
  (contract.inFlight state).elim 0 fun batch => batch.entries.length

/-- No request is empty, and the next one will not be. -/
structure Sound (shipper : Shipper kind) : Prop where
  chunk : 1 ≤ shipper.progress.chunk
  slices : ∀ slice answer, .sent slice answer ∈ shipper.actions → slice ≠ []

/-- The measure, for a batch of this length: every answer that is not transient settles
an entry or halves the chunk, which is no more than the batch to begin with. -/
structure Measured (length : Nat) (shipper : Shipper kind) : Prop where
  sent : shipper.progress.sent ≤ length
  halved : splits shipper.actions = 0 ∨
    shipper.progress.chunk * 2 ^ splits shipper.actions ≤ length
  answers : finalAnswers shipper.actions ≤ shipper.progress.sent + splits shipper.actions

/-! ## Counting -/

section Counting

variable (actions : List Action) (slice : List LogEntry) (answer : Except Error Unit)

private theorem sinceAck_sent :
    sinceAck (actions ++ [.sent slice answer]) = sinceAck actions ++ [.sent slice answer] :=
  List.rtakeWhile_concat_pos _ _ _ rfl

private theorem sinceAck_acked (cursor : Cursor) (saved : Except Error Unit) :
    sinceAck (actions ++ [.acked cursor saved]) = [] :=
  List.rtakeWhile_concat_neg _ _ _ nofun

theorem finalAnswers_sent :
    finalAnswers (actions ++ [.sent slice answer]) =
      finalAnswers actions + (isFinal answer).toNat := by
  rw [finalAnswers, sinceAck_sent, List.countP_append, List.countP_singleton]
  show _ + (if isFinal answer = true then 1 else 0) = _
  cases isFinal answer <;> rfl

theorem splits_sent :
    splits (actions ++ [.sent slice answer]) = splits actions + (isSplit slice answer).toNat := by
  rw [splits, sinceAck_sent, List.countP_append, List.countP_singleton]
  show _ + (if isSplit slice answer = true then 1 else 0) = _
  cases isSplit slice answer <;> rfl

/-- An answer settles its request, splits it, or is transient. -/
theorem answer_cases :
    (settledBy slice answer = slice ∧ isSplit slice answer = false ∧ isFinal answer = true) ∨
    (settledBy slice answer = [] ∧ isSplit slice answer = true ∧ isFinal answer = true ∧
      slice.length ≠ 1) ∨
    (settledBy slice answer = [] ∧ isSplit slice answer = false ∧ isFinal answer = false) := by
  cases answer with
  | ok => exact Or.inl ⟨rfl, rfl, rfl⟩
  | error failure =>
      cases failure with
      | sinkPayloadTooLarge message =>
          by_cases single : slice.length = 1
          · exact Or.inl ⟨if_pos single, by simp [isSplit, single], rfl⟩
          · exact Or.inr (Or.inl ⟨if_neg single, by simp [isSplit, single], rfl, single⟩)
      | sinkRejected message => exact Or.inl ⟨rfl, rfl, rfl⟩
      | _ => exact Or.inr (Or.inr ⟨rfl, rfl, rfl⟩)

end Counting

/-! ## The measure -/

namespace Measured

variable {shipper next : Shipper kind} {length : Nat}

/-- A batch that is topped up. -/
theorem grow (measured : Measured length shipper) {longer : Nat} (grown : length ≤ longer)
    (sameProgress : next.progress = shipper.progress)
    (sameActions : next.actions = shipper.actions) : Measured longer next where
  sent := by
    rw [sameProgress]
    exact measured.sent.trans grown
  halved := by
    rw [sameProgress, sameActions]
    exact measured.halved.imp_right fun halved => halved.trans grown
  answers := by
    rw [sameProgress, sameActions]
    exact measured.answers

/-- A chunk can be halved at most as often as the length of the batch allows. -/
theorem bound (measured : Measured length shipper) (chunk : 1 ≤ shipper.progress.chunk) :
    finalAnswers shipper.actions ≤ length + Nat.log 2 length := by
  have few : splits shipper.actions ≤ Nat.log 2 length := by
    rcases measured.halved with none | halved
    · rw [none]
      exact Nat.zero_le _
    · have power : 2 ^ splits shipper.actions ≤ length :=
        (Nat.le_mul_of_pos_left _ chunk).trans halved
      have positive : length ≠ 0 := by
        have one := Nat.one_le_two_pow (n := splits shipper.actions)
        omega
      exact Nat.le_log_of_pow_le (by decide) power
  have answers := measured.answers
  have sent := measured.sent
  omega

/-- One more split of a request within the chunk keeps the measure of the splits. -/
private theorem half_fits {size chunk count : Nat} (chunked : size ≤ chunk)
    (fits : size ≤ length) (halved : count = 0 ∨ chunk * 2 ^ count ≤ length) :
    size / 2 * 2 ^ (count + 1) ≤ length := by
  rw [Nat.pow_succ']
  calc size / 2 * (2 * 2 ^ count)
      = size / 2 * 2 * 2 ^ count := (Nat.mul_assoc _ _ _).symm
    _ ≤ size * 2 ^ count := Nat.mul_le_mul_right _ (Nat.div_mul_le_self _ _)
    _ ≤ length := ?_
  rcases halved with none | halved
  · rw [none, Nat.pow_zero, Nat.mul_one]
    exact fits
  · exact (Nat.mul_le_mul_right _ chunked).trans halved

/-- A request for some of the entries left, and what its answer does to the progress. -/
theorem request (measured : Measured length shipper) (sound : Sound shipper)
    {slice : List LogEntry} {answer : Except Error Unit} (nonempty : slice ≠ [])
    (left : shipper.progress.sent + slice.length ≤ length)
    (chunked : slice.length ≤ shipper.progress.chunk)
    (actions : next.actions = shipper.actions ++ [.sent slice answer])
    (sent : next.progress.sent = shipper.progress.sent + (settledBy slice answer).length)
    (chunk : next.progress.chunk =
      if isSplit slice answer then slice.length / 2 else shipper.progress.chunk) :
    Measured length next ∧ Sound next := by
  have positive : 1 ≤ slice.length := List.length_pos_iff.mpr nonempty
  have slices : ∀ other answered, .sent other answered ∈ next.actions → other ≠ [] := by
    intro other answered member
    rw [actions] at member
    rcases List.mem_append.mp member with earlier | last
    · exact sound.slices other answered earlier
    · cases List.mem_singleton.mp last
      exact nonempty
  have answers := measured.answers
  have counted := finalAnswers_sent shipper.actions slice answer
  have halvings := splits_sent shipper.actions slice answer
  rw [← actions] at counted halvings
  rcases answer_cases slice answer with ⟨settles, whole, final⟩ | ⟨settles, split, final, several⟩ |
    ⟨settles, whole, transient⟩
  · -- The chunk stays, and `sent` moves on.
    rw [whole] at chunk halvings
    rw [final] at counted
    rw [settles] at sent
    simp only [Bool.false_eq_true, if_false, Bool.toNat_false, Bool.toNat_true, Nat.add_zero]
      at chunk halvings counted
    refine ⟨⟨by omega, ?_, by omega⟩, ⟨by rw [chunk]; exact sound.chunk, slices⟩⟩
    rw [halvings, chunk]
    exact measured.halved
  · -- `sent` stays, and the chunk is half of a request within the old chunk.
    rw [split] at chunk halvings
    rw [final] at counted
    rw [settles] at sent
    simp only [if_true, Bool.toNat_true, List.length_nil, Nat.add_zero]
      at chunk halvings counted sent
    have half : 1 ≤ slice.length / 2 := by omega
    refine ⟨⟨by omega, Or.inr ?_, by omega⟩, ⟨by rw [chunk]; exact half, slices⟩⟩
    rw [halvings, chunk]
    exact half_fits chunked (by omega) measured.halved
  · rw [whole] at chunk halvings
    rw [transient] at counted
    rw [settles] at sent
    simp only [Bool.false_eq_true, if_false, Bool.toNat_false, List.length_nil, Nat.add_zero]
      at chunk halvings counted sent
    have stays := measured.sent
    refine ⟨⟨by omega, ?_, by omega⟩, ⟨by rw [chunk]; exact sound.chunk, slices⟩⟩
    rw [halvings, chunk]
    exact measured.halved

end Measured

/-! ## One iteration -/

section Iteration

variable (contract)
variable {shipper next : Shipper kind} {batch : Batch}

/-- The invariant. -/
structure Progressing (shipper : Shipper kind) : Prop where
  sound : Sound shipper
  measured : shipper.stopped = none →
    Measured (contract.flightLength shipper.source) shipper

private theorem flightLength_flying {state : kind.State}
    (flying : contract.inFlight state = some batch) :
    contract.flightLength state = batch.entries.length := by
  rw [SourceContract.flightLength, flying]
  rfl

/-- An iteration with a batch makes a request, unless nothing is left to be sent, and
finishes the batch, unless something is left. -/
theorem ship_cases (flying : contract.inFlight shipper.source = some batch)
    (measured : Measured batch.entries.length shipper) (sound : Sound shipper)
    (input : Iteration kind) :
    ∃ middle : Shipper kind, Measured batch.entries.length middle ∧ Sound middle ∧
      contract.inFlight middle.source = some batch ∧
      (shipper.ship batch input = middle.finishBatch batch input.ack ∨
        shipper.ship batch input = middle ∧
          ∃ slice answer, middle.actions = shipper.actions ++ [.sent slice answer]) := by
  have within := measured.sent
  have chunk := sound.chunk
  unfold Shipper.ship
  simp only [Nat.min_eq_left within]
  split
  · exact ⟨shipper, measured, sound, flying, Or.inl rfl⟩
  · rename_i something
    generalize isPending : batch.entries.drop shipper.progress.sent = pending at something ⊢
    generalize isSlice : pending.take (min pending.length shipper.progress.chunk) = slice
    have left : pending.length = batch.entries.length - shipper.progress.sent := by
      rw [← isPending, List.length_drop]
    have positive : 1 ≤ pending.length := by
      apply List.length_pos_iff.mpr
      simpa using something
    have length : slice.length = min pending.length shipper.progress.chunk := by
      rw [← isSlice, List.length_take]
      omega
    have nonempty : slice ≠ [] := List.length_pos_iff.mp (by omega)
    rcases Shipper.handleAnswer_eq (shipper.requested slice input.answer) batch slice input with
      ⟨middle, outcome, sameSource, actions, -, sent, halves⟩
    have stillFlying : contract.inFlight middle.source = some batch :=
      (congrArg contract.inFlight sameSource).trans flying
    have moved : Measured batch.entries.length middle ∧ Sound middle :=
      measured.request sound nonempty (by omega) (by omega) actions sent halves
    refine ⟨middle, moved.1, moved.2, stillFlying, ?_⟩
    have requests : ∃ slice answer, middle.actions = shipper.actions ++ [.sent slice answer] :=
      ⟨slice, input.answer, actions⟩
    rcases outcome with finishes | ⟨-, waits⟩
    · rw [finishes, Shipper.finishIfSent]
      split
      · exact Or.inl rfl
      · exact Or.inr ⟨rfl, requests⟩
    · exact Or.inr ⟨waits, requests⟩

private theorem default_chunk : 1 ≤ ({} : Progress).chunk := by decide

theorem finishBatch_actions (middle : Shipper kind) (batch : Batch) (input : kind.AckInput) :
    ∃ saved, (middle.finishBatch batch input).actions =
      middle.actions ++ [.acked batch.endCursor saved] := by
  unfold Shipper.finishBatch
  rcases kind.ack batch.endCursor input middle.source with ⟨source, failure | ⟨⟩⟩
  · exact ⟨_, rfl⟩
  · exact ⟨_, rfl⟩

theorem finishBatch_progressing (sound : Sound shipper) (input : kind.AckInput) :
    Progressing contract (shipper.finishBatch batch input) := by
  have slices : ∀ {actions : List Action} {saved : Except Error Unit},
      actions = shipper.actions ++ [.acked batch.endCursor saved] →
      ∀ slice answer, .sent slice answer ∈ actions → slice ≠ [] := by
    rintro actions saved rfl slice answer member
    rcases List.mem_append.mp member with earlier | last
    · exact sound.slices slice answer earlier
    · cases List.mem_singleton.mp last
  unfold Shipper.finishBatch
  rcases acked : kind.ack batch.endCursor input shipper.source with ⟨source, failure | ⟨⟩⟩
  · exact ⟨⟨sound.chunk, slices rfl⟩, nofun⟩
  · have nothing : contract.flightLength source = 0 := by
      rw [SourceContract.flightLength, contract.ack_clears acked]
      rfl
    have nothingSplit : splits (shipper.actions ++ [.acked batch.endCursor (.ok ())]) = 0 := by
      rw [splits, sinceAck_acked]
      rfl
    have nothingSpent :
        finalAnswers (shipper.actions ++ [.acked batch.endCursor (.ok ())]) = 0 := by
      rw [finalAnswers, sinceAck_acked]
      rfl
    refine ⟨⟨default_chunk, slices rfl⟩, fun _ => ⟨Nat.zero_le _, Or.inl nothingSplit, ?_⟩⟩
    simp only
    rw [nothingSpent]
    exact Nat.zero_le _

/-- What the next iteration starts from, once it has a batch. -/
theorem Progressing.peek (progressing : Progressing contract shipper)
    (alive : shipper.stopped = none) {input : kind.PeekInput} {source : kind.State}
    (peeked : kind.peekBatch input shipper.source = (source, .ok (.batch batch)))
    (clock : Instant) :
    Measured batch.entries.length { shipper with source, clock } ∧
      Sound { shipper with source, clock } := by
  have longer : contract.flightLength shipper.source ≤ batch.entries.length := by
    cases flying : contract.inFlight shipper.source with
    | none =>
        rw [SourceContract.flightLength, flying]
        exact Nat.zero_le _
    | some old =>
        rw [flightLength_flying contract flying]
        exact (contract.peek_appends flying peeked).length_le
  exact ⟨(progressing.measured alive).grow longer rfl rfl,
    ⟨progressing.sound.chunk, progressing.sound.slices⟩⟩

theorem Progressing.step {shipper : Shipper kind} {event : LoopEvent kind} {next : Shipper kind}
    (progressing : Progressing contract shipper) (stepped : shipper.step event = some next) :
    Progressing contract next := by
  have sound := progressing.sound
  rcases Shipper.step_cases stepped with
    ⟨alive, ⟨-, rfl⟩ | ⟨input, source, outcome, -, -, peeked, result⟩⟩
  · exact ⟨⟨sound.chunk, sound.slices⟩, nofun⟩
  · cases outcome with
    | error failure =>
        cases result
        exact ⟨⟨sound.chunk, sound.slices⟩, nofun⟩
    | ok peek =>
        cases peek with
        | waiting => exact result.elim
        | exhausted =>
            cases result
            exact ⟨⟨sound.chunk, sound.slices⟩, nofun⟩
        | batch batch =>
            cases result
            rcases progressing.peek contract alive peeked input.answered with ⟨measured, ready⟩
            rcases ship_cases contract (contract.peek_flying peeked) measured ready input with
              ⟨middle, moved, stillSound, flying, finishes | ⟨waits, -⟩⟩
            · rw [finishes]
              exact finishBatch_progressing contract stillSound input.ack
            · rw [waits]
              refine ⟨stillSound, fun _ => ?_⟩
              rwa [flightLength_flying contract flying]

end Iteration

/-! ## Runs -/

/-- A shipper that has done nothing yet. -/
structure Starting (contract : SourceContract kind) (shipper : Shipper kind) : Prop where
  progress : shipper.progress = {}
  actions : shipper.actions = []
  idle : contract.inFlight shipper.source = none

/-- Every request has entries in it, and a batch is acked within a bounded number of
answers that are not transient. -/
structure Progressive (contract : SourceContract kind) (shipper : Shipper kind) : Prop where
  chunk : 1 ≤ shipper.progress.chunk
  slices : ∀ slice answer, .sent slice answer ∈ shipper.actions → slice ≠ []
  answers : shipper.stopped = none → finalAnswers shipper.actions ≤
    contract.flightLength shipper.source + Nat.log 2 (contract.flightLength shipper.source)
  acks : ∀ input source batch next,
    kind.peekBatch input.peek shipper.source = (source, .ok (.batch batch)) →
    shipper.step (.iteration input) = some next →
    ∀ before cursor saved, next.actions = before ++ [.acked cursor saved] →
      finalAnswers before ≤ batch.entries.length + Nat.log 2 batch.entries.length

/-- Whatever the sink answers, and however often a batch is topped up in between. -/
theorem shipper_run_progresses (contract : SourceContract kind) {start shipper : Shipper kind}
    (starting : Starting contract start) {events : List (LoopEvent kind)}
    (ran : (Shipper.machine kind).run start events = some shipper) :
    Progressive contract shipper := by
  have begins : Progressing contract start := by
    refine ⟨⟨by rw [starting.progress]; exact default_chunk, ?_⟩, fun _ => ⟨?_, Or.inl ?_, ?_⟩⟩
    · rw [starting.actions]
      exact nofun
    · rw [starting.progress]
      exact Nat.zero_le _
    · rw [starting.actions]
      rfl
    · rw [starting.actions]
      exact Nat.zero_le _
  have progressing := (Shipper.machine kind).run_invariant
    (@Progressing.step kind contract) begins ran
  have sound := progressing.sound
  refine ⟨sound.chunk, sound.slices,
    fun alive => (progressing.measured alive).bound sound.chunk, ?_⟩
  intro input source batch next peeked stepped before cursor saved acked
  rcases Shipper.step_cases stepped with
    ⟨alive, ⟨isShutdown, -⟩ | ⟨other, otherSource, outcome, same, -, otherPeeked, result⟩⟩
  · cases isShutdown
  · cases same
    cases otherPeeked.symm.trans peeked
    cases result
    rcases progressing.peek contract alive peeked input.answered with ⟨measured, ready⟩
    rcases ship_cases contract (contract.peek_flying peeked) measured ready input with
      ⟨middle, moved, stillSound, -, finishes | ⟨waits, slice, answer, requested⟩⟩
    · rcases finishBatch_actions middle batch input.ack with ⟨outcome, actions⟩
      rw [finishes, actions] at acked
      rw [← (List.append_inj' acked rfl).1]
      exact moved.bound stillSound.chunk
    · rw [waits, requested] at acked
      have last := (List.append_inj' acked rfl).2
      cases (List.cons.inj last).1

/-! ## The journald source -/

section Journald

open JournaldSource

variable {api : JournalApi}

/-- A peek hands out the batch that is in flight from then on, which is the old one with
entries appended. -/
theorem peekBatch_appends (contract : JournalContract api) {callerHolds : Bool}
    {wakeups : Wakeups} {source next : JournaldSource api} {batch : Batch}
    (peeked : peekBatch callerHolds wakeups source = (next, .ok (.batch batch))) :
    next.inFlight = some batch ∧ ∀ old ∈ source.inFlight, old.entries <+: batch.entries := by
  unfold peekBatch at peeked
  rw [Stateful.get_bind] at peeked
  cases flying : source.inFlight with
  | none =>
      simp only [flying] at peeked
      rcases Stateful.bind_eq_ok.mp peeked with ⟨middle, built, -, peeked⟩
      cases built with
      | none => cases peeked
      | some built =>
          cases peeked
          exact ⟨rfl, nofun⟩
  | some old =>
      simp only [flying] at peeked
      cases callerHolds with
      | true =>
          cases peeked
          refine ⟨flying, ?_⟩
          rintro other ⟨⟩
          exact List.prefix_refl _
      | false =>
          simp only [Bool.false_eq_true, if_false] at peeked
          rw [Stateful.modify_bind] at peeked
          rcases Stateful.bind_eq_ok.mp peeked with ⟨processed, outcome, -, peeked⟩
          rcases Stateful.bind_eq_ok.mp peeked with ⟨drained, filled, drains, peeked⟩
          cases peeked
          rcases drainAvailable_ok contract drains with ⟨items, fills⟩
          refine ⟨rfl, ?_⟩
          rintro other ⟨⟩
          rw [fills.pushed, Batch.pushAll_entries]
          exact List.prefix_append _ _

/-- The journald source keeps what the trait promises. -/
def journaldContract (contract : JournalContract api) : SourceContract (asSource api) where
  inFlight state := state.1.inFlight
  peek_flying peeked := by
    rw [asSource_peekBatch] at peeked
    rcases Prod.mk.inj peeked with ⟨rfl, outcome⟩
    exact (peekBatch_appends contract (Prod.ext rfl outcome)).1
  peek_appends {_ _ _ old _} flying peeked := by
    rw [asSource_peekBatch] at peeked
    exact (peekBatch_appends contract (Prod.ext rfl (Prod.mk.inj peeked).2)).2 old flying
  ack_clears {cursor fault state _} acked := by
    have called : (asSource api).ack cursor fault state = _ :=
      ack_eq state.1 state.2 cursor fault
    rw [called] at acked
    split at acked
    · cases acked
      rfl
    · cases acked

end Journald

/-- A split, one delivery and a failure that is transient. -/
def splittingEvents : List (LoopEvent (JournaldSource.asSource MemoryJournal.api)) :=
  [shippingIteration 1 (.error (.sinkPayloadTooLarge "HTTP 413")),
    shippingIteration 2 (.ok ()),
    shippingIteration 3 (.error (.sink "HTTP 503"))]

theorem shipper_run_progresses_split :
    ∃ shipper, (Shipper.machine (JournaldSource.asSource MemoryJournal.api)).run
        (Shipper.new (Caller.sampleSource (.sample 1 [0, 0, 4])) FileTree.empty 5 60)
        splittingEvents = some shipper ∧
      finalAnswers shipper.actions = 2 ∧
      Progressive (journaldContract MemoryJournal.contract) shipper := by
  have ends : ((Shipper.machine (JournaldSource.asSource MemoryJournal.api)).run
        (Shipper.new (Caller.sampleSource (.sample 1 [0, 0, 4])) FileTree.empty 5 60)
        splittingEvents).map (fun shipper => finalAnswers shipper.actions) = some 2 := by
    decide +kernel
  rcases Option.map_eq_some_iff.mp ends with ⟨shipper, ran, counted⟩
  exact ⟨shipper, ran, counted,
    shipper_run_progresses (journaldContract MemoryJournal.contract) ⟨rfl, rfl, rfl⟩ ran⟩

end Ferrometer.Log
