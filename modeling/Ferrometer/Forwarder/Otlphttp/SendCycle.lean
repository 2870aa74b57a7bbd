import Ferrometer.Foundation.Machine
import Ferrometer.Forwarder.Otlphttp.Buffer
import Mathlib.Data.List.Range

/-!
Contract: submits and send attempts of one `OtlphttpForwarder`, interleaved.

Owns: the machine whose steps are the critical sections of the buffer mutex
(`submit`, `popForSend`, and `requeue` after a failed send) together with the
end of a successful send, in any order that the single send loop allows; its
invariant; and the accounting of every submitted batch.

Does not own: what happens between `popForSend` and the end of a send, or when
the send loop decides to send.

A batch carries the number of the `submit` call that brought it. The number is
history: no operation reads it, and `run_unnumbered` says that a run without it is
the same run.
-/

set_option autoImplicit false

namespace Ferrometer.Forwarder.Otlphttp

open Ferrometer.Foundation

/-! ## Batches with their history -/

structure Submission where
  number : Nat
  metrics : List Metric
deriving DecidableEq

instance : VecLen Submission where
  len submission := submission.metrics.length

theorem len_submission (submission : Submission) :
    len submission = submission.metrics.length := rfl

namespace BufferState

variable {Batch Erased : Type} [VecLen Batch] [VecLen Erased]

def map (erase : Batch → Erased) (state : BufferState Batch) : BufferState Erased where
  batches := state.batches.map erase
  totalMetrics := state.totalMetrics

variable {erase : Batch → Erased} (sameLen : ∀ batch, len (erase batch) = len batch)

include sameLen in
private theorem map_dropOverflow (bufferMaxMetrics : Nat) (batches : List Batch)
    (totalMetrics : Nat) :
    dropOverflow bufferMaxMetrics (batches.map erase) totalMetrics =
      (dropOverflow bufferMaxMetrics batches totalMetrics).map
        (Prod.map (List.map erase) (map erase)) := by
  induction batches generalizing totalMetrics with
  | nil => rfl
  | cons front rest inductionHypothesis =>
      rw [List.map_cons]
      unfold dropOverflow
      by_cases exceeds : totalMetrics > bufferMaxMetrics
      · rw [if_pos exceeds, if_pos exceeds, sameLen]
        cases checkedSub totalMetrics (len front) with
        | none => rfl
        | some remaining =>
            simp only [Option.bind_eq_bind, Option.bind_some, inductionHypothesis]
            cases dropOverflow bufferMaxMetrics rest remaining <;> rfl
      · rw [if_neg exceeds, if_neg exceeds]
        rfl

include sameLen in
theorem map_submit (bufferMaxMetrics : Nat) (state : BufferState Batch) (metrics : Batch) :
    submit bufferMaxMetrics (state.map erase) (erase metrics) =
      (submit bufferMaxMetrics state metrics).map (Prod.map (List.map erase) (map erase)) := by
  unfold submit
  rw [sameLen]
  split
  · rfl
  · rw [← map_dropOverflow sameLen]
    simp [map]

include sameLen in
theorem map_popForSend (requestMaxMetrics : Nat) (state : BufferState Batch) :
    popForSend requestMaxMetrics (state.map erase) =
      (popForSend requestMaxMetrics state).map (Prod.map (List.map erase) (map erase)) := by
  suffices loop : ∀ (batches : List Batch) (taken totalMetrics : Nat) (popped : List Batch),
      popLoop requestMaxMetrics taken (popped.map erase) (batches.map erase) totalMetrics =
        (popLoop requestMaxMetrics taken popped batches totalMetrics).map
          (Prod.map (List.map erase) (map erase)) from
    loop state.batches 0 state.totalMetrics []
  intro batches
  induction batches with
  | nil => intros; rfl
  | cons front rest inductionHypothesis =>
      intro taken totalMetrics popped
      rw [List.map_cons]
      unfold popLoop
      rw [sameLen]
      split
      · rfl
      · cases checkedSub totalMetrics (len front) with
        | none => rfl
        | some remaining =>
            simp only [Option.bind_eq_bind, Option.bind_some]
            have popMore : popped.map erase ++ [erase front] = (popped ++ [front]).map erase := by
              simp
            rw [popMore, inductionHypothesis]
            split <;> rfl

include sameLen in
theorem map_requeue (bufferMaxMetrics : Nat) (state : BufferState Batch) (popped : List Batch) :
    requeue bufferMaxMetrics (state.map erase) (popped.map erase) =
      (requeue bufferMaxMetrics state popped).map (Prod.map (List.map erase) (map erase)) := by
  have pushed : (popped.map erase).reverse.foldl pushFront (state.map erase) =
      (popped.reverse.foldl pushFront state).map erase := by
    induction popped with
    | nil => rfl
    | cons front rest inductionHypothesis =>
        rw [List.map_cons, List.reverse_cons, List.foldl_append, inductionHypothesis,
          List.reverse_cons, List.foldl_append]
        simp [pushFront, map, sameLen]
  rw [requeue, pushed, requeue, ← map_dropOverflow sameLen]
  rfl

end BufferState

/-! ## The machine -/

/-- What `validate_otlphttp_forwarder` lets through. -/
structure Limits where
  bufferMaxMetrics : Nat
  requestMaxMetrics : Nat
  bufferPositive : 0 < bufferMaxMetrics
  requestPositive : 0 < requestMaxMetrics

inductive SendEvent where
  | submit (metrics : List Metric)
  | popForSend
  | success
  | failure
deriving DecidableEq

structure SendCycle where
  state : BufferState Submission
  /-- The batches of the send under way; none between sends. -/
  inFlight : List Submission
  delivered : List Submission
  /-- Every batch an overflow loop let go of. -/
  evicted : List Submission
  /-- Every non-empty batch `submit` was called with. -/
  submitted : List Submission
deriving DecidableEq

namespace SendCycle

def initial : SendCycle where
  state := BufferState.new
  inFlight := []
  delivered := []
  evicted := []
  submitted := []

/-- The batch of the next `submit` call, with its number. -/
def nextSubmission (cycle : SendCycle) (metrics : List Metric) : Submission where
  number := cycle.submitted.length
  metrics := metrics

/-- One atomic step. A step is refused when there is no send to end, when a send
is already under way, and when a subtraction underflows. -/
def step (limits : Limits) (cycle : SendCycle) : SendEvent → Option SendCycle
  | .submit metrics => do
      let submission := cycle.nextSubmission metrics
      let (dropped, state) ← cycle.state.submit limits.bufferMaxMetrics submission
      some { cycle with
        state
        evicted := cycle.evicted ++ dropped
        submitted := if metrics = [] then cycle.submitted else cycle.submitted ++ [submission] }
  | .popForSend =>
      if cycle.inFlight = [] then do
        let (popped, state) ← cycle.state.popForSend limits.requestMaxMetrics
        some { cycle with state, inFlight := popped }
      else none
  | .success =>
      if cycle.inFlight = [] then none
      else some { cycle with delivered := cycle.delivered ++ cycle.inFlight, inFlight := [] }
  | .failure =>
      if cycle.inFlight = [] then none
      else do
        let (dropped, state) ← cycle.state.requeue limits.bufferMaxMetrics cycle.inFlight
        some { cycle with state, inFlight := [], evicted := cycle.evicted ++ dropped }

def machine (limits : Limits) : Machine SendCycle SendEvent where
  step := step limits

/-! ## Without the numbers -/

/-- What the code itself holds: the buffer, and the batches of the send under way. -/
structure Unnumbered where
  state : BufferState (List Metric)
  inFlight : List (List Metric)

def unnumbered (cycle : SendCycle) : Unnumbered where
  state := cycle.state.map Submission.metrics
  inFlight := cycle.inFlight.map Submission.metrics

def Unnumbered.step (limits : Limits) (plain : Unnumbered) : SendEvent → Option Unnumbered
  | .submit metrics => do
      let (_, state) ← plain.state.submit limits.bufferMaxMetrics metrics
      some { plain with state }
  | .popForSend =>
      if plain.inFlight = [] then do
        let (popped, state) ← plain.state.popForSend limits.requestMaxMetrics
        some { state, inFlight := popped }
      else none
  | .success => if plain.inFlight = [] then none else some { plain with inFlight := [] }
  | .failure =>
      if plain.inFlight = [] then none
      else do
        let (_, state) ← plain.state.requeue limits.bufferMaxMetrics plain.inFlight
        some { state, inFlight := [] }

def Unnumbered.machine (limits : Limits) : Machine Unnumbered SendEvent where
  step := Unnumbered.step limits

private theorem step_unnumbered (limits : Limits) (cycle : SendCycle) (event : SendEvent) :
    (step limits cycle event).map unnumbered = (unnumbered cycle).step limits event := by
  have sameLen : ∀ batch : Submission, len batch.metrics = len batch := fun _ => rfl
  cases event with
  | submit metrics =>
      have erased : (cycle.state.map Submission.metrics).submit limits.bufferMaxMetrics metrics =
          (cycle.state.submit limits.bufferMaxMetrics (cycle.nextSubmission metrics)).map
            (Prod.map (List.map Submission.metrics) (BufferState.map Submission.metrics)) :=
        BufferState.map_submit sameLen _ _ (cycle.nextSubmission metrics)
      simp only [Unnumbered.step, unnumbered, step]
      rw [erased]
      cases cycle.state.submit limits.bufferMaxMetrics (cycle.nextSubmission metrics) <;> rfl
  | popForSend =>
      by_cases idle : cycle.inFlight = []
      · simp only [Unnumbered.step, unnumbered, step, idle, List.map_nil, if_true]
        rw [BufferState.map_popForSend sameLen]
        cases cycle.state.popForSend limits.requestMaxMetrics <;> rfl
      · simp [Unnumbered.step, unnumbered, step, idle]
  | success =>
      by_cases idle : cycle.inFlight = []
      · simp [Unnumbered.step, unnumbered, step, idle]
      · simp [Unnumbered.step, unnumbered, step, idle]
  | failure =>
      by_cases idle : cycle.inFlight = []
      · simp [Unnumbered.step, unnumbered, step, idle]
      · simp only [Unnumbered.step, unnumbered, step, idle, List.map_eq_nil_iff, if_false]
        rw [BufferState.map_requeue sameLen]
        cases cycle.state.requeue limits.bufferMaxMetrics cycle.inFlight <;> rfl

/-- The history decides nothing: without it, every run is a run of the code. -/
theorem run_unnumbered (limits : Limits) (cycle : SendCycle) (events : List SendEvent) :
    ((machine limits).run cycle events).map unnumbered =
      (Unnumbered.machine limits).run (unnumbered cycle) events :=
  (machine limits).run_map (step_unnumbered limits) cycle events

/-! ## The invariant -/

/-- `ordered` covers delivery and queue at once: what has been delivered is older
than what is in flight, and that is older than the buffer. -/
structure Valid (limits : Limits) (cycle : SendCycle) : Prop where
  balanced : cycle.state.Balanced
  bounded : OldestFirst.total len cycle.state.batches ≤ limits.bufferMaxMetrics
  filled : ∀ batch ∈ cycle.inFlight ++ cycle.state.batches, batch.metrics ≠ []
  ordered : ((cycle.delivered ++ (cycle.inFlight ++ cycle.state.batches)).map
    Submission.number).Pairwise (· < ·)
  accounted : (cycle.delivered ++ cycle.evicted ++ cycle.inFlight ++
    cycle.state.batches).Perm cycle.submitted
  numbered : cycle.submitted.map Submission.number = List.range cycle.submitted.length

theorem initial_valid (limits : Limits) : initial.Valid limits where
  balanced := rfl
  bounded := Nat.zero_le _
  filled := by simp [initial, BufferState.new]
  ordered := List.Pairwise.nil
  accounted := List.Perm.refl _
  numbered := rfl

namespace Valid

variable {limits : Limits} {cycle : SendCycle}

theorem number_lt (valid : cycle.Valid limits) {batch : Submission}
    (member : batch ∈ cycle.submitted) : batch.number < cycle.submitted.length := by
  have listed := List.mem_map_of_mem (f := Submission.number) member
  rw [valid.numbered] at listed
  exact List.mem_range.mp listed

theorem submitted_nodup (valid : cycle.Valid limits) : cycle.submitted.Nodup := by
  have numbers : (cycle.submitted.map Submission.number).Nodup :=
    valid.numbered ▸ List.nodup_range
  exact numbers.of_map

theorem live_number_lt (valid : cycle.Valid limits) {batch : Submission}
    (member : batch ∈ cycle.delivered ++ (cycle.inFlight ++ cycle.state.batches)) :
    batch.number < cycle.submitted.length := by
  apply valid.number_lt
  apply valid.accounted.subset
  simp only [List.mem_append] at member ⊢
  rcases member with delivered | inFlight | buffered
  · exact Or.inl (Or.inl (Or.inl delivered))
  · exact Or.inl (Or.inr inFlight)
  · exact Or.inr buffered

theorem buffered_number_lt (valid : cycle.Valid limits) {batch : Submission}
    (member : batch ∈ cycle.state.batches) : batch.number < cycle.submitted.length :=
  valid.live_number_lt (List.mem_append_right _ (List.mem_append_right _ member))

end Valid

/-! ## What each step does to a valid cycle -/

section Steps

variable {limits : Limits} {cycle : SendCycle} (valid : cycle.Valid limits)

theorem step_submit_empty : step limits cycle (.submit []) = some cycle := by
  simp [step, BufferState.submit_empty, len_submission, nextSubmission]

include valid in
theorem step_submit {metrics : List Metric} (nonempty : metrics ≠ []) :
    step limits cycle (.submit metrics) = some { cycle with
      state := BufferState.ofBatches (OldestFirst.kept len limits.bufferMaxMetrics
        (cycle.state.batches ++ [cycle.nextSubmission metrics]))
      evicted := cycle.evicted ++ OldestFirst.evicted len limits.bufferMaxMetrics
        (cycle.state.batches ++ [cycle.nextSubmission metrics])
      submitted := cycle.submitted ++ [cycle.nextSubmission metrics] } := by
  have counted : len (cycle.nextSubmission metrics) ≠ 0 := by
    rw [len_submission]
    exact fun isZero => nonempty (List.length_eq_zero_iff.mp isZero)
  simp [step, BufferState.submit_eq _ valid.balanced counted, nonempty]

include valid in
theorem step_popForSend (idle : cycle.inFlight = []) :
    step limits cycle .popForSend = some { cycle with
      state := BufferState.ofBatches (cycle.state.batches.drop
        (BufferState.popCount limits.requestMaxMetrics 0 cycle.state.batches))
      inFlight := cycle.state.batches.take
        (BufferState.popCount limits.requestMaxMetrics 0 cycle.state.batches) } := by
  simp [step, idle, BufferState.popForSend_eq _ valid.balanced]

theorem step_success (sending : cycle.inFlight ≠ []) :
    step limits cycle .success =
      some { cycle with delivered := cycle.delivered ++ cycle.inFlight, inFlight := [] } := by
  rw [step, if_neg sending]

include valid in
theorem step_failure (sending : cycle.inFlight ≠ []) :
    step limits cycle .failure = some { cycle with
      state := BufferState.ofBatches (OldestFirst.kept len limits.bufferMaxMetrics
        (cycle.inFlight ++ cycle.state.batches))
      inFlight := []
      evicted := cycle.evicted ++ OldestFirst.evicted len limits.bufferMaxMetrics
        (cycle.inFlight ++ cycle.state.batches) } := by
  simp [step, sending, BufferState.requeue_eq _ valid.balanced]

end Steps

/-! ## What each step delivers -/

section Delivery

variable {limits : Limits} {cycle next : SendCycle}

theorem delivered_of_submit {metrics : List Metric}
    (taken : step limits cycle (.submit metrics) = some next) :
    next.delivered = cycle.delivered ∧ next.inFlight = cycle.inFlight := by
  obtain ⟨⟨dropped, state⟩, -, equal⟩ := Option.bind_eq_some_iff.mp taken
  obtain rfl := Option.some.inj equal
  exact ⟨rfl, rfl⟩

theorem delivered_of_popForSend (taken : step limits cycle .popForSend = some next) :
    next.delivered = cycle.delivered := by
  simp only [step] at taken
  split at taken
  · obtain ⟨⟨popped, state⟩, -, equal⟩ := Option.bind_eq_some_iff.mp taken
    obtain rfl := Option.some.inj equal
    rfl
  · exact absurd taken (by simp)

theorem delivered_of_success (taken : step limits cycle .success = some next) :
    next.delivered = cycle.delivered ++ cycle.inFlight ∧ next.inFlight = [] := by
  simp only [step] at taken
  split at taken
  · exact absurd taken (by simp)
  · obtain rfl := Option.some.inj taken
    exact ⟨rfl, rfl⟩

theorem delivered_of_failure (taken : step limits cycle .failure = some next) :
    next.delivered = cycle.delivered ∧ next.inFlight = [] := by
  simp only [step] at taken
  split at taken
  · exact absurd taken (by simp)
  · obtain ⟨⟨dropped, state⟩, -, equal⟩ := Option.bind_eq_some_iff.mp taken
    obtain rfl := Option.some.inj equal
    exact ⟨rfl, rfl⟩

end Delivery

/-! ## The invariant is kept -/

/-- Numbers that increase before the overflow loop increase after it. -/
theorem ordered_of_suffix {front shorter longer : List Submission}
    (isSuffix : shorter <:+ longer)
    (ordered : ((front ++ longer).map Submission.number).Pairwise (· < ·)) :
    ((front ++ shorter).map Submission.number).Pairwise (· < ·) := by
  apply List.Pairwise.sublist _ ordered
  exact (isSuffix.sublist.append_left front).map Submission.number

private theorem mem_of_suffix {batch : Submission} {front shorter longer : List Submission}
    (isSuffix : shorter <:+ longer) (member : batch ∈ front ++ shorter) :
    batch ∈ front ++ longer :=
  (isSuffix.sublist.append_left front).subset member

theorem submit_valid {limits : Limits} {cycle next : SendCycle} {metrics : List Metric}
    (valid : cycle.Valid limits) (stepped : step limits cycle (.submit metrics) = some next) :
    next.Valid limits := by
  by_cases isEmpty : metrics = []
  · subst isEmpty
    rw [step_submit_empty] at stepped
    exact Option.some.inj stepped ▸ valid
  · rw [step_submit valid isEmpty] at stepped
    obtain rfl := Option.some.inj stepped
    have isSuffix := OldestFirst.kept_suffix len limits.bufferMaxMetrics
      (cycle.state.batches ++ [cycle.nextSubmission metrics])
    have split := OldestFirst.evicted_append_kept len limits.bufferMaxMetrics
      (cycle.state.batches ++ [cycle.nextSubmission metrics])
    have extended : ((cycle.delivered ++ cycle.inFlight ++
        (cycle.state.batches ++ [cycle.nextSubmission metrics])).map
          Submission.number).Pairwise (· < ·) := by
      rw [← List.append_assoc, List.map_append, List.pairwise_append]
      refine ⟨by simpa using valid.ordered, List.pairwise_singleton _ _, ?_⟩
      intro older olderMember newer newerMember
      obtain ⟨batch, member, rfl⟩ := List.mem_map.mp olderMember
      obtain rfl : newer = cycle.submitted.length := by simpa [nextSubmission] using newerMember
      exact valid.live_number_lt (by simpa using member)
    exact {
      balanced := BufferState.ofBatches_balanced _
      bounded := OldestFirst.total_kept_le len _ _
      filled := by
        intro batch member
        have present := mem_of_suffix isSuffix member
        rw [← List.append_assoc, List.mem_append] at present
        rcases present with old | new
        · exact valid.filled batch old
        · obtain rfl := List.mem_singleton.mp new
          exact isEmpty
      ordered := by
        rw [← List.append_assoc]
        exact ordered_of_suffix isSuffix extended
      accounted := by
        apply List.perm_iff_count.mpr
        intro batch
        have before := valid.accounted.count_eq batch
        have cut := congrArg (List.count batch) split
        simp only [List.count_append, BufferState.ofBatches_batches] at before cut ⊢
        omega
      numbered := by
        simp [valid.numbered, List.range_succ, nextSubmission] }

theorem popForSend_valid {limits : Limits} {cycle next : SendCycle}
    (valid : cycle.Valid limits) (stepped : step limits cycle .popForSend = some next) :
    next.Valid limits := by
  by_cases idle : cycle.inFlight = []
  · rw [step_popForSend valid idle] at stepped
    obtain rfl := Option.some.inj stepped
    have split := List.take_append_drop
      (BufferState.popCount limits.requestMaxMetrics 0 cycle.state.batches) cycle.state.batches
    exact {
      balanced := BufferState.ofBatches_balanced _
      bounded := (OldestFirst.total_le_of_suffix len (List.drop_suffix _ _)).trans valid.bounded
      filled := by
        rw [BufferState.ofBatches_batches, split]
        simpa [idle] using valid.filled
      ordered := by
        rw [BufferState.ofBatches_batches, split]
        simpa [idle] using valid.ordered
      accounted := by
        rw [BufferState.ofBatches_batches, List.append_assoc, split]
        simpa [idle] using valid.accounted
      numbered := valid.numbered }
  · rw [step, if_neg idle] at stepped
    exact absurd stepped (by simp)

theorem success_valid {limits : Limits} {cycle next : SendCycle}
    (valid : cycle.Valid limits) (stepped : step limits cycle .success = some next) :
    next.Valid limits := by
  by_cases idle : cycle.inFlight = []
  · rw [step, if_pos idle] at stepped
    exact absurd stepped (by simp)
  · rw [step_success idle] at stepped
    obtain rfl := Option.some.inj stepped
    exact {
      balanced := valid.balanced
      bounded := valid.bounded
      filled := fun batch member => valid.filled batch (List.mem_append_right _ member)
      ordered := by simpa using valid.ordered
      accounted := by
        refine List.Perm.trans ?_ valid.accounted
        apply List.perm_iff_count.mpr
        intro batch
        simp only [List.count_append, List.count_nil]
        omega
      numbered := valid.numbered }

theorem failure_valid {limits : Limits} {cycle next : SendCycle}
    (valid : cycle.Valid limits) (stepped : step limits cycle .failure = some next) :
    next.Valid limits := by
  by_cases idle : cycle.inFlight = []
  · rw [step, if_pos idle] at stepped
    exact absurd stepped (by simp)
  · rw [step_failure valid idle] at stepped
    obtain rfl := Option.some.inj stepped
    have isSuffix := OldestFirst.kept_suffix len limits.bufferMaxMetrics
      (cycle.inFlight ++ cycle.state.batches)
    have split := OldestFirst.evicted_append_kept len limits.bufferMaxMetrics
      (cycle.inFlight ++ cycle.state.batches)
    exact {
      balanced := BufferState.ofBatches_balanced _
      bounded := OldestFirst.total_kept_le len _ _
      filled := fun batch member => valid.filled batch (isSuffix.subset member)
      ordered := ordered_of_suffix isSuffix valid.ordered
      accounted := by
        apply List.perm_iff_count.mpr
        intro batch
        have before := valid.accounted.count_eq batch
        have cut := congrArg (List.count batch) split
        simp only [List.count_append, List.count_nil, BufferState.ofBatches_batches]
          at before cut ⊢
        omega
      numbered := valid.numbered }

theorem step_valid {limits : Limits} {cycle next : SendCycle} {event : SendEvent}
    (valid : cycle.Valid limits) (stepped : step limits cycle event = some next) :
    next.Valid limits := by
  cases event with
  | submit metrics => exact submit_valid valid stepped
  | popForSend => exact popForSend_valid valid stepped
  | success => exact success_valid valid stepped
  | failure => exact failure_valid valid stepped

theorem run_valid {limits : Limits} {cycle : SendCycle} {events : List SendEvent}
    (ran : (machine limits).run initial events = some cycle) : cycle.Valid limits :=
  (machine limits).run_invariant (fun valid stepped => step_valid valid stepped)
    (initial_valid limits) ran

/-- Only `submit` adds to the history of submissions. -/
theorem step_submitted {limits : Limits} {cycle next : SendCycle} {event : SendEvent}
    (other : ∀ metrics, event ≠ .submit metrics) (stepped : step limits cycle event = some next) :
    next.submitted = cycle.submitted := by
  cases event with
  | submit metrics => exact absurd rfl (other metrics)
  | popForSend =>
      simp only [step] at stepped
      split at stepped
      · rcases Option.bind_eq_some_iff.mp stepped with ⟨popped, -, equal⟩
        cases equal
        rfl
      · exact absurd stepped nofun
  | success =>
      simp only [step] at stepped
      split at stepped
      · exact absurd stepped nofun
      · cases stepped
        rfl
  | failure =>
      simp only [step] at stepped
      split at stepped
      · exact absurd stepped nofun
      · rcases Option.bind_eq_some_iff.mp stepped with ⟨requeued, -, equal⟩
        cases equal
        rfl

/-! ## Accounting -/

/-- The non-empty batches of the `submit` calls among the events, in order. -/
def submittedBatches : List SendEvent → List (List Metric)
  | [] => []
  | .submit metrics :: rest =>
      if metrics = [] then submittedBatches rest else metrics :: submittedBatches rest
  | _ :: rest => submittedBatches rest

private theorem submitted_step {limits : Limits} {cycle next : SendCycle} {event : SendEvent}
    (valid : cycle.Valid limits) (stepped : step limits cycle event = some next) :
    next.submitted.map Submission.metrics =
      cycle.submitted.map Submission.metrics ++ submittedBatches [event] := by
  cases event with
  | submit metrics =>
      by_cases isEmpty : metrics = []
      · subst isEmpty
        rw [step_submit_empty] at stepped
        obtain rfl := Option.some.inj stepped
        simp [submittedBatches]
      · rw [step_submit valid isEmpty] at stepped
        obtain rfl := Option.some.inj stepped
        simp [submittedBatches, isEmpty, nextSubmission]
  | popForSend =>
      by_cases idle : cycle.inFlight = []
      · rw [step_popForSend valid idle] at stepped
        obtain rfl := Option.some.inj stepped
        simp [submittedBatches]
      · simp [step, idle] at stepped
  | success =>
      by_cases idle : cycle.inFlight = []
      · simp [step, idle] at stepped
      · rw [step_success idle] at stepped
        obtain rfl := Option.some.inj stepped
        simp [submittedBatches]
  | failure =>
      by_cases idle : cycle.inFlight = []
      · simp [step, idle] at stepped
      · rw [step_failure valid idle] at stepped
        obtain rfl := Option.some.inj stepped
        simp [submittedBatches]

private theorem submittedBatches_cons (event : SendEvent) (rest : List SendEvent) :
    submittedBatches (event :: rest) = submittedBatches [event] ++ submittedBatches rest := by
  cases event with
  | submit metrics =>
      by_cases isEmpty : metrics = []
      · simp [submittedBatches, isEmpty]
      · simp [submittedBatches, isEmpty]
  | popForSend => rfl
  | success => rfl
  | failure => rfl

private theorem submitted_run {limits : Limits} {cycle final : SendCycle}
    {events : List SendEvent} (valid : cycle.Valid limits)
    (ran : (machine limits).run cycle events = some final) :
    final.submitted.map Submission.metrics =
      cycle.submitted.map Submission.metrics ++ submittedBatches events := by
  induction events generalizing cycle with
  | nil =>
      obtain rfl := Option.some.inj ran
      simp [submittedBatches]
  | cons event rest inductionHypothesis =>
      obtain ⟨next, stepped, ranRest⟩ := (machine limits).run_cons_eq_some.mp ran
      rw [inductionHypothesis (step_valid valid stepped) ranRest, submitted_step valid stepped,
        submittedBatches_cons event rest, List.append_assoc]

/-- What the buffer and the send loop owe to every batch, in the state that
`events` lead to. -/
structure Accounted (limits : Limits) (events : List SendEvent) (cycle : SendCycle) : Prop where
  counter : cycle.state.totalMetrics = OldestFirst.total len cycle.state.batches
  bounded : cycle.state.totalMetrics ≤ limits.bufferMaxMetrics
  filled : ∀ batch ∈ cycle.state.batches, batch.metrics ≠ []
  /-- A step is refused only for want or excess of a send, never by an underflow. -/
  submitRuns : ∀ metrics, (step limits cycle (.submit metrics)).isSome
  popRuns : (step limits cycle .popForSend).isSome ↔ cycle.inFlight = []
  successRuns : (step limits cycle .success).isSome ↔ cycle.inFlight ≠ []
  failureRuns : (step limits cycle .failure).isSome ↔ cycle.inFlight ≠ []
  queueOrder : ((cycle.inFlight ++ cycle.state.batches).map
    Submission.number).Pairwise (· < ·)
  deliveryOrder : (cycle.delivered.map Submission.number).Pairwise (· < ·)
  submissions : cycle.submitted.map Submission.metrics = submittedBatches events
  numbered : cycle.submitted.map Submission.number = List.range cycle.submitted.length
  /-- With `distinct`: every submission is in exactly one of the four places. -/
  accounted : (cycle.delivered ++ cycle.evicted ++ cycle.state.batches ++
    cycle.inFlight).Perm cycle.submitted
  distinct : cycle.submitted.Nodup
  popPrefix : ∀ next, step limits cycle .popForSend = some next → cycle.state.batches ≠ [] →
    next.inFlight ≠ [] ∧ next.inFlight ++ next.state.batches = cycle.state.batches ∧
      (OldestFirst.total len next.inFlight ≤ limits.requestMaxMetrics ∨
        next.inFlight.length = 1)
  failedSend : ∀ next failed, step limits cycle .popForSend = some next →
    step limits next .failure = some failed →
    failed.state = cycle.state ∧ failed.evicted = cycle.evicted

private theorem popPrefix_of_valid {limits : Limits} {cycle next : SendCycle}
    (valid : cycle.Valid limits) (stepped : step limits cycle .popForSend = some next)
    (nonempty : cycle.state.batches ≠ []) :
    next.inFlight ≠ [] ∧ next.inFlight ++ next.state.batches = cycle.state.batches ∧
      (OldestFirst.total len next.inFlight ≤ limits.requestMaxMetrics ∨
        next.inFlight.length = 1) := by
  have idle : cycle.inFlight = [] := by
    by_contra sending
    simp [step, sending] at stepped
  rw [step_popForSend valid idle] at stepped
  obtain rfl := Option.some.inj stepped
  have counted : ∀ batch ∈ cycle.state.batches, len batch ≠ 0 := by
    intro batch member isZero
    exact valid.filled batch (List.mem_append_right _ member) (List.length_eq_zero_iff.mp isZero)
  refine ⟨?_, List.take_append_drop _ _, BufferState.total_popped_le _ counted⟩
  have positive := BufferState.popCount_pos limits.requestMaxMetrics nonempty
  intro nothing
  rcases List.take_eq_nil_iff.mp nothing with isZero | isEmpty
  · omega
  · exact nonempty isEmpty

private theorem failedSend_of_valid {limits : Limits} {cycle next failed : SendCycle}
    (valid : cycle.Valid limits) (popped : step limits cycle .popForSend = some next)
    (requeued : step limits next .failure = some failed) :
    failed.state = cycle.state ∧ failed.evicted = cycle.evicted := by
  have idle : cycle.inFlight = [] := by
    by_contra sending
    simp [step, sending] at popped
  have sending : next.inFlight ≠ [] := by
    intro nothing
    simp [step, nothing] at requeued
  rw [step_failure (popForSend_valid valid popped) sending] at requeued
  obtain rfl := Option.some.inj requeued
  rw [step_popForSend valid idle] at popped
  obtain rfl := Option.some.inj popped
  simp only [BufferState.ofBatches_batches, List.take_append_drop]
  rw [OldestFirst.kept_of_fits len valid.bounded, OldestFirst.evicted_of_fits len valid.bounded]
  exact ⟨valid.balanced.eq_ofBatches.symm, List.append_nil _⟩

theorem sendCycle_run_accounted (limits : Limits) {events : List SendEvent} {cycle : SendCycle}
    (ran : (machine limits).run initial events = some cycle) :
    Accounted limits events cycle := by
  have valid := run_valid ran
  have listed : (cycle.delivered ++ (cycle.inFlight ++ cycle.state.batches)).map
      Submission.number = cycle.delivered.map Submission.number ++
        (cycle.inFlight ++ cycle.state.batches).map Submission.number := List.map_append
  have ordered := valid.ordered
  rw [listed, List.pairwise_append] at ordered
  exact {
    counter := valid.balanced
    bounded := valid.balanced.trans_le valid.bounded
    filled := fun batch member => valid.filled batch (List.mem_append_right _ member)
    submitRuns := by
      intro metrics
      by_cases isEmpty : metrics = []
      · rw [isEmpty, step_submit_empty]
        rfl
      · rw [step_submit valid isEmpty]
        rfl
    popRuns := by
      by_cases idle : cycle.inFlight = []
      · simp [step_popForSend valid idle, idle]
      · simp [step, idle]
    successRuns := by
      by_cases idle : cycle.inFlight = [] <;> simp [step, idle]
    failureRuns := by
      by_cases idle : cycle.inFlight = []
      · simp [step, idle]
      · simp [step_failure valid idle, idle]
    queueOrder := ordered.2.1
    deliveryOrder := ordered.1
    submissions := by simpa [initial] using submitted_run (initial_valid limits) ran
    numbered := valid.numbered
    accounted := by
      refine List.Perm.trans ?_ valid.accounted
      apply List.perm_iff_count.mpr
      intro batch
      simp only [List.count_append]
      omega
    distinct := valid.submitted_nodup
    popPrefix := fun next stepped nonempty => popPrefix_of_valid valid stepped nonempty
    failedSend := fun next failed popped requeued => failedSend_of_valid valid popped requeued }

/-- A metric for the runs on fixed inputs below. -/
def sampleMetric : Metric where
  name := "node_load1"
  labels := SortedMap.empty
  value := 0
  timestamp := 0
  metricType := .gauge

/-- A batch of `size` metrics. -/
def sampleBatch (size : Nat) : List Metric :=
  List.replicate size sampleMetric

def sampleLimits : Limits where
  bufferMaxMetrics := 10
  requestMaxMetrics := 1
  bufferPositive := Nat.succ_pos 9
  requestPositive := Nat.succ_pos 0

/-- A send that fails after a submit has overflowed the buffer behind it. -/
def overflowBehindSend : List SendEvent :=
  [.submit (sampleBatch 1), .submit (sampleBatch 6), .popForSend, .submit (sampleBatch 5),
    .failure]

theorem sendCycle_run_accounted_overflow :
    ∃ cycle, (machine sampleLimits).run initial overflowBehindSend = some cycle ∧
      Accounted sampleLimits overflowBehindSend cycle :=
  ⟨_, rfl, sendCycle_run_accounted sampleLimits rfl⟩

end SendCycle

end Ferrometer.Forwarder.Otlphttp
