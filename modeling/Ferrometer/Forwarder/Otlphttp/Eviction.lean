import Ferrometer.Forwarder.Otlphttp.SendCycle
import Mathlib.Data.List.Perm.Basic

/-!
Contract: which batches an overflow costs.

Owns: the oldest-first ring that the buffer is meant to be, run next to the
send cycle; the condition under which the two agree; and the run in which they
do not.

Does not own: the accounting of the batches, which holds in every run.

`submit` cuts the buffer without sight of the batches that are out being sent,
and `requeue` puts those back without sight of what `submit` cut. The two act
as one ring as long as no failed send brings back what an evicted batch has
overtaken.
-/

set_option autoImplicit false

namespace Ferrometer.Forwarder.Otlphttp.SendCycle

open Ferrometer.Foundation

/-- The batches submitted and not delivered, in submission order. Batches that
were evicted are among them. -/
def undelivered (cycle : SendCycle) : List Submission :=
  cycle.submitted.filter fun batch => batch ∉ cycle.delivered

/-- The ring: a new batch is appended and the oldest ones go until the rest
fits; delivered batches are taken out. -/
def ringStep (limits : Limits) (cycle : SendCycle) (ring : List Submission) :
    SendEvent → List Submission
  | .submit metrics =>
      if metrics = [] then ring
      else OldestFirst.kept len limits.bufferMaxMetrics (ring ++ [cycle.nextSubmission metrics])
  | .success => ring.filter fun batch => batch ∉ cycle.inFlight
  | .popForSend => ring
  | .failure => ring

/-- The send cycle and the ring, fed with the same submits and deliveries. -/
def withRing (limits : Limits) : Machine (SendCycle × List Submission) SendEvent where
  step state event :=
    (step limits state.1 event).map fun next => (next, ringStep limits state.1 state.2 event)

/-- A send fails only if no batch newer than its own has been evicted. -/
def FailsWithNothingLostBehind (state : SendCycle × List Submission) (event : SendEvent) : Prop :=
  event = .failure →
    ∀ lost ∈ state.1.evicted, ∀ batch ∈ state.1.inFlight, lost.number < batch.number

instance (state : SendCycle × List Submission) (event : SendEvent) :
    Decidable (FailsWithNothingLostBehind state event) :=
  inferInstanceAs (Decidable (event = .failure →
    ∀ lost ∈ state.1.evicted, ∀ batch ∈ state.1.inFlight, lost.number < batch.number))

/-- A send that fails brings no batch back that is older than an evicted one. Its batches
may be older if `requeue` evicts them again. -/
def BringsBackNothingOvertaken (limits : Limits) (state : SendCycle × List Submission)
    (event : SendEvent) : Prop :=
  event = .failure →
    ∀ lost ∈ state.1.evicted, ∀ batch ∈ state.1.inFlight,
      batch ∈ OldestFirst.kept len limits.bufferMaxMetrics
        (state.1.inFlight ++ state.1.state.batches) → lost.number < batch.number

theorem FailsWithNothingLostBehind.nothingOvertaken {limits : Limits}
    {state : SendCycle × List Submission} {event : SendEvent}
    (nothingLost : FailsWithNothingLostBehind state event) :
    BringsBackNothingOvertaken limits state event :=
  fun failed lost isLost batch out _ => nothingLost failed lost isLost batch out

/-- A send succeeds only if nothing has been evicted so far. -/
def DeliversBeforeEvictions (state : SendCycle × List Submission) (event : SendEvent) : Prop :=
  event = .success → state.1.evicted = []

/-! ## Numbers tell batches apart -/

private theorem disjoint_of_ordered {front back : List Submission}
    (ordered : ((front ++ back).map Submission.number).Pairwise (· < ·))
    {batch : Submission} (inBack : batch ∈ back) : batch ∉ front := by
  intro inFront
  rw [List.map_append, List.pairwise_append] at ordered
  exact Nat.lt_irrefl _ (ordered.2.2 _ (List.mem_map_of_mem inFront) _
    (List.mem_map_of_mem inBack))

private theorem filter_notMem_append {front back : List Submission}
    (ordered : ((front ++ back).map Submission.number).Pairwise (· < ·))
    {rest : List Submission} (isSuffix : rest <:+ front) :
    (rest ++ back).filter (fun batch => batch ∉ front) = back := by
  rw [List.filter_append]
  have none : rest.filter (fun batch => batch ∉ front) = [] := by
    apply List.filter_eq_nil_iff.mpr
    intro batch member
    simpa using isSuffix.subset member
  have all : back.filter (fun batch => batch ∉ front) = back := by
    apply List.filter_eq_self.mpr
    intro batch member
    simpa using disjoint_of_ordered ordered member
  rw [none, all, List.nil_append]

/-! ## The simulation -/

/-- What ties the ring to the cycle. `queue` is what the buffer would hold if
nothing had been evicted since the last pop. -/
structure Tracks (limits : Limits) (cycle : SendCycle) (ring queue : List Submission) : Prop where
  buffered : cycle.state.batches = OldestFirst.kept len limits.bufferMaxMetrics queue
  ring_eq : ring = OldestFirst.kept len limits.bufferMaxMetrics (cycle.inFlight ++ queue)
  ordered : ((cycle.inFlight ++ queue).map Submission.number).Pairwise (· < ·)
  lost : ∀ batch ∈ OldestFirst.evicted len limits.bufferMaxMetrics queue,
    batch ∈ cycle.evicted
  older : ∀ lost ∈ cycle.evicted, ∀ batch ∈ cycle.state.batches, lost.number < batch.number
  below : ∀ batch ∈ queue, batch.number < cycle.submitted.length

theorem initial_tracks (limits : Limits) : Tracks limits initial [] [] where
  buffered := rfl
  ring_eq := rfl
  ordered := List.Pairwise.nil
  lost := by simp [OldestFirst.evicted]
  older := by simp [initial]
  below := by simp

namespace Tracks

variable {limits : Limits} {cycle : SendCycle} {ring queue : List Submission}

/-- Between sends the ring is the buffer. -/
theorem ring_eq_batches (tracks : Tracks limits cycle ring queue) (idle : cycle.inFlight = []) :
    ring = cycle.state.batches := by
  rw [tracks.ring_eq, idle, List.nil_append, tracks.buffered]

private theorem evicted_number_lt (valid : cycle.Valid limits) {batch : Submission}
    (member : batch ∈ cycle.evicted) : batch.number < cycle.submitted.length := by
  apply valid.number_lt
  apply valid.accounted.subset
  simp [member]

/-- A cut separates older from newer. -/
private theorem evicted_lt_kept {batches : List Submission} {capacity : Nat}
    (ordered : (batches.map Submission.number).Pairwise (· < ·)) {lost batch : Submission}
    (isLost : lost ∈ OldestFirst.evicted len capacity batches)
    (isKept : batch ∈ OldestFirst.kept len capacity batches) : lost.number < batch.number := by
  rw [← OldestFirst.evicted_append_kept len capacity batches, List.map_append,
    List.pairwise_append] at ordered
  exact ordered.2.2 _ (List.mem_map_of_mem isLost) _ (List.mem_map_of_mem isKept)

theorem submit (tracks : Tracks limits cycle ring queue) (valid : cycle.Valid limits)
    {metrics : List Metric} (nonempty : metrics ≠ []) {next : SendCycle}
    (stepped : step limits cycle (.submit metrics) = some next) :
    Tracks limits next (ringStep limits cycle ring (.submit metrics))
      (queue ++ [cycle.nextSubmission metrics]) := by
  rw [step_submit valid nonempty] at stepped
  obtain rfl := Option.some.inj stepped
  have newest : (((cycle.inFlight ++ queue) ++ [cycle.nextSubmission metrics]).map
      Submission.number).Pairwise (· < ·) := by
    rw [List.map_append, List.pairwise_append]
    refine ⟨tracks.ordered, List.pairwise_singleton _ _, ?_⟩
    intro older olderMember newer newerMember
    obtain ⟨batch, member, rfl⟩ := List.mem_map.mp olderMember
    obtain rfl : newer = cycle.submitted.length := by simpa [nextSubmission] using newerMember
    rcases List.mem_append.mp member with out | queued
    · exact valid.live_number_lt (by simp [out])
    · exact tracks.below batch queued
  have orderedBatches : ((cycle.state.batches ++ [cycle.nextSubmission metrics]).map
      Submission.number).Pairwise (· < ·) := by
    refine List.Pairwise.sublist ?_ newest
    rw [tracks.buffered]
    exact (((OldestFirst.kept_suffix len _ queue).sublist.trans
      (List.sublist_append_right _ _)).append_right _).map _
  exact {
    buffered := by
      rw [BufferState.ofBatches_batches, tracks.buffered, OldestFirst.kept_kept_append]
    ring_eq := by
      rw [ringStep, if_neg nonempty, tracks.ring_eq, OldestFirst.kept_kept_append,
        List.append_assoc]
    ordered := by simpa using newest
    lost := by
      intro batch member
      rw [OldestFirst.evicted_append, ← tracks.buffered, List.mem_append] at member
      exact List.mem_append.mpr (member.imp_left (tracks.lost batch))
    older := by
      intro lost isLost batch isKept
      have present := (OldestFirst.kept_suffix len _ _).subset isKept
      rcases List.mem_append.mp isLost with before | cut
      · rcases List.mem_append.mp present with old | new
        · exact tracks.older lost before batch old
        · obtain rfl := List.mem_singleton.mp new
          exact evicted_number_lt valid before
      · exact evicted_lt_kept orderedBatches cut isKept
    below := by
      intro batch member
      rw [List.length_append, List.length_singleton]
      rcases List.mem_append.mp member with queued | new
      · exact Nat.lt_succ_of_lt (tracks.below batch queued)
      · obtain rfl := List.mem_singleton.mp new
        exact Nat.lt_succ_self _ }

theorem popForSend (tracks : Tracks limits cycle ring queue) (valid : cycle.Valid limits)
    {next : SendCycle} (stepped : step limits cycle .popForSend = some next) :
    Tracks limits next (ringStep limits cycle ring .popForSend) next.state.batches := by
  have idle : cycle.inFlight = [] := by
    by_contra sending
    simp [step, sending] at stepped
  have whole := tracks.ring_eq_batches idle
  have nextValid := popForSend_valid valid stepped
  rw [step_popForSend valid idle] at stepped
  obtain rfl := Option.some.inj stepped
  have fits : OldestFirst.total len (cycle.state.batches.drop
      (BufferState.popCount limits.requestMaxMetrics 0 cycle.state.batches)) ≤
        limits.bufferMaxMetrics := nextValid.bounded
  exact {
    buffered := by rw [BufferState.ofBatches_batches, OldestFirst.kept_of_fits len fits]
    ring_eq := by
      rw [BufferState.ofBatches_batches, List.take_append_drop, ringStep, whole,
        OldestFirst.kept_of_fits len valid.bounded]
    ordered := by
      rw [BufferState.ofBatches_batches, List.take_append_drop]
      have ordered := tracks.ordered
      rw [idle, List.nil_append] at ordered
      rw [tracks.buffered]
      exact List.Pairwise.sublist ((OldestFirst.kept_suffix len _ queue).sublist.map _) ordered
    lost := by
      rw [BufferState.ofBatches_batches, OldestFirst.evicted_of_fits len fits]
      simp
    older := fun lost isLost batch member =>
      tracks.older lost isLost batch (List.mem_of_mem_drop member)
    below := fun _ member => nextValid.buffered_number_lt member }

theorem success (tracks : Tracks limits cycle ring queue) {next : SendCycle}
    (stepped : step limits cycle .success = some next) :
    Tracks limits next (ringStep limits cycle ring .success) queue := by
  have sending : cycle.inFlight ≠ [] := by
    intro idle
    simp [step, idle] at stepped
  rw [step_success sending] at stepped
  obtain rfl := Option.some.inj stepped
  have queueOrdered : (queue.map Submission.number).Pairwise (· < ·) :=
    List.Pairwise.sublist ((List.sublist_append_right _ _).map _) tracks.ordered
  exact {
    buffered := tracks.buffered
    ring_eq := by
      rw [ringStep, tracks.ring_eq, List.nil_append]
      by_cases fits : OldestFirst.total len queue ≤ limits.bufferMaxMetrics
      · obtain ⟨rest, isSuffix, equal⟩ :=
          OldestFirst.kept_append_of_fits len fits cycle.inFlight
        rw [equal, OldestFirst.kept_of_fits len fits]
        exact filter_notMem_append tracks.ordered isSuffix
      · rw [OldestFirst.kept_append_of_not_fits len (Nat.lt_of_not_le fits)]
        have keptOrdered := ordered_of_suffix
          (OldestFirst.kept_suffix len limits.bufferMaxMetrics queue) tracks.ordered
        exact filter_notMem_append keptOrdered List.nil_suffix
    ordered := by simpa using queueOrdered
    lost := tracks.lost
    older := tracks.older
    below := tracks.below }

/-- Of a buffer that has been cut since the pop, a failure that brings nothing overtaken
back puts nothing in front, and neither does the ring. -/
private theorem ring_of_failure (tracks : Tracks limits cycle ring queue)
    (valid : cycle.Valid limits)
    (nothingOvertaken : ∀ lost ∈ cycle.evicted, ∀ batch ∈ cycle.inFlight,
      batch ∈ OldestFirst.kept len limits.bufferMaxMetrics
        (cycle.inFlight ++ cycle.state.batches) → lost.number < batch.number) :
    ring = OldestFirst.kept len limits.bufferMaxMetrics
      (cycle.inFlight ++ cycle.state.batches) := by
  rw [tracks.ring_eq]
  by_cases fits : OldestFirst.total len queue ≤ limits.bufferMaxMetrics
  · rw [tracks.buffered, OldestFirst.kept_of_fits len fits]
  · have cutSome : OldestFirst.evicted len limits.bufferMaxMetrics queue ≠ [] := by
      intro noCut
      have split := OldestFirst.evicted_append_kept len limits.bufferMaxMetrics queue
      rw [noCut, List.nil_append] at split
      exact fits (split ▸ OldestFirst.total_kept_le len limits.bufferMaxMetrics queue)
    obtain ⟨cut, isCut⟩ := List.exists_mem_of_ne_nil _ cutSome
    have queued : cut ∈ queue := by
      rw [← OldestFirst.evicted_append_kept len limits.bufferMaxMetrics queue]
      exact List.mem_append_left _ isCut
    obtain ⟨rest, isSuffix, putBack⟩ :=
      OldestFirst.kept_append_of_fits len valid.bounded cycle.inFlight
    -- the cut batch is newer than every batch that is out
    have nothing : rest = [] := by
      apply List.eq_nil_iff_forall_not_mem.mpr
      intro batch member
      have out := isSuffix.subset member
      have ordered := tracks.ordered
      rw [List.map_append, List.pairwise_append] at ordered
      have newer := ordered.2.2 _ (List.mem_map_of_mem out) _ (List.mem_map_of_mem queued)
      have older := nothingOvertaken cut (tracks.lost cut isCut) batch out
        (putBack ▸ List.mem_append_left _ member)
      exact Nat.lt_asymm newer older
    rw [putBack, nothing, List.nil_append,
      OldestFirst.kept_append_of_not_fits len (Nat.lt_of_not_le fits), ← tracks.buffered]

/-- The one step that needs the condition. -/
theorem failure (tracks : Tracks limits cycle ring queue) (valid : cycle.Valid limits)
    (nothingOvertaken : ∀ lost ∈ cycle.evicted, ∀ batch ∈ cycle.inFlight,
      batch ∈ OldestFirst.kept len limits.bufferMaxMetrics
        (cycle.inFlight ++ cycle.state.batches) → lost.number < batch.number)
    {next : SendCycle} (stepped : step limits cycle .failure = some next) :
    Tracks limits next (ringStep limits cycle ring .failure) next.state.batches := by
  have sending : cycle.inFlight ≠ [] := by
    intro idle
    simp [step, idle] at stepped
  have nextValid := failure_valid valid stepped
  rw [step_failure valid sending] at stepped
  obtain rfl := Option.some.inj stepped
  have ordered : ((cycle.inFlight ++ cycle.state.batches).map
      Submission.number).Pairwise (· < ·) := by
    refine List.Pairwise.sublist ?_ tracks.ordered
    rw [tracks.buffered]
    exact ((OldestFirst.kept_suffix len _ queue).sublist.append_left _).map _
  have keptFits := OldestFirst.total_kept_le len limits.bufferMaxMetrics
    (cycle.inFlight ++ cycle.state.batches)
  exact {
    buffered := by rw [BufferState.ofBatches_batches, OldestFirst.kept_of_fits len keptFits]
    ring_eq := by
      rw [BufferState.ofBatches_batches, List.nil_append, OldestFirst.kept_of_fits len keptFits,
        ringStep, ← tracks.ring_of_failure valid nothingOvertaken]
    ordered := by
      rw [List.nil_append, BufferState.ofBatches_batches]
      exact List.Pairwise.sublist ((OldestFirst.kept_suffix len _ _).sublist.map _) ordered
    lost := by
      rw [BufferState.ofBatches_batches, OldestFirst.evicted_of_fits len keptFits]
      simp
    older := by
      intro lost isLost batch isKept
      have present := (OldestFirst.kept_suffix len _ _).subset isKept
      rcases List.mem_append.mp isLost with before | cut
      · rcases List.mem_append.mp present with out | buffered
        · exact nothingOvertaken lost before batch out isKept
        · exact tracks.older lost before batch buffered
      · exact evicted_lt_kept ordered cut isKept
    below := fun _ member => nextValid.buffered_number_lt member }

end Tracks

/-- A valid cycle together with the ring that follows it. -/
def Tracked (limits : Limits) (state : SendCycle × List Submission) : Prop :=
  state.1.Valid limits ∧ ∃ queue, Tracks limits state.1 state.2 queue

theorem initial_tracked (limits : Limits) : Tracked limits (initial, []) :=
  ⟨initial_valid limits, [], initial_tracks limits⟩

theorem step_tracked {limits : Limits} {state next : SendCycle × List Submission}
    {event : SendEvent} (tracked : Tracked limits state)
    (nothingOvertaken : BringsBackNothingOvertaken limits state event)
    (stepped : (withRing limits).step state event = some next) : Tracked limits next := by
  obtain ⟨valid, queue, tracks⟩ := tracked
  obtain ⟨cycle, cycleStepped, rfl⟩ := Option.map_eq_some_iff.mp stepped
  refine ⟨step_valid valid cycleStepped, ?_⟩
  cases event with
  | submit metrics =>
      by_cases isEmpty : metrics = []
      · subst isEmpty
        rw [step_submit_empty] at cycleStepped
        obtain rfl := Option.some.inj cycleStepped
        exact ⟨queue, by simpa [ringStep] using tracks⟩
      · exact ⟨_, tracks.submit valid isEmpty cycleStepped⟩
  | popForSend => exact ⟨_, tracks.popForSend valid cycleStepped⟩
  | success => exact ⟨_, tracks.success cycleStepped⟩
  | failure => exact ⟨_, tracks.failure valid (nothingOvertaken rfl) cycleStepped⟩

/-! ## The buffer among the undelivered batches -/

private theorem submitted_ordered {limits : Limits} {cycle : SendCycle}
    (valid : cycle.Valid limits) :
    (cycle.submitted.map Submission.number).Pairwise (· < ·) :=
  valid.numbered ▸ List.pairwise_lt_range

private theorem undelivered_ordered {limits : Limits} {cycle : SendCycle}
    (valid : cycle.Valid limits) :
    ((undelivered cycle).map Submission.number).Pairwise (· < ·) :=
  List.Pairwise.sublist (List.filter_sublist.map _) (submitted_ordered valid)

private theorem nodup_of_ordered {batches : List Submission}
    (ordered : (batches.map Submission.number).Pairwise (· < ·)) : batches.Nodup :=
  List.Nodup.of_map Submission.number (ordered.imp Nat.ne_of_lt)

/-- Two lists in submission order with the same batches are one list. -/
private theorem eq_of_ordered {left right : List Submission}
    (leftOrdered : (left.map Submission.number).Pairwise (· < ·))
    (rightOrdered : (right.map Submission.number).Pairwise (· < ·))
    (same : ∀ batch, batch ∈ left ↔ batch ∈ right) : left = right := by
  have perm : left.Perm right := (List.perm_ext_iff_of_nodup (nodup_of_ordered leftOrdered)
    (nodup_of_ordered rightOrdered)).mpr same
  have leftSorted : left.Pairwise fun earlier later => earlier.number < later.number :=
    List.pairwise_map.mp leftOrdered
  have rightSorted : right.Pairwise fun earlier later => earlier.number < later.number :=
    List.pairwise_map.mp rightOrdered
  refine List.Perm.eq_of_pairwise ?_ leftSorted rightSorted perm
  intro earlier later _ _ below above
  exact absurd below (Nat.lt_asymm above)

private theorem mem_undelivered {limits : Limits} {cycle : SendCycle}
    (valid : cycle.Valid limits) {batch : Submission} :
    batch ∈ undelivered cycle ↔
      batch ∈ cycle.evicted ∨ batch ∈ cycle.inFlight ∨ batch ∈ cycle.state.batches := by
  have places := valid.accounted.nodup_iff.mpr valid.submitted_nodup
  have member := valid.accounted.mem_iff (a := batch)
  simp only [List.append_assoc, List.nodup_append', List.mem_append] at places member
  rw [undelivered, List.mem_filter, decide_eq_true_eq, ← member]
  have disjoint : batch ∈ cycle.delivered →
      ¬ (batch ∈ cycle.evicted ∨ batch ∈ cycle.inFlight ∨ batch ∈ cycle.state.batches) := by
    intro isDelivered elsewhere
    exact places.2.2 isDelivered (by simpa using elsewhere)
  constructor
  · intro stays
    exact stays.1.resolve_left stays.2
  · intro elsewhere
    exact ⟨Or.inr elsewhere, fun isDelivered => disjoint isDelivered elsewhere⟩

/-- In a tracked state between sends the buffer closes the list of undelivered
batches: what is missing from it is older than what is in it. -/
theorem batches_suffix_undelivered {limits : Limits} {cycle : SendCycle}
    {ring queue : List Submission} (valid : cycle.Valid limits)
    (tracks : Tracks limits cycle ring queue) (idle : cycle.inFlight = []) :
    cycle.state.batches <:+ undelivered cycle := by
  let lost := cycle.submitted.filter fun batch => batch ∈ cycle.evicted
  have lostIsEvicted : ∀ batch ∈ lost, batch ∈ cycle.evicted := by
    intro batch member
    simpa using (List.mem_filter.mp member).2
  have evictedIsLost : ∀ batch ∈ cycle.evicted, batch ∈ lost := by
    intro batch member
    refine List.mem_filter.mpr ⟨valid.accounted.subset ?_, by simpa using member⟩
    simp [member]
  have batchesOrdered : (cycle.state.batches.map Submission.number).Pairwise (· < ·) :=
    List.Pairwise.sublist
      ((List.sublist_append_of_sublist_right (List.sublist_append_right _ _)).map _) valid.ordered
  have split : undelivered cycle = lost ++ cycle.state.batches := by
    apply eq_of_ordered (undelivered_ordered valid)
    · rw [List.map_append, List.pairwise_append]
      refine ⟨List.Pairwise.sublist (List.filter_sublist.map _) (submitted_ordered valid),
        batchesOrdered, ?_⟩
      intro older olderMember newer newerMember
      obtain ⟨lostBatch, isLost, rfl⟩ := List.mem_map.mp olderMember
      obtain ⟨batch, isKept, rfl⟩ := List.mem_map.mp newerMember
      exact tracks.older lostBatch (lostIsEvicted lostBatch isLost) batch isKept
    · intro batch
      rw [mem_undelivered valid, List.mem_append, idle]
      constructor
      · rintro (isEvicted | isOut | isKept)
        · exact Or.inl (evictedIsLost batch isEvicted)
        · simp at isOut
        · exact Or.inr isKept
      · rintro (isLost | isKept)
        · exact Or.inl (lostIsEvicted batch isLost)
        · exact Or.inr (Or.inr isKept)
  exact ⟨lost, split.symm⟩

private theorem undelivered_submit {limits : Limits} {cycle next : SendCycle}
    (valid : cycle.Valid limits) {metrics : List Metric} (nonempty : metrics ≠ [])
    (stepped : step limits cycle (.submit metrics) = some next) :
    undelivered next = undelivered cycle ++ [cycle.nextSubmission metrics] := by
  rw [step_submit valid nonempty] at stepped
  obtain rfl := Option.some.inj stepped
  have fresh : cycle.nextSubmission metrics ∉ cycle.delivered := by
    intro isDelivered
    have below := valid.live_number_lt (List.mem_append_left _ isDelivered)
    exact Nat.lt_irrefl _ below
  simp [undelivered, List.filter_append, fresh]

/-- While nothing has been evicted, what is undelivered is out or in the buffer. -/
private theorem undelivered_of_noneEvicted {limits : Limits} {cycle : SendCycle}
    (valid : cycle.Valid limits) (noneEvicted : cycle.evicted = []) :
    undelivered cycle = cycle.inFlight ++ cycle.state.batches := by
  apply eq_of_ordered (undelivered_ordered valid)
  · exact List.Pairwise.sublist ((List.sublist_append_right _ _).map _) valid.ordered
  · intro batch
    rw [mem_undelivered valid, noneEvicted]
    simp

/-- The ring holds all that fits of the undelivered batches. -/
private theorem step_ring_longest {limits : Limits} {state next : SendCycle × List Submission}
    {event : SendEvent} (tracked : Tracked limits state)
    (longest : state.2 = OldestFirst.kept len limits.bufferMaxMetrics (undelivered state.1))
    (early : DeliversBeforeEvictions state event)
    (stepped : (withRing limits).step state event = some next) :
    next.2 = OldestFirst.kept len limits.bufferMaxMetrics (undelivered next.1) := by
  obtain ⟨cycle, ring⟩ := state
  obtain ⟨valid, queue, tracks⟩ := tracked
  obtain ⟨nextCycle, taken, rfl⟩ := Option.map_eq_some_iff.mp stepped
  change step limits cycle event = some nextCycle at taken
  change ring = _ at longest
  change ringStep limits cycle ring event =
    OldestFirst.kept len limits.bufferMaxMetrics (undelivered nextCycle)
  cases event with
  | submit metrics =>
      by_cases isEmpty : metrics = []
      · subst isEmpty
        rw [step_submit_empty] at taken
        obtain rfl := Option.some.inj taken
        simpa [ringStep] using longest
      · rw [undelivered_submit valid isEmpty taken, ringStep, if_neg isEmpty, longest,
          OldestFirst.kept_kept_append]
  | popForSend =>
      by_cases idle : cycle.inFlight = []
      · rw [step_popForSend valid idle] at taken
        obtain rfl := Option.some.inj taken
        exact longest
      · simp [step, idle] at taken
  | success =>
      have nextValid := success_valid valid taken
      have nextTracks := tracks.success taken
      have noneEvicted : cycle.evicted = [] := early rfl
      by_cases idle : cycle.inFlight = []
      · simp [step, idle] at taken
      · rw [step_success idle] at taken
        obtain rfl := Option.some.inj taken
        rw [nextTracks.ring_eq_batches rfl, undelivered_of_noneEvicted nextValid noneEvicted,
          List.nil_append, OldestFirst.kept_of_fits len nextValid.bounded]
  | failure =>
      by_cases idle : cycle.inFlight = []
      · simp [step, idle] at taken
      · rw [step_failure valid idle] at taken
        obtain rfl := Option.some.inj taken
        exact longest

private def HoldsLongest (limits : Limits) (state : SendCycle × List Submission) : Prop :=
  Tracked limits state ∧
    state.2 = OldestFirst.kept len limits.bufferMaxMetrics (undelivered state.1)

private theorem initial_holdsLongest (limits : Limits) : HoldsLongest limits (initial, []) :=
  ⟨initial_tracked limits, rfl⟩

private theorem step_holdsLongest {limits : Limits} {state next : SendCycle × List Submission}
    {event : SendEvent} (holds : HoldsLongest limits state)
    (nothingLost : FailsWithNothingLostBehind state event)
    (early : DeliversBeforeEvictions state event)
    (stepped : (withRing limits).step state event = some next) : HoldsLongest limits next :=
  ⟨step_tracked holds.1 nothingLost.nothingOvertaken stepped, step_ring_longest holds.1 holds.2 early stepped⟩

/-- The two act as one ring as long as no failed send brings back what an evicted batch
has overtaken. -/
theorem withRing_run_ring (limits : Limits) {events : List SendEvent} {cycle : SendCycle}
    {ring : List Submission}
    (ran : (withRing limits).run (initial, []) events = some (cycle, ring))
    (nothingOvertaken :
      (withRing limits).Along (BringsBackNothingOvertaken limits) (initial, []) events)
    (idle : cycle.inFlight = []) :
    cycle.state.batches = ring ∧
      cycle.state.batches <:+ undelivered cycle ∧
      OldestFirst.total len cycle.state.batches ≤ limits.bufferMaxMetrics ∧
      ∀ lost ∈ cycle.evicted, ∀ batch ∈ cycle.state.batches, lost.number < batch.number := by
  obtain ⟨valid, queue, tracks⟩ := (withRing limits).run_invariant_along
    (fun tracked condition stepped => step_tracked tracked condition stepped)
    (initial_tracked limits) nothingOvertaken ran
  exact ⟨(tracks.ring_eq_batches idle).symm, batches_suffix_undelivered valid tracks idle,
    valid.bounded, tracks.older⟩

/-- As long as no send fails with something lost behind it, overflow evicts
oldest first. The last part is the one that deliveries after an eviction end:
a batch that is gone does not come back when room is made. -/
theorem withRing_run_oldestFirst (limits : Limits) {events : List SendEvent}
    {cycle : SendCycle} {ring : List Submission}
    (ran : (withRing limits).run (initial, []) events = some (cycle, ring))
    (nothingLost : (withRing limits).Along FailsWithNothingLostBehind (initial, []) events)
    (idle : cycle.inFlight = []) :
    cycle.state.batches = ring ∧
      cycle.state.batches <:+ undelivered cycle ∧
      OldestFirst.total len cycle.state.batches ≤ limits.bufferMaxMetrics ∧
      (∀ lost ∈ cycle.evicted, ∀ batch ∈ cycle.state.batches, lost.number < batch.number) ∧
      ((withRing limits).Along DeliversBeforeEvictions (initial, []) events →
        ∀ candidate, candidate <:+ undelivered cycle →
          OldestFirst.total len candidate ≤ limits.bufferMaxMetrics →
            candidate <:+ cycle.state.batches) := by
  obtain ⟨isRing, isSuffix, bounded, older⟩ := withRing_run_ring limits ran
    (nothingLost.imp fun condition => condition.nothingOvertaken) idle
  refine ⟨isRing, isSuffix, bounded, older, ?_⟩
  intro early candidate isCandidate fits
  have kept := (withRing limits).run_invariant_along
    (fun held condition stepped => step_holdsLongest held condition.1 condition.2 stepped)
    (initial_holdsLongest limits) (nothingLost.and early) ran
  have ringIsKept : ring = OldestFirst.kept len limits.bufferMaxMetrics (undelivered cycle) :=
    kept.2
  rw [isRing, ringIsKept]
  exact OldestFirst.suffix_kept_of_fits len isCandidate fits

/-- A failed send with nothing behind it, and an overflow that comes later. -/
def overflowAfterSend : List SendEvent :=
  [.submit (sampleBatch 1), .submit (sampleBatch 6), .popForSend, .failure,
    .submit (sampleBatch 5)]

theorem withRing_run_oldestFirst_overflow :
    ∃ cycle ring, (withRing sampleLimits).run (initial, []) overflowAfterSend =
        some (cycle, ring) ∧
      cycle.state.batches = ring ∧ cycle.state.batches <:+ undelivered cycle := by
  have reached : (withRing sampleLimits).run (initial, []) overflowAfterSend = some _ := rfl
  have nothingLost : (withRing sampleLimits).Along FailsWithNothingLostBehind (initial, [])
      overflowAfterSend := by
    decide
  have result := withRing_run_oldestFirst sampleLimits reached nothingLost rfl
  exact ⟨_, _, reached, result.1, result.2.1⟩

/-- An evicted batch that would fit again once a newer one has been delivered. -/
def deliverAfterOverflow : List SendEvent :=
  [.submit (sampleBatch 6), .submit (sampleBatch 5), .popForSend, .success]

theorem oldestFirst_fails :
    (∃ cycle, (machine sampleLimits).run initial deliverAfterOverflow = some cycle ∧
      cycle.inFlight = [] ∧
      ∃ candidate, candidate <:+ undelivered cycle ∧
        OldestFirst.total len candidate ≤ sampleLimits.bufferMaxMetrics ∧
          ¬ candidate <:+ cycle.state.batches) ∧
    (∃ cycle, (machine sampleLimits).run initial overflowBehindSend = some cycle ∧
      cycle.inFlight = [] ∧
      ∃ lost ∈ cycle.evicted, ∃ batch ∈ cycle.state.batches, batch.number < lost.number) := by
  refine ⟨⟨_, rfl, rfl, undelivered _, List.suffix_refl _, ?_, ?_⟩, ⟨_, rfl, rfl, ?_⟩⟩
  · decide
  · decide
  · decide

end Ferrometer.Forwarder.Otlphttp.SendCycle
