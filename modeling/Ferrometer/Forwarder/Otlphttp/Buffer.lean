import Ferrometer.Foundation.OldestFirst
import Ferrometer.Signal

/-!
Contract: the in-memory buffer of `OtlphttpForwarder` and the three operations
that take its mutex.

Owns: `submit`, `popForSend` and `requeue` as the code computes them, with the
running metric count and its checked subtractions, and one law for each
operation that says what it does to a balanced buffer.

Does not own: which operation runs when, or what becomes of a popped batch.

The operations read nothing of a batch but its length, so they are stated for
any type of batch with a length. The code's batches are lists of metrics.
-/

set_option autoImplicit false

namespace Ferrometer.Forwarder.Otlphttp

open Ferrometer.Foundation

/-- `Vec::len`, the one thing the buffer reads of a batch. -/
class VecLen (Batch : Type) where
  len : Batch → Nat

export VecLen (len)

instance : VecLen (List Metric) where
  len := List.length

/-- The batches, oldest first, and the running count of their metrics. -/
structure BufferState (Batch : Type) where
  batches : List Batch
  totalMetrics : Nat
deriving DecidableEq

namespace BufferState

variable {Batch : Type} [VecLen Batch]

def new : BufferState Batch where
  batches := []
  totalMetrics := 0

/-- `usize` subtraction. `none` is an underflow: a panic in a debug build and a
wrapped count in a release build. -/
def checkedSub (left right : Nat) : Option Nat :=
  if right ≤ left then some (left - right) else none

/-- `while total_metrics > buffer_max_metrics`, the loop that ends both `submit`
and `requeue`. The batches it lets go of are returned next to the state. -/
def dropOverflow (bufferMaxMetrics : Nat) :
    List Batch → Nat → Option (List Batch × BufferState Batch)
  | [], totalMetrics => some ([], ⟨[], totalMetrics⟩)
  | front :: rest, totalMetrics =>
      if totalMetrics > bufferMaxMetrics then do
        let totalMetrics ← checkedSub totalMetrics (len front)
        let (dropped, state) ← dropOverflow bufferMaxMetrics rest totalMetrics
        some (front :: dropped, state)
      else some ([], ⟨front :: rest, totalMetrics⟩)

def submit (bufferMaxMetrics : Nat) (state : BufferState Batch) (metrics : Batch) :
    Option (List Batch × BufferState Batch) :=
  if len metrics = 0 then some ([], state)
  else
    dropOverflow bufferMaxMetrics (state.batches ++ [metrics])
      (state.totalMetrics + len metrics)

/-- The loop of `popForSend`, with `taken` and `popped` as it carries them. -/
def popLoop (requestMaxMetrics : Nat) (taken : Nat) (popped : List Batch) :
    List Batch → Nat → Option (List Batch × BufferState Batch)
  | [], totalMetrics => some (popped, ⟨[], totalMetrics⟩)
  | front :: rest, totalMetrics =>
      if taken > 0 ∧ taken + len front > requestMaxMetrics then
        some (popped, ⟨front :: rest, totalMetrics⟩)
      else do
        let totalMetrics ← checkedSub totalMetrics (len front)
        if taken + len front ≥ requestMaxMetrics then
          some (popped ++ [front], ⟨rest, totalMetrics⟩)
        else
          popLoop requestMaxMetrics (taken + len front) (popped ++ [front]) rest totalMetrics

/-- The popped batches in FIFO order, and the state that is left. -/
def popForSend (requestMaxMetrics : Nat) (state : BufferState Batch) :
    Option (List Batch × BufferState Batch) :=
  popLoop requestMaxMetrics 0 [] state.batches state.totalMetrics

def pushFront (state : BufferState Batch) (batch : Batch) : BufferState Batch where
  batches := batch :: state.batches
  totalMetrics := state.totalMetrics + len batch

def requeue (bufferMaxMetrics : Nat) (state : BufferState Batch) (popped : List Batch) :
    Option (List Batch × BufferState Batch) :=
  let state := popped.reverse.foldl pushFront state
  dropOverflow bufferMaxMetrics state.batches state.totalMetrics

/-! ## Laws -/

/-- `total_metrics` is the sum of the lengths of the buffered batches. -/
def Balanced (state : BufferState Batch) : Prop :=
  state.totalMetrics = OldestFirst.total len state.batches

/-- The buffer that holds `batches` and counts them correctly. -/
def ofBatches (batches : List Batch) : BufferState Batch where
  batches := batches
  totalMetrics := OldestFirst.total len batches

@[simp] theorem ofBatches_batches (batches : List Batch) :
    (ofBatches batches).batches = batches := rfl

theorem ofBatches_balanced (batches : List Batch) : (ofBatches batches).Balanced := rfl

theorem Balanced.eq_ofBatches {state : BufferState Batch} (balanced : state.Balanced) :
    state = ofBatches state.batches := by
  obtain ⟨batches, totalMetrics⟩ := state
  exact congrArg (BufferState.mk batches) balanced

private theorem checkedSub_add (left right : Nat) :
    checkedSub (left + right) left = some right := by
  simp [checkedSub]

/-- On a correct count the overflow loop never underflows, and what it leaves is
the longest suffix of the batches that fits. -/
theorem dropOverflow_eq (bufferMaxMetrics : Nat) (batches : List Batch) :
    dropOverflow bufferMaxMetrics batches (OldestFirst.total len batches) =
      some (OldestFirst.evicted len bufferMaxMetrics batches,
        ofBatches (OldestFirst.kept len bufferMaxMetrics batches)) := by
  induction batches with
  | nil => rfl
  | cons front rest inductionHypothesis =>
      unfold dropOverflow OldestFirst.evicted OldestFirst.kept
      by_cases fits : OldestFirst.total len (front :: rest) ≤ bufferMaxMetrics
      · rw [if_neg (Nat.not_lt.mpr fits), if_pos fits, if_pos fits]
        rfl
      · rw [if_pos (Nat.lt_of_not_le fits), if_neg fits, if_neg fits,
          OldestFirst.total_cons, checkedSub_add]
        simp only [Option.bind_eq_bind, Option.bind_some, inductionHypothesis]

theorem submit_empty (bufferMaxMetrics : Nat) (state : BufferState Batch) {metrics : Batch}
    (isEmpty : len metrics = 0) :
    submit bufferMaxMetrics state metrics = some ([], state) := by
  rw [submit, if_pos isEmpty]

theorem submit_eq (bufferMaxMetrics : Nat) {state : BufferState Batch} {metrics : Batch}
    (balanced : state.Balanced) (nonempty : len metrics ≠ 0) :
    submit bufferMaxMetrics state metrics =
      some (OldestFirst.evicted len bufferMaxMetrics (state.batches ++ [metrics]),
        ofBatches (OldestFirst.kept len bufferMaxMetrics (state.batches ++ [metrics]))) := by
  have counted : state.totalMetrics + len metrics =
      OldestFirst.total len (state.batches ++ [metrics]) := by
    rw [OldestFirst.total_append, OldestFirst.total_cons, OldestFirst.total_nil, Nat.add_zero,
      balanced]
  rw [submit, if_neg nonempty, counted, dropOverflow_eq]

private theorem foldl_pushFront (state : BufferState Batch) (popped : List Batch)
    (balanced : state.Balanced) :
    popped.reverse.foldl pushFront state = ofBatches (popped ++ state.batches) := by
  induction popped with
  | nil => exact balanced.eq_ofBatches
  | cons front rest inductionHypothesis =>
      rw [List.reverse_cons, List.foldl_append, inductionHypothesis]
      simp [pushFront, ofBatches, Nat.add_comm]

/-- `requeue` puts the popped batches back in front and cuts the whole to size. -/
theorem requeue_eq (bufferMaxMetrics : Nat) {state : BufferState Batch}
    (balanced : state.Balanced) (popped : List Batch) :
    requeue bufferMaxMetrics state popped =
      some (OldestFirst.evicted len bufferMaxMetrics (popped ++ state.batches),
        ofBatches (OldestFirst.kept len bufferMaxMetrics (popped ++ state.batches))) := by
  rw [requeue, foldl_pushFront state popped balanced]
  exact dropOverflow_eq bufferMaxMetrics (popped ++ state.batches)

/-- How far `popLoop` reads into the batches, once `taken` metrics are in hand. -/
def popCount (requestMaxMetrics : Nat) : Nat → List Batch → Nat
  | _, [] => 0
  | taken, front :: rest =>
      if taken > 0 ∧ taken + len front > requestMaxMetrics then 0
      else if taken + len front ≥ requestMaxMetrics then 1
      else popCount requestMaxMetrics (taken + len front) rest + 1

private theorem popLoop_eq (requestMaxMetrics taken : Nat) (popped batches : List Batch) :
    popLoop requestMaxMetrics taken popped batches (OldestFirst.total len batches) =
      some (popped ++ batches.take (popCount requestMaxMetrics taken batches),
        ofBatches (batches.drop (popCount requestMaxMetrics taken batches))) := by
  induction batches generalizing taken popped with
  | nil => simp [popLoop, popCount, ofBatches]
  | cons front rest inductionHypothesis =>
      unfold popLoop popCount
      by_cases stops : taken > 0 ∧ taken + len front > requestMaxMetrics
      · rw [if_pos stops, if_pos stops]
        simp [ofBatches]
      · rw [if_neg stops, if_neg stops, OldestFirst.total_cons, checkedSub_add]
        simp only [Option.bind_eq_bind, Option.bind_some]
        by_cases full : taken + len front ≥ requestMaxMetrics
        · rw [if_pos full, if_pos full]
          simp [ofBatches]
        · rw [if_neg full, if_neg full, inductionHypothesis]
          simp

/-- On a correct count `popForSend` splits the buffer at `popCount`. -/
theorem popForSend_eq (requestMaxMetrics : Nat) {state : BufferState Batch}
    (balanced : state.Balanced) :
    popForSend requestMaxMetrics state =
      some (state.batches.take (popCount requestMaxMetrics 0 state.batches),
        ofBatches (state.batches.drop (popCount requestMaxMetrics 0 state.batches))) := by
  rw [popForSend, balanced, popLoop_eq, List.nil_append]

/-- The first batch is always taken. -/
theorem popCount_pos (requestMaxMetrics : Nat) {batches : List Batch} (nonempty : batches ≠ []) :
    0 < popCount requestMaxMetrics 0 batches := by
  cases batches with
  | nil => exact absurd rfl nonempty
  | cons front rest =>
      rw [popCount, if_neg (fun stops => absurd stops.1 (Nat.lt_irrefl 0))]
      split <;> omega

/-- Once something is in hand, the loop takes nothing past the request limit. -/
private theorem taken_add_popCount_le (requestMaxMetrics : Nat) {taken : Nat}
    (started : 0 < taken) (below : taken ≤ requestMaxMetrics) (batches : List Batch) :
    taken + OldestFirst.total len (batches.take (popCount requestMaxMetrics taken batches)) ≤
      requestMaxMetrics := by
  induction batches generalizing taken with
  | nil => simpa [popCount] using below
  | cons front rest inductionHypothesis =>
      unfold popCount
      split
      · simpa using below
      · rename_i continues
        have room : taken + len front ≤ requestMaxMetrics := by
          by_contra tooMuch
          exact continues ⟨started, Nat.lt_of_not_le tooMuch⟩
        split
        · simpa using room
        · have rest := inductionHypothesis (Nat.add_pos_left started (len front)) room
          simpa [Nat.add_assoc] using rest

/-- A popped prefix keeps to the request limit unless it is a single batch. -/
theorem total_popped_le (requestMaxMetrics : Nat) {batches : List Batch}
    (filled : ∀ batch ∈ batches, len batch ≠ 0) :
    OldestFirst.total len (batches.take (popCount requestMaxMetrics 0 batches)) ≤
        requestMaxMetrics ∨
      (batches.take (popCount requestMaxMetrics 0 batches)).length = 1 := by
  cases batches with
  | nil => simp
  | cons front rest =>
      rw [popCount, if_neg (fun stops => absurd stops.1 (Nat.lt_irrefl 0))]
      split
      · exact Or.inr (by simp)
      · rename_i below
        have started : 0 < 0 + len front := by
          have := filled front (by simp)
          omega
        have bounded := taken_add_popCount_le requestMaxMetrics started (by omega) rest
        exact Or.inl (by simpa using bounded)

private theorem eq_nil_of_total_eq_zero {batches : List Batch}
    (filled : ∀ batch ∈ batches, len batch ≠ 0)
    (weightless : OldestFirst.total len batches = 0) : batches = [] := by
  cases batches with
  | nil => rfl
  | cons front rest =>
      rw [OldestFirst.total_cons] at weightless
      exact absurd (Nat.eq_zero_of_add_eq_zero_right weightless) (filled front (by simp))

private theorem length_le_popCount_iff (requestMaxMetrics : Nat) {taken : Nat}
    (started : 0 < taken) {batches : List Batch} (filled : ∀ batch ∈ batches, len batch ≠ 0) :
    batches.length ≤ popCount requestMaxMetrics taken batches ↔
      batches = [] ∨ taken + OldestFirst.total len batches ≤ requestMaxMetrics := by
  induction batches generalizing taken with
  | nil => simp
  | cons front rest inductionHypothesis =>
      have filledRest : ∀ batch ∈ rest, len batch ≠ 0 :=
        fun batch member => filled batch (List.mem_cons_of_mem _ member)
      unfold popCount
      simp only [OldestFirst.total_cons, List.length_cons, reduceCtorEq, false_or]
      by_cases stops : taken > 0 ∧ taken + len front > requestMaxMetrics
      · rw [if_pos stops]
        omega
      · rw [if_neg stops]
        by_cases full : taken + len front ≥ requestMaxMetrics
        · rw [if_pos full]
          constructor
          · intro noRest
            have isEmpty : rest = [] := List.length_eq_zero_iff.mp (by omega)
            rw [isEmpty, OldestFirst.total_nil]
            omega
          · intro fits
            rw [eq_nil_of_total_eq_zero filledRest (by omega)]
            simp
        · rw [if_neg full, Nat.add_le_add_iff_right,
            inductionHypothesis (Nat.add_pos_left started _) filledRest, Nat.add_assoc]
          constructor
          · rintro (isEmpty | fits)
            · rw [isEmpty, OldestFirst.total_nil]
              omega
            · exact fits
          · exact Or.inr

/-- One pop empties the buffer exactly when it holds no second batch, or no more metrics
than a request may carry. -/
theorem drop_popCount_eq_nil_iff (requestMaxMetrics : Nat) {batches : List Batch}
    (filled : ∀ batch ∈ batches, len batch ≠ 0) :
    batches.drop (popCount requestMaxMetrics 0 batches) = [] ↔
      batches.length ≤ 1 ∨ OldestFirst.total len batches ≤ requestMaxMetrics := by
  rw [List.drop_eq_nil_iff]
  cases batches with
  | nil => simp
  | cons front rest =>
      have frontFilled : 0 < len front := Nat.pos_of_ne_zero (filled front (by simp))
      have filledRest : ∀ batch ∈ rest, len batch ≠ 0 :=
        fun batch member => filled batch (List.mem_cons_of_mem _ member)
      have onlyFront : rest = [] ↔ (front :: rest).length ≤ 1 := by simp
      rw [popCount, if_neg fun stops => absurd stops.1 (Nat.lt_irrefl 0), Nat.zero_add]
      by_cases full : len front ≥ requestMaxMetrics
      · rw [if_pos full, ← onlyFront, OldestFirst.total_cons]
        refine ⟨Or.inl, fun whole => whole.elim id fun fits => ?_⟩
        exact eq_nil_of_total_eq_zero filledRest (by omega)
      · rw [if_neg full, ← onlyFront, List.length_cons, Nat.add_le_add_iff_right,
          length_le_popCount_iff requestMaxMetrics frontFilled filledRest, OldestFirst.total_cons]

end BufferState

end Ferrometer.Forwarder.Otlphttp
