import Ferrometer.Log.Source.Journald

/-!
Contract: a source never loses sight of an entry.

Owns: that every function of the source, whether it succeeds or not, leaves a
journal that still has the entries it had.

Does not own: where the pointer is after a failure.
-/

set_option autoImplicit false

namespace Ferrometer.Log.JournaldSource

open Ferrometer.Config Ferrometer.Foundation Ferrometer.Foundation.Stateful

variable {api : JournalApi} (contract : JournalContract api)

/-- The journal has what it had, and the cursor file is the same. -/
def Grows (source next : JournaldSource api) : Prop :=
  contract.entries source.journal <+: contract.entries next.journal ∧
    next.cursorFile = source.cursorFile

variable {contract}

theorem Grows.refl (source : JournaldSource api) : Grows contract source source :=
  ⟨List.prefix_refl _, rfl⟩

theorem Grows.trans {first middle last : JournaldSource api}
    (before : Grows contract first middle) (after : Grows contract middle last) :
    Grows contract first last :=
  ⟨before.1.trans after.1, after.2.trans before.2⟩

variable (contract)

private theorem onJournal_grows {Value : Type} {explain : String → String}
    {call : Stateful api.Handle String Value}
    (grows : ∀ handle, contract.entries handle <+: contract.entries (call handle).1) :
    Relates (Grows contract) (onJournal explain call) :=
  fun source => ⟨grows source.journal, rfl⟩

theorem takeNext_grows : Relates (Grows contract) (takeNext) := by
  unfold takeNext
  apply relates_bind Grows.trans (relates_get Grows.refl)
  intro source
  split
  · exact relates_bind Grows.trans (relates_modify Grows.refl) fun _ =>
      relates_pure Grows.refl _
  · refine relates_bind Grows.trans (onJournal_grows contract contract.nextEntry_grows)
      fun record => ?_
    cases record with
    | none => exact relates_pure Grows.refl _
    | some record =>
        exact relates_bind Grows.trans (relates_ask Grows.refl _) fun _ =>
          relates_bind Grows.trans (relates_ask Grows.refl _) fun _ =>
            relates_pure Grows.refl _

theorem drainLoop_grows (room : Nat) (batch : Batch) :
    Relates (Grows contract) (drainLoop room batch) := by
  induction room generalizing batch with
  | zero => exact relates_pure Grows.refl _
  | succ room inductionHypothesis =>
      unfold drainLoop
      apply relates_bind Grows.trans (relates_get Grows.refl)
      intro source
      split
      · apply relates_bind Grows.trans (takeNext_grows contract)
        intro found
        cases found with
        | none => exact relates_pure Grows.refl _
        | some item =>
            simp only
            split
            · exact relates_bind Grows.trans (relates_modify Grows.refl) fun _ =>
                relates_pure Grows.refl _
            · exact inductionHypothesis _
      · exact relates_pure Grows.refl _

theorem drainAvailable_grows (batch : Batch) :
    Relates (Grows contract) (drainAvailable batch) :=
  relates_bind Grows.trans (relates_get Grows.refl) fun _ => drainLoop_grows contract _ _

theorem waitForJournalEvent_grows (readable : Except String Unit) :
    Relates (Grows contract) (waitForJournalEvent readable) :=
  relates_bind Grows.trans (relates_ask Grows.refl _) fun _ =>
    onJournal_grows contract contract.process_grows

theorem awaitFirst_grows (readable : List (Except String Unit)) (batch : Batch) :
    Relates (Grows contract) (awaitFirst readable batch) := by
  induction readable generalizing batch with
  | nil =>
      unfold awaitFirst
      split
      · exact relates_pure Grows.refl _
      · exact relates_pure Grows.refl _
  | cons event rest inductionHypothesis =>
      unfold awaitFirst
      split
      · exact relates_bind Grows.trans (waitForJournalEvent_grows contract event) fun _ =>
          relates_bind Grows.trans (drainAvailable_grows contract batch) inductionHypothesis
      · exact relates_pure Grows.refl _

theorem firstEntries_grows (readable : List (Except String Unit)) :
    Relates (Grows contract) (firstEntries readable) :=
  relates_bind Grows.trans (drainAvailable_grows contract {}) (awaitFirst_grows contract readable)

theorem coalesce_grows (deadline : Instant) (window : List Turn) (batch : Batch) :
    Relates (Grows contract) (coalesce deadline window batch) := by
  induction window generalizing batch with
  | nil =>
      unfold coalesce
      apply relates_bind Grows.trans (relates_get Grows.refl)
      intro source
      split
      · exact relates_pure Grows.refl _
      · exact relates_pure Grows.refl _
  | cons turn rest inductionHypothesis =>
      unfold coalesce
      apply relates_bind Grows.trans (relates_get Grows.refl)
      intro source
      split
      · simp only
        split
        · exact relates_pure Grows.refl _
        · split
          · exact relates_pure Grows.refl _
          · exact relates_bind Grows.trans (waitForJournalEvent_grows contract _) fun _ =>
              relates_bind Grows.trans (drainAvailable_grows contract batch) inductionHypothesis
      · exact relates_pure Grows.refl _

theorem positionToStart_grows : Relates (Grows contract) (positionToStart) := by
  unfold positionToStart
  apply relates_bind Grows.trans (relates_get Grows.refl)
  intro source
  have done : Relates (Grows contract) (Stateful.modify fun source : JournaldSource api =>
      { source with positioned := true } : Stateful (JournaldSource api) Error Unit) :=
    relates_modify Grows.refl
  split
  · refine relates_bind Grows.trans (relates_attempt (onJournal_grows contract fun handle =>
      contract.seekCursor_grows handle _)) fun sought => ?_
    split
    · exact relates_bind Grows.trans (onJournal_grows contract contract.seekTail_grows) fun _ =>
        done
    · exact relates_bind Grows.trans (onJournal_grows contract contract.next_grows) fun _ => done
  · exact relates_bind Grows.trans (onJournal_grows contract contract.seekTail_grows) fun _ =>
      relates_bind Grows.trans (onJournal_grows contract contract.previous_grows) fun _ => done

theorem fillWindow_grows (wakeups : Wakeups) (batchWait : Duration) (batch : Batch) :
    Relates (Grows contract) (fillWindow wakeups batchWait batch) := by
  unfold fillWindow
  split
  · exact relates_pure Grows.refl _
  · exact coalesce_grows contract _ _ _

theorem buildBatch_grows (wakeups : Wakeups) :
    Relates (Grows contract) (buildBatch wakeups) := by
  unfold buildBatch
  apply relates_bind Grows.trans (relates_get Grows.refl)
  intro source
  simp only
  split
  · apply relates_bind Grows.trans (positionToStart_grows contract)
    intro _
    apply relates_bind Grows.trans (firstEntries_grows contract _)
    intro first
    cases first with
    | none => exact relates_pure Grows.refl _
    | some batch => exact fillWindow_grows contract _ _ _
  · apply relates_bind Grows.trans (firstEntries_grows contract _)
    intro first
    cases first with
    | none => exact relates_pure Grows.refl _
    | some batch => exact fillWindow_grows contract _ _ _

theorem peekBatch_grows (callerHolds : Bool) (wakeups : Wakeups) :
    Relates (Grows contract) (peekBatch callerHolds wakeups) := by
  unfold peekBatch
  apply relates_bind Grows.trans (relates_get Grows.refl)
  intro source
  split
  · split
    · exact relates_pure Grows.refl _
    · refine relates_bind Grows.trans (relates_modify Grows.refl) fun _ =>
        relates_bind Grows.trans (relates_attempt (onJournal_grows contract contract.process_grows))
          fun _ => relates_bind Grows.trans (drainAvailable_grows contract _) fun _ =>
            relates_bind Grows.trans (relates_modify Grows.refl) fun _ => relates_pure Grows.refl _
  · apply relates_bind Grows.trans (buildBatch_grows contract wakeups)
    intro built
    cases built with
    | none => exact relates_pure Grows.refl _
    | some batch =>
        exact relates_bind Grows.trans (relates_modify Grows.refl) fun _ =>
          relates_pure Grows.refl _

end Ferrometer.Log.JournaldSource
