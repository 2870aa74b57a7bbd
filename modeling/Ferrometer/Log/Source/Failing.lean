import Ferrometer.Log.Source.Caps

/-!
Contract: what a peek that fails does to a journald source.

Owns: which entries are lost when a call of the journal fails, at any point of a
peek, and for which failures that is none.

Does not own: a failure to position the source. Nothing has been read then.
-/

set_option autoImplicit false

namespace Ferrometer.Log

open Ferrometer.Config Ferrometer.Foundation

variable {api : JournalApi}

/-- A `next_entry` that fails has made its step forward, or it has not. -/
def StepsOrStays (contract : JournalContract api) : Prop :=
  ∀ handle after message, api.nextEntry handle = (after, .error message) →
    contract.location after = contract.location handle ∨
      contract.location after = advance (contract.location handle) (contract.entries after)

namespace JournaldSource

/-! ## Model -/

/-- The next read fails, and leaves the pointer where it is. -/
structure ReadFails (contract : JournalContract api) (source : JournaldSource api) : Prop where
  room : source.batchSize ≠ 0
  pending : source.pending = none
  stays : ∃ after message, api.nextEntry source.journal = (after, .error message) ∧
    contract.location after = contract.location source.journal

/-- There is nothing to read for an empty batch. -/
def FindsNothing (source next : JournaldSource api) : Prop :=
  source.batchSize = 0 ∧ next = source ∨
    source.batchSize ≠ 0 ∧ source.pending = none ∧ ∃ after,
      api.nextEntry source.journal = (after, .ok none) ∧ next = { source with journal := after }

/-- While there is no entry yet, a read fails that leaves the pointer where it is, or a
wait for more. -/
inductive FailsIdle (contract : JournalContract api) :
    List (Except String Unit) → JournaldSource api → Prop where
  | read {readable : List (Except String Unit)} {source : JournaldSource api}
      (fails : ReadFails contract source) : FailsIdle contract readable source
  | wait {event : Except String Unit} {rest : List (Except String Unit)}
      {source middle next : JournaldSource api} {failure : Error}
      (nothing : FindsNothing source middle)
      (fails : waitForJournalEvent event middle = (next, .error failure)) :
      FailsIdle contract (event :: rest) source
  | again {event : Except String Unit} {rest : List (Except String Unit)}
      {source middle woken : JournaldSource api} (nothing : FindsNothing source middle)
      (woke : waitForJournalEvent event middle = (woken, .ok ()))
      (later : FailsIdle contract rest woken) : FailsIdle contract (event :: rest) source

/-! ## Reading -/

section Read

variable {contract : JournalContract api} {source next : JournaldSource api} {failure : Error}

private theorem nextEntry_grown (contract : JournalContract api) {handle after : api.Handle}
    {outcome : Except String (Option JournalRecord)}
    (called : api.nextEntry handle = (after, outcome)) :
    contract.entries handle <+: contract.entries after := by
  have grows := contract.nextEntry_grows handle
  rwa [called] at grows

/-- A call that has made a step forward, with nothing to show for it. -/
private theorem step_advances (parked : source.pending = none) {after : api.Handle}
    (grows : contract.entries source.journal <+: contract.entries after)
    (moved : contract.location after =
      advance (contract.location source.journal) (contract.entries after)) :
    Advances contract source { source with journal := after }
      ((upcoming (contract.location source.journal) (contract.entries after)).head?.toList.map
        source.itemOf) where
  frame := rfl
  grows := grows
  reads {_ _} reads := ⟨_, reads.moves grows moved, by simp [parked]⟩

private theorem stay_advances (parked : source.pending = none) {after : api.Handle}
    (grows : contract.entries source.journal <+: contract.entries after)
    (same : contract.location after = contract.location source.journal) :
    Advances contract source { source with journal := after } [] where
  frame := rfl
  grows := grows
  reads {_ _} reads := ⟨[], by simpa using reads.stays grows same, by simp [parked]⟩

/-- A read that fails without having lost an entry has left the pointer alone. -/
theorem takeNext_error (steps : StepsOrStays contract) (room : source.batchSize ≠ 0)
    (failed : takeNext source = (next, .error failure)) :
    ∃ lost, Advances contract source next lost ∧ (lost = [] → ReadFails contract source) := by
  unfold takeNext at failed
  rw [Stateful.get_bind] at failed
  cases parked : source.pending with
  | some item =>
      simp only [parked] at failed
      rw [Stateful.modify_bind] at failed
      cases failed
  | none =>
      simp only [parked] at failed
      rcases Stateful.bind_eq_error.mp failed with unread | ⟨middle, record, read, failed⟩
      · rcases Stateful.onPart_eq_error.mp unread with ⟨after, message, called, rfl, -⟩
        have grows := nextEntry_grown contract called
        rcases steps _ _ _ called with same | moved
        · exact ⟨[], stay_advances parked grows same,
            fun _ => ⟨room, parked, after, message, called, same⟩⟩
        · refine ⟨_, step_advances parked grows moved, fun nothing => ?_⟩
          have atEnd : upcoming (contract.location source.journal) (contract.entries after) = [] :=
            List.head?_eq_none_iff.mp (by simpa using nothing)
          exact ⟨room, parked, after, message, called,
            moved.trans (OrderedLog.advance_of_nil atEnd)⟩
      · rcases Stateful.onPart_eq_ok.mp read with ⟨after, called, rfl⟩
        have grows := nextEntry_grown contract called
        rcases contract.nextEntry_ok _ _ _ called with ⟨found, moved⟩
        have advances := step_advances parked grows moved
        cases record with
        | none => cases failed
        | some record =>
            -- What fails now is a question about an entry that has been read.
            have left : next = { source with journal := after } := by
              rcases Stateful.bind_eq_error.mp failed with asked | ⟨_, cursor, asked, failed⟩
              · exact (Stateful.ask_eq_error.mp asked).1.symm
              · rcases Stateful.ask_eq_ok.mp asked with ⟨rfl, -⟩
                rcases Stateful.bind_eq_error.mp failed with asked | ⟨_, time, asked, failed⟩
                · exact (Stateful.ask_eq_error.mp asked).1.symm
                · cases failed
            rw [left]
            refine ⟨_, advances, fun nothing => ?_⟩
            have atEnd : upcoming (contract.location source.journal)
                (contract.entries after) = [] :=
              List.head?_eq_none_iff.mp (by simpa using nothing)
            rw [atEnd] at found
            cases found

/-- A read that leaves the pointer where it is loses nothing. -/
theorem takeNext_readFails (fails : ReadFails contract source) :
    ∃ next failure, takeNext source = (next, .error failure) ∧
      Advances contract source next [] := by
  rcases fails with ⟨-, parked, after, message, called, same⟩
  refine ⟨{ source with journal := after }, .source s!"next_entry: {message}", ?_,
    stay_advances parked (nextEntry_grown contract called) same⟩
  generalize isNext : { source with journal := after } = next
  unfold takeNext
  rw [Stateful.get_bind]
  simp only [parked]
  apply Stateful.bind_of_error
  exact Stateful.onPart_eq_error.mpr ⟨after, message, called, isNext, rfl⟩

/-! ## Draining -/

theorem drainLoop_error (steps : StepsOrStays contract) {room : Nat} {batch : Batch}
    (failed : drainLoop room batch source = (next, .error failure)) :
    ∃ lost, Advances contract source next lost ∧ (lost = [] → ReadFails contract source) := by
  induction room generalizing source batch with
  | zero => cases failed
  | succ room inductionHypothesis =>
      unfold drainLoop at failed
      rw [Stateful.get_bind] at failed
      split at failed
      · rename_i hasRoom
        rcases Stateful.bind_eq_error.mp failed with untaken | ⟨middle, found, took, failed⟩
        · apply takeNext_error steps _ untaken
          simp only [batchHasRoom, Bool.and_eq_true, decide_eq_true_eq] at hasRoom
          have below := hasRoom.1
          omega
        · cases found with
          | none => cases failed
          | some item =>
              simp only at failed
              split at failed
              · rw [Stateful.modify_bind] at failed
                cases failed
              · rcases inductionHypothesis failed with ⟨lost, advances, -⟩
                have taken := (takeNext_ok contract took).1
                exact ⟨[item] ++ lost, taken.trans advances, fun nothing => by cases nothing⟩
      · cases failed

theorem drainAvailable_error (steps : StepsOrStays contract) {batch : Batch}
    (failed : drainAvailable batch source = (next, .error failure)) :
    ∃ lost, Advances contract source next lost ∧ (lost = [] → ReadFails contract source) := by
  unfold drainAvailable at failed
  rw [Stateful.get_bind] at failed
  exact drainLoop_error steps failed

theorem drainAvailable_readFails (fails : ReadFails contract source) :
    ∃ next failure, drainAvailable {} source = (next, .error failure) ∧
      Advances contract source next [] := by
  rcases takeNext_readFails fails with ⟨next, failure, failed, advances⟩
  rcases drainAvailable_default fails.room with ⟨left, begins⟩
  exact ⟨next, failure, begins.trans (Stateful.bind_of_error failed), advances⟩

/-- A call that finds nothing leaves the pointer where it is. -/
private theorem nothing_stays {after : api.Handle}
    (called : api.nextEntry source.journal = (after, .ok none)) :
    contract.location after = contract.location source.journal := by
  rcases contract.nextEntry_ok _ _ _ called with ⟨found, moved⟩
  apply moved.trans
  apply OrderedLog.advance_of_nil
  simpa using found.symm

theorem drainAvailable_nothing (contract : JournalContract api)
    (nothing : FindsNothing source next) :
    drainAvailable {} source = (next, .ok {}) ∧ Advances contract source next [] := by
  rcases nothing with ⟨noRoom, rfl⟩ | ⟨room, parked, after, called, rfl⟩
  · exact ⟨drainAvailable_zero {} noRoom, Advances.refl contract _⟩
  · refine ⟨?_, stay_advances parked (nextEntry_grown contract called) (nothing_stays called)⟩
    rcases drainAvailable_default room with ⟨left, begins⟩
    rw [begins]
    generalize isNext : { source with journal := after } = next
    have found : takeNext source = (next, .ok none) := by
      unfold takeNext
      rw [Stateful.get_bind]
      simp only [parked]
      exact Stateful.bind_eq_ok.mpr
        ⟨next, none, Stateful.onPart_eq_ok.mpr ⟨after, called, isNext⟩, rfl⟩
    rw [Stateful.bind_of_ok found]
    rfl

/-- A drain that leaves an empty batch empty has found nothing. -/
theorem drainAvailable_findsNothing (contract : JournalContract api) {batch : Batch}
    (drained : drainAvailable {} source = (next, .ok batch)) (empty : batch.entries = []) :
    FindsNothing source next := by
  by_cases noRoom : source.batchSize = 0
  · rw [drainAvailable_zero {} noRoom] at drained
    exact Or.inl ⟨noRoom, (Prod.mk.inj drained).1.symm⟩
  · rcases drainAvailable_default noRoom with ⟨left, begins⟩
    rw [begins] at drained
    rcases Stateful.bind_eq_ok.mp drained with ⟨middle, found, took, drained⟩
    cases found with
    | none =>
        rcases Stateful.pure_eq_ok.mp drained with ⟨rfl, -⟩
        have parked := ((takeNext_ok contract took).2.2 rfl).1
        refine Or.inr ⟨noRoom, parked, ?_⟩
        unfold takeNext at took
        rw [Stateful.get_bind] at took
        simp only [parked] at took
        rcases Stateful.bind_eq_ok.mp took with ⟨_, record, read, took⟩
        rcases Stateful.onPart_eq_ok.mp read with ⟨after, called, isNext⟩
        cases record with
        | none =>
            refine ⟨after, called, ?_⟩
            rw [← (Stateful.pure_eq_ok.mp took).1, ← isNext]
        | some record =>
            rcases Stateful.bind_eq_ok.mp took with ⟨_, _, _, took⟩
            rcases Stateful.bind_eq_ok.mp took with ⟨_, _, _, took⟩
            cases (Stateful.pure_eq_ok.mp took).2
    | some item =>
        rcases drainLoop_ok contract drained with ⟨items, fills⟩
        exact absurd empty (fills.entries_ne_nil (List.cons_ne_nil _ _))

/-! ## Waiting -/

theorem waitForJournalEvent_error (contract : JournalContract api) {event : Except String Unit}
    (failed : waitForJournalEvent event source = (next, .error failure)) :
    Advances contract source next [] := by
  unfold waitForJournalEvent at failed
  rcases Stateful.bind_eq_error.mp failed with unready | ⟨_, _, ready, failed⟩
  · rcases Stateful.ask_eq_error.mp unready with ⟨rfl, -⟩
    exact Advances.refl contract source
  · rcases Stateful.ask_eq_ok.mp ready with ⟨rfl, -⟩
    rcases Stateful.onPart_eq_error.mp failed with ⟨after, _, called, rfl, -⟩
    have advances := process_advances contract source
    rwa [called] at advances

/-- After a drain that has found nothing, the wait starts over with every event. -/
private theorem firstEntries_cons {middle : JournaldSource api} (event : Except String Unit)
    (rest : List (Except String Unit))
    (drained : drainAvailable {} source = (middle, .ok {})) :
    firstEntries (event :: rest) source =
      (waitForJournalEvent event >>= fun _ => firstEntries rest) middle := by
  unfold firstEntries
  rw [Stateful.bind_of_ok drained, awaitFirst_cons]

/-- A read or a wait that fails while there is no entry yet loses nothing. -/
theorem firstEntries_failsIdle {readable : List (Except String Unit)}
    (fails : FailsIdle contract readable source) :
    ∃ next failure, firstEntries readable source = (next, .error failure) ∧
      Advances contract source next [] := by
  induction fails with
  | read fails =>
      rcases drainAvailable_readFails fails with ⟨next, failure, failed, advances⟩
      exact ⟨next, failure, Stateful.bind_of_error failed, advances⟩
  | @wait event rest source middle next failure nothing fails =>
      rcases drainAvailable_nothing contract nothing with ⟨drained, advances⟩
      refine ⟨next, failure, ?_, advances.trans (waitForJournalEvent_error contract fails)⟩
      rw [firstEntries_cons event rest drained]
      exact Stateful.bind_of_error fails
  | @again event rest source middle woken nothing woke later inductionHypothesis =>
      rcases drainAvailable_nothing contract nothing with ⟨drained, advances⟩
      rcases inductionHypothesis with ⟨next, failure, failed, others⟩
      refine ⟨next, failure, ?_,
        advances.trans ((waitForJournalEvent_ok contract woke).trans others)⟩
      rw [firstEntries_cons event rest drained, Stateful.bind_of_ok woke]
      exact failed

/-- Any other failure has lost an entry. -/
theorem firstEntries_error (steps : StepsOrStays contract)
    {readable : List (Except String Unit)}
    (failed : firstEntries readable source = (next, .error failure)) :
    ∃ lost, Advances contract source next lost ∧
      (lost = [] → FailsIdle contract readable source) := by
  induction readable generalizing source with
  | nil =>
      rcases Stateful.bind_eq_error.mp failed with undrained | ⟨middle, batch, _, waited⟩
      · rcases drainAvailable_error steps undrained with ⟨lost, advances, fails⟩
        exact ⟨lost, advances, fun nothing => .read (fails nothing)⟩
      · unfold awaitFirst at waited
        split at waited
        · cases waited
        · cases waited
  | cons event rest inductionHypothesis =>
      rcases Stateful.bind_eq_error.mp failed with undrained | ⟨middle, batch, drained, waited⟩
      · rcases drainAvailable_error steps undrained with ⟨lost, advances, fails⟩
        exact ⟨lost, advances, fun nothing => .read (fails nothing)⟩
      · by_cases empty : batch.entries = []
        · have nothing := drainAvailable_findsNothing contract drained empty
          rcases drainAvailable_nothing contract nothing with ⟨drained, advances⟩
          rw [firstEntries_cons event rest drained] at failed
          rcases Stateful.bind_eq_error.mp failed with unwoken | ⟨woken, _, woke, failed⟩
          · exact ⟨[], advances.trans (waitForJournalEvent_error contract unwoken),
              fun _ => .wait nothing unwoken⟩
          · rcases inductionHypothesis failed with ⟨lost, others, fails⟩
            exact ⟨lost, advances.trans ((waitForJournalEvent_ok contract woke).trans others),
              fun noneLost => .again nothing woke (fails noneLost)⟩
        · rw [awaitFirst_filled (event :: rest) empty] at waited
          cases waited

/-- Of a batch that is half built, nothing but what has been lost is told. -/
theorem coalesce_error (steps : StepsOrStays contract) {deadline : Instant} {window : List Turn}
    {batch : Batch} (failed : coalesce deadline window batch source = (next, .error failure)) :
    ∃ lost, Advances contract source next lost := by
  induction window generalizing source batch with
  | nil =>
      unfold coalesce at failed
      rw [Stateful.get_bind] at failed
      split at failed
      · cases failed
      · cases failed
  | cons turn rest inductionHypothesis =>
      unfold coalesce at failed
      rw [Stateful.get_bind] at failed
      split at failed
      · by_cases late : deadline < turn.now
        · simp only [if_pos late] at failed
          cases failed
        · simp only [if_neg late] at failed
          cases woken : turn.readable with
          | none =>
              simp only [woken] at failed
              cases failed
          | some event =>
              simp only [woken] at failed
              rcases Stateful.bind_eq_error.mp failed with unwoken | ⟨middle, _, woke, failed⟩
              · exact ⟨[], waitForJournalEvent_error contract unwoken⟩
              · have waited := waitForJournalEvent_ok contract woke
                rcases Stateful.bind_eq_error.mp failed with
                  undrained | ⟨drained, more, drains, failed⟩
                · rcases drainAvailable_error steps undrained with ⟨lost, advances, -⟩
                  exact ⟨lost, waited.trans advances⟩
                · rcases drainAvailable_ok contract drains with ⟨items, fills⟩
                  rcases inductionHypothesis failed with ⟨lost, advances⟩
                  exact ⟨items ++ lost, waited.trans (fills.advances.trans advances)⟩
      · cases failed

end Read

/-! ## Peeking -/

section Peek

variable {contract : JournalContract api} {source next : JournaldSource api} {failure : Error}

private theorem fillWindow_error (steps : StepsOrStays contract) {wakeups : Wakeups}
    {batchWait : Duration} {batch : Batch}
    (failed : fillWindow wakeups batchWait batch source = (next, .error failure)) :
    ∃ lost, Advances contract source next lost := by
  unfold fillWindow at failed
  cases added : addDuration wakeups.windowStart batchWait with
  | none =>
      rw [added] at failed
      cases failed
  | some deadline =>
      rw [added] at failed
      exact coalesce_error steps failed

private theorem catchUp_error (steps : StepsOrStays contract) {wakeups : Wakeups}
    {batchWait : Duration} (failed : (do
      match ← firstEntries wakeups.first with
      | none => pure none
      | some batch => fillWindow wakeups batchWait batch :
        Stateful (JournaldSource api) Error (Option Batch)) source = (next, .error failure)) :
    ∃ lost, Advances contract source next lost ∧
      (lost = [] → FailsIdle contract wakeups.first source) := by
  rcases Stateful.bind_eq_error.mp failed with unread | ⟨middle, first, read, failed⟩
  · exact firstEntries_error steps unread
  · cases first with
    | none => cases failed
    | some batch =>
        rcases firstEntries_ok contract read with ⟨items, filled, fills, final⟩
        rcases final batch rfl with ⟨rfl, nonempty⟩
        rcases fillWindow_error steps failed with ⟨lost, advances⟩
        -- The batch in hand has entries, and is dropped.
        refine ⟨items ++ lost, fills.advances.trans advances, fun nothing => ?_⟩
        have noItems : items = [] := (List.append_eq_nil_iff.mp nothing).1
        apply absurd _ nonempty
        rw [fills.pushed, noItems]
        rfl

theorem buildBatch_error (steps : StepsOrStays contract) {wakeups : Wakeups}
    (positions : source.positioned = false → (positionToStart source).2 = .ok ())
    (failed : buildBatch wakeups source = (next, .error failure)) :
    ∃ lost, Advances contract source.ready next lost ∧
      (lost = [] → FailsIdle contract wakeups.first source.ready) := by
  unfold buildBatch at failed
  rw [Stateful.get_bind] at failed
  cases positioned : source.positioned with
  | true =>
      simp only [positioned, Bool.not_true, Bool.false_eq_true, if_false] at failed
      rw [ready_of_positioned positioned]
      exact catchUp_error steps failed
  | false =>
      simp only [positioned, Bool.not_false, if_true] at failed
      have ran := positionToStart_ready positioned (positions positioned)
      rw [Stateful.bind_of_ok ran] at failed
      exact catchUp_error steps failed

theorem buildBatch_failsIdle {wakeups : Wakeups}
    (positions : source.positioned = false → (positionToStart source).2 = .ok ())
    (fails : FailsIdle contract wakeups.first source.ready) :
    ∃ next failure, buildBatch wakeups source = (next, .error failure) ∧
      Advances contract source.ready next [] := by
  rcases firstEntries_failsIdle fails with ⟨next, failure, failed, advances⟩
  refine ⟨next, failure, ?_, advances⟩
  unfold buildBatch
  rw [Stateful.get_bind]
  cases positioned : source.positioned with
  | true =>
      simp only [Bool.not_true, Bool.false_eq_true, if_false]
      rw [ready_of_positioned positioned] at failed
      exact Stateful.bind_of_error failed
  | false =>
      simp only [Bool.not_false, if_true]
      have ran := positionToStart_ready positioned (positions positioned)
      rw [Stateful.bind_of_ok ran]
      exact Stateful.bind_of_error failed

/-- Positioning takes no batch into flight. -/
theorem ready_idle (contract : JournalContract api) (idle : source.inFlight = none)
    (positions : source.positioned = false → (positionToStart source).2 = .ok ()) :
    { source.ready with inFlight := none } = source.ready := by
  have stillIdle : source.ready.inFlight = none := by
    rw [ready_frame contract positions]
    exact idle
  rw [← stillIdle]

/-- A peek that fails has taken the batch out of flight. What it has read is lost, and
something is unless it has failed with nothing in hand. -/
theorem peekBatch_error (steps : StepsOrStays contract) {callerHolds : Bool} {wakeups : Wakeups}
    (inFlight : source.inFlight.isSome → source.positioned = true)
    (positions : source.positioned = false → (positionToStart source).2 = .ok ())
    (failed : peekBatch callerHolds wakeups source = (next, .error failure)) :
    ∃ lost, Advances contract { source.ready with inFlight := none } next lost ∧
      (source.inFlight = none → lost = [] → FailsIdle contract wakeups.first source.ready) := by
  unfold peekBatch at failed
  rw [Stateful.get_bind] at failed
  rcases Option.eq_none_or_eq_some source.inFlight with idle | ⟨batch, flying⟩
  · simp only [idle] at failed
    rw [ready_idle contract idle positions]
    rcases Stateful.bind_eq_error.mp failed with unbuilt | ⟨middle, built, _, failed⟩
    · rcases buildBatch_error steps positions unbuilt with ⟨lost, advances, fails⟩
      exact ⟨lost, advances, fun _ => fails⟩
    · cases built with
      | none => cases failed
      | some batch => cases failed
  · have positioned : source.positioned = true := inFlight (by rw [flying]; rfl)
    simp only [flying] at failed
    rw [ready_of_positioned positioned]
    cases callerHolds with
    | true => cases failed
    | false =>
        simp only [Bool.false_eq_true, if_false] at failed
        rw [Stateful.modify_bind] at failed
        rcases Stateful.bind_eq_error.mp failed with
          unprocessed | ⟨processed, outcome, processes, failed⟩
        · cases unprocessed
        · cases congrArg Prod.fst (Stateful.attempt_eq_ok.mp processes)
          rcases Stateful.bind_eq_error.mp failed with undrained | ⟨_, _, _, failed⟩
          · rcases drainAvailable_error steps undrained with ⟨lost, advances, -⟩
            have waited := process_advances contract { source with inFlight := none }
            exact ⟨lost, waited.trans advances,
              fun idle => by cases flying.symm.trans idle⟩
          · cases failed

theorem peekBatch_failsIdle (callerHolds : Bool) {wakeups : Wakeups}
    (idle : source.inFlight = none)
    (positions : source.positioned = false → (positionToStart source).2 = .ok ())
    (fails : FailsIdle contract wakeups.first source.ready) :
    ∃ next failure, peekBatch callerHolds wakeups source = (next, .error failure) ∧
      Advances contract source.ready next [] := by
  rcases buildBatch_failsIdle positions fails with ⟨next, failure, failed, advances⟩
  refine ⟨next, failure, ?_, advances⟩
  unfold peekBatch
  rw [Stateful.get_bind]
  simp only [idle]
  exact Stateful.bind_of_error failed

end Peek

end JournaldSource

end Ferrometer.Log
