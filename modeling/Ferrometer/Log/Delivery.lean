import Ferrometer.Log.Shipper
import Ferrometer.Log.Source.Batches
import Ferrometer.Log.Source.Growth

/-!
Contract: a shipper that drives a journald source.

Owns: that what is settled is what the journal holds from the start on, in order
and without a gap, and that every ack is for the last entry settled.

Does not own: a crash, or a restart.
-/

set_option autoImplicit false

namespace Ferrometer.Log

open Ferrometer.Foundation JournaldSource

variable {api : JournalApi}

/-- What a shipper of a journald source has settled so far are `entries`, the first
ones that come after `start`. Each cursor passed to `ack` is that of the last entry
settled before. -/
structure Delivered (contract : JournalContract api) (start : Location)
    (origin : JournaldSource api) (shipper : Shipper (asSource api))
    (entries : List JournalEntry) : Prop where
  fromStart : entries <+: upcoming start (contract.entries shipper.source.1.journal)
  settled : settled shipper.actions = entries.map origin.toEntry
  acks : ∀ index cursor saved, shipper.actions[index]? = some (.acked cursor saved) →
    ∃ earlier, earlier <+: entries ∧
      Log.settled (shipper.actions.take index) = earlier.map origin.toEntry ∧
      earlier.getLast?.map JournalEntry.cursor = some cursor

/-- While the loop runs: of the batch in flight the first `sent` entries are settled. -/
structure Running (contract : JournalContract api) (origin : JournaldSource api)
    (shipper : Shipper (asSource api)) (done flight parked : List JournalEntry) : Prop where
  tracks : Tracks contract origin shipper.source.1 done flight parked
  sent : shipper.progress.sent ≤ flight.length
  delivered : Delivered contract (contract.location origin.ready.journal) origin shipper
    (done ++ flight.take shipper.progress.sent)

/-- The invariant. -/
structure Ships (contract : JournalContract api) (origin : JournaldSource api)
    (shipper : Shipper (asSource api)) : Prop where
  running : shipper.stopped = none →
    ∃ done flight parked, Running contract origin shipper done flight parked
  delivered : ∃ entries,
    Delivered contract (contract.location origin.ready.journal) origin shipper entries

variable {contract : JournalContract api} {origin : JournaldSource api}
  {shipper next : Shipper (asSource api)} {done flight parked : List JournalEntry}

/-! ## Delivered entries -/

section Delivered

variable {start : Location} {entries : List JournalEntry}

/-- Nothing is delivered by a step that does nothing but let the journal grow. -/
theorem Delivered.grow (delivered : Delivered contract start origin shipper entries)
    (grows : Grows contract shipper.source.1 next.source.1)
    (sameActions : next.actions = shipper.actions) :
    Delivered contract start origin next entries where
  fromStart := delivered.fromStart.trans (OrderedLog.upcoming_grows start grows.1)
  settled := by rw [sameActions, delivered.settled]
  acks := by
    rw [sameActions]
    exact delivered.acks

/-- One more action, and the entries that it settles. -/
theorem Delivered.act (delivered : Delivered contract start origin shipper entries)
    {action : Action} {more : List JournalEntry}
    (actions : next.actions = shipper.actions ++ [action])
    (fromStart : entries ++ more <+: upcoming start (contract.entries next.source.1.journal))
    (settles : action.settled = more.map origin.toEntry)
    (acks : ∀ cursor saved, action = .acked cursor saved →
      entries.getLast?.map JournalEntry.cursor = some cursor) :
    Delivered contract start origin next (entries ++ more) where
  fromStart := fromStart
  settled := by
    rw [actions, Log.settled, List.flatMap_append, List.map_append, ← delivered.settled, ← settles]
    simp [Log.settled]
  acks index cursor saved isAck := by
    rw [actions] at isAck ⊢
    rcases Nat.lt_trichotomy index shipper.actions.length with old | new | beyond
    · rw [List.getElem?_append_left old] at isAck
      obtain ⟨earlier, isPrefix, settledEarlier, last⟩ := delivered.acks index cursor saved isAck
      rw [List.take_append_of_le_length old.le]
      exact ⟨earlier, isPrefix.trans (List.prefix_append _ _), settledEarlier, last⟩
    · subst new
      rw [List.getElem?_concat_length] at isAck
      rw [List.take_left]
      exact ⟨entries, List.prefix_append _ _, delivered.settled,
        acks cursor saved (Option.some.inj isAck)⟩
    · have outside : (shipper.actions ++ [action]).length ≤ index := by
        rw [List.length_append, List.length_singleton]
        exact beyond
      rw [List.getElem?_eq_none outside] at isAck
      exact absurd isAck nofun

end Delivered

/-! ## One iteration -/

namespace Running

/-- The batch is settled to its end. The ack is for its last entry, and the batch is done
unless the save fails. -/
theorem finishBatch_cases (running : Running contract origin shipper done flight parked)
    {batch : Batch} (flying : shipper.source.1.inFlight = some batch)
    (all : flight.length ≤ shipper.progress.sent) (fault : Option Fault) :
    (shipper.finishBatch batch fault).source.2 =
        (persistCursor fault shipper.source.2 shipper.source.1.cursorFile batch.endCursor).1 ∧
      Delivered contract (contract.location origin.ready.journal) origin
        (shipper.finishBatch batch fault) (done ++ flight) ∧
      ((shipper.finishBatch batch fault).stopped ≠ none ∨
        (persistCursor fault shipper.source.2 shipper.source.1.cursorFile batch.endCursor).2 =
            .ok () ∧
          Running contract origin (shipper.finishBatch batch fault) (done ++ flight) [] parked) := by
  have tracks := running.tracks
  have delivered := running.delivered
  rw [List.take_of_length_le all] at delivered
  have lastCursor : (done ++ flight).getLast?.map JournalEntry.cursor = some batch.endCursor := by
    rw [List.getLast?_append_of_ne_nil _ (tracks.flying batch flying).2.1]
    exact (tracks.endCursor flying).symm
  have acked : ∀ {next : Shipper (asSource api)} {saved : Except Error Unit},
      next.source.1.journal = shipper.source.1.journal →
      next.actions = shipper.actions ++ [.acked batch.endCursor saved] →
      Delivered contract (contract.location origin.ready.journal) origin next
        (done ++ flight) := by
    intro next saved sameJournal actions
    rw [← List.append_nil (done ++ flight)]
    refine delivered.act actions ?_ rfl fun cursor saved isAck => ?_
    · rw [List.append_nil, sameJournal]
      exact delivered.fromStart
    · obtain ⟨rfl, -⟩ := Action.acked.inj isAck
      exact lastCursor
  have called : (asSource api).ack batch.endCursor fault shipper.source = _ :=
    ack_eq shipper.source.1 shipper.source.2 batch.endCursor fault
  unfold Shipper.finishBatch
  rw [called]
  rcases persistCursor fault shipper.source.2 shipper.source.1.cursorFile batch.endCursor with
    ⟨tree, failure | ⟨⟩⟩
  · exact ⟨rfl, acked rfl rfl, Or.inl nofun⟩
  · have ended := tracks.ack batch.endCursor flying
    refine ⟨rfl, acked rfl rfl, Or.inr ⟨rfl, ended, Nat.le_refl 0, ?_⟩⟩
    rw [List.take_nil, List.append_nil]
    exact acked rfl rfl

/-- The entries that wait to be sent. -/
theorem pending_eq (running : Running contract origin shipper done flight parked) {batch : Batch}
    (flying : shipper.source.1.inFlight = some batch) :
    batch.entries.drop (min shipper.progress.sent batch.entries.length) =
      (flight.drop shipper.progress.sent).map origin.toEntry := by
  have sent := running.sent
  rw [running.tracks.entries flying, List.length_map, Nat.min_eq_left sent, List.map_drop]

/-- A request settles the first `count` entries that wait to be sent, and `sent` is
moved on by as many. -/
theorem settle (running : Running contract origin shipper done flight parked) {batch : Batch}
    (flying : shipper.source.1.inFlight = some batch) {slice : List LogEntry}
    {answer : Except Error Unit} {count : Nat}
    (settles : settledBy slice answer =
      ((flight.drop shipper.progress.sent).take count).map origin.toEntry)
    (sameSource : next.source = shipper.source)
    (actions : next.actions = shipper.actions ++ [.sent slice answer])
    (sent : next.progress.sent = shipper.progress.sent + (settledBy slice answer).length) :
    Running contract origin next done flight parked := by
  have positioned := running.tracks.positioned (by rw [flying]; rfl)
  have reads := running.tracks.reads
  rw [ready_of_positioned positioned] at reads
  -- The entries settled now are those that stand behind the entries settled before.
  have grown : flight.take next.progress.sent =
      flight.take shipper.progress.sent ++ (flight.drop shipper.progress.sent).take count := by
    rw [sent, settles, List.length_map, List.take_add]
    congr 1
    rw [List.length_take, ← List.take_take, List.take_length]
  have below : next.progress.sent ≤ flight.length := by
    have within := running.sent
    rw [sent, settles, List.length_map, List.length_take, List.length_drop]
    omega
  refine ⟨by rw [sameSource]; exact running.tracks, below, ?_⟩
  rw [grown, ← List.append_assoc]
  refine running.delivered.act actions ?_ settles nofun
  have front : done ++ flight.take next.progress.sent <+: done ++ flight ++ parked := by
    rw [List.append_assoc]
    exact List.prefix_append_right_inj _ |>.mpr
      ((List.take_prefix _ _).trans (List.prefix_append _ _))
  rw [grown, ← List.append_assoc] at front
  rw [sameSource]
  exact front.trans reads.available

theorem ships (running : Running contract origin shipper done flight parked) :
    Ships contract origin shipper where
  running _ := ⟨done, flight, parked, running⟩
  delivered := ⟨_, running.delivered⟩

/-- An iteration with a batch makes a request, unless all of it is settled, and finishes
the batch if nothing is left. -/
theorem ship_cases (running : Running contract origin shipper done flight parked) {batch : Batch}
    (flying : shipper.source.1.inFlight = some batch) (input : Iteration (asSource api)) :
    ∃ middle, Running contract origin middle done flight parked ∧
      middle.source = shipper.source ∧
      (shipper.ship batch input = middle ∨
        shipper.ship batch input = middle.finishBatch batch input.ack ∧
          flight.length ≤ middle.progress.sent) := by
  unfold Shipper.ship
  simp only [running.pending_eq flying]
  split
  · rename_i nothing
    exact ⟨shipper, running, rfl, Or.inr ⟨rfl, by simpa using nothing⟩⟩
  · generalize isCount : min ((flight.drop shipper.progress.sent).map origin.toEntry).length
      shipper.progress.chunk = count
    generalize isSlice : ((flight.drop shipper.progress.sent).map origin.toEntry).take count = slice
    obtain ⟨next, outcome, sameSource, actions, -, sent, -⟩ :=
      Shipper.handleAnswer_eq (shipper.requested slice input.answer) batch slice input
    have settles := Shipper.settledBy_cases slice input.answer
    have moved : Running contract origin next done flight parked := by
      rcases settles with all | none
      · exact running.settle flying (all.trans (by rw [List.map_take, isSlice])) sameSource
          actions sent
      · exact running.settle flying (none.trans (by rw [List.take_zero]; rfl)) sameSource actions
          sent
    refine ⟨next, moved, sameSource, ?_⟩
    rcases outcome with finishes | ⟨-, waits⟩
    · rw [finishes, Shipper.finishIfSent]
      split
      · rename_i all
        rw [running.tracks.entries flying, List.length_map] at all
        exact Or.inr ⟨rfl, all⟩
      · exact Or.inl rfl
    · exact Or.inl waits

theorem ship (running : Running contract origin shipper done flight parked) {batch : Batch}
    (flying : shipper.source.1.inFlight = some batch) (input : Iteration (asSource api)) :
    Ships contract origin (shipper.ship batch input) := by
  rcases running.ship_cases flying input with ⟨middle, moved, sameSource, waits | ⟨finishes, all⟩⟩
  · rw [waits]
    exact moved.ships
  · rw [finishes]
    have stillFlying : middle.source.1.inFlight = some batch :=
      (congrArg (fun state => state.1.inFlight) sameSource).trans flying
    rcases moved.finishBatch_cases stillFlying all input.ack with
      ⟨-, delivered, stopped | ⟨-, finished⟩⟩
    · exact ⟨fun alive => absurd alive stopped, _, delivered⟩
    · exact finished.ships

/-- A peek adds entries behind those that are settled. -/
theorem peek (running : Running contract origin shipper done flight parked)
    (next : Shipper (asSource api)) {callerHolds : Bool} {wakeups : Wakeups} {batch : Batch}
    {source : JournaldSource api}
    (peeked : peekBatch callerHolds wakeups shipper.source.1 = (source, .ok (.batch batch)))
    (sameSource : next.source.1 = source) (sameProgress : next.progress = shipper.progress)
    (sameActions : next.actions = shipper.actions) :
    ∃ more later, Running contract origin next done (flight ++ more) later ∧
      next.source.1.inFlight = some batch := by
  obtain ⟨more, later, tracks, flying⟩ := running.tracks.peek peeked
  have grows := peekBatch_grows contract callerHolds wakeups shipper.source.1
  rw [peeked] at grows
  refine ⟨more, later, ⟨by rwa [sameSource], ?_, ?_⟩, by rw [sameSource, flying]⟩
  · rw [sameProgress, List.length_append]
    exact Nat.le_add_right_of_le running.sent
  · rw [sameProgress, List.take_append_of_le_length running.sent]
    exact running.delivered.grow (by rwa [sameSource]) sameActions

end Running

/-- The source is peeked, and the disk is left alone. -/
theorem asSource_peekBatch (input : Bool × Wakeups) (state : JournaldSource api × FileTree) :
    (asSource api).peekBatch input state =
      (((peekBatch input.1 input.2 state.1).1, state.2),
        (peekBatch input.1 input.2 state.1).2) := by
  rcases peeked : peekBatch input.1 input.2 state.1 with ⟨source, failure | value⟩
  · simp [asSource, Stateful.onPart, peeked]
  · simp [asSource, Stateful.onPart, peeked]

/-! ## The disk -/

/-- From one state to a later one at most one cursor has been saved, and that one has
been acked. -/
structure Saves (contract : JournalContract api) (fault : Option Fault)
    (shipper next : Shipper (asSource api)) : Prop where
  actions : shipper.actions <+: next.actions
  grows : Grows contract shipper.source.1 next.source.1
  disk : next.source.2 = shipper.source.2 ∨
    ∃ cursor saved, .acked cursor saved ∈ next.actions ∧
      next.source.2 = (persistCursor fault shipper.source.2 shipper.source.1.cursorFile cursor).1

section Saves

variable {fault : Option Fault}

theorem Saves.refl (fault : Option Fault) (shipper : Shipper (asSource api)) :
    Saves contract fault shipper shipper :=
  ⟨List.prefix_refl _, Grows.refl _, Or.inl rfl⟩

/-- Before the save nothing happens to the disk. -/
theorem Saves.after (middle : Shipper (asSource api)) (actions : shipper.actions <+: middle.actions)
    (sameTree : middle.source.2 = shipper.source.2)
    (grows : Grows contract shipper.source.1 middle.source.1)
    (saves : Saves contract fault middle next) : Saves contract fault shipper next where
  actions := actions.trans saves.actions
  grows := grows.trans saves.grows
  disk := by
    rw [← sameTree, ← grows.2]
    exact saves.disk

theorem finishBatch_saves (shipper : Shipper (asSource api)) (batch : Batch)
    (fault : Option Fault) : Saves contract fault shipper (shipper.finishBatch batch fault) := by
  have called : (asSource api).ack batch.endCursor fault shipper.source = _ :=
    ack_eq shipper.source.1 shipper.source.2 batch.endCursor fault
  unfold Shipper.finishBatch
  rw [called]
  rcases saved : persistCursor fault shipper.source.2 shipper.source.1.cursorFile batch.endCursor
    with ⟨tree, failure | ⟨⟩⟩
  · exact ⟨List.prefix_append _ _, Grows.refl _,
      Or.inr ⟨batch.endCursor, _, List.mem_concat_self, by rw [saved]⟩⟩
  · exact ⟨List.prefix_append _ _, Grows.refl _,
      Or.inr ⟨batch.endCursor, _, List.mem_concat_self, by rw [saved]⟩⟩

theorem finishIfSent_saves (shipper : Shipper (asSource api)) (batch : Batch)
    (fault : Option Fault) : Saves contract fault shipper (shipper.finishIfSent batch fault) := by
  unfold Shipper.finishIfSent
  split
  · exact finishBatch_saves shipper batch fault
  · exact Saves.refl fault shipper

theorem ship_saves (shipper : Shipper (asSource api)) (batch : Batch)
    (input : Iteration (asSource api)) :
    Saves contract input.ack shipper (shipper.ship batch input) := by
  unfold Shipper.ship
  simp only
  split
  · exact finishBatch_saves shipper batch input.ack
  · generalize List.take _ _ = slice
    obtain ⟨next, outcome, sameSource, sameActions, -, -, -⟩ :=
      Shipper.handleAnswer_eq (shipper.requested slice input.answer) batch slice input
    have actions : shipper.actions <+: next.actions := by
      rw [sameActions]
      exact List.prefix_append _ _
    have sameSource : next.source = shipper.source := sameSource
    have grows : Grows contract shipper.source.1 next.source.1 := sameSource ▸ Grows.refl _
    refine Saves.after next actions (congrArg Prod.snd sameSource) grows ?_
    rcases outcome with finishes | ⟨-, waits⟩
    · rw [finishes]
      exact finishIfSent_saves next batch input.ack
    · rw [waits]
      exact Saves.refl input.ack next

/-- A save that is not cut short leaves the cursor from before, or one that has been
acked. -/
theorem Saves.readSavedCursor (saves : Saves contract fault shipper next)
    (whole : fault = none ∨
      (shipper.source.1.cursorFile.withExtension "tmp").location ≠
        shipper.source.1.cursorFile.location) {saved : Cursor}
    (read : readSavedCursor next.source.2 shipper.source.1.cursorFile = .ok (some saved)) :
    Log.readSavedCursor shipper.source.2 shipper.source.1.cursorFile = .ok (some saved) ∨
      ∃ cursor outcome, .acked cursor outcome ∈ next.actions ∧
        savedCursor cursor = some saved := by
  rcases saves.disk with same | ⟨cursor, outcome, acked, tree⟩
  · rw [same] at read
    exact Or.inl read
  · rw [tree] at read
    exact (readSavedCursor_persistCursor whole read).imp_right fun saved =>
      ⟨cursor, outcome, acked, saved⟩

end Saves

/-- The cursor file holds what it held at first, or a cursor that has been acked. -/
structure Persisted (tree : FileTree) (origin : JournaldSource api)
    (shipper : Shipper (asSource api)) : Prop where
  cursorFile : shipper.source.1.cursorFile = origin.cursorFile
  saved : ∀ saved, readSavedCursor shipper.source.2 origin.cursorFile = .ok (some saved) →
    readSavedCursor tree origin.cursorFile = .ok (some saved) ∨
      ∃ cursor outcome, .acked cursor outcome ∈ shipper.actions ∧ savedCursor cursor = some saved

theorem Persisted.after {tree : FileTree} {fault : Option Fault}
    (persisted : Persisted tree origin shipper) (saves : Saves contract fault shipper next)
    (whole : fault = none ∨
      (origin.cursorFile.withExtension "tmp").location ≠ origin.cursorFile.location) :
    Persisted tree origin next where
  cursorFile := saves.grows.2.trans persisted.cursorFile
  saved saved read := by
    rw [← persisted.cursorFile] at whole read
    rcases saves.readSavedCursor whole read with before | acked
    · rw [persisted.cursorFile] at before
      refine (persisted.saved saved before).imp_right ?_
      rintro ⟨cursor, outcome, acked, isSaved⟩
      exact ⟨cursor, outcome, saves.actions.subset acked, isSaved⟩
    · exact Or.inr acked

/-! ## Runs -/

/-- Everything that a step can do, for a journald source. Without a batch nothing is
sent or acked. -/
theorem step_journald {event : LoopEvent (asSource api)}
    (stepped : shipper.step event = some next) :
    shipper.stopped = none ∧
      ((next.stopped ≠ none ∧ next.actions = shipper.actions ∧
          next.source.2 = shipper.source.2 ∧
          ∀ contract : JournalContract api, Grows contract shipper.source.1 next.source.1) ∨
        ∃ input source batch, event = .iteration input ∧
          peekBatch input.peek.1 input.peek.2 shipper.source.1 = (source, .ok (.batch batch)) ∧
          next = ({ shipper with
            source := (source, shipper.source.2)
            clock := input.answered } : Shipper (asSource api)).ship batch input) := by
  obtain ⟨alive, ⟨rfl, rfl⟩ | ⟨input, source, outcome, rfl, -, peeked, result⟩⟩ :=
    Shipper.step_cases stepped
  · exact ⟨alive, Or.inl ⟨nofun, rfl, rfl, fun _ => Grows.refl _⟩⟩
  · refine ⟨alive, ?_⟩
    rw [asSource_peekBatch] at peeked
    obtain ⟨rfl, rfl⟩ := Prod.mk.inj peeked
    have grows := fun contract : JournalContract api =>
      peekBatch_grows contract input.peek.1 input.peek.2 shipper.source.1
    rcases called : peekBatch input.peek.1 input.peek.2 shipper.source.1 with
      ⟨source, failure | peek⟩
    · simp only [called] at result grows
      exact Or.inl ⟨result ▸ nofun, result ▸ rfl, result ▸ rfl, result ▸ grows⟩
    · simp only [called] at result grows
      cases peek with
      | waiting => exact result.elim
      | exhausted => exact Or.inl ⟨result ▸ nofun, result ▸ rfl, result ▸ rfl, result ▸ grows⟩
      | batch batch => exact Or.inr ⟨input, source, batch, rfl, called, result⟩

theorem Ships.step {shipper : Shipper (asSource api)} {event : LoopEvent (asSource api)}
    {next : Shipper (asSource api)} (ships : Ships contract origin shipper)
    (stepped : shipper.step event = some next) : Ships contract origin next := by
  obtain ⟨alive, ⟨stopped, sameActions, -, grows⟩ | ⟨input, source, batch, -, peeked, rfl⟩⟩ :=
    step_journald stepped
  · obtain ⟨entries, delivered⟩ := ships.delivered
    exact ⟨fun running => absurd running stopped, entries,
      delivered.grow (grows contract) sameActions⟩
  · obtain ⟨done, flight, parked, running⟩ := ships.running alive
    obtain ⟨more, later, running, flying⟩ := running.peek
      { shipper with source := (source, shipper.source.2), clock := input.answered }
      peeked rfl rfl rfl
    exact running.ship flying input

/-- The fault of a step, if it saves a cursor. -/
def faultOf : LoopEvent (asSource api) → Option Fault
  | .iteration input => input.ack
  | .shutdown => none

theorem step_saves (contract : JournalContract api) {event : LoopEvent (asSource api)}
    (stepped : shipper.step event = some next) :
    Saves contract (faultOf event) shipper next := by
  obtain ⟨-, ⟨-, sameActions, sameTree, grows⟩ | ⟨input, source, batch, rfl, peeked, rfl⟩⟩ :=
    step_journald stepped
  · exact ⟨sameActions ▸ List.prefix_refl _, grows contract, Or.inl sameTree⟩
  · have grows := peekBatch_grows contract input.peek.1 input.peek.2 shipper.source.1
    rw [peeked] at grows
    exact Saves.after
      { shipper with source := (source, shipper.source.2), clock := input.answered }
      (List.prefix_refl _) rfl grows (ship_saves _ batch input)

/-- A shipper that has just been built. -/
def Shipper.new (source : JournaldSource api) (tree : FileTree)
    (backoffInitial backoffMax : Config.Duration) : Shipper (asSource api) where
  source := (source, tree)
  backoffInitial := backoffInitial
  backoffMax := backoffMax

theorem Ships.start (contract : JournalContract api) (inFlight : origin.inFlight = none)
    (pending : origin.pending = none) (tree : FileTree)
    (backoffInitial backoffMax : Config.Duration) :
    Ships contract origin (Shipper.new origin tree backoffInitial backoffMax) := by
  have delivered : Delivered contract (contract.location origin.ready.journal) origin
      (Shipper.new origin tree backoffInitial backoffMax) [] :=
    ⟨List.nil_prefix, rfl, fun _ _ _ isAck => by simp [Shipper.new] at isAck⟩
  have tracks := Tracks.start contract inFlight pending
  exact ⟨fun _ => ⟨[], [], [], tracks, Nat.le_refl 0, delivered⟩, [], delivered⟩

/-- Whatever the sink answers, what a shipper settles are the entries that come after
the place to which its source has gone first, one after the other. No cursor is
acked but that of the last entry settled, and without a crash in the middle of a save
no other cursor gets into the cursor file. -/
theorem shipper_run_delivers (contract : JournalContract api) {origin : JournaldSource api}
    (fresh : origin.Fresh) {tree : FileTree} {backoffInitial backoffMax : Config.Duration}
    {events : List (LoopEvent (asSource api))} {shipper : Shipper (asSource api)}
    (ran : (Shipper.machine (asSource api)).run
      (Shipper.new origin tree backoffInitial backoffMax) events = some shipper) :
    (∃ entries, Delivered contract (contract.location (positionToStart origin).1.journal) origin
        shipper entries) ∧
      ((∀ event ∈ events, faultOf event = none) → Persisted tree origin shipper) := by
  constructor
  · have start := Ships.start contract fresh.inFlight fresh.pending tree backoffInitial backoffMax
    have ships := (Shipper.machine (asSource api)).run_invariant
      (@Ships.step _ contract origin) start ran
    have isReady : origin.ready = (positionToStart origin).1 :=
      if_neg (by simp [fresh.positioned])
    rw [← isReady]
    exact ships.delivered
  · intro noFaults
    have start : Persisted tree origin (Shipper.new origin tree backoffInitial backoffMax) :=
      ⟨rfl, fun _ => Or.inl⟩
    exact (Shipper.machine (asSource api)).run_invariant_along
      (fun persisted noFault stepped =>
        persisted.after (step_saves contract stepped) (Or.inl noFault))
      start (Machine.Along.of_forall noFaults _) ran

/-- One iteration at some time, with an answer of the sink. -/
def shippingIteration (time : Instant) (answer : Except Error Unit) :
    LoopEvent (asSource MemoryJournal.api) :=
  .iteration {
    resumed := time
    peek := (false, Caller.timer)
    answer
    answered := time
    ack := none }

/-- A split, a drop, a failure and a rejection. -/
def shippingEvents : List (LoopEvent (asSource MemoryJournal.api)) :=
  [shippingIteration 1 (.error (.sinkPayloadTooLarge "HTTP 413")),
    shippingIteration 2 (.ok ()),
    shippingIteration 3 (.error (.sinkPayloadTooLarge "HTTP 413")),
    shippingIteration 4 (.error (.sink "HTTP 503")),
    shippingIteration 9 (.error (.sinkRejected "HTTP 400"))]

theorem shipper_run_delivers_split :
    ∃ shipper, (Shipper.machine (asSource MemoryJournal.api)).run
        (Shipper.new (Caller.sampleSource (.sample 1 [0, 0, 4])) FileTree.empty 5 60)
        shippingEvents = some shipper ∧
      (settled shipper.actions).map LogEntry.message = ["b", "c", "d", "e"] ∧
      (∃ entries, Delivered MemoryJournal.contract
        (MemoryJournal.contract.location
          (positionToStart (Caller.sampleSource (.sample 1 [0, 0, 4]))).1.journal)
        (Caller.sampleSource (.sample 1 [0, 0, 4])) shipper entries) ∧
      Persisted FileTree.empty (Caller.sampleSource (.sample 1 [0, 0, 4])) shipper := by
  have ends : ((Shipper.machine (asSource MemoryJournal.api)).run
        (Shipper.new (Caller.sampleSource (.sample 1 [0, 0, 4])) FileTree.empty 5 60)
        shippingEvents).map (fun shipper => (settled shipper.actions).map LogEntry.message) =
      some ["b", "c", "d", "e"] := by
    decide +kernel
  obtain ⟨shipper, ran, messages⟩ := Option.map_eq_some_iff.mp ends
  obtain ⟨delivered, persisted⟩ := shipper_run_delivers MemoryJournal.contract ⟨rfl, rfl, rfl⟩ ran
  exact ⟨shipper, ran, messages, delivered, persisted (by decide)⟩

end Ferrometer.Log
