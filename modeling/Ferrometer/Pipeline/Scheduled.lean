import Ferrometer.Foundation.Fallible
import Ferrometer.Time
import Mathlib.Data.List.Nodup
import Mathlib.Order.Basic

/-!
Contract: the entries of the scheduler and how an entry that is due is started.

Owns: the schedule of a collector, the loop that moves its next run past the
current instant, and when and where that loop ends.

Does not own: when the scheduler looks for due entries.

The loop of the code has no bound of its own. Here it takes fuel, and what it
does is what it does with enough of it.
-/

set_option autoImplicit false

namespace Ferrometer.Pipeline

open Ferrometer.Config Ferrometer.Foundation

/-- The handle of a `collect` in flight is the flag `active` here. -/
structure Scheduled where
  name : String
  interval : Duration
  maxRuntime : Duration
  nextRun : Instant
  active : Bool

/-- What of an entry never changes. -/
def Scheduled.settings (scheduled : Scheduled) : String × Duration × Duration :=
  (scheduled.name, scheduled.interval, scheduled.maxRuntime)

def collectorScheduleParams : CollectorConfig → Duration × Duration
  | .unix config => (config.interval, config.maxRuntime)
  | .prometheus config => (config.interval, config.maxRuntime)

/-- A started `collect`. -/
structure Started where
  name : String
  startedAt : Instant
deriving DecidableEq

/-! ## The catch-up loop -/

inductive CatchUp where
  | done (nextRun : Instant)
  /-- `next_run += interval` has panicked. -/
  | overflow
  /-- Out of fuel: the loop still runs. -/
  | running (nextRun : Instant)
deriving DecidableEq

/-- `while next_run <= now`. -/
def catchUpLoop (interval : Duration) (now : Instant) : Nat → Instant → CatchUp
  | 0, nextRun => if nextRun ≤ now then .running nextRun else .done nextRun
  | fuel + 1, nextRun =>
      if nextRun ≤ now then
        match addDuration nextRun interval with
        | none => .overflow
        | some later => catchUpLoop interval now fuel later
      else .done nextRun

/-- The loop with as many turns as it has if every turn moves `nextRun` on. -/
def catchUp (interval : Duration) (now nextRun : Instant) : CatchUp :=
  catchUpLoop interval now (now + 1 - nextRun) nextRun

/-- Why the scheduler does not get to its next wait. -/
inductive Halt where
  | overflow
  /-- The catch-up loop never ends. -/
  | hung
deriving DecidableEq

/-- Start a collector that is due and idle. -/
def Scheduled.start (scheduled : Scheduled) (now : Instant) :
    Except Halt (Scheduled × List Started) :=
  if scheduled.active = false ∧ scheduled.nextRun ≤ now then
    match catchUp scheduled.interval now scheduled.nextRun with
    | .done nextRun =>
        .ok ({ scheduled with nextRun, active := true }, [⟨scheduled.name, now⟩])
    | .overflow => .error .overflow
    | .running _ => .error .hung
  else .ok (scheduled, [])

/-- The loop over all entries, with what it has started. -/
def startDue (now : Instant) : List Scheduled → Except Halt (List Scheduled × List Started)
  | [] => .ok ([], [])
  | scheduled :: rest => do
      let (scheduled, started) ← scheduled.start now
      let (rest, others) ← startDue now rest
      .ok (scheduled :: rest, started ++ others)

/-! ## Slots -/

/-- The least `start + k * interval` after `now`. -/
structure IsNextSlot (start : Instant) (interval : Duration) (now slot : Instant) : Prop where
  onGrid : ∃ k, slot = start + k * interval
  after : now < slot
  least : ∀ k, now < start + k * interval → slot ≤ start + k * interval

/-- The number of the slot that an instant is in. -/
def slotOf (start : Instant) (interval : Duration) (instant : Instant) : Nat :=
  (instant - start) / interval

def nextSlot (start : Instant) (interval : Duration) (now : Instant) : Instant :=
  start + (slotOf start interval now + 1) * interval

section Slots

variable {start now interval : Nat}

private theorem lt_nextSlot (positive : 0 < interval) : now < nextSlot start interval now := by
  have reaches : now - start < interval * ((now - start) / interval + 1) :=
    Nat.lt_mul_div_succ _ positive
  rw [Nat.mul_comm] at reaches
  show now < start + ((now - start) / interval + 1) * interval
  omega

/-- An instant before the slot with number `k` is in an earlier one. -/
theorem slotOf_lt {k : Nat} (begun : start ≤ now) (before : now < start + k * interval) :
    slotOf start interval now < k := by
  apply Nat.div_lt_of_lt_mul
  rw [Nat.mul_comm]
  exact Nat.sub_lt_left_of_lt_add begun before

theorem le_slotOf {k : Nat} (positive : 0 < interval) (reached : start + k * interval ≤ now) :
    k ≤ slotOf start interval now := by
  apply (Nat.le_div_iff_mul_le positive).mpr
  exact Nat.le_sub_of_add_le' reached

theorem isNextSlot_nextSlot (positive : 0 < interval) (begun : start ≤ now) :
    IsNextSlot start interval now (nextSlot start interval now) where
  onGrid := ⟨_, rfl⟩
  after := lt_nextSlot positive
  least := by
    intro k after
    exact Nat.add_le_add_left (Nat.mul_le_mul_right _ (slotOf_lt begun after)) _

theorem IsNextSlot.unique {slot other : Instant} (isNext : IsNextSlot start interval now slot)
    (isOther : IsNextSlot start interval now other) : slot = other := by
  rcases isNext.onGrid with ⟨k, rfl⟩
  rcases isOther.onGrid with ⟨l, rfl⟩
  exact Nat.le_antisymm (isNext.least l isOther.after) (isOther.least k isNext.after)

end Slots

/-! ## When the loop ends -/

section Loop

variable {now interval : Nat}

/-- Without an interval the loop stands still, whatever its fuel. -/
theorem catchUpLoop_zero {nextRun : Instant} (due : nextRun ≤ now) (fuel : Nat)
    (final : Instant) : catchUpLoop 0 now fuel nextRun ≠ .done final := by
  induction fuel with
  | zero =>
      rw [catchUpLoop, if_pos due]
      exact nofun
  | succ fuel inductionHypothesis =>
      rw [catchUpLoop, if_pos due]
      cases added : addDuration nextRun 0 with
      | none => exact nofun
      | some later =>
          rcases addDuration_eq_some.mp added with ⟨-, rfl⟩
          exact inductionHypothesis

/-- More fuel changes nothing once the loop has ended. -/
theorem catchUpLoop_mono {fuel : Nat} {nextRun final : Instant} (more : Nat)
    (ended : catchUpLoop interval now fuel nextRun = .done final) :
    catchUpLoop interval now (fuel + more) nextRun = .done final := by
  induction fuel generalizing nextRun with
  | zero =>
      by_cases due : nextRun ≤ now
      · rw [catchUpLoop, if_pos due] at ended
        exact absurd ended nofun
      · rw [catchUpLoop, if_neg due] at ended
        cases more with
        | zero => rw [catchUpLoop, if_neg due, ended]
        | succ more => rw [Nat.zero_add, catchUpLoop, if_neg due, ended]
  | succ fuel inductionHypothesis =>
      rw [Nat.succ_add]
      by_cases due : nextRun ≤ now
      · rw [catchUpLoop, if_pos due] at ended ⊢
        cases added : addDuration nextRun interval with
        | none =>
            rw [added] at ended
            exact absurd ended nofun
        | some later =>
            rw [added] at ended
            exact inductionHypothesis ended
      · rw [catchUpLoop, if_neg due] at ended ⊢
        exact ended

/-- With an interval, a turn for every slot up to that of `now` is enough. -/
theorem catchUpLoop_eq {start k fuel : Nat} (positive : 0 < interval)
    (due : start + k * interval ≤ now) (enough : slotOf start interval now < k + fuel) :
    catchUpLoop interval now fuel (start + k * interval) =
      if nextSlot start interval now ≤ instantMax then .done (nextSlot start interval now)
      else .overflow := by
  have begun : start ≤ now := (Nat.le_add_right _ _).trans due
  have reached : k ≤ slotOf start interval now := le_slotOf positive due
  induction fuel generalizing k with
  | zero => omega
  | succ fuel inductionHypothesis =>
      have nextOnGrid : start + k * interval + interval = start + (k + 1) * interval := by
        rw [Nat.succ_mul, Nat.add_assoc]
      have notBeyond : start + (k + 1) * interval ≤ nextSlot start interval now := by
        apply Nat.add_le_add_left
        exact Nat.mul_le_mul_right _ (Nat.succ_le_succ reached)
      rw [catchUpLoop, if_pos due]
      unfold addDuration
      rw [nextOnGrid]
      by_cases fits : start + (k + 1) * interval ≤ instantMax
      · rw [if_pos fits]
        by_cases again : start + (k + 1) * interval ≤ now
        · exact inductionHypothesis again (by omega) (le_slotOf positive again)
        · -- The loop ends here, in the slot after the one that `now` is in.
          have last : slotOf start interval now = k := by
            have before := slotOf_lt begun (Nat.lt_of_not_le again)
            omega
          have isNext : nextSlot start interval now = start + (k + 1) * interval := by
            rw [nextSlot, last]
          rw [isNext, if_pos fits]
          cases fuel with
          | zero => exact if_neg again
          | succ fuel => exact if_neg again
      · rw [if_neg fits, if_neg fun nextFits => fits (notBeyond.trans nextFits)]

/-- The loop ends, and at the least slot after `now`, exactly if there is an
interval and the clock can count up to that slot. -/
theorem catchUpLoop_ends_iff {start k : Nat} (due : start + k * interval ≤ now) :
    (∃ fuel final, catchUpLoop interval now fuel (start + k * interval) = .done final ∧
        IsNextSlot start interval now final) ↔
      interval ≠ 0 ∧ nextSlot start interval now ≤ instantMax := by
  have begun : start ≤ now := (Nat.le_add_right _ _).trans due
  constructor
  · rintro ⟨fuel, final, ended, -⟩
    have moves : interval ≠ 0 := by
      rintro rfl
      exact catchUpLoop_zero due fuel final ended
    apply And.intro moves
    by_contra beyond
    have enough : slotOf start interval now < k + (fuel + (slotOf start interval now + 1)) := by
      omega
    have endedLater := catchUpLoop_mono (slotOf start interval now + 1) ended
    rw [catchUpLoop_eq (Nat.pos_of_ne_zero moves) due enough, if_neg beyond] at endedLater
    exact absurd endedLater nofun
  · rintro ⟨moves, fits⟩
    have positive : 0 < interval := Nat.pos_of_ne_zero moves
    have enough : slotOf start interval now < k + (slotOf start interval now + 1) := by omega
    refine ⟨slotOf start interval now + 1, nextSlot start interval now, ?_, ?_⟩
    · rw [catchUpLoop_eq positive due enough, if_pos fits]
    · exact isNextSlot_nextSlot positive begun

/-- The loop with its fuel, at an instant on the grid. -/
theorem catchUp_eq {start k : Nat} (positive : 0 < interval)
    (due : start + k * interval ≤ now) :
    catchUp interval now (start + k * interval) =
      if nextSlot start interval now ≤ instantMax then .done (nextSlot start interval now)
      else .overflow := by
  apply catchUpLoop_eq positive due
  have begun : start ≤ now := (Nat.le_add_right _ _).trans due
  apply slotOf_lt begun
  have turns := Nat.le_mul_of_pos_right (now + 1 - (start + k * interval)) positive
  rw [Nat.add_mul]
  omega

/-- Where the loop has ended, there is an interval, and it has ended in the next slot. -/
theorem catchUp_done {start k : Nat} {final : Instant} (due : start + k * interval ≤ now)
    (ended : catchUp interval now (start + k * interval) = .done final) :
    0 < interval ∧ final = nextSlot start interval now := by
  have positive : 0 < interval := by
    apply Nat.pos_of_ne_zero
    rintro rfl
    exact catchUpLoop_zero due _ final ended
  rw [catchUp_eq positive due] at ended
  split at ended
  · cases ended
    exact ⟨positive, rfl⟩
  · exact absurd ended nofun

/-- Only without an interval does the loop go on for ever. -/
theorem catchUp_running {start k : Nat} {nextRun : Instant} (due : start + k * interval ≤ now)
    (runs : catchUp interval now (start + k * interval) = .running nextRun) :
    interval = 0 := by
  by_contra moves
  rw [catchUp_eq (Nat.pos_of_ne_zero moves) due] at runs
  split at runs
  · exact absurd runs nofun
  · exact absurd runs nofun

end Loop

/-! ## What is started -/

/-- An entry is left as it is, or it was due and idle and is now running. -/
theorem Scheduled.start_cases {scheduled next : Scheduled} {now : Instant}
    {started : List Started} (ok : scheduled.start now = .ok (next, started)) :
    (¬ (scheduled.active = false ∧ scheduled.nextRun ≤ now) ∧ next = scheduled ∧ started = []) ∨
    (scheduled.active = false ∧ scheduled.nextRun ≤ now ∧
      ∃ nextRun, catchUp scheduled.interval now scheduled.nextRun = .done nextRun ∧
        next = { scheduled with nextRun, active := true } ∧
        started = [⟨scheduled.name, now⟩]) := by
  unfold start at ok
  split at ok
  · rename_i dueIdle
    apply Or.inr
    refine ⟨dueIdle.1, dueIdle.2, ?_⟩
    cases caughtUp : catchUp scheduled.interval now scheduled.nextRun with
    | done nextRun =>
        rw [caughtUp] at ok
        cases ok
        exact ⟨nextRun, rfl, rfl, rfl⟩
    | overflow =>
        rw [caughtUp] at ok
        exact absurd ok nofun
    | running nextRun =>
        rw [caughtUp] at ok
        exact absurd ok nofun
  · rename_i notDueIdle
    cases ok
    exact Or.inl ⟨notDueIdle, rfl, rfl⟩

theorem Scheduled.start_name {scheduled next : Scheduled} {now : Instant}
    {started : List Started} (ok : scheduled.start now = .ok (next, started)) :
    ∀ task ∈ started, task.name = scheduled.name := by
  rcases scheduled.start_cases ok with ⟨-, -, rfl⟩ | ⟨-, -, _, -, -, rfl⟩
  · exact nofun
  · intro task member
    rw [List.mem_singleton.mp member]

/-- What the loop over all entries has done to `scheduleds`. -/
structure StartsDue (now : Instant) (scheduleds next : List Scheduled)
    (started : List Started) : Prop where
  settings : next.map Scheduled.settings = scheduleds.map Scheduled.settings
  each : ∀ after ∈ next, ∃ before ∈ scheduleds,
    before.start now = .ok (after, started.filter fun task => task.name = before.name)
  due : ∀ task ∈ started, ∃ before ∈ scheduleds, before.active = false ∧
    before.nextRun ≤ now ∧ task = ⟨before.name, now⟩
  once : (started.map Started.name).Sublist (scheduleds.map Scheduled.name)

/-- Settings determine names. -/
theorem map_name_of_settings {scheduleds next : List Scheduled}
    (same : next.map Scheduled.settings = scheduleds.map Scheduled.settings) :
    next.map Scheduled.name = scheduleds.map Scheduled.name := by
  have names := congrArg (List.map Prod.fst) same
  rwa [List.map_map, List.map_map] at names

theorem startDue_ok {now : Instant} {scheduleds next : List Scheduled} {started : List Started}
    (distinct : (scheduleds.map Scheduled.name).Nodup)
    (ok : startDue now scheduleds = .ok (next, started)) :
    StartsDue now scheduleds next started := by
  induction scheduleds generalizing next started with
  | nil =>
      cases ok
      exact ⟨rfl, nofun, nofun, .slnil⟩
  | cons first rest inductionHypothesis =>
      rcases bind_eq_ok.mp ok with ⟨⟨firstAfter, own⟩, startedFirst, ok⟩
      rcases bind_eq_ok.mp ok with ⟨⟨restAfter, others⟩, startedRest, ok⟩
      cases ok
      rw [List.map_cons, List.nodup_cons] at distinct
      have onRest := inductionHypothesis distinct.2 startedRest
      have ownName := first.start_name startedFirst
      have otherName : ∀ task ∈ others, task.name ≠ first.name := by
        intro task member same
        apply distinct.1
        rw [← same]
        exact onRest.once.subset (List.mem_map_of_mem member)
      have same : firstAfter.settings = first.settings := by
        rcases first.start_cases startedFirst with ⟨-, rfl, -⟩ | ⟨-, -, _, -, rfl, -⟩ <;> rfl
      exact {
        settings := by rw [List.map_cons, List.map_cons, same, onRest.settings]
        each := by
          intro after member
          rcases List.mem_cons.mp member with rfl | later
          · refine ⟨first, List.mem_cons_self, ?_⟩
            rw [startedFirst, List.filter_append, List.filter_eq_self.mpr (by simpa using ownName),
              List.filter_eq_nil_iff.mpr (by simpa using otherName), List.append_nil]
          · rcases onRest.each after later with ⟨before, present, ran⟩
            have foreign : ∀ task ∈ own, task.name ≠ before.name := by
              intro task isOwn sameName
              apply distinct.1
              rw [← ownName task isOwn, sameName]
              exact List.mem_map_of_mem present
            have nothing : own.filter (fun task => task.name = before.name) = [] := by
              simpa using foreign
            refine ⟨before, List.mem_cons_of_mem _ present, ?_⟩
            rw [ran, List.filter_append, nothing, List.nil_append]
        due := by
          intro task member
          rcases List.mem_append.mp member with isOwn | later
          · rcases first.start_cases startedFirst with ⟨-, -, rfl⟩ | ⟨idle, due, _, -, -, rfl⟩
            · exact absurd isOwn nofun
            · exact ⟨first, List.mem_cons_self, idle, due, List.mem_singleton.mp isOwn⟩
          · rcases onRest.due task later with ⟨before, present, facts⟩
            exact ⟨before, List.mem_cons_of_mem _ present, facts⟩
        once := by
          rw [List.map_append, List.map_cons]
          rcases first.start_cases startedFirst with ⟨-, -, rfl⟩ | ⟨-, -, _, -, -, rfl⟩
          · exact onRest.once.cons _
          · exact onRest.once.cons_cons _ }

/-- A loop that does not get through has stopped at a due and idle entry. -/
theorem startDue_error {now : Instant} {scheduleds : List Scheduled} {reason : Halt}
    (failed : startDue now scheduleds = .error reason) :
    ∃ scheduled ∈ scheduleds, scheduled.nextRun ≤ now ∧
      scheduled.start now = .error reason := by
  induction scheduleds with
  | nil => exact absurd failed nofun
  | cons first rest inductionHypothesis =>
      rw [startDue] at failed
      cases startedFirst : first.start now with
      | error other =>
          rw [startedFirst] at failed
          cases failed
          refine ⟨first, List.mem_cons_self, ?_, startedFirst⟩
          by_contra notDue
          rw [Scheduled.start, if_neg fun dueIdle => notDue dueIdle.2] at startedFirst
          exact absurd startedFirst nofun
      | ok pair =>
          rw [startedFirst] at failed
          cases startedRest : startDue now rest with
          | error other =>
              simp only [startedRest, bind, Except.bind] at failed
              cases failed
              rcases inductionHypothesis startedRest with ⟨scheduled, member, facts⟩
              exact ⟨scheduled, List.mem_cons_of_mem _ member, facts⟩
          | ok others =>
              simp only [startedRest, bind, Except.bind] at failed
              exact absurd failed nofun

end Ferrometer.Pipeline
