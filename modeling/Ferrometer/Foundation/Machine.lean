import Mathlib.Data.List.Basic

/-!
Contract: runs of a partial deterministic machine.

Owns: the fold of a partial step function over a list of events, the rules that
carry an invariant, a count or a rank along a run, the side condition `Along` that a
run meets at each of its steps, progress to a state that is done, machines that can die, and
the lifting of a step-wise simulation to runs.

Does not own: any particular machine. The step function is a parameter, and a
step of `none` says only that the state does not enable the event.
-/

set_option autoImplicit false

namespace Ferrometer.Foundation

universe u v w

/-- A step function that may refuse an event. -/
structure Machine (State : Type u) (Event : Type v) where
  step : State → Event → Option State

namespace Machine

variable {State : Type u} {Event : Type v} (machine : Machine State Event)

/-- The state reached by taking every event in turn, if each one is enabled. -/
def run (state : State) (events : List Event) : Option State :=
  events.foldlM machine.step state

@[simp] theorem run_nil (state : State) : machine.run state [] = some state := rfl

@[simp] theorem run_cons (state : State) (event : Event) (rest : List Event) :
    machine.run state (event :: rest) =
      (machine.step state event).bind fun next => machine.run next rest := by
  rw [run, List.foldlM_cons]
  rfl

/-- A run that starts with `event` takes that step and then the rest. -/
theorem run_cons_eq_some {state final : State} {event : Event} {rest : List Event} :
    machine.run state (event :: rest) = some final ↔
      ∃ next, machine.step state event = some next ∧ machine.run next rest = some final := by
  rw [run_cons, Option.bind_eq_some_iff]

theorem run_append (state : State) (first second : List Event) :
    machine.run state (first ++ second) =
      (machine.run state first).bind fun middle => machine.run middle second := by
  rw [run, List.foldlM_append]
  rfl

/-! ## Invariants -/

/-- `condition` holds of the state and the event at every step the run takes. -/
def Along (condition : State → Event → Prop) : State → List Event → Prop
  | _, [] => True
  | state, event :: rest =>
      condition state event ∧
        ∀ next, machine.step state event = some next → Along condition next rest

instance decidableAlong {condition : State → Event → Prop}
    [∀ state event, Decidable (condition state event)] :
    ∀ state events, Decidable (machine.Along condition state events)
  | _, [] => isTrue trivial
  | state, event :: rest =>
      match stepped : machine.step state event with
      | none => decidable_of_iff (condition state event) (by simp [Along, stepped])
      | some next =>
          haveI : Decidable (machine.Along condition next rest) := decidableAlong next rest
          decidable_of_iff (condition state event ∧ machine.Along condition next rest)
            (by simp [Along, stepped])

variable {machine} in
theorem Along.imp {first second : State → Event → Prop}
    (implies : ∀ {state event}, first state event → second state event) {state : State}
    {events : List Event} (meets : machine.Along first state events) :
    machine.Along second state events := by
  induction events generalizing state with
  | nil => trivial
  | cons event rest inductionHypothesis =>
      exact ⟨implies meets.1, fun next stepped => inductionHypothesis (meets.2 next stepped)⟩

variable {machine} in
theorem Along.and {first second : State → Event → Prop} {state : State} {events : List Event}
    (meetsFirst : machine.Along first state events)
    (meetsSecond : machine.Along second state events) :
    machine.Along (fun state event => first state event ∧ second state event) state events := by
  induction events generalizing state with
  | nil => trivial
  | cons event rest inductionHypothesis =>
      exact ⟨⟨meetsFirst.1, meetsSecond.1⟩, fun next stepped =>
        inductionHypothesis (meetsFirst.2 next stepped) (meetsSecond.2 next stepped)⟩

theorem along_append {condition : State → Event → Prop} {state : State}
    {first second : List Event} :
    machine.Along condition state (first ++ second) ↔
      machine.Along condition state first ∧
        ∀ middle, machine.run state first = some middle →
          machine.Along condition middle second := by
  induction first generalizing state with
  | nil => simp [Along]
  | cons event rest inductionHypothesis =>
      rw [List.cons_append, Along, Along, and_assoc]
      apply and_congr_right
      intro _
      constructor
      · intro ahead
        refine ⟨fun next stepped => (inductionHypothesis.mp (ahead next stepped)).1, ?_⟩
        intro middle ran
        rcases machine.run_cons_eq_some.mp ran with ⟨next, stepped, ranRest⟩
        exact (inductionHypothesis.mp (ahead next stepped)).2 middle ranRest
      · intro parts next stepped
        apply inductionHypothesis.mpr
        refine ⟨parts.1 next stepped, fun middle ranRest => parts.2 middle ?_⟩
        exact machine.run_cons_eq_some.mpr ⟨next, stepped, ranRest⟩

variable {machine} in
/-- A condition on the events alone. -/
theorem Along.of_forall {condition : Event → Prop} {events : List Event}
    (all : ∀ event ∈ events, condition event) (state : State) :
    machine.Along (fun _ event => condition event) state events := by
  induction events generalizing state with
  | nil => trivial
  | cons event rest inductionHypothesis =>
      obtain ⟨first, others⟩ := List.forall_mem_cons.mp all
      exact ⟨first, fun next _ => inductionHypothesis others next⟩

/-- What one step preserves under a side condition, a run that meets the
condition at every step preserves. -/
theorem run_invariant_along {condition : State → Event → Prop} {Invariant : State → Prop}
    (preserved : ∀ {state event next}, Invariant state → condition state event →
      machine.step state event = some next → Invariant next)
    {state final : State} {events : List Event} (start : Invariant state)
    (along : machine.Along condition state events)
    (ran : machine.run state events = some final) : Invariant final := by
  induction events generalizing state with
  | nil => exact Option.some.inj ran ▸ start
  | cons event rest inductionHypothesis =>
      obtain ⟨next, stepped, ranRest⟩ := machine.run_cons_eq_some.mp ran
      exact inductionHypothesis (preserved start along.1 stepped) (along.2 next stepped) ranRest

/-- What every step preserves, every run preserves. -/
theorem run_invariant {Invariant : State → Prop}
    (preserved : ∀ {state event next}, Invariant state →
      machine.step state event = some next → Invariant next)
    {state final : State} {events : List Event} (start : Invariant state)
    (ran : machine.run state events = some final) : Invariant final := by
  have along : machine.Along (fun _ _ => True) state events :=
    Along.of_forall (fun _ _ => trivial) state
  exact machine.run_invariant_along (fun holds _ stepped => preserved holds stepped) start along ran

/-- An invariant that depends on how many of the events so far were marked. -/
theorem run_invariant_counted {condition : State → Event → Prop} {marked : Event → Bool}
    {Invariant : Nat → State → Prop}
    (preserved : ∀ {count state event next}, Invariant count state → condition state event →
      machine.step state event = some next → Invariant (count + (marked event).toNat) next)
    {count : Nat} {state final : State} {events : List Event} (start : Invariant count state)
    (along : machine.Along condition state events)
    (ran : machine.run state events = some final) :
    Invariant (count + events.countP marked) final := by
  induction events generalizing count state with
  | nil =>
      cases ran
      exact start
  | cons event rest inductionHypothesis =>
      rcases machine.run_cons_eq_some.mp ran with ⟨next, stepped, ranRest⟩
      have reached := inductionHypothesis (preserved start along.1 stepped)
        (along.2 next stepped) ranRest
      have counted : (event :: rest).countP marked = (marked event).toNat + rest.countP marked := by
        rw [List.countP_cons, Nat.add_comm]
        cases marked event <;> rfl
      rwa [counted, ← Nat.add_assoc]

/-- A count that no step lets shrink, and that a step leaves alone exactly where it meets
a condition, is left alone by the runs that meet the condition at every step. -/
theorem run_count_iff_along {condition : State → Event → Prop} {Counts : State → Nat → Prop}
    (stepwise : ∀ {state event next count}, Counts state count →
      machine.step state event = some next →
      ∃ more, Counts next (count + more) ∧ (more = 0 ↔ condition state event))
    {state final : State} {events : List Event} {count : Nat} (start : Counts state count)
    (ran : machine.run state events = some final) :
    ∃ more, Counts final (count + more) ∧ (more = 0 ↔ machine.Along condition state events) := by
  induction events generalizing state count with
  | nil =>
      obtain rfl := Option.some.inj ran
      exact ⟨0, start, iff_of_true rfl trivial⟩
  | cons event rest inductionHypothesis =>
      rcases machine.run_cons_eq_some.mp ran with ⟨next, stepped, ranRest⟩
      rcases stepwise start stepped with ⟨more, counted, here⟩
      rcases inductionHypothesis counted ranRest with ⟨others, counts, later⟩
      refine ⟨more + others, by rwa [← Nat.add_assoc], ?_⟩
      rw [Nat.add_eq_zero_iff, here, later]
      constructor
      · rintro ⟨met, along⟩
        refine ⟨met, fun other steppedOther => ?_⟩
        cases stepped.symm.trans steppedOther
        exact along
      · exact fun along => ⟨along.1, along.2 next stepped⟩

/-! ## Moves -/

/-- How many steps of a run change what is observed. -/
def moves {Observed : Type w} [DecidableEq Observed] (observe : State → Observed) :
    State → List Event → Nat
  | _, [] => 0
  | state, event :: rest =>
      match machine.step state event with
      | none => 0
      | some next => (if observe next = observe state then 0 else 1) + moves observe next rest

/-- If every step that changes what is observed lowers its rank, a run changes it no more
often than the rank allows. -/
theorem moves_add_rank_le {Observed : Type w} [DecidableEq Observed]
    {observe : State → Observed} {rank : Observed → Nat} {condition : State → Event → Prop}
    {Invariant : State → Prop}
    (preserved : ∀ {state event next}, Invariant state → condition state event →
      machine.step state event = some next → Invariant next)
    (lowers : ∀ {state event next}, Invariant state → condition state event →
      machine.step state event = some next →
      observe next = observe state ∨ rank (observe next) < rank (observe state))
    {state final : State} {events : List Event} (start : Invariant state)
    (along : machine.Along condition state events)
    (ran : machine.run state events = some final) :
    machine.moves observe state events + rank (observe final) ≤ rank (observe state) := by
  induction events generalizing state with
  | nil =>
      cases ran
      exact Nat.le_of_eq (Nat.zero_add _)
  | cons event rest inductionHypothesis =>
      rcases machine.run_cons_eq_some.mp ran with ⟨next, stepped, ranRest⟩
      have others := inductionHypothesis (preserved start along.1 stepped)
        (along.2 next stepped) ranRest
      simp only [moves, stepped]
      rcases lowers start along.1 stepped with same | lower
      · rw [if_pos same, ← same]
        omega
      · rw [if_neg fun same => Nat.ne_of_lt lower (congrArg rank same)]
        omega

/-! ## Progress -/

/-- If from every state that is not done a chosen event lowers a rank, some run of such
events leads to a state that is done. -/
theorem exists_run_of_progress {Invariant Done : State → Prop} {chosen : Event → Prop}
    {rank : State → Nat}
    (progress : ∀ {state}, Invariant state → Done state ∨
      ∃ event next, chosen event ∧ machine.step state event = some next ∧ Invariant next ∧
        rank next < rank state)
    {state : State} (start : Invariant state) :
    ∃ events final, (∀ event ∈ events, chosen event) ∧
      machine.run state events = some final ∧ Done final := by
  induction bound : rank state using Nat.strongRecOn generalizing state with
  | ind bound inductionHypothesis =>
      subst bound
      rcases progress start with done | ⟨event, next, isChosen, stepped, kept, lower⟩
      · exact ⟨[], state, nofun, rfl, done⟩
      · rcases inductionHypothesis (rank next) lower kept rfl with
          ⟨rest, final, allChosen, ran, done⟩
        exact ⟨event :: rest, final, List.forall_mem_cons.mpr ⟨isChosen, allChosen⟩,
          machine.run_cons_eq_some.mpr ⟨next, stepped, ran⟩, done⟩

/-! ## Conditions that a run breaks for good -/

/-- If a step spoils a state exactly where it breaks a condition, and nothing repairs it,
a run that starts intact ends intact exactly when it meets the condition at every step. -/
theorem intact_iff_along {allowed condition : State → Event → Prop}
    {Invariant Spoilt : State → Prop}
    (preserved : ∀ {state event next}, Invariant state → allowed state event →
      machine.step state event = some next → Invariant next)
    (spoils : ∀ {state event next}, Invariant state → allowed state event →
      machine.step state event = some next →
      (Spoilt next ↔ Spoilt state ∨ ¬ condition state event))
    {state final : State} {events : List Event} (start : Invariant state)
    (along : machine.Along allowed state events)
    (ran : machine.run state events = some final) :
    ¬ Spoilt final ↔ ¬ Spoilt state ∧ machine.Along condition state events := by
  induction events generalizing state with
  | nil =>
      cases ran
      exact (and_iff_left trivial).symm
  | cons event rest inductionHypothesis =>
      rcases machine.run_cons_eq_some.mp ran with ⟨next, stepped, ranRest⟩
      have here := spoils start along.1 stepped
      have later := inductionHypothesis (preserved start along.1 stepped)
        (along.2 next stepped) ranRest
      rw [later, here, not_or, not_not, and_assoc]
      apply and_congr_right
      intro _
      constructor
      · rintro ⟨met, ahead⟩
        refine ⟨met, fun other steppedOther => ?_⟩
        cases stepped.symm.trans steppedOther
        exact ahead
      · exact fun met => ⟨met.1, met.2 next stepped⟩

/-! ## Machines that can die -/

/-- A dead state takes no step. If a step leads to one exactly where it breaks a
condition, a run ends alive exactly when it meets the condition at every step. -/
theorem alive_iff_along {Dead : State → Prop} {condition : State → Event → Prop}
    (stuck : ∀ {state event}, Dead state → machine.step state event = none)
    (dies : ∀ {state event next}, machine.step state event = some next →
      (Dead next ↔ ¬ condition state event))
    {state final : State} {events : List Event} (alive : ¬ Dead state)
    (ran : machine.run state events = some final) :
    ¬ Dead final ↔ machine.Along condition state events := by
  induction events generalizing state with
  | nil =>
      obtain rfl := Option.some.inj ran
      exact iff_of_true alive trivial
  | cons event rest inductionHypothesis =>
      obtain ⟨next, stepped, ranRest⟩ := machine.run_cons_eq_some.mp ran
      by_cases met : condition state event
      · have nextAlive : ¬ Dead next := fun dead => (dies stepped).mp dead met
        rw [inductionHypothesis nextAlive ranRest]
        refine ⟨fun along => ⟨met, fun other steppedOther => ?_⟩, fun along => along.2 _ stepped⟩
        obtain rfl := Option.some.inj (stepped.symm.trans steppedOther)
        exact along
      · have dead : Dead next := (dies stepped).mpr met
        cases rest with
        | nil =>
            obtain rfl := Option.some.inj ranRest
            exact iff_of_false (not_not_intro dead) fun along => met along.1
        | cons event rest =>
            rw [run_cons, stuck dead] at ranRest
            exact absurd ranRest (by simp)

/-! ## Simulation -/

/-- If forgetting a part of the state commutes with every step, it does with every
run. -/
theorem run_map {Abstract : Type u} {abstractMachine : Machine Abstract Event}
    {forget : State → Abstract}
    (commutes : ∀ state event,
      (machine.step state event).map forget = abstractMachine.step (forget state) event)
    (state : State) (events : List Event) :
    (machine.run state events).map forget = abstractMachine.run (forget state) events := by
  induction events generalizing state with
  | nil => rfl
  | cons event rest inductionHypothesis =>
      rw [run_cons, run_cons, ← commutes]
      cases machine.step state event with
      | none => rfl
      | some next => exact inductionHypothesis next

/-- If every step is matched by some steps of another machine, so is every run. -/
theorem run_simulation {Abstract : Type u} {AbstractEvent : Type v}
    {abstractMachine : Machine Abstract AbstractEvent} {Related : State → Abstract → Prop}
    (simulated : ∀ {state abstract event next}, Related state abstract →
      machine.step state event = some next →
      ∃ events abstractNext, abstractMachine.run abstract events = some abstractNext ∧
        Related next abstractNext)
    {state final : State} {abstract : Abstract} {events : List Event}
    (related : Related state abstract) (ran : machine.run state events = some final) :
    ∃ abstractEvents abstractFinal,
      abstractMachine.run abstract abstractEvents = some abstractFinal ∧
        Related final abstractFinal := by
  induction events generalizing state abstract with
  | nil =>
      obtain rfl := Option.some.inj ran
      exact ⟨[], abstract, rfl, related⟩
  | cons event rest inductionHypothesis =>
      obtain ⟨next, stepped, ranRest⟩ := machine.run_cons_eq_some.mp ran
      obtain ⟨first, middle, ranFirst, relatedNext⟩ := simulated related stepped
      obtain ⟨second, abstractFinal, ranSecond, relatedFinal⟩ :=
        inductionHypothesis relatedNext ranRest
      refine ⟨first ++ second, abstractFinal, ?_, relatedFinal⟩
      rw [run_append, ranFirst, Option.bind_some, ranSecond]

/-- If another machine can stand still at the events that are left out and follow at the
others, it can run on the others alone. -/
theorem run_filter {Other : Type w} {other : Machine Other Event} {keeps : Event → Bool}
    {Related : State → Other → Prop}
    (ignored : ∀ {state follower event next}, Related state follower → keeps event = false →
      machine.step state event = some next → Related next follower)
    (followed : ∀ {state follower event next}, Related state follower → keeps event = true →
      machine.step state event = some next →
      ∃ after, other.step follower event = some after ∧ Related next after)
    {state final : State} {follower : Other} {events : List Event}
    (related : Related state follower) (ran : machine.run state events = some final) :
    ∃ after, other.run follower (events.filter keeps) = some after ∧ Related final after := by
  induction events generalizing state follower with
  | nil =>
      obtain rfl := Option.some.inj ran
      exact ⟨follower, rfl, related⟩
  | cons event rest inductionHypothesis =>
      rcases machine.run_cons_eq_some.mp ran with ⟨next, stepped, ranRest⟩
      cases kept : keeps event with
      | false =>
          rw [List.filter_cons_of_neg (by simp [kept])]
          exact inductionHypothesis (ignored related kept stepped) ranRest
      | true =>
          rcases followed related kept stepped with ⟨middle, follows, relatedMiddle⟩
          rcases inductionHypothesis relatedMiddle ranRest with ⟨after, ranOther, relatedAfter⟩
          rw [List.filter_cons_of_pos kept]
          exact ⟨after, other.run_cons_eq_some.mpr ⟨middle, follows, ranOther⟩, relatedAfter⟩

/-! ## Reachable states -/

/-- Some run leads from one state to the other. -/
def Reaches (state final : State) : Prop :=
  ∃ events, machine.run state events = some final

theorem Reaches.refl (state : State) : machine.Reaches state state :=
  ⟨[], rfl⟩

variable {machine} in
theorem Reaches.step {state next final : State} {event : Event}
    (reaches : machine.Reaches state next) (stepped : machine.step next event = some final) :
    machine.Reaches state final := by
  rcases reaches with ⟨events, ran⟩
  refine ⟨events ++ [event], ?_⟩
  rw [run_append, ran, Option.bind_some]
  exact machine.run_cons_eq_some.mpr ⟨final, stepped, rfl⟩

end Machine

end Ferrometer.Foundation
