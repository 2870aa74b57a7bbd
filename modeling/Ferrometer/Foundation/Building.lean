import Mathlib.Data.List.Forall2

/-!
Contract: things that are built one after the other, where each can fail or panic.

Owns: two things in a row, a list of things, how the steps that things are made of decide
what comes of all of them, and what it means that a failure is explained by a fault.

Does not own: what is built, or any error type.
-/

set_option autoImplicit false

namespace Ferrometer.Foundation

variable {Failure Item Other Result Step Part : Type}

/-- Something that is built, or has failed to be built. `none` is a panic. -/
abbrev Build (Failure Item : Type) := Option (Except Failure Item)

namespace Build

/-- One thing after the other. -/
def both (first : Build Failure Item) (second : Build Failure Other) :
    Build Failure (Item × Other) :=
  match first with
  | none => none
  | some (.error failure) => some (.error failure)
  | some (.ok item) => second.map fun outcome => outcome.map fun other => (item, other)

def mapBuilt (change : Item → Result) (build : Build Failure Item) : Build Failure Result :=
  build.map fun outcome => outcome.map change

/-- All things of a list, in its order. -/
def all (build : Item → Build Failure Result) : List Item → Build Failure (List Result)
  | [] => some (.ok [])
  | item :: rest =>
      (both (build item) (all build rest)).mapBuilt fun (result, others) => result :: others

theorem mapBuilt_eq_ok {change : Item → Result} {build : Build Failure Item} {result : Result} :
    build.mapBuilt change = some (.ok result) ↔
      ∃ item, build = some (.ok item) ∧ change item = result := by
  rcases build with _ | failure | item
  · simp [mapBuilt]
  · simp [mapBuilt, Except.map]
  · simp [mapBuilt, Except.map]

theorem exists_mapBuilt_eq_ok {change : Item → Result} {build : Build Failure Item} :
    (∃ result, build.mapBuilt change = some (.ok result)) ↔ ∃ item, build = some (.ok item) := by
  simp only [mapBuilt_eq_ok]
  constructor
  · rintro ⟨_, item, built, -⟩
    exact ⟨item, built⟩
  · rintro ⟨item, built⟩
    exact ⟨_, item, built, rfl⟩

theorem mapBuilt_eq_error {change : Item → Result} {build : Build Failure Item}
    {failure : Failure} :
    build.mapBuilt change = some (.error failure) ↔ build = some (.error failure) := by
  rcases build with _ | other | item
  · simp [mapBuilt]
  · simp [mapBuilt, Except.map]
  · simp [mapBuilt, Except.map]

theorem both_eq_ok {first : Build Failure Item} {second : Build Failure Other} {item : Item}
    {other : Other} :
    both first second = some (.ok (item, other)) ↔
      first = some (.ok item) ∧ second = some (.ok other) := by
  rcases first with _ | failure | item
  · simp [both]
  · simp [both]
  · rcases second with _ | failure | other
    · simp [both]
    · simp [both, Except.map]
    · simp [both, Except.map]

theorem exists_both_eq_ok {first : Build Failure Item} {second : Build Failure Other} :
    (∃ result, both first second = some (.ok result)) ↔
      (∃ item, first = some (.ok item)) ∧ ∃ other, second = some (.ok other) := by
  constructor
  · rintro ⟨⟨item, other⟩, built⟩
    exact ⟨⟨item, (both_eq_ok.mp built).1⟩, other, (both_eq_ok.mp built).2⟩
  · rintro ⟨⟨item, ofFirst⟩, other, ofSecond⟩
    exact ⟨(item, other), both_eq_ok.mpr ⟨ofFirst, ofSecond⟩⟩

theorem both_eq_error {first : Build Failure Item} {second : Build Failure Other}
    {failure : Failure} :
    both first second = some (.error failure) ↔ first = some (.error failure) ∨
      (∃ item, first = some (.ok item)) ∧ second = some (.error failure) := by
  rcases first with _ | other | item
  · simp [both]
  · simp [both]
  · rcases second with _ | other | other
    · simp [both]
    · simp [both, Except.map]
    · simp [both, Except.map]

theorem both_eq_none {first : Build Failure Item} {second : Build Failure Other} :
    both first second = none ↔
      first = none ∨ (∃ item, first = some (.ok item)) ∧ second = none := by
  rcases first with _ | failure | item
  · simp [both]
  · simp [both]
  · rcases second with _ | failure | other
    · simp [both]
    · simp [both, Except.map]
    · simp [both, Except.map]

/-- What comes of building something is decided by steps that are tried in order: it is
built just if they all succeed, and it fails as the first one that fails. -/
structure DecidedBy (attempt : Step → Build Failure Part) (build : Build Failure Result)
    (steps : List Step) : Prop where
  calm : (∀ step ∈ steps, attempt step ≠ none) → build ≠ none
  built_iff : (∃ result, build = some (.ok result)) ↔
    ∀ step ∈ steps, ∃ part, attempt step = some (.ok part)
  fails : ∀ failure, build = some (.error failure) → ∃ before step after,
    steps = before ++ step :: after ∧
      (∀ earlier ∈ before, ∃ part, attempt earlier = some (.ok part)) ∧
      attempt step = some (.error failure)

variable {attempt : Step → Build Failure Part}

theorem decidedBy_nil (result : Result) : DecidedBy attempt (some (.ok result)) [] where
  calm _ := by simp
  built_iff := by simp
  fails := by simp

theorem decidedBy_single (step : Step) : DecidedBy attempt (attempt step) [step] where
  calm calm := calm step (List.mem_singleton_self step)
  built_iff := by simp
  fails _ failed := ⟨[], step, [], rfl, by simp, failed⟩

theorem DecidedBy.mapBuilt {build : Build Failure Item} {steps : List Step}
    (decided : DecidedBy attempt build steps) (change : Item → Result) :
    DecidedBy attempt (build.mapBuilt change) steps where
  calm calm := by
    rw [Build.mapBuilt, Ne, Option.map_eq_none_iff]
    exact decided.calm calm
  built_iff := by
    rw [← decided.built_iff, exists_mapBuilt_eq_ok]
  fails failure failed := decided.fails failure (mapBuilt_eq_error.mp failed)

theorem DecidedBy.both {first : Build Failure Item} {second : Build Failure Other}
    {steps others : List Step} (ofFirst : DecidedBy attempt first steps)
    (ofSecond : DecidedBy attempt second others) :
    DecidedBy attempt (Build.both first second) (steps ++ others) where
  calm calm := by
    rw [Ne, both_eq_none]
    rintro (panics | ⟨-, panics⟩)
    · exact ofFirst.calm (fun step member => calm step (List.mem_append_left _ member)) panics
    · exact ofSecond.calm (fun step member => calm step (List.mem_append_right _ member)) panics
  built_iff := by
    rw [List.forall_mem_append, ← ofFirst.built_iff, ← ofSecond.built_iff, exists_both_eq_ok]
  fails failure failed := by
    rcases both_eq_error.mp failed with early | ⟨built, late⟩
    · rcases ofFirst.fails failure early with ⟨before, step, after, rfl, succeeded, own⟩
      exact ⟨before, step, after ++ others, List.append_assoc .., succeeded, own⟩
    · rcases ofSecond.fails failure late with ⟨before, step, after, rfl, succeeded, own⟩
      refine ⟨steps ++ before, step, after, (List.append_assoc ..).symm, ?_, own⟩
      exact List.forall_mem_append.mpr ⟨ofFirst.built_iff.mp built, succeeded⟩

/-- If each thing is decided by steps of its own, the list is by all of them in order. -/
theorem decidedBy_all {build : Item → Build Failure Result} {stepsOf : Item → List Step}
    {items : List Item} (each : ∀ item ∈ items, DecidedBy attempt (build item) (stepsOf item)) :
    DecidedBy attempt (all build items) (items.flatMap stepsOf) := by
  induction items with
  | nil => exact decidedBy_nil []
  | cons item rest inductionHypothesis =>
      have own := each item List.mem_cons_self
      have later := inductionHypothesis fun other member =>
        each other (List.mem_cons_of_mem _ member)
      rw [all, List.flatMap_cons]
      exact (own.both later).mapBuilt _

/-! ## Faults -/

/-- It does not panic, and it is built just if nothing is wrong. -/
structure Explained (build : Build Failure Item) (Fault : Failure → Prop) : Prop where
  calm : build ≠ none
  built_iff : (∃ item, build = some (.ok item)) ↔ ∀ failure, ¬ Fault failure
  fails : ∀ failure, build = some (.error failure) → Fault failure

/-- The same for steps that are tried in order. What fails is the first one with which
something is wrong. -/
structure ExplainedBy (build : Build Failure Result) (Fault : Step → Failure → Prop)
    (steps : List Step) : Prop where
  calm : build ≠ none
  built_iff : (∃ result, build = some (.ok result)) ↔
    ∀ step ∈ steps, ∀ failure, ¬ Fault step failure
  fails : ∀ failure, build = some (.error failure) → ∃ before step after,
    steps = before ++ step :: after ∧ (∀ earlier ∈ before, ∀ other, ¬ Fault earlier other) ∧
      Fault step failure

theorem Explained.mapBuilt {build : Build Failure Item} {Fault : Failure → Prop}
    (explained : Explained build Fault) (change : Item → Result) :
    Explained (build.mapBuilt change) Fault where
  calm := by
    rw [Build.mapBuilt, Ne, Option.map_eq_none_iff]
    exact explained.calm
  built_iff := by
    rw [← explained.built_iff, exists_mapBuilt_eq_ok]
  fails failure failed := explained.fails failure (mapBuilt_eq_error.mp failed)

theorem Explained.both {first : Build Failure Item} {second : Build Failure Other}
    {Fault OtherFault : Failure → Prop} (ofFirst : Explained first Fault)
    (ofSecond : Explained second OtherFault) :
    Explained (Build.both first second) fun failure => Fault failure ∨ OtherFault failure where
  calm := by
    rw [Ne, both_eq_none]
    rintro (panics | ⟨-, panics⟩)
    · exact ofFirst.calm panics
    · exact ofSecond.calm panics
  built_iff := by
    rw [exists_both_eq_ok, ofFirst.built_iff, ofSecond.built_iff]
    simp only [not_or, forall_and]
  fails failure failed := by
    rcases both_eq_error.mp failed with early | ⟨-, late⟩
    · exact Or.inl (ofFirst.fails failure early)
    · exact Or.inr (ofSecond.fails failure late)

theorem DecidedBy.explained {build : Build Failure Result} {steps : List Step}
    {Fault : Step → Failure → Prop} (decided : DecidedBy attempt build steps)
    (each : ∀ step ∈ steps, Explained (attempt step) (Fault step)) :
    ExplainedBy build Fault steps where
  calm := decided.calm fun step member => (each step member).calm
  built_iff := by
    rw [decided.built_iff]
    exact forall₂_congr fun step member => (each step member).built_iff
  fails failure failed := by
    rcases decided.fails failure failed with ⟨before, step, after, rfl, built, own⟩
    have explained := List.forall_mem_append.mp each
    refine ⟨before, step, after, rfl, ?_, (explained.2 step List.mem_cons_self).fails failure own⟩
    intro earlier member
    exact (explained.1 earlier member).built_iff.mp (built earlier member)

end Build

end Ferrometer.Foundation
