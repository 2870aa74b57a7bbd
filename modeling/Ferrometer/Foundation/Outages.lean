import Mathlib.Data.List.DropRight
import Mathlib.Data.List.SplitBy

/-!
Contract: an observer that reports outcomes one by one, counts the failures in a row, and
speaks when they begin and when they have ended.

Owns: what such an observer does with an outcome, that its counter is the length of the
trailing run of failures, and what it says in each maximal run of like outcomes.

Does not own: what an outcome is, or what is said.
-/

set_option autoImplicit false

namespace Ferrometer.Foundation

universe u v

/-- What is counted after a report and said in it, and the two things that there are to say. -/
structure Observer (Report : Type u) (Said : Type v) where
  failed : Report → Bool
  counted : Report → Nat
  said : Report → List Said
  began : Said
  ended : Nat → Said

namespace Observer

variable {Report : Type u} {Said : Type v} (observer : Observer Report Said)

def count (failures : Nat) (failed : Bool) : Nat :=
  if failed then failures + 1 else 0

/-- What is to be said of an outcome, after so many failures in a row. -/
def call : Nat → Bool → List Said
  | 0, true => [observer.began]
  | failures + 1, false => [observer.ended (failures + 1)]
  | _, _ => []

/-- The observer counts the outcome, and says what it calls for. -/
structure Heeds (failures : Nat) (report : Report) : Prop where
  counted : observer.counted report = count failures (observer.failed report)
  said : observer.said report = observer.call failures (observer.failed report)

/-- One report after the other is heeded. -/
def Follows : Nat → List Report → Prop
  | _, [] => True
  | failures, report :: rest =>
      observer.Heeds failures report ∧ Follows (count failures (observer.failed report)) rest

/-! ## The counter -/

/-- The trailing run of failures. -/
def outage (reports : List Report) : List Report :=
  reports.rtakeWhile observer.failed

private theorem foldl_count (reports : List Report) :
    reports.foldl (fun failures report => count failures (observer.failed report)) 0 =
      (observer.outage reports).length := by
  induction reports using List.reverseRecOn with
  | nil => rfl
  | append_singleton front report inductionHypothesis =>
      rw [List.foldl_append, List.foldl_cons, List.foldl_nil, inductionHypothesis]
      simp only [count, outage, List.rtakeWhile_concat]
      split
      · rw [List.length_append, List.length_singleton]
      · rfl

private theorem counted_of_follows {failures : Nat} {earlier later : List Report}
    {report : Report} (follows : observer.Follows failures (earlier ++ report :: later)) :
    observer.counted report = (earlier ++ [report]).foldl
      (fun failures report => count failures (observer.failed report)) failures := by
  induction earlier generalizing failures with
  | nil => exact follows.1.counted
  | cons first rest inductionHypothesis => exact inductionHypothesis follows.2

/-- Up to each report, the trailing run of failures has been counted. -/
theorem counted_eq {earlier later : List Report} {report : Report}
    (follows : observer.Follows 0 (earlier ++ report :: later)) :
    observer.counted report = (observer.outage (earlier ++ [report])).length := by
  rw [observer.counted_of_follows follows, observer.foldl_count]

/-! ## The runs -/

/-- The maximal runs of failures and of successes, in order. -/
def runs (reports : List Report) : List (List Report) :=
  reports.splitBy fun earlier later => observer.failed earlier == observer.failed later

/-- A run of failures says that it has begun. A run of successes says how long the failures
right before it have lasted, if there were any. -/
structure SpeaksPerRun (reports : List Report) : Prop where
  first : ∀ run ∈ (observer.runs reports).head?, ∀ opening ∈ run.head?,
    run.flatMap observer.said = if observer.failed opening then [observer.began] else []
  later : (observer.runs reports).IsChain fun before run => ∀ opening ∈ run.head?,
    run.flatMap observer.said =
      if observer.failed opening then [observer.began] else [observer.ended before.length]

/-- Reports of one outcome. -/
private def Uniform (outcome : Bool) (run : List Report) : Prop :=
  ∀ report ∈ run, observer.failed report = outcome

private theorem quiet_of_uniform {failures : Nat} {outcome : Bool} {run rest : List Report}
    (uniform : observer.Uniform outcome run)
    (follows : observer.Follows (count failures outcome) (run ++ rest)) :
    run.flatMap observer.said = [] ∧
      observer.Follows (if outcome then failures + 1 + run.length else 0) rest := by
  induction run generalizing failures with
  | nil => exact ⟨rfl, follows⟩
  | cons report others inductionHypothesis =>
      rcases follows with ⟨⟨-, said⟩, follows⟩
      rw [uniform report List.mem_cons_self] at said follows
      have othersUniform : observer.Uniform outcome others :=
        fun other member => uniform other (List.mem_cons_of_mem _ member)
      cases outcome with
      | true =>
          rcases inductionHypothesis othersUniform follows with ⟨quiet, follows⟩
          rw [List.flatMap_cons, said, quiet]
          refine ⟨rfl, ?_⟩
          rw [if_pos rfl] at follows ⊢
          rw [List.length_cons, Nat.add_comm others.length, ← Nat.add_assoc]
          exact follows
      | false =>
          rcases inductionHypothesis othersUniform follows with ⟨quiet, follows⟩
          rw [List.flatMap_cons, said, quiet]
          exact ⟨rfl, follows⟩

/-- A run of one outcome speaks in its first report, if at all. -/
private theorem said_of_uniform {failures : Nat} {opening : Report} {others rest : List Report}
    (uniform : observer.Uniform (observer.failed opening) (opening :: others))
    (starts : observer.failed opening = true → failures = 0)
    (follows : observer.Follows failures (opening :: others ++ rest)) :
    (opening :: others).flatMap observer.said =
        observer.call failures (observer.failed opening) ∧
      observer.Follows (if observer.failed opening then (opening :: others).length else 0)
        rest := by
  rcases follows with ⟨⟨-, said⟩, follows⟩
  have othersUniform : observer.Uniform (observer.failed opening) others :=
    fun other member => uniform other (List.mem_cons_of_mem _ member)
  rcases observer.quiet_of_uniform othersUniform follows with ⟨quiet, follows⟩
  refine ⟨by rw [List.flatMap_cons, said, quiet, List.append_nil], ?_⟩
  cases outcome : observer.failed opening with
  | true =>
      rw [outcome, if_pos rfl, starts outcome, Nat.zero_add, Nat.add_comm] at follows
      exact follows
  | false =>
      rw [outcome] at follows
      exact follows

private theorem uniform_of_isChain {opening : Report} {others : List Report}
    (alike : (opening :: others).IsChain fun earlier later =>
      (observer.failed earlier == observer.failed later) = true) :
    observer.Uniform (observer.failed opening) (opening :: others) := by
  induction others generalizing opening with
  | nil =>
      intro report member
      rw [List.mem_singleton.mp member]
  | cons next rest inductionHypothesis =>
      rcases List.isChain_cons_cons.mp alike with ⟨same, alike⟩
      have same := beq_iff_eq.mp same
      intro report member
      rcases List.mem_cons.mp member with rfl | member
      · rfl
      · rw [same]
        exact inductionHypothesis alike report member

/-- What `splitBy` promises of the runs. -/
private structure Alternate (runs : List (List Report)) : Prop where
  nonempty : [] ∉ runs
  alike : ∀ run ∈ runs, run.IsChain fun earlier later =>
    (observer.failed earlier == observer.failed later) = true
  differ : runs.IsChain fun before run => ∃ beforeNonempty runNonempty,
    (observer.failed (before.getLast beforeNonempty) ==
      observer.failed (run.head runNonempty)) = false

private theorem said_of_alternate {failures : Nat} {runs : List (List Report)}
    (alternate : observer.Alternate runs)
    (starts : ∀ run ∈ runs.head?, ∀ opening ∈ run.head?,
      observer.failed opening = true → failures = 0)
    (follows : observer.Follows failures runs.flatten) :
    (∀ run ∈ runs.head?, ∀ opening ∈ run.head?,
      run.flatMap observer.said = observer.call failures (observer.failed opening)) ∧
    runs.IsChain fun before run => ∀ opening ∈ run.head?,
      run.flatMap observer.said =
        if observer.failed opening then [observer.began] else [observer.ended before.length] := by
  induction runs generalizing failures with
  | nil => exact ⟨nofun, List.isChain_nil⟩
  | cons run rest inductionHypothesis =>
      cases run with
      | nil => exact absurd List.mem_cons_self alternate.nonempty
      | cons opening others =>
          have uniform := observer.uniform_of_isChain (alternate.alike _ List.mem_cons_self)
          have startsHere := starts _ rfl opening rfl
          rcases observer.said_of_uniform uniform startsHere follows with ⟨said, follows⟩
          have restAlternate : observer.Alternate rest := {
            nonempty := fun member => alternate.nonempty (List.mem_cons_of_mem _ member)
            alike := fun run member => alternate.alike run (List.mem_cons_of_mem _ member)
            differ := alternate.differ.tail }
          -- The next run has the other outcome.
          have flips : ∀ next ∈ rest.head?, ∀ nextOpening ∈ next.head?,
              observer.failed nextOpening = !observer.failed opening := by
            intro next isNext nextOpening isOpening
            rcases (List.isChain_cons.mp alternate.differ).1 next isNext with
              ⟨lastNonempty, headNonempty, differ⟩
            have last := uniform _ (List.getLast_mem lastNonempty)
            rw [last, List.head_of_mem_head? isOpening] at differ
            rw [Bool.eq_not]
            exact fun same => by simp [same] at differ
          have restStarts : ∀ next ∈ rest.head?, ∀ nextOpening ∈ next.head?,
              observer.failed nextOpening = true →
                (if observer.failed opening then (opening :: others).length else 0) = 0 := by
            intro next isNext nextOpening isOpening failed
            rw [flips next isNext nextOpening isOpening, Bool.not_eq_true'] at failed
            rw [failed]
            rfl
          rcases inductionHypothesis restAlternate restStarts follows with ⟨nextSaid, laterSaid⟩
          constructor
          · intro run isRun first isFirst
            cases isRun
            cases isFirst
            exact said
          · refine List.isChain_cons.mpr ⟨?_, laterSaid⟩
            intro next isNext nextOpening isOpening
            rw [nextSaid next isNext nextOpening isOpening,
              flips next isNext nextOpening isOpening]
            cases observer.failed opening with
            | true => rfl
            | false => rfl

/-- The observer speaks once in each run in which there is something to say. -/
theorem speaksPerRun {reports : List Report} (follows : observer.Follows 0 reports) :
    observer.SpeaksPerRun reports := by
  have alternate : observer.Alternate (observer.runs reports) := {
    nonempty := List.nil_notMem_splitBy _ _
    alike := fun _ => List.isChain_of_mem_splitBy
    differ := List.isChain_getLast_head_splitBy
      (fun earlier later => observer.failed earlier == observer.failed later) reports }
  have follows : observer.Follows 0 (observer.runs reports).flatten := by
    rw [runs, List.flatten_splitBy]
    exact follows
  rcases observer.said_of_alternate alternate (fun _ _ _ _ _ => rfl) follows with
    ⟨firstSaid, laterSaid⟩
  refine ⟨?_, laterSaid⟩
  intro run isRun opening isOpening
  rw [firstSaid run isRun opening isOpening]
  cases observer.failed opening with
  | true => rfl
  | false => rfl

end Observer

end Ferrometer.Foundation
