import Ferrometer.Foundation.SortedMap
import Mathlib.Data.List.Forall2

/-!
Contract: sequences of computations that can fail.

Owns: what it takes for a bind, a loop of checks, an optional value and a list of
entries to succeed, and the maps over values that keep the keys of a map.

Does not own: any error type.
-/

set_option autoImplicit false

namespace Ferrometer.Foundation

section Except

variable {Failure Item Result : Type}

theorem bind_eq_ok {first : Except Failure Item} {next : Item → Except Failure Result}
    {result : Result} :
    (first >>= next) = .ok result ↔ ∃ item, first = .ok item ∧ next item = .ok result := by
  cases first with
  | error failure => simp [bind, Except.bind]
  | ok item => simp [bind, Except.bind]

theorem bind_eq_error {first : Except Failure Item} {next : Item → Except Failure Result}
    {failure : Failure} :
    (first >>= next) = .error failure ↔
      first = .error failure ∨ ∃ item, first = .ok item ∧ next item = .error failure := by
  cases first with
  | error other => simp [bind, Except.bind]
  | ok item => simp [bind, Except.bind]

/-- A sequence of checks passes when each of them does. -/
theorem check_eq_ok {check next : Except Failure Unit} :
    (check >>= fun _ => next) = .ok () ↔ check = .ok () ∧ next = .ok () := by
  rw [bind_eq_ok]
  constructor
  · rintro ⟨_, passed, others⟩
    exact ⟨passed, others⟩
  · rintro ⟨passed, others⟩
    exact ⟨(), passed, others⟩

/-- A loop of checks passes when each of them does. -/
theorem forM_eq_ok {check : Item → Except Failure Unit} {items : List Item} :
    items.forM check = .ok () ↔ ∀ item ∈ items, check item = .ok () := by
  induction items with
  | nil => simp [pure, Except.pure]
  | cons item rest inductionHypothesis =>
      have steps : (item :: rest).forM check = (check item >>= fun _ => rest.forM check) := rfl
      rw [steps, check_eq_ok, inductionHypothesis, List.forall_mem_cons]

/-- Loops over related items come to the same result if the checks of each two do. -/
theorem forM_congr {Other : Type} {check : Item → Except Failure Unit}
    {otherCheck : Other → Except Failure Unit} {items : List Item} {others : List Other}
    (same : List.Forall₂ (fun item other => check item = otherCheck other) items others) :
    items.forM check = others.forM otherCheck := by
  induction same with
  | nil => rfl
  | @cons item other rest others first _ inductionHypothesis =>
      show (check item >>= fun _ => rest.forM check) =
        otherCheck other >>= fun _ => others.forM otherCheck
      rw [first, inductionHypothesis]

/-- `if let Some` around a fallible change of the value. -/
def mapOption (change : Item → Except Failure Result) : Option Item → Except Failure (Option Result)
  | none => .ok none
  | some item => (change item).map some

theorem mapOption_some_eq_ok {change : Item → Except Failure Result} {item : Item}
    {result : Option Result} (changed : mapOption change (some item) = .ok result) :
    ∃ value, change item = .ok value ∧ result = some value := by
  rw [mapOption] at changed
  cases computed : change item with
  | error failure =>
      rw [computed] at changed
      cases changed
  | ok value =>
      rw [computed] at changed
      cases changed
      exact ⟨value, rfl, rfl⟩

theorem isSome_of_mapOption {change : Item → Except Failure Result} {item : Option Item}
    {result : Option Result} (changed : mapOption change item = .ok result) :
    result.isSome = item.isSome := by
  cases item with
  | none =>
      cases changed
      rfl
  | some item =>
      rcases mapOption_some_eq_ok changed with ⟨value, -, rfl⟩
      rfl

theorem isNone_of_mapOption {change : Item → Except Failure Result} {item : Option Item}
    {result : Option Result} (changed : mapOption change item = .ok result) :
    result.isNone = item.isNone := by
  rw [← Option.not_isSome, isSome_of_mapOption changed, Option.not_isSome]

theorem mapOption_eq_ok {change : Item → Except Failure Result} {item : Option Item}
    {result : Option Result} (changed : mapOption change item = .ok result) :
    List.Forall₂ (fun item result => change item = .ok result) item.toList result.toList := by
  cases item with
  | none =>
      obtain rfl := Except.ok.inj changed
      exact List.Forall₂.nil
  | some item =>
      cases computed : change item with
      | error failure => simp [mapOption, computed, Except.map] at changed
      | ok value =>
          rw [mapOption, computed] at changed
          obtain rfl := Except.ok.inj changed
          exact List.Forall₂.cons computed List.Forall₂.nil

end Except

/-- Of two related lists, what is in the second one stands for something in the first. -/
theorem exists_of_mem_right {Item Result : Type} {Related : Item → Result → Prop}
    {items : List Item} {results : List Result} (related : List.Forall₂ Related items results)
    {result : Result} (member : result ∈ results) : ∃ item ∈ items, Related item result := by
  induction related with
  | nil => exact absurd member List.not_mem_nil
  | cons first _ inductionHypothesis =>
      rcases List.mem_cons.mp member with rfl | member
      · exact ⟨_, List.mem_cons_self, first⟩
      · obtain ⟨item, inItems, encoded⟩ := inductionHypothesis member
        exact ⟨item, List.mem_cons_of_mem _ inItems, encoded⟩

section Entries

variable {Failure Key Value Result : Type}

/-- Change the value of every entry, in order, and keep the keys. -/
def mapEntries (change : Value → Except Failure Result) :
    (entries : List (Key × Value)) →
      Except Failure { results : List (Key × Result) //
        results.map Prod.fst = entries.map Prod.fst }
  | [] => .ok ⟨[], rfl⟩
  | (key, value) :: rest => do
      let value ← change value
      let results ← mapEntries change rest
      .ok ⟨(key, value) :: results.1, congrArg (List.cons key) results.2⟩

theorem mapEntries_eq_ok {change : Value → Except Failure Result} {entries : List (Key × Value)}
    {results : { results : List (Key × Result) //
      results.map Prod.fst = entries.map Prod.fst }}
    (changed : mapEntries change entries = .ok results) :
    List.Forall₂ (fun entry result => entry.1 = result.1 ∧ change entry.2 = .ok result.2)
      entries results.1 := by
  induction entries with
  | nil =>
      obtain rfl := Except.ok.inj changed
      exact List.Forall₂.nil
  | cons entry rest inductionHypothesis =>
      obtain ⟨key, value⟩ := entry
      obtain ⟨changedValue, computed, changedRest⟩ := bind_eq_ok.mp changed
      obtain ⟨others, computedRest, equal⟩ := bind_eq_ok.mp changedRest
      obtain rfl := Except.ok.inj equal
      exact List.Forall₂.cons ⟨rfl, computed⟩ (inductionHypothesis computedRest)

/-- `for v in map.values_mut()` with a fallible change. -/
def SortedMap.mapValuesM [LinearOrder Key] (change : Value → Except Failure Result)
    (map : SortedMap Key Value) : Except Failure (SortedMap Key Result) :=
  (mapEntries change map.entries).map fun results => ⟨results.1, by
    rw [results.2]
    exact map.sorted⟩

theorem SortedMap.mapValuesM_eq_ok [LinearOrder Key] {change : Value → Except Failure Result}
    {map : SortedMap Key Value} {result : SortedMap Key Result}
    (changed : map.mapValuesM change = .ok result) :
    List.Forall₂ (fun entry result => entry.1 = result.1 ∧ change entry.2 = .ok result.2)
      map.entries result.entries := by
  cases computed : mapEntries change map.entries with
  | error failure => simp [mapValuesM, computed, Except.map] at changed
  | ok results =>
      rw [mapValuesM, computed] at changed
      obtain rfl := Except.ok.inj changed
      exact mapEntries_eq_ok computed

end Entries

end Ferrometer.Foundation
