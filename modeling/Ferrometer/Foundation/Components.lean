import Mathlib.Algebra.GroupWithZero.Nat
import Mathlib.Data.List.Basic

/-!
Contract: a list of components of which one takes a step at a time.

Owns: the step of one component in the list, what it leaves alone, and the sum of a rank
that it lowers.

Does not own: the step function of a component. It is a parameter.
-/

set_option autoImplicit false

namespace Ferrometer.Foundation.Components

universe u v

variable {Component : Type u} {Event : Type v} {step : Component → Event → Option Component}

/-- The component at `index` takes a step. -/
def stepAt (step : Component → Event → Option Component) (components : List Component)
    (index : Nat) (event : Event) : Option (List Component) := do
  let component ← components[index]?
  let next ← step component event
  some (components.set index next)

theorem stepAt_eq_some {components after : List Component} {index : Nat} {event : Event} :
    stepAt step components index event = some after ↔
      ∃ component next, components[index]? = some component ∧
        step component event = some next ∧ after = components.set index next := by
  simp only [stepAt, Option.bind_eq_bind, Option.bind_eq_some_iff, Option.some_inj]
  constructor
  · rintro ⟨component, found, next, stepped, rfl⟩
    exact ⟨component, next, found, stepped, rfl⟩
  · rintro ⟨component, next, found, stepped, rfl⟩
    exact ⟨component, found, next, stepped, rfl⟩

variable {components after : List Component} {index : Nat} {event : Event}

theorem length_stepAt (stepped : stepAt step components index event = some after) :
    after.length = components.length := by
  rcases stepAt_eq_some.mp stepped with ⟨component, next, -, -, rfl⟩
  exact List.length_set

/-- The other components stand still. -/
theorem getElem?_stepAt_of_ne {other : Nat} (different : other ≠ index)
    (stepped : stepAt step components index event = some after) :
    after[other]? = components[other]? := by
  rcases stepAt_eq_some.mp stepped with ⟨component, next, -, -, rfl⟩
  exact List.getElem?_set_ne different.symm

/-- What a step at `index` leaves in every place, seen from there. -/
theorem getElem?_stepAt (stepped : stepAt step components index event = some after)
    {other : Nat} {next : Component} (found : after[other]? = some next) :
    (other ≠ index ∧ components[other]? = some next) ∨
      other = index ∧ ∃ component, components[index]? = some component ∧
        step component event = some next := by
  by_cases same : other = index
  · subst same
    rcases stepAt_eq_some.mp stepped with ⟨component, result, present, taken, rfl⟩
    have inside : other < components.length := (List.getElem?_eq_some_iff.mp present).1
    rw [List.getElem?_set_self inside] at found
    obtain rfl := Option.some.inj found
    exact Or.inr ⟨rfl, component, present, taken⟩
  · rw [getElem?_stepAt_of_ne same stepped] at found
    exact Or.inl ⟨same, found⟩

/-- What holds of every component, and of the result of a step, holds of every component
after the step. -/
theorem forall_stepAt {Holds : Nat → Component → Prop}
    (before : ∀ other component, components[other]? = some component → Holds other component)
    (preserved : ∀ component next, components[index]? = some component →
      step component event = some next → Holds index next)
    (stepped : stepAt step components index event = some after) :
    ∀ other component, after[other]? = some component → Holds other component := by
  intro other next found
  rcases getElem?_stepAt stepped found with ⟨-, present⟩ | ⟨rfl, component, present, taken⟩
  · exact before other next present
  · exact preserved component next present taken

theorem set_of_getElem? {component : Component} (found : components[index]? = some component) :
    components.set index component = components := by
  rcases List.getElem?_eq_some_iff.mp found with ⟨inside, rfl⟩
  exact List.set_getElem_self inside

/-! ## Ranks -/

/-- The ranks of all components together. -/
def total (rank : Component → Nat) (components : List Component) : Nat :=
  (components.map rank).sum

theorem total_set {rank : Component → Nat} {component next : Component}
    (found : components[index]? = some component) :
    total rank (components.set index next) + rank component =
      total rank components + rank next := by
  induction components generalizing index with
  | nil => exact absurd found (by simp)
  | cons first rest inductionHypothesis =>
      cases index with
      | zero =>
          obtain rfl : first = component := by simpa using found
          simp only [total, List.set_cons_zero, List.map_cons, List.sum_cons]
          omega
      | succ index =>
          have later : rest[index]? = some component := by simpa using found
          have others := inductionHypothesis later
          simp only [total, List.set_cons_succ, List.map_cons, List.sum_cons] at others ⊢
          omega

theorem total_le {rank : Component → Nat} {bound : Nat} (bounded : ∀ component,
    rank component ≤ bound) (components : List Component) :
    total rank components ≤ bound * components.length := by
  induction components with
  | nil => simp [total]
  | cons first rest inductionHypothesis =>
      have own := bounded first
      simp only [total, List.map_cons, List.sum_cons, List.length_cons, Nat.mul_succ] at *
      omega

end Ferrometer.Foundation.Components
