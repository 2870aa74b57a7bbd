import Ferrometer.Foundation.Machine

/-!
Contract: components that take their steps in turn, and share something.

Owns: the machine of all of them, and the rule by which what a component keeps with its own
steps, and what no other one disturbs, is kept in every run.

Does not own: the step of a component, or what is shared.
-/

set_option autoImplicit false

namespace Ferrometer.Foundation

universe u v

structure Sharing (Shared Component : Type u) where
  shared : Shared
  components : List Component

namespace Sharing

variable {Shared Component : Type u} {Event : Type v}

section Model

variable (step : Shared → Component → Event → Option (Shared × Component))

/-- The component at an index takes a step. -/
def stepAt (state : Sharing Shared Component) (event : Nat × Event) :
    Option (Sharing Shared Component) := do
  let component ← state.components[event.1]?
  let (shared, next) ← step state.shared component event.2
  some { shared, components := state.components.set event.1 next }

def machine : Machine (Sharing Shared Component) (Nat × Event) where
  step := stepAt step

end Model

/-- A condition on the steps of a component, as one on the steps of all of them. -/
def Allows (allowed : Shared → Component → Event → Prop) (state : Sharing Shared Component)
    (event : Nat × Event) : Prop :=
  ∀ component ∈ state.components[event.1]?, allowed state.shared component event.2

instance (allowed : Shared → Component → Event → Prop)
    [∀ shared component event, Decidable (allowed shared component event)]
    (state : Sharing Shared Component) (event : Nat × Event) :
    Decidable (state.Allows allowed event) :=
  inferInstanceAs (Decidable (∀ component ∈ state.components[event.1]?, _))

/-- The events of one component that are marked. -/
def marksAt (marked : Event → Bool) (index : Nat) (event : Nat × Event) : Bool :=
  decide (event.1 = index) && marked event.2

/-- What holds of the component at an index, with a count of its marked events: its own steps
keep it, and no step of another component disturbs it. -/
structure Kept (step : Shared → Component → Event → Option (Shared × Component))
    (allowed : Shared → Component → Event → Prop) (marked : Event → Bool)
    (Holds : Nat → Nat → Shared → Component → Prop) : Prop where
  own : ∀ {index count shared after component next event},
    Holds index count shared component → allowed shared component event →
    step shared component event = some (after, next) →
    Holds index (count + (marked event).toNat) after next
  undisturbed : ∀ {index other count otherCount shared after component otherComponent next event},
    other ≠ index → Holds index count shared component →
    Holds other otherCount shared otherComponent →
    step shared otherComponent event = some (after, next) → Holds index count after component

section Run

variable {step : Shared → Component → Event → Option (Shared × Component)}
  {allowed : Shared → Component → Event → Prop} {marked : Event → Bool}
  {Holds : Nat → Nat → Shared → Component → Prop}

/-- It holds of every component with some count, and with this one at an index. -/
private def AllHold (Holds : Nat → Nat → Shared → Component → Prop) (index count : Nat)
    (state : Sharing Shared Component) : Prop :=
  ∃ counts : Nat → Nat, counts index = count ∧
    ∀ other component, state.components[other]? = some component →
      Holds other (counts other) state.shared component

private theorem step_keeps (kept : Kept step allowed marked Holds) {index count : Nat}
    {state next : Sharing Shared Component} {event : Nat × Event}
    (holds : AllHold Holds index count state) (allows : state.Allows allowed event)
    (stepped : (machine step).step state event = some next) :
    AllHold Holds index (count + (marksAt marked index event).toNat) next := by
  rcases holds with ⟨counts, rfl, holds⟩
  rcases Option.bind_eq_some_iff.mp stepped with ⟨mover, present, taken⟩
  rcases Option.bind_eq_some_iff.mp taken with ⟨⟨shared, moved⟩, moves, equal⟩
  cases equal
  refine ⟨fun other => counts other + (marksAt marked other event).toNat, rfl, ?_⟩
  intro other component found
  have mine := holds event.1 mover present
  by_cases same : event.1 = other
  · subst same
    have inside : event.1 < state.components.length := (List.getElem?_eq_some_iff.mp present).1
    rw [List.getElem?_set_self inside] at found
    cases found
    simpa [marksAt] using kept.own mine (allows mover present) moves
  · rw [List.getElem?_set_ne same] at found
    simpa [marksAt, same] using kept.undisturbed same (holds other component found) mine moves

/-- What each component keeps and no other one disturbs, every run keeps. -/
theorem run_kept (kept : Kept step allowed marked Holds)
    {state final : Sharing Shared Component} {events : List (Nat × Event)}
    (start : ∀ index component, state.components[index]? = some component →
      Holds index 0 state.shared component)
    (along : (machine step).Along (Allows allowed) state events)
    (ran : (machine step).run state events = some final) {index : Nat} {component : Component}
    (found : final.components[index]? = some component) :
    Holds index (events.countP (marksAt marked index)) final.shared component := by
  have begins : AllHold Holds index 0 state := ⟨fun _ => 0, rfl, start⟩
  rcases (machine step).run_invariant_counted
    (fun holds allows stepped => step_keeps kept holds allows stepped) begins along ran with
    ⟨counts, isCount, holds⟩
  have reached := holds index component found
  rwa [isCount, Nat.zero_add] at reached

end Run

end Sharing

end Ferrometer.Foundation
