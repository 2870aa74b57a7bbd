import Mathlib.Logic.Basic

/-!
Contract: computations that change a state and may fail.

Owns: the monad of such computations, one on a part of a larger state, and what it
takes for each of them to succeed or to fail.

Does not own: any state or error type. What a computation has changed when it
fails stays changed.
-/

set_option autoImplicit false

namespace Ferrometer.Foundation

def Stateful (State Failure Value : Type) : Type :=
  State → State × Except Failure Value

namespace Stateful

variable {State Part Failure PartFailure Value Result : Type}

instance : Monad (Stateful State Failure) where
  pure value := fun state => (state, .ok value)
  bind program next := fun state =>
    match program state with
    | (middle, .ok value) => next value middle
    | (middle, .error failure) => (middle, .error failure)

def get : Stateful State Failure State := fun state => (state, .ok state)

def modify (change : State → State) : Stateful State Failure Unit :=
  fun state => (change state, .ok ())

/-- What depends on the state but does not change it. -/
def ask (question : State → Except Failure Value) : Stateful State Failure Value :=
  fun state => (state, question state)

/-- A computation on one part of the state, and what its failures mean. -/
def onPart (part : State → Part) (replace : State → Part → State)
    (explain : PartFailure → Failure) (program : Stateful Part PartFailure Value) :
    Stateful State Failure Value := fun state =>
  match program (part state) with
  | (next, outcome) => (replace state next, outcome.mapError explain)

/-- A computation whose failure is looked at instead of passed on. -/
def attempt (program : Stateful State Failure Value) :
    Stateful State Failure (Except Failure Value) := fun state =>
  match program state with
  | (next, outcome) => (next, .ok outcome)

theorem get_bind (next : State → Stateful State Failure Result) (state : State) :
    (get >>= next) state = next state state := rfl

theorem modify_bind (change : State → State) (next : Unit → Stateful State Failure Result)
    (state : State) : (modify change >>= next) state = next () (change state) := rfl

theorem bind_of_ok {program : Stateful State Failure Value}
    {next : Value → Stateful State Failure Result} {state middle : State} {value : Value}
    (ran : program state = (middle, .ok value)) : (program >>= next) state = next value middle := by
  show (match program state with
    | (middle, .ok value) => next value middle
    | (middle, .error failure) => (middle, .error failure)) = _
  rw [ran]

theorem bind_of_error {program : Stateful State Failure Value}
    {next : Value → Stateful State Failure Result} {state middle : State} {failure : Failure}
    (ran : program state = (middle, .error failure)) :
    (program >>= next) state = (middle, .error failure) := by
  show (match program state with
    | (middle, .ok value) => next value middle
    | (middle, .error failure) => (middle, .error failure)) = _
  rw [ran]

/-! ## Success -/

theorem bind_eq_ok {program : Stateful State Failure Value}
    {next : Value → Stateful State Failure Result} {state final : State} {result : Result} :
    (program >>= next) state = (final, .ok result) ↔
      ∃ middle value, program state = (middle, .ok value) ∧
        next value middle = (final, .ok result) := by
  show (match program state with
    | (middle, .ok value) => next value middle
    | (middle, .error failure) => (middle, .error failure)) = _ ↔ _
  rcases program state with ⟨middle, failure | value⟩
  · simp
  · constructor
    · exact fun ran => ⟨middle, value, rfl, ran⟩
    · rintro ⟨_, _, same, ran⟩
      obtain ⟨rfl, equal⟩ := Prod.mk.inj same
      exact Except.ok.inj equal ▸ ran

@[simp] theorem pure_eq_ok {state final : State} {value result : Value} :
    (pure value : Stateful State Failure Value) state = (final, .ok result) ↔
      state = final ∧ value = result := by
  show (state, Except.ok value) = (final, Except.ok result) ↔ _
  simp

@[simp] theorem get_eq_ok {state final result : State} :
    (get : Stateful State Failure State) state = (final, .ok result) ↔
      state = final ∧ state = result := by
  simp [get]

@[simp] theorem modify_eq_ok {change : State → State} {state final : State} :
    (modify change : Stateful State Failure Unit) state = (final, .ok ()) ↔
      change state = final := by
  simp [modify]

@[simp] theorem ask_eq_ok {question : State → Except Failure Value} {state final : State}
    {value : Value} :
    ask question state = (final, .ok value) ↔ state = final ∧ question state = .ok value := by
  simp [ask]

@[simp] theorem attempt_eq_ok {program : Stateful State Failure Value} {state final : State}
    {outcome : Except Failure Value} :
    attempt program state = (final, .ok outcome) ↔ program state = (final, outcome) := by
  rcases ran : program state with ⟨next, other⟩
  simp [attempt, ran]

@[simp] theorem mapError_ok (explain : PartFailure → Failure) (value : Value) :
    (Except.ok value : Except PartFailure Value).mapError explain = .ok value := rfl

@[simp] theorem mapError_error (explain : PartFailure → Failure) (failure : PartFailure) :
    (Except.error failure : Except PartFailure Value).mapError explain =
      .error (explain failure) := rfl

theorem mapError_eq_ok {explain : PartFailure → Failure}
    {outcome : Except PartFailure Value} {value : Value} :
    outcome.mapError explain = .ok value ↔ outcome = .ok value := by
  cases outcome with
  | error failure => simp
  | ok value => simp

theorem mapError_eq_error {explain : PartFailure → Failure}
    {outcome : Except PartFailure Value} {failure : Failure} :
    outcome.mapError explain = .error failure ↔
      ∃ reason, outcome = .error reason ∧ failure = explain reason := by
  cases outcome with
  | error reason => simp [eq_comm]
  | ok value => simp

theorem onPart_eq_ok {part : State → Part} {replace : State → Part → State}
    {explain : PartFailure → Failure} {program : Stateful Part PartFailure Value}
    {state final : State} {value : Value} :
    onPart part replace explain program state = (final, .ok value) ↔
      ∃ next, program (part state) = (next, .ok value) ∧ replace state next = final := by
  rcases ran : program (part state) with ⟨next, outcome⟩
  constructor
  · intro whole
    simp only [onPart, ran, Prod.mk.injEq, mapError_eq_ok] at whole
    exact ⟨next, Prod.ext rfl whole.2, whole.1⟩
  · rintro ⟨_, same, rfl⟩
    obtain ⟨rfl, rfl⟩ := Prod.mk.inj same
    simp [onPart, ran]

/-! ## Failure -/

theorem bind_eq_error {program : Stateful State Failure Value}
    {next : Value → Stateful State Failure Result} {state final : State} {failure : Failure} :
    (program >>= next) state = (final, .error failure) ↔
      program state = (final, .error failure) ∨
        ∃ middle value, program state = (middle, .ok value) ∧
          next value middle = (final, .error failure) := by
  rcases ran : program state with ⟨middle, other | value⟩
  · rw [bind_of_error ran]
    simp
  · rw [bind_of_ok ran]
    constructor
    · exact fun failed => Or.inr ⟨middle, value, rfl, failed⟩
    · rintro (same | ⟨_, _, same, failed⟩)
      · exact absurd (Prod.mk.inj same).2 nofun
      · cases same
        exact failed

theorem ask_eq_error {question : State → Except Failure Value} {state final : State}
    {failure : Failure} :
    ask question state = (final, .error failure) ↔
      state = final ∧ question state = .error failure := by
  simp [ask]

theorem onPart_eq_error {part : State → Part} {replace : State → Part → State}
    {explain : PartFailure → Failure} {program : Stateful Part PartFailure Value}
    {state final : State} {failure : Failure} :
    onPart part replace explain program state = (final, .error failure) ↔
      ∃ next reason, program (part state) = (next, .error reason) ∧
        replace state next = final ∧ explain reason = failure := by
  rcases ran : program (part state) with ⟨next, reason | value⟩
  · simp only [onPart, ran, mapError_error, Prod.mk.injEq, Except.error.injEq]
    constructor
    · exact fun ends => ⟨next, reason, ⟨rfl, rfl⟩, ends⟩
    · rintro ⟨_, _, ⟨rfl, rfl⟩, ends⟩
      exact ends
  · simp [onPart, ran]

/-! ## Success or failure -/

/-- However a computation ends, the state it leaves is related to the state it found. -/
def Relates (relation : State → State → Prop) (program : Stateful State Failure Value) : Prop :=
  ∀ state, relation state (program state).1

section Relates

variable {relation : State → State → Prop}

theorem relates_pure (reflexive : ∀ state, relation state state) (value : Value) :
    Relates relation (pure value : Stateful State Failure Value) :=
  reflexive

theorem relates_get (reflexive : ∀ state, relation state state) :
    Relates relation (get : Stateful State Failure State) :=
  reflexive

theorem relates_ask (reflexive : ∀ state, relation state state)
    (question : State → Except Failure Value) : Relates relation (ask question) :=
  reflexive

theorem relates_modify {change : State → State} (changed : ∀ state, relation state (change state)) :
    Relates relation (modify change : Stateful State Failure Unit) :=
  changed

theorem relates_attempt {program : Stateful State Failure Value}
    (related : Relates relation program) : Relates relation (attempt program) :=
  related

theorem relates_bind {program : Stateful State Failure Value}
    {next : Value → Stateful State Failure Result}
    (transitive : ∀ {first middle last}, relation first middle → relation middle last →
      relation first last)
    (first : Relates relation program) (rest : ∀ value, Relates relation (next value)) :
    Relates relation (program >>= next) := by
  intro state
  show relation state (match program state with
    | (middle, .ok value) => next value middle
    | (middle, .error failure) => (middle, .error failure)).1
  have related := first state
  rcases ran : program state with ⟨middle, failure | value⟩
  · rwa [ran] at related
  · rw [ran] at related
    exact transitive related (rest value middle)

end Relates

end Stateful

end Ferrometer.Foundation
