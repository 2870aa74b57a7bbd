import Ferrometer.Foundation.Text

/-!
Contract: texts with placeholders between two delimiters.

Owns: templates, their text, the scan that cuts a text into a template from left to
right, which openings the scan meets, and substitution, with their laws for texts put
together.

Does not own: what a placeholder stands for. What is put in its place is not scanned.
-/

set_option autoImplicit false

namespace Ferrometer.Foundation

universe u

structure Delimiters (Symbol : Type u) where
  opening : List Symbol
  closing : List Symbol
  opening_ne_nil : opening ≠ []

/-- The literals with the placeholder behind each of them, and the literal at the end. -/
structure Template (Symbol : Type u) where
  segments : List (List Symbol × List Symbol)
  last : List Symbol

namespace Template

variable {Symbol : Type u}

def cons (segment : List Symbol × List Symbol) (template : Template Symbol) : Template Symbol :=
  { template with segments := segment :: template.segments }

/-- The last literal of the first goes on as the first literal of the second. -/
def append (first second : Template Symbol) : Template Symbol :=
  match second.segments with
  | [] => { first with last := first.last ++ second.last }
  | (literal, inner) :: rest =>
      { segments := first.segments ++ (first.last ++ literal, inner) :: rest
        last := second.last }

theorem cons_append (segment : List Symbol × List Symbol) (first second : Template Symbol) :
    (first.cons segment).append second = (first.append second).cons segment := by
  unfold append cons
  cases second.segments with
  | nil => rfl
  | cons other rest => rfl

/-- The literals as they are, and a value for each placeholder. -/
def substitute (value : List Symbol → List Symbol) (template : Template Symbol) : List Symbol :=
  (template.segments.flatMap fun segment => segment.1 ++ value segment.2) ++ template.last

theorem substitute_cons (value : List Symbol → List Symbol) (segment : List Symbol × List Symbol)
    (template : Template Symbol) :
    (template.cons segment).substitute value =
      segment.1 ++ value segment.2 ++ template.substitute value := by
  simp [substitute, cons]

theorem substitute_append (value : List Symbol → List Symbol) (first second : Template Symbol) :
    (first.append second).substitute value = first.substitute value ++ second.substitute value := by
  unfold append substitute
  cases second.segments with
  | nil => simp
  | cons segment rest => simp

theorem forall_append (property : List Symbol → Prop) (first second : Template Symbol) :
    (∀ segment ∈ (first.append second).segments, property segment.2) ↔
      (∀ segment ∈ first.segments, property segment.2) ∧
        ∀ segment ∈ second.segments, property segment.2 := by
  unfold append
  cases second.segments with
  | nil => simp
  | cons segment rest => simp only [List.forall_mem_append, List.forall_mem_cons]

section Read

variable (delimiters : Delimiters Symbol)

/-- The text of a template. -/
def write (template : Template Symbol) : List Symbol :=
  (template.segments.flatMap fun segment =>
    segment.1 ++ delimiters.opening ++ segment.2 ++ delimiters.closing) ++ template.last

variable [DecidableEq Symbol]

set_option linter.unusedVariables false in
/-- `none` is a text in which an opening is not closed. -/
def read (text : List Symbol) : Option (Template Symbol) :=
  match opened : Text.splitOnce delimiters.opening text with
  | none => some { segments := [], last := text }
  | some (literal, after) =>
      match closed : Text.splitOnce delimiters.closing after with
      | none => none
      | some (inner, remaining) => (read remaining).map (cons (literal, inner))
termination_by text.length
decreasing_by
  have before := Text.length_of_splitOnce opened
  have behind := Text.length_of_splitOnce closed
  have nonempty := List.length_pos_iff.mpr delimiters.opening_ne_nil
  omega

/-- The scan of a text meets an opening, with this behind it. -/
inductive Meets : List Symbol → List Symbol → Prop where
  | first {text literal after : List Symbol}
      (opened : Text.splitOnce delimiters.opening text = some (literal, after)) : Meets text after
  | later {text literal after inner remaining behind : List Symbol}
      (opened : Text.splitOnce delimiters.opening text = some (literal, after))
      (closed : Text.splitOnce delimiters.closing after = some (inner, remaining))
      (further : Meets remaining behind) : Meets text behind

variable {delimiters}

/-! ## One turn of the scan -/

theorem read_eq (text : List Symbol) :
    read delimiters text =
      match Text.splitOnce delimiters.opening text with
      | none => some { segments := [], last := text }
      | some (literal, after) =>
          match Text.splitOnce delimiters.closing after with
          | none => none
          | some (inner, remaining) =>
              (read delimiters remaining).map (cons (literal, inner)) := by
  rw [read]
  split
  · rename_i notOpened
    rw [notOpened]
  · rename_i opened
    rw [opened]
    simp only
    split
    · rename_i notClosed
      rw [notClosed]
    · rename_i closed
      rw [closed]

section Turns

variable {text literal after inner remaining : List Symbol}

theorem read_end (notOpened : Text.splitOnce delimiters.opening text = none) :
    read delimiters text = some { segments := [], last := text } := by
  rw [read_eq, notOpened]

theorem read_unclosed (opened : Text.splitOnce delimiters.opening text = some (literal, after))
    (notClosed : Text.splitOnce delimiters.closing after = none) :
    read delimiters text = none := by
  rw [read_eq, opened]
  simp only [notClosed]

theorem read_segment (opened : Text.splitOnce delimiters.opening text = some (literal, after))
    (closed : Text.splitOnce delimiters.closing after = some (inner, remaining)) :
    read delimiters text = (read delimiters remaining).map (cons (literal, inner)) := by
  rw [read_eq, opened]
  simp only [closed]

/-- The openings that are met: the first, and those behind its closing. -/
theorem meets_iff (opened : Text.splitOnce delimiters.opening text = some (literal, after))
    (closed : Text.splitOnce delimiters.closing after = some (inner, remaining))
    (behind : List Symbol) :
    Meets delimiters text behind ↔ behind = after ∨ Meets delimiters remaining behind := by
  constructor
  · intro met
    cases met with
    | first openedAgain =>
        rw [opened] at openedAgain
        cases openedAgain
        exact Or.inl rfl
    | later openedAgain closedAgain further =>
        rw [opened] at openedAgain
        cases openedAgain
        rw [closed] at closedAgain
        cases closedAgain
        exact Or.inr further
  · rintro (rfl | further)
    · exact .first opened
    · exact .later opened closed further

theorem not_meets (notOpened : Text.splitOnce delimiters.opening text = none)
    (behind : List Symbol) : ¬ Meets delimiters text behind := by
  intro met
  cases met with
  | first opened =>
      rw [notOpened] at opened
      cases opened
  | later opened _ _ =>
      rw [notOpened] at opened
      cases opened

end Turns

/-! ## The whole scan -/

theorem write_of_read {text : List Symbol} {template : Template Symbol}
    (isRead : read delimiters text = some template) : template.write delimiters = text := by
  induction text using read.induct delimiters generalizing template with
  | case1 text notOpened =>
      rw [read_end notOpened] at isRead
      cases isRead
      rfl
  | case2 text literal after opened notClosed =>
      rw [read_unclosed opened notClosed] at isRead
      cases isRead
  | case3 text literal after opened inner remaining closed inductionHypothesis =>
      rw [read_segment opened closed] at isRead
      rcases Option.map_eq_some_iff.mp isRead with ⟨rest, readRest, rfl⟩
      have whole := inductionHypothesis readRest
      rw [Text.eq_of_splitOnce opened, Text.eq_of_splitOnce closed, ← whole]
      simp [write, cons]

/-- A text can be read, and all its placeholders have a property, exactly when every
opening that is met is closed, and what it encloses has the property. -/
theorem read_forall_iff (text : List Symbol) (property : List Symbol → Prop) :
    (∃ template, read delimiters text = some template ∧
        ∀ segment ∈ template.segments, property segment.2) ↔
      ∀ behind, Meets delimiters text behind →
        ∃ inner remaining, Text.splitOnce delimiters.closing behind = some (inner, remaining) ∧
          property inner := by
  induction text using read.induct delimiters with
  | case1 text notOpened =>
      refine iff_of_true ⟨_, read_end notOpened, nofun⟩ fun behind met => ?_
      exact absurd met (not_meets notOpened behind)
  | case2 text literal after opened notClosed =>
      apply iff_of_false
      · rintro ⟨template, isRead, -⟩
        rw [read_unclosed opened notClosed] at isRead
        cases isRead
      · intro all
        rcases all after (.first opened) with ⟨inner, remaining, closed, -⟩
        rw [notClosed] at closed
        cases closed
  | case3 text literal after opened inner remaining closed inductionHypothesis =>
      rw [read_segment opened closed]
      simp only [meets_iff opened closed, or_imp, forall_and, forall_eq]
      rw [← inductionHypothesis]
      constructor
      · rintro ⟨template, isRead, all⟩
        rcases Option.map_eq_some_iff.mp isRead with ⟨rest, readRest, rfl⟩
        rcases List.forall_mem_cons.mp all with ⟨first, others⟩
        exact ⟨⟨inner, remaining, closed, first⟩, rest, readRest, others⟩
      · rintro ⟨⟨sameInner, sameRemaining, closedAgain, first⟩, rest, readRest, others⟩
        rw [closed] at closedAgain
        cases closedAgain
        refine ⟨rest.cons (literal, inner), by rw [readRest, Option.map_some], ?_⟩
        exact List.forall_mem_cons.mpr ⟨first, others⟩

/-- If no opening can begin in the first text and end in the second, they are read one
after the other. -/
theorem read_append {first : List Symbol} (second : List Symbol) {template : Template Symbol}
    (isRead : read delimiters first = some template)
    (noEdge : Text.NoEdge delimiters.opening first) :
    read delimiters (first ++ second) = (read delimiters second).map template.append := by
  induction first using read.induct delimiters generalizing template with
  | case1 text notOpened =>
      rw [read_end notOpened] at isRead
      cases isRead
      have passes := Text.splitOnce_append_of_none second notOpened noEdge
      rw [read_eq, passes]
      cases opened : Text.splitOnce delimiters.opening second with
      | none =>
          rw [read_end opened]
          rfl
      | some cut =>
          rcases cut with ⟨literal, after⟩
          simp only [Option.map_some]
          cases closed : Text.splitOnce delimiters.closing after with
          | none => rw [read_unclosed opened closed, Option.map_none]
          | some cut =>
              rw [read_segment opened closed, Option.map_map]
              rfl
  | case2 text literal after opened notClosed =>
      rw [read_unclosed opened notClosed] at isRead
      cases isRead
  | case3 text literal after opened inner remaining closed inductionHypothesis =>
      rw [read_segment opened closed] at isRead
      rcases Option.map_eq_some_iff.mp isRead with ⟨rest, readRest, rfl⟩
      have isTail : remaining <:+ text := by
        rw [Text.eq_of_splitOnce opened, Text.eq_of_splitOnce closed]
        exact ⟨literal ++ delimiters.opening ++ inner ++ delimiters.closing,
          by simp only [List.append_assoc]⟩
      rw [read_segment (Text.splitOnce_append_of_some second opened)
          (Text.splitOnce_append_of_some second closed),
        inductionHypothesis readRest (noEdge.of_suffix isTail), Option.map_map]
      exact congrArg (Option.map · _) (funext fun other => (cons_append _ rest other).symm)

end Read

end Template

end Ferrometer.Foundation
