import Mathlib.Data.List.Infix
import Mathlib.Algebra.BigOperators.Group.List.Basic
import Mathlib.Algebra.GroupWithZero.Nat

/-!
Contract: a list of weighted items cut to a capacity from its oldest end.

Owns: `kept`, the longest suffix whose weight is at most the capacity;
`evicted`, the prefix in front of it; and the law that cutting early and
cutting late leave the same items when newer ones arrive in between.

Does not own: what an item or its weight is, or when a cut is made.
-/

set_option autoImplicit false

namespace Ferrometer.Foundation.OldestFirst

universe u

variable {Item : Type u} (weight : Item → Nat)

def total (items : List Item) : Nat :=
  (items.map weight).sum

@[simp] theorem total_nil : total weight [] = 0 := rfl

@[simp] theorem total_cons (item : Item) (rest : List Item) :
    total weight (item :: rest) = weight item + total weight rest := by
  simp [total]

@[simp] theorem total_append (first second : List Item) :
    total weight (first ++ second) = total weight first + total weight second := by
  simp [total]

theorem total_le_of_suffix {shorter longer : List Item} (isSuffix : shorter <:+ longer) :
    total weight shorter ≤ total weight longer := by
  obtain ⟨front, rfl⟩ := isSuffix
  rw [total_append]
  exact Nat.le_add_left _ _

/-- The longest suffix that weighs at most `capacity`. -/
def kept (capacity : Nat) : List Item → List Item
  | [] => []
  | item :: rest =>
      if total weight (item :: rest) ≤ capacity then item :: rest
      else kept capacity rest

/-- The items in front of `kept`. -/
def evicted (capacity : Nat) : List Item → List Item
  | [] => []
  | item :: rest =>
      if total weight (item :: rest) ≤ capacity then []
      else item :: evicted capacity rest

theorem evicted_append_kept (capacity : Nat) (items : List Item) :
    evicted weight capacity items ++ kept weight capacity items = items := by
  induction items with
  | nil => rfl
  | cons item rest inductionHypothesis =>
      by_cases fits : total weight (item :: rest) ≤ capacity
      · simp only [evicted, kept, if_pos fits, List.nil_append]
      · simp only [evicted, kept, if_neg fits, List.cons_append, inductionHypothesis]

theorem kept_suffix (capacity : Nat) (items : List Item) :
    kept weight capacity items <:+ items :=
  ⟨evicted weight capacity items, evicted_append_kept weight capacity items⟩

theorem total_kept_le (capacity : Nat) (items : List Item) :
    total weight (kept weight capacity items) ≤ capacity := by
  induction items with
  | nil => exact Nat.zero_le _
  | cons item rest inductionHypothesis =>
      by_cases fits : total weight (item :: rest) ≤ capacity
      · rwa [kept, if_pos fits]
      · rwa [kept, if_neg fits]

theorem kept_of_fits {capacity : Nat} {items : List Item}
    (fits : total weight items ≤ capacity) : kept weight capacity items = items := by
  cases items with
  | nil => rfl
  | cons item rest => rw [kept, if_pos fits]

theorem evicted_of_fits {capacity : Nat} {items : List Item}
    (fits : total weight items ≤ capacity) : evicted weight capacity items = [] := by
  cases items with
  | nil => rfl
  | cons item rest => rw [evicted, if_pos fits]

/-- No suffix that fits reaches further back than `kept`. -/
theorem suffix_kept_of_fits {capacity : Nat} {items candidate : List Item}
    (isSuffix : candidate <:+ items) (fits : total weight candidate ≤ capacity) :
    candidate <:+ kept weight capacity items := by
  induction items with
  | nil => exact isSuffix
  | cons item rest inductionHypothesis =>
      by_cases whole : total weight (item :: rest) ≤ capacity
      · rwa [kept, if_pos whole]
      · rw [kept, if_neg whole]
        rcases List.suffix_cons_iff.mp isSuffix with equal | shorter
        · exact absurd (equal ▸ fits) whole
        · exact inductionHypothesis shorter

/-- A back end that fits is kept whole, behind whatever is left of the front. -/
theorem kept_append_of_fits {capacity : Nat} {back : List Item}
    (fits : total weight back ≤ capacity) (front : List Item) :
    ∃ rest, rest <:+ front ∧ kept weight capacity (front ++ back) = rest ++ back := by
  induction front with
  | nil => exact ⟨[], List.suffix_refl _, kept_of_fits weight fits⟩
  | cons item front inductionHypothesis =>
      by_cases whole : total weight (item :: (front ++ back)) ≤ capacity
      · exact ⟨item :: front, List.suffix_refl _, by
          rw [List.cons_append, kept, if_pos whole]⟩
      · obtain ⟨rest, isSuffix, equal⟩ := inductionHypothesis
        exact ⟨rest, isSuffix.trans (List.suffix_cons item front), by
          rw [List.cons_append, kept, if_neg whole, equal]⟩

theorem kept_append_of_not_fits {capacity : Nat} {front back : List Item}
    (overflow : capacity < total weight back) :
    kept weight capacity (front ++ back) = kept weight capacity back := by
  induction front with
  | nil => rfl
  | cons item rest inductionHypothesis =>
      have tooHeavy : ¬ total weight (item :: (rest ++ back)) ≤ capacity := by
        simp only [total_cons, total_append]
        omega
      rw [List.cons_append, kept, if_neg tooHeavy, inductionHypothesis]

/-- Items cut off before newer ones arrive would be cut off afterwards too. -/
theorem kept_kept_append (capacity : Nat) (older newer : List Item) :
    kept weight capacity (kept weight capacity older ++ newer) =
      kept weight capacity (older ++ newer) := by
  induction older with
  | nil => rfl
  | cons item rest inductionHypothesis =>
      by_cases fits : total weight (item :: rest) ≤ capacity
      · rw [kept, if_pos fits]
      · have tooHeavy : ¬ total weight (item :: (rest ++ newer)) ≤ capacity := by
          simp only [total_cons, total_append] at fits ⊢
          omega
        rw [kept, if_neg fits, inductionHypothesis, List.cons_append, kept, if_neg tooHeavy]

/-- What is cut off in the end is what was cut off early and what was cut off late. -/
theorem evicted_append (capacity : Nat) (older newer : List Item) :
    evicted weight capacity (older ++ newer) =
      evicted weight capacity older ++
        evicted weight capacity (kept weight capacity older ++ newer) := by
  have whole := evicted_append_kept weight capacity (older ++ newer)
  have early := evicted_append_kept weight capacity older
  have late := evicted_append_kept weight capacity (kept weight capacity older ++ newer)
  rw [kept_kept_append] at late
  have same : evicted weight capacity (older ++ newer) ++ kept weight capacity (older ++ newer) =
      evicted weight capacity older ++
        evicted weight capacity (kept weight capacity older ++ newer) ++
          kept weight capacity (older ++ newer) := by
    rw [whole, List.append_assoc, late, ← List.append_assoc, early]
  exact List.append_cancel_right same

end Ferrometer.Foundation.OldestFirst
