import Ferrometer.Signal

/-!
Contract: the label sets that a collector has handed out.

Owns: `intern`, which puts the base labels over those of a metric and shares a set
that it has seen before.

Does not own: the sharing itself. A shared set is equal to a new one.
-/

set_option autoImplicit false

namespace Ferrometer.Collector

open Ferrometer.Foundation

structure LabelCache where
  base : Labels
  cache : List Labels := []

namespace LabelCache

def withBase (cache : LabelCache) (labels : Labels) : Labels :=
  cache.base.entries.foldl (fun labels entry => labels.insert entry.1 entry.2) labels

def intern (cache : LabelCache) (labels : Labels) : Labels × LabelCache :=
  let labels := cache.withBase labels
  match cache.cache.find? fun known => known = labels with
  | some known => (known, cache)
  | none => (labels, { cache with cache := labels :: cache.cache })

/-- Whether the set is shared or not, the base labels are over those of the metric. -/
@[simp] theorem intern_labels (cache : LabelCache) (labels : Labels) :
    (cache.intern labels).1 = cache.withBase labels := by
  simp only [intern]
  cases found : cache.cache.find? fun known => known = cache.withBase labels with
  | none => rfl
  | some known =>
      have same := List.find?_some found
      exact of_decide_eq_true same

theorem intern_base (cache : LabelCache) (labels : Labels) :
    (cache.intern labels).2.base = cache.base := by
  simp only [intern]
  split
  · rfl
  · rfl

/-- The base wins. -/
theorem get?_withBase (cache : LabelCache) (labels : Labels) (key : String) :
    (cache.withBase labels).get? key = (cache.base.get? key).or (labels.get? key) :=
  SortedMap.get?_foldl_insert cache.base labels key

/-- The base keeps two label sets apart where they differ in a label that it does not
override. -/
theorem withBase_ne_iff {base left right : Labels} :
    withBase ⟨base, []⟩ left ≠ withBase ⟨base, []⟩ right ↔
      ∃ key, base.get? key = none ∧ left.get? key ≠ right.get? key := by
  constructor
  · intro different
    by_contra hidden
    push Not at hidden
    apply different
    apply SortedMap.ext_get?
    intro key
    rw [get?_withBase, get?_withBase]
    cases overridden : base.get? key with
    | some label => rfl
    | none => rw [hidden key overridden]
  · rintro ⟨key, shown, different⟩ same
    have value := congrArg (fun labels : Labels => labels.get? key) same
    simp only [get?_withBase, shown, Option.none_or] at value
    exact different value

end LabelCache

end Ferrometer.Collector
