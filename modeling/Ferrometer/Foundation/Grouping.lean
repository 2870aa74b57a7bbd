import Ferrometer.Foundation.SortedMap
import Mathlib.Algebra.BigOperators.Group.List.Basic
import Mathlib.Algebra.GroupWithZero.Nat
import Mathlib.Data.List.Induction

/-!
Contract: items collected under their keys, one at a time.

Owns: the map that such a loop builds, what each of its groups holds and in which
order, and that a sum over the groups is the sum over the items.

Does not own: what a key is, or what is kept of an item.
-/

set_option autoImplicit false

namespace Ferrometer.Foundation

universe u v w

namespace Grouping

variable {Key : Type u} {Item : Type v} {Kept : Type w} [LinearOrder Key]
  (key : Item → Key) (image : Item → Kept)

/-- Each item goes to the end of its group. -/
def groupInto (items : List Item) : SortedMap Key (List Kept) :=
  items.foldl
    (fun groups item => groups.upsert (key item) fun group => group.getD [] ++ [image item])
    .empty

theorem groupInto_concat (items : List Item) (item : Item) :
    groupInto key image (items ++ [item]) =
      (groupInto key image items).upsert (key item) fun group =>
        group.getD [] ++ [image item] := by
  rw [groupInto, List.foldl_append]
  rfl

/-- The items of one key, in their order. -/
def groupOf (items : List Item) (group : Key) : List Item :=
  items.filter fun item => key item = group

theorem get?_groupInto (items : List Item) (group : Key) :
    (groupInto key image items).get? group =
      if groupOf key items group = [] then none
      else some ((groupOf key items group).map image) := by
  induction items using List.reverseRecOn with
  | nil => rfl
  | append_singleton items item inductionHypothesis =>
      rw [groupInto_concat, SortedMap.get?_upsert, groupOf, List.filter_append]
      by_cases same : group = key item
      · have kept : [item].filter (fun item => decide (key item = group)) = [item] := by
          simp [same]
        rw [if_pos same, kept, if_neg (by simp), ← same, inductionHypothesis]
        by_cases isEmpty : groupOf key items group = []
        · rw [if_pos isEmpty, ← groupOf, isEmpty]
          rfl
        · rw [if_neg isEmpty, List.map_append]
          rfl
      · have dropped : [item].filter (fun item => decide (key item = group)) = [] := by
          simpa using Ne.symm same
        rw [if_neg same, dropped, List.append_nil]
        exact inductionHypothesis

/-- A group is there when it has an item, and holds all of its items. -/
theorem mem_entries_groupInto {items : List Item} {group : Key} {kept : List Kept} :
    (group, kept) ∈ (groupInto key image items).entries ↔
      groupOf key items group ≠ [] ∧ kept = (groupOf key items group).map image := by
  rw [SortedMap.mem_entries_iff, get?_groupInto]
  by_cases isEmpty : groupOf key items group = []
  · simp [isEmpty]
  · simp [isEmpty, eq_comm]

theorem mem_keys_groupInto {items : List Item} {group : Key} :
    group ∈ (groupInto key image items).keys ↔ ∃ item ∈ items, key item = group := by
  rw [SortedMap.mem_keys_iff, get?_groupInto]
  by_cases isEmpty : groupOf key items group = []
  · rw [if_pos isEmpty]
    simpa [groupOf] using isEmpty
  · rw [if_neg isEmpty]
    simpa [groupOf] using isEmpty

/-! ## Sums -/

variable (weight : Key → Kept → Nat)

/-- What the entries of a map weigh together. -/
def totalOf (entries : List (Key × List Kept)) : Nat :=
  (entries.map fun entry => (entry.2.map (weight entry.1)).sum).sum

private theorem totalOf_upsertEntries (group : Key) (kept : Kept)
    (entries : List (Key × List Kept)) :
    totalOf weight (SortedMap.upsertEntries group (fun before => before.getD [] ++ [kept])
      entries) = totalOf weight entries + weight group kept := by
  induction entries with
  | nil => simp [SortedMap.upsertEntries, totalOf]
  | cons entry rest inductionHypothesis =>
      unfold SortedMap.upsertEntries
      split
      · simp [totalOf]
        omega
      · split
        · rename_i same
          simp [totalOf, same]
          omega
        · unfold totalOf at inductionHypothesis ⊢
          rw [List.map_cons, List.sum_cons, inductionHypothesis, List.map_cons, List.sum_cons]
          omega

/-- Grouping loses nothing and makes nothing up. -/
theorem totalOf_groupInto (items : List Item) :
    totalOf weight (groupInto key image items).entries =
      (items.map fun item => weight (key item) (image item)).sum := by
  induction items using List.reverseRecOn with
  | nil => rfl
  | append_singleton items item inductionHypothesis =>
      rw [groupInto_concat]
      show totalOf weight (SortedMap.upsertEntries _ _ _) = _
      rw [totalOf_upsertEntries, inductionHypothesis, List.map_append, List.sum_append]
      simp

end Grouping

end Ferrometer.Foundation
