import Mathlib.Data.List.Nodup

/-!
Contract: when a list that is put together of parts holds nothing twice.

Owns: the cases in which no two parts have anything in common, and in which the parts are
the rows of a table.

Does not own: what the parts are.
-/

set_option autoImplicit false

namespace Ferrometer.Foundation.Distinct

universe u v w

/-- What is made of some of the rows of a table is named in the order of the rows. -/
theorem map_filterMap_sublist {Row : Type u} {Item : Type v} {Name : Type w} (name : Row → Name)
    {nameOf : Item → Name} {make : Row → Option Item} (table : List Row)
    (named : ∀ row ∈ table, ∀ item, make row = some item → nameOf item = name row) :
    ((table.filterMap make).map nameOf).Sublist (table.map name) := by
  induction table with
  | nil => exact List.Sublist.slnil
  | cons row rest inductionHypothesis =>
      have later := inductionHypothesis fun other isRow =>
        named other (List.mem_cons_of_mem _ isRow)
      cases made : make row with
      | none =>
          rw [List.filterMap_cons_none made]
          exact later.cons _
      | some item =>
          rw [List.filterMap_cons_some made, List.map_cons, List.map_cons,
            named row List.mem_cons_self item made]
          exact later.cons_cons _

/-- If different names stand for parts without anything in common, then no part may hold
anything twice, and no part that holds anything may be named twice. -/
theorem nodup_flatMap_iff_of_apart {Name : Type u} {Item : Type v} {names : List Name}
    {part : Name → List Item}
    (apart : ∀ left ∈ names, ∀ right ∈ names, left ≠ right →
      List.Disjoint (part left) (part right)) :
    (names.flatMap part).Nodup ↔
      (∀ name ∈ names, (part name).Nodup) ∧
        (names.filter fun name => !(part name).isEmpty).Nodup := by
  rw [List.nodup_flatMap]
  apply and_congr_right
  intro _
  rw [List.Nodup, List.pairwise_filter]
  constructor
  · intro disjoint
    apply disjoint.imp
    rintro left _ apart filled - rfl
    cases items : part left with
    | nil => simp [items] at filled
    | cons item rest =>
        have member : item ∈ part left := by simp [items]
        exact apart member member
  · intro different
    apply different.imp_of_mem
    intro left right isLeft isRight different item inLeft inRight
    have filled : ∀ name, item ∈ part name → (!(part name).isEmpty) = true := by
      intro name member
      cases items : part name with
      | nil => simp [items] at member
      | cons _ _ => simp
    exact apart left isLeft right isRight
      (different (filled left inLeft) (filled right inRight)) inLeft inRight

/-- A row of a table has a cell for each of its columns. If a column is common to all rows,
then a cell is there twice just if a key is. -/
theorem nodup_table_iff {Row : Type u} {Column : Type v} {Key : Type w} {rows : List Row}
    {columns : Row → List Column} {key : Row → Key} {common : Column}
    (distinct : ∀ row ∈ rows, (columns row).Nodup) (shared : ∀ row ∈ rows, common ∈ columns row) :
    (rows.flatMap fun row => (columns row).map fun column => (column, key row)).Nodup ↔
      (rows.map key).Nodup := by
  rw [List.nodup_flatMap]
  have ofRow : ∀ row ∈ rows, ((columns row).map fun column => (column, key row)).Nodup := by
    intro row isRow
    exact (distinct row isRow).map fun left right same => (Prod.mk.inj same).1
  rw [and_iff_right ofRow, List.Nodup, List.pairwise_map]
  constructor
  · intro disjoint
    apply disjoint.imp_of_mem
    intro left right isLeft isRight apart same
    apply apart (a := (common, key left))
    · exact List.mem_map_of_mem (shared left isLeft)
    · rw [same]
      exact List.mem_map_of_mem (shared right isRight)
  · intro different
    apply different.imp
    intro left right different cell inLeft inRight
    obtain ⟨_, -, rfl⟩ := List.mem_map.mp inLeft
    obtain ⟨_, -, same⟩ := List.mem_map.mp inRight
    exact different (congrArg Prod.snd same).symm

end Ferrometer.Foundation.Distinct
