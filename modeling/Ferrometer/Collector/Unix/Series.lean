import Ferrometer.Collector.Unix.Host
import Ferrometer.Foundation.Distinct

/-!
Contract: the series of the readings of a sub-collector.

Owns: what makes the series of several readings distinct, and when the metrics that are
made of readings keep them apart.

Does not own: which readings a sub-collector has.
-/

set_option autoImplicit false

namespace Ferrometer.Collector.Unix

open Ferrometer.Foundation

/-- The series of the readings, in their order. -/
def series (readings : List Reading) : List (String × Labels) :=
  readings.map Reading.series

theorem series_flatMap {Item : Type} (items : List Item) (readingsOf : Item → List Reading) :
    series (items.flatMap readingsOf) = items.flatMap fun item => series (readingsOf item) :=
  List.map_flatMap ..

/-- All readings have one of the names. -/
def Named (names : List String) (readings : List Reading) : Prop :=
  ∀ reading ∈ readings, reading.name ∈ names

/-- At most one reading of each name, in the order of the names. -/
def OneOfEach (names : List String) (readings : List Reading) : Prop :=
  (readings.map Reading.name).Sublist names

/-- All names begin in the same way. -/
def InFamily (family : String) (readings : List Reading) : Prop :=
  ∀ reading ∈ readings, family.toList <+: reading.name.toList

/-- Any two readings of one name that differ in a label differ in one that no static label
overrides. -/
def Shown (base : Labels) (readings : List Reading) : Prop :=
  ∀ reading ∈ readings, ∀ other ∈ readings, reading.name = other.name →
    reading.labels ≠ other.labels →
    ∃ key, base.get? key = none ∧ reading.labels.get? key ≠ other.labels.get? key

section Names

variable {names leftNames rightNames : List String} {left right readings : List Reading}

theorem Named.append (leftNamed : Named leftNames left) (rightNamed : Named rightNames right) :
    Named (leftNames ++ rightNames) (left ++ right) := by
  intro reading read
  rcases List.mem_append.mp read with read | read
  · exact List.mem_append_left _ (leftNamed reading read)
  · exact List.mem_append_right _ (rightNamed reading read)

theorem Named.flatMap {Item : Type} {items : List Item} {readingsOf : Item → List Reading}
    (named : ∀ item ∈ items, Named names (readingsOf item)) :
    Named names (items.flatMap readingsOf) := by
  intro reading read
  rcases List.mem_flatMap.mp read with ⟨item, isItem, read⟩
  exact named item isItem reading read

theorem named_map {Item : Type} {items : List Item} {name : String} (make : Item → Reading)
    (named : ∀ item, (make item).name = name) : Named [name] (items.map make) := by
  intro reading read
  obtain ⟨item, -, rfl⟩ := List.mem_map.mp read
  rw [named]
  exact List.mem_singleton_self name

theorem OneOfEach.named (oneOfEach : OneOfEach names readings) : Named names readings :=
  fun _ read => oneOfEach.mem (List.mem_map_of_mem read)

theorem OneOfEach.append (leftOneOfEach : OneOfEach leftNames left)
    (rightOneOfEach : OneOfEach rightNames right) :
    OneOfEach (leftNames ++ rightNames) (left ++ right) := by
  rw [OneOfEach, List.map_append]
  exact List.Sublist.append leftOneOfEach rightOneOfEach

theorem oneOfEach_toList {Item : Type} {item : Option Item} {make : Item → Reading}
    {name : String} (named : ∀ item, (make item).name = name) :
    OneOfEach [name] (item.map make).toList := by
  cases item with
  | none => exact List.nil_sublist _
  | some item =>
      rw [OneOfEach, Option.map_some, Option.toList_some, List.map_singleton, named]

theorem oneOfEach_toList_append {Item : Type} {item : Option Item} {make : Item → Reading}
    {name : String} (named : ∀ item, (make item).name = name)
    (rightOneOfEach : OneOfEach rightNames right) :
    OneOfEach (name :: rightNames) ((item.map make).toList ++ right) :=
  (oneOfEach_toList named).append rightOneOfEach

theorem oneOfEach_filterMap {Row Item : Type} {table : List Row} (name : Row → String)
    {item : Row → Option Item} {make : Row → Item → Reading}
    (named : ∀ row item, (make row item).name = name row) :
    OneOfEach (table.map name) (table.filterMap fun row => (item row).map (make row)) := by
  apply Distinct.map_filterMap_sublist name
  intro row _ reading made
  obtain ⟨item, -, rfl⟩ := Option.map_eq_some_iff.mp made
  exact named row item

/-- Readings of different names are not of one series. -/
theorem nodup_series_append_iff (leftNamed : Named leftNames left)
    (rightNamed : Named rightNames right) (apart : ∀ name ∈ leftNames, name ∉ rightNames) :
    (series (left ++ right)).Nodup ↔ (series left).Nodup ∧ (series right).Nodup := by
  rw [series, List.map_append, List.nodup_append, ← and_assoc]
  apply and_iff_left
  intro ofLeft isLeft ofRight isRight same
  obtain ⟨reading, read, rfl⟩ := List.mem_map.mp isLeft
  obtain ⟨other, readOther, rfl⟩ := List.mem_map.mp isRight
  have sameName : reading.name = other.name := congrArg Prod.fst same
  exact apart _ (leftNamed reading read) (sameName ▸ rightNamed other readOther)

theorem OneOfEach.nodup_series (oneOfEach : OneOfEach names readings) (distinct : names.Nodup) :
    (series readings).Nodup := by
  apply List.Nodup.of_map Prod.fst
  rw [series, List.map_map]
  exact oneOfEach.nodup distinct

/-- Items that put their names into a label of all their readings are told apart by it. -/
theorem nodup_series_flatMap_iff {Item : Type} {items : List Item}
    {readingsOf : Item → List Reading} (name : Item → String) (key : String)
    (distinct : (items.map name).Nodup)
    (labelled : ∀ item ∈ items, ∀ reading ∈ readingsOf item,
      reading.labels.get? key = some (name item)) :
    (series (items.flatMap readingsOf)).Nodup ↔
      ∀ item ∈ items, (series (readingsOf item)).Nodup := by
  rw [series_flatMap, List.nodup_flatMap]
  apply and_iff_left
  apply (List.pairwise_map.mp distinct).imp_of_mem
  intro item other isItem isOther different cell inItem inOther
  obtain ⟨reading, read, rfl⟩ := List.mem_map.mp inItem
  obtain ⟨otherReading, readOther, same⟩ := List.mem_map.mp inOther
  have label := congrArg (fun series => series.2.get? key) same
  simp only [Reading.series, labelled item isItem reading read,
    labelled other isOther otherReading readOther, Option.some.injEq] at label
  exact different label.symm

/-- Rows of several readings each, under the labels of the row. -/
theorem nodup_series_rows_iff {Row : Type} {rows : List Row} {readingsOf : Row → List Reading}
    {labels : Row → Labels} {common : String}
    (labelled : ∀ row ∈ rows, ∀ reading ∈ readingsOf row, reading.labels = labels row)
    (distinct : ∀ row ∈ rows, ((readingsOf row).map Reading.name).Nodup)
    (shared : ∀ row ∈ rows, common ∈ (readingsOf row).map Reading.name) :
    (series (rows.flatMap readingsOf)).Nodup ↔ (rows.map labels).Nodup := by
  have asTable : series (rows.flatMap readingsOf) = rows.flatMap fun row =>
      ((readingsOf row).map Reading.name).map fun name => (name, labels row) := by
    rw [series_flatMap]
    apply List.flatMap_congr
    intro row isRow
    rw [series, List.map_map]
    apply List.map_congr_left
    intro reading read
    exact Prod.ext rfl (labelled row isRow reading read)
  rw [asTable, Distinct.nodup_table_iff distinct shared]

/-- The same with one reading for each cell of a row. -/
theorem nodup_series_cells_iff {Row Cell : Type} {rows : List Row} {cells : Row → List Cell}
    {nameOf : Cell → String} {labels : Row → Labels} {read : Row → Cell → Reading}
    {common : String} (made : ∀ row cell, (read row cell).series = (nameOf cell, labels row))
    (distinct : ∀ row ∈ rows, ((cells row).map nameOf).Nodup)
    (shared : ∀ row ∈ rows, common ∈ (cells row).map nameOf) :
    (series (rows.flatMap fun row => (cells row).map (read row))).Nodup ↔
      (rows.map labels).Nodup := by
  have names : ∀ row, ((cells row).map (read row)).map Reading.name = (cells row).map nameOf := by
    intro row
    rw [List.map_map]
    exact List.map_congr_left fun cell _ => congrArg Prod.fst (made row cell)
  apply nodup_series_rows_iff
  · intro row _ reading isRead
    obtain ⟨cell, -, rfl⟩ := List.mem_map.mp isRead
    exact congrArg Prod.snd (made row cell)
  · intro row isRow
    rw [names]
    exact distinct row isRow
  · intro row isRow
    rw [names]
    exact shared row isRow

theorem Named.inFamily {family : String} (named : Named names readings)
    (begin : ∀ name ∈ names, family.toList <+: name.toList) : InFamily family readings :=
  fun reading read => begin _ (named reading read)

/-- Two families of which neither is a part of the other have no series in common. -/
theorem disjoint_of_families {family other : String} (leftIn : InFamily family left)
    (rightIn : InFamily other right) (apart : ¬ family.toList <+: other.toList)
    (apart' : ¬ other.toList <+: family.toList) : List.Disjoint (series left) (series right) := by
  intro item isLeft isRight
  obtain ⟨reading, read, rfl⟩ := List.mem_map.mp isLeft
  obtain ⟨otherReading, readOther, same⟩ := List.mem_map.mp isRight
  have sameName : otherReading.name = reading.name := congrArg Prod.fst same
  have begins := rightIn otherReading readOther
  rw [sameName] at begins
  rcases List.prefix_or_prefix_of_prefix (leftIn reading read) begins with inside | inside
  · exact apart inside
  · exact apart' inside

end Names

/-! ## Metrics -/

/-- Nothing is hidden where no reading has a label of the name of a static label. -/
theorem shown_of_free {base : Labels} {readings : List Reading}
    (free : ∀ reading ∈ readings, ∀ key, base.get? key ≠ none → reading.labels.get? key = none) :
    Shown base readings := by
  intro reading read other readOther _ different
  by_contra same
  push Not at same
  apply different
  apply SortedMap.ext_get?
  intro key
  by_cases shown : base.get? key = none
  · exact same key shown
  · rw [free reading read key shown, free other readOther key shown]

/-- The metrics are of different series if the readings are and no static label hides what
two of them differ in. -/
theorem nodup_metrics_iff {base : Labels} {readings : List Reading} {metrics : List Metric}
    (makes : List.Forall₂ (fun reading metric => reading.Makes base metric) readings metrics) :
    (metrics.map fun metric => (metric.name, metric.labels)).Nodup ↔
      (series readings).Nodup ∧ Shown base readings := by
  rw [series_of_forall₂ makes]
  constructor
  · intro nodup
    constructor
    · apply List.Nodup.of_map fun series =>
        (series.1, LabelCache.withBase ⟨base, []⟩ series.2)
      rw [series, List.map_map]
      exact nodup
    · intro reading read other readOther sameName different
      rw [← LabelCache.withBase_ne_iff]
      intro sameLabels
      have same := List.inj_on_of_nodup_map nodup read readOther (Prod.ext sameName sameLabels)
      exact different (congrArg Reading.labels same)
  · rintro ⟨nodup, shown⟩
    rw [List.Nodup, List.pairwise_map]
    apply (List.pairwise_map.mp nodup).imp_of_mem
    intro reading other read readOther different same
    obtain ⟨sameName, sameLabels⟩ := Prod.mk.inj same
    have differs : reading.labels ≠ other.labels := fun labels =>
      different (Prod.ext sameName labels)
    exact LabelCache.withBase_ne_iff.mpr
      (shown reading read other readOther sameName differs) sameLabels

end Ferrometer.Collector.Unix
