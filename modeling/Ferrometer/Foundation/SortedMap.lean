import Mathlib.Data.List.Sort
import Mathlib.Order.Basic

/-!
Contract: maps kept as association lists in strictly increasing key order.

Owns: a map type whose values carry the order of their keys, lookup, the
single-pass `upsert` that inserts or replaces one entry, `insert` as its
special case, and `erase`.

Does not own: any key type. A linear order on the keys is all that is used.
-/

set_option autoImplicit false

namespace Ferrometer.Foundation

universe u v w

/-- A map with an iteration order: its entries in increasing order of key. -/
structure SortedMap (Key : Type u) (Value : Type v) [LinearOrder Key] where
  entries : List (Key × Value)
  sorted : (entries.map Prod.fst).Pairwise (· < ·)

namespace SortedMap

variable {Key : Type u} {Value : Type v} [LinearOrder Key]

instance [DecidableEq Value] : DecidableEq (SortedMap Key Value) := fun left right =>
  decidable_of_iff (left.entries = right.entries) (by
    cases left
    cases right
    simp)

def empty : SortedMap Key Value where
  entries := []
  sorted := List.Pairwise.nil

def keys (map : SortedMap Key Value) : List Key :=
  map.entries.map Prod.fst

/-- The value of the first entry with this key. -/
def lookup (key : Key) : List (Key × Value) → Option Value
  | [] => none
  | entry :: rest => if entry.1 = key then some entry.2 else lookup key rest

def get? (map : SortedMap Key Value) (key : Key) : Option Value :=
  lookup key map.entries

/-- Replace the value at `key`, or insert one there, in one pass. `change` sees
the value that was there before. -/
def upsertEntries (key : Key) (change : Option Value → Value) :
    List (Key × Value) → List (Key × Value)
  | [] => [(key, change none)]
  | entry :: rest =>
      if key < entry.1 then (key, change none) :: entry :: rest
      else if entry.1 = key then (key, change (some entry.2)) :: rest
      else entry :: upsertEntries key change rest

theorem mem_keys_upsertEntries {key : Key} {change : Option Value → Value}
    {entries : List (Key × Value)} {other : Key} :
    other ∈ (upsertEntries key change entries).map Prod.fst ↔
      other = key ∨ other ∈ entries.map Prod.fst := by
  induction entries with
  | nil => simp [upsertEntries]
  | cons entry rest inductionHypothesis =>
      unfold upsertEntries
      split
      · simp
      · split
        · rename_i same
          subst same
          simp
        · simp only [List.map_cons, List.mem_cons, inductionHypothesis]
          exact or_left_comm

theorem upsertEntries_sorted (key : Key) (change : Option Value → Value)
    {entries : List (Key × Value)} (sorted : (entries.map Prod.fst).Pairwise (· < ·)) :
    ((upsertEntries key change entries).map Prod.fst).Pairwise (· < ·) := by
  induction entries with
  | nil => simp [upsertEntries]
  | cons entry rest inductionHypothesis =>
      obtain ⟨headBelow, tailSorted⟩ := List.pairwise_cons.mp sorted
      unfold upsertEntries
      split
      · rename_i below
        refine List.Pairwise.cons ?_ sorted
        intro other member
        rcases List.mem_cons.mp member with rfl | member
        · exact below
        · exact below.trans (headBelow other member)
      · split
        · rename_i same
          subst same
          exact sorted
        · rename_i notBelow different
          refine List.Pairwise.cons ?_ (inductionHypothesis tailSorted)
          intro other member
          rcases mem_keys_upsertEntries.mp member with rfl | member
          · exact lt_of_le_of_ne (not_lt.mp notBelow) different
          · exact headBelow other member

def upsert (map : SortedMap Key Value) (key : Key) (change : Option Value → Value) :
    SortedMap Key Value where
  entries := upsertEntries key change map.entries
  sorted := upsertEntries_sorted key change map.sorted

def insert (map : SortedMap Key Value) (key : Key) (value : Value) : SortedMap Key Value :=
  map.upsert key fun _ => value

def erase (map : SortedMap Key Value) (key : Key) : SortedMap Key Value where
  entries := map.entries.filter fun entry => entry.1 ≠ key
  sorted := map.sorted.sublist (List.filter_sublist.map _)

/-- A later entry wins over an earlier one with the same key. -/
def ofList (entries : List (Key × Value)) : SortedMap Key Value :=
  entries.foldl (fun map entry => map.insert entry.1 entry.2) empty

/-! ## Lookup -/

private theorem lookup_eq_none_of_notMem {key : Key} {entries : List (Key × Value)}
    (absent : key ∉ entries.map Prod.fst) : lookup key entries = none := by
  induction entries with
  | nil => rfl
  | cons entry rest inductionHypothesis =>
      rw [List.map_cons, List.mem_cons, not_or] at absent
      rw [lookup, if_neg (Ne.symm absent.1)]
      exact inductionHypothesis absent.2

private theorem lookup_upsertEntries {key other : Key} {change : Option Value → Value}
    {entries : List (Key × Value)} (sorted : (entries.map Prod.fst).Pairwise (· < ·)) :
    lookup other (upsertEntries key change entries) =
      if other = key then some (change (lookup key entries)) else lookup other entries := by
  induction entries with
  | nil =>
      by_cases same : other = key
      · simp [upsertEntries, lookup, same]
      · simp [upsertEntries, lookup, same, Ne.symm same]
  | cons entry rest inductionHypothesis =>
      obtain ⟨headBelow, tailSorted⟩ := List.pairwise_cons.mp sorted
      unfold upsertEntries
      split
      · rename_i below
        have absent : key ∉ (entry :: rest).map Prod.fst := by
          intro member
          rcases List.mem_cons.mp member with same | member
          · exact below.ne same
          · exact absurd (below.trans (headBelow key member)) (lt_irrefl _)
        rw [lookup_eq_none_of_notMem absent]
        by_cases same : other = key
        · simp [lookup, same]
        · simp [lookup, same, Ne.symm same]
      · split
        · rename_i found
          by_cases same : other = key
          · simp [lookup, found, same]
          · simp [lookup, found, same, Ne.symm same]
        · rename_i different
          rw [lookup, inductionHypothesis tailSorted, lookup, lookup, if_neg different]
          by_cases same : other = key
          · rw [if_pos same, if_pos same, if_neg (same ▸ different)]
          · rw [if_neg same, if_neg same]

@[simp] theorem get?_empty (key : Key) : (empty : SortedMap Key Value).get? key = none := rfl

theorem get?_upsert (map : SortedMap Key Value) (key other : Key)
    (change : Option Value → Value) :
    (map.upsert key change).get? other =
      if other = key then some (change (map.get? key)) else map.get? other :=
  lookup_upsertEntries map.sorted

theorem mem_entries_iff (map : SortedMap Key Value) (key : Key) (value : Value) :
    (key, value) ∈ map.entries ↔ map.get? key = some value := by
  obtain ⟨entries, sorted⟩ := map
  show (key, value) ∈ entries ↔ lookup key entries = some value
  induction entries with
  | nil => simp [lookup]
  | cons entry rest inductionHypothesis =>
      obtain ⟨headBelow, tailSorted⟩ := List.pairwise_cons.mp sorted
      rw [List.mem_cons, lookup, inductionHypothesis tailSorted]
      by_cases found : entry.1 = key
      · have absent : key ∉ rest.map Prod.fst := fun member =>
          absurd (headBelow key member) (found ▸ lt_irrefl _)
        rw [if_pos found, lookup_eq_none_of_notMem absent]
        subst found
        simp [Prod.ext_iff, eq_comm]
      · rw [if_neg found]
        constructor
        · rintro (same | member)
          · exact absurd (congrArg Prod.fst same).symm found
          · exact member
        · exact Or.inr

theorem mem_keys_iff (map : SortedMap Key Value) (key : Key) :
    key ∈ map.keys ↔ (map.get? key).isSome := by
  rw [keys, List.mem_map, Option.isSome_iff_exists]
  constructor
  · rintro ⟨⟨_, value⟩, member, rfl⟩
    exact ⟨value, (map.mem_entries_iff _ _).mp member⟩
  · rintro ⟨value, found⟩
    exact ⟨(key, value), (map.mem_entries_iff _ _).mpr found, rfl⟩

theorem get?_insert (map : SortedMap Key Value) (key other : Key) (value : Value) :
    (map.insert key value).get? other = if other = key then some value else map.get? other :=
  get?_upsert map key other fun _ => value

theorem get?_erase (map : SortedMap Key Value) (key other : Key) :
    (map.erase key).get? other = if other = key then none else map.get? other := by
  apply Option.ext
  intro value
  rw [← mem_entries_iff, erase, List.mem_filter, mem_entries_iff]
  by_cases same : other = key
  · simp [same]
  · simp [same]

/-- An entry that no later one replaces is there. -/
theorem get?_ofList_cons {key : Key} {value : Value} {entries : List (Key × Value)}
    (absent : key ∉ entries.map Prod.fst) :
    (ofList ((key, value) :: entries)).get? key = some value := by
  have kept : ∀ map : SortedMap Key Value,
      (entries.foldl (fun map entry => map.insert entry.1 entry.2) map).get? key =
        map.get? key := by
    induction entries with
    | nil => exact fun _ => rfl
    | cons entry rest inductionHypothesis =>
        intro map
        rw [List.map_cons, List.mem_cons, not_or] at absent
        rw [List.foldl_cons, inductionHypothesis absent.2, get?_insert, if_neg absent.1]
  rw [ofList, List.foldl_cons, kept, get?_insert, if_pos rfl]

/-- Two maps with the same values are equal. -/
theorem ext_get? {left right : SortedMap Key Value}
    (same : ∀ key, left.get? key = right.get? key) : left = right := by
  have sorted : ∀ map : SortedMap Key Value,
      map.entries.Pairwise fun entry other => entry.1 < other.1 := fun map =>
    List.pairwise_map.mp map.sorted
  have nodup : ∀ map : SortedMap Key Value, map.entries.Nodup := fun map =>
    (sorted map).imp fun below same => absurd (congrArg Prod.fst same) below.ne
  have permuted : left.entries.Perm right.entries := by
    rw [List.perm_ext_iff_of_nodup (nodup left) (nodup right)]
    rintro ⟨key, value⟩
    rw [mem_entries_iff, mem_entries_iff, same]
  have entries := permuted.eq_of_pairwise
    (fun entry other _ _ below above => absurd (below.trans above) (lt_irrefl _))
    (sorted left) (sorted right)
  cases left
  cases right
  cases entries
  rfl

/-- Inserting what the entries of a map choose over another map, one after the other. -/
theorem get?_foldl_choose {Choice : Type w} (map : SortedMap Key Choice)
    (choose : Choice → Option Value) (other : SortedMap Key Value) (key : Key) :
    (map.entries.foldl (fun map entry => (choose entry.2).elim map (map.insert entry.1))
      other).get? key = ((map.get? key).bind choose).or (other.get? key) := by
  obtain ⟨entries, sorted⟩ := map
  show _ = ((lookup key entries).bind choose).or (other.get? key)
  induction entries generalizing other with
  | nil => rfl
  | cons entry rest inductionHypothesis =>
      obtain ⟨headBelow, tailSorted⟩ := List.pairwise_cons.mp sorted
      rw [List.foldl_cons, inductionHypothesis _ tailSorted, lookup]
      by_cases same : key = entry.1
      · have absent : key ∉ rest.map Prod.fst := fun member =>
          absurd (headBelow key member) (same ▸ lt_irrefl _)
        rw [lookup_eq_none_of_notMem absent, if_pos same.symm]
        cases chosen : choose entry.2 with
        | none => simp [chosen]
        | some value => simp [chosen, get?_insert, same]
      · rw [if_neg (Ne.symm same)]
        cases choose entry.2 with
        | none => rfl
        | some value => rw [Option.elim_some, get?_insert, if_neg same]

/-- Inserting the entries of a map over another one, one after the other. -/
theorem get?_foldl_insert (map other : SortedMap Key Value) (key : Key) :
    (map.entries.foldl (fun map entry => map.insert entry.1 entry.2) other).get? key =
      (map.get? key).or (other.get? key) := by
  have chosen := get?_foldl_choose map some other key
  rwa [Option.bind_fun_some] at chosen

end SortedMap

end Ferrometer.Foundation
