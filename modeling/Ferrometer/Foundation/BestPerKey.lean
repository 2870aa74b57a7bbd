import Ferrometer.Foundation.SortedMap
import Mathlib.Data.List.Induction
import Mathlib.Data.List.Perm.Basic

/-!
Contract: the best item of each key, found in one pass over a list.

Owns: the pass with its comparison, that it keeps one best item per key and the
first of those that are equally good, and when what is seen of the kept items
depends on the order of the list.

Does not own: what makes an item better. The comparison is that of a rank.
-/

set_option autoImplicit false

namespace Ferrometer.Foundation

universe u v w x

namespace BestPerKey

variable {Key : Type u} {Item : Type v} [LinearOrder Key]

section Model

variable (key : Item → Key) (better : Item → Item → Bool)

/-- An item takes the place of the one kept so far only if it is better. -/
def keepItem (kept : SortedMap Key Item) (item : Item) : SortedMap Key Item :=
  match kept.get? (key item) with
  | some existing => if better item existing then kept.insert (key item) item else kept
  | none => kept.insert (key item) item

def keepBest (items : List Item) : SortedMap Key Item :=
  items.foldl (keepItem key better) .empty

end Model

variable {Rank : Type w} [LinearOrder Rank] {key : Item → Key} {better : Item → Item → Bool}

/-- No item with the key of this one has a smaller rank. -/
structure Least (key : Item → Key) (rank : Item → Rank) (items : List Item) (item : Item) :
    Prop where
  member : item ∈ items
  least : ∀ other ∈ items, key other = key item → rank item ≤ rank other

omit [LinearOrder Key] in
theorem Least.of_perm {rank : Item → Rank} {items others : List Item} {item : Item}
    (least : Least key rank items item) (permuted : items.Perm others) :
    Least key rank others item where
  member := permuted.mem_iff.mp least.member
  least other member := least.least other (permuted.mem_iff.mpr member)

omit [LinearOrder Key] in
theorem Least.of_last {rank : Item → Rank} {items : List Item} {item : Item}
    (below : ∀ other ∈ items, key other = key item → rank item ≤ rank other) :
    Least key rank (items ++ [item]) item where
  member := by simp
  least := by
    intro other member sameKey
    rcases List.mem_append.mp member with earlier | now
    · exact below other earlier sameKey
    · rw [List.mem_singleton.mp now]

omit [LinearOrder Key] in
theorem Least.concat {rank : Item → Rank} {items : List Item} {item best : Item}
    (least : Least key rank items best) (notBelow : key item = key best → rank best ≤ rank item) :
    Least key rank (items ++ [item]) best where
  member := by simp [least.member]
  least := by
    intro other member sameKey
    rcases List.mem_append.mp member with earlier | now
    · exact least.least other earlier sameKey
    · rw [List.mem_singleton.mp now] at sameKey ⊢
      exact notBelow sameKey

theorem keepBest_concat (items : List Item) (item : Item) :
    keepBest key better (items ++ [item]) =
      keepItem key better (keepBest key better items) item := by
  rw [keepBest, List.foldl_append]
  rfl

theorem get?_keepItem_other (kept : SortedMap Key Item) {item : Item} {other : Key}
    (different : other ≠ key item) :
    (keepItem key better kept item).get? other = kept.get? other := by
  have inserted : (kept.insert (key item) item).get? other = kept.get? other := by
    rw [SortedMap.get?_insert, if_neg different]
  unfold keepItem
  split
  · split
    · exact inserted
    · rfl
  · exact inserted

/-- An item is kept if there is none with its key, or only a worse one. -/
theorem get?_keepItem_takes {kept : SortedMap Key Item} {item : Item}
    (improves : ∀ existing, kept.get? (key item) = some existing →
      better item existing = true) :
    (keepItem key better kept item).get? (key item) = some item := by
  have inserted : (kept.insert (key item) item).get? (key item) = some item := by
    rw [SortedMap.get?_insert, if_pos rfl]
  unfold keepItem
  split
  · rename_i existing found
    rw [if_pos (improves existing found), inserted]
  · exact inserted

/-- A kept item stays as long as nothing better comes. -/
theorem get?_keepItem_stays {kept : SortedMap Key Item} {item best : Item}
    (isKept : kept.get? (key best) = some best)
    (notBetter : key item = key best → better item best = false) :
    (keepItem key better kept item).get? (key best) = some best := by
  by_cases same : key item = key best
  · rw [keepItem, same, isKept]
    simp [notBetter same, isKept]
  · rw [get?_keepItem_other kept (Ne.symm same), isKept]

section Ranked

variable {rank : Item → Rank}
  (byRank : ∀ item other, better item other = true ↔ rank item < rank other)

include byRank

variable (key) in
/-- What is kept under a key is a least item with that key, and something is kept if
there is one. -/
theorem get?_keepBest (items : List Item) (place : Key) :
    (∀ item, (keepBest key better items).get? place = some item →
      key item = place ∧ Least key rank items item) ∧
    ((keepBest key better items).get? place = none → ∀ item ∈ items, key item ≠ place) := by
  induction items using List.reverseRecOn with
  | nil => simp [keepBest]
  | append_singleton items item inductionHypothesis =>
      obtain ⟨keptLeast, noneKept⟩ := inductionHypothesis
      rw [keepBest_concat]
      by_cases same : place = key item
      · subst same
        by_cases improves : ∀ existing,
            (keepBest key better items).get? (key item) = some existing →
              better item existing = true
        · rw [get?_keepItem_takes improves]
          refine ⟨?_, by simp⟩
          intro best isBest
          obtain rfl := Option.some.inj isBest
          refine ⟨rfl, .of_last ?_⟩
          intro other member sameKey
          cases found : (keepBest key better items).get? (key item) with
          | none => exact absurd sameKey (noneKept found other member)
          | some existing =>
              rcases keptLeast existing found with ⟨existingKey, least⟩
              have below := (byRank item existing).mp (improves existing found)
              exact below.le.trans (least.least other member (sameKey.trans existingKey.symm))
        · push Not at improves
          rcases improves with ⟨existing, found, notBetter⟩
          rcases keptLeast existing found with ⟨existingKey, least⟩
          have stays : (keepItem key better (keepBest key better items) item).get? (key item) =
              some existing := by
            rw [← existingKey] at found ⊢
            exact get?_keepItem_stays found fun _ => Bool.eq_false_iff.mpr notBetter
          rw [stays]
          refine ⟨?_, by simp⟩
          intro best isBest
          obtain rfl := Option.some.inj isBest
          refine ⟨existingKey, least.concat fun _ => ?_⟩
          exact not_lt.mp fun below => notBetter ((byRank _ _).mpr below)
      · rw [get?_keepItem_other _ same]
        constructor
        · intro best found
          rcases keptLeast best found with ⟨bestKey, least⟩
          refine ⟨bestKey, least.concat fun sameKey => ?_⟩
          exact absurd (bestKey.symm.trans sameKey.symm) same
        · intro found other member
          rcases List.mem_append.mp member with earlier | now
          · exact noneKept found other earlier
          · rw [List.mem_singleton.mp now]
            exact Ne.symm same

variable (key) in
theorem exists_kept {items : List Item} {item : Item} (member : item ∈ items) :
    ∃ best, (keepBest key better items).get? (key item) = some best := by
  cases found : (keepBest key better items).get? (key item) with
  | none => exact absurd rfl ((get?_keepBest key byRank items (key item)).2 found item member)
  | some best => exact ⟨best, rfl⟩

/-- If some least item with a key is in front, the one that is kept is in front. -/
theorem kept_in_front {front back : List Item} {item best : Item}
    (least : Least key rank (front ++ back) item) (inFront : item ∈ front)
    (isKept : (keepBest key better (front ++ back)).get? (key item) = some best) :
    best ∈ front := by
  obtain ⟨first, keptFirst⟩ := exists_kept key byRank inFront
  obtain ⟨firstKey, firstLeast⟩ := (get?_keepBest key byRank front (key item)).1 first keptFirst
  have stays : (keepBest key better (front ++ back)).get? (key item) = some first := by
    have firstBelow : ∀ other ∈ back, key other = key first → better other first = false := by
      intro other member sameKey
      have below : rank item ≤ rank other :=
        least.least other (List.mem_append_right _ member) (sameKey.trans firstKey)
      have firstBelow : rank first ≤ rank item := firstLeast.least item inFront firstKey.symm
      rw [Bool.eq_false_iff, Ne, byRank]
      exact not_lt.mpr (firstBelow.trans below)
    clear least isKept
    induction back using List.reverseRecOn with
    | nil => rwa [List.append_nil]
    | append_singleton back other inductionHypothesis =>
        have before := inductionHypothesis fun other member => firstBelow other (by simp [member])
        rw [← List.append_assoc, keepBest_concat, ← firstKey]
        rw [← firstKey] at before
        exact get?_keepItem_stays before (firstBelow other (by simp))
  rw [stays] at isKept
  obtain rfl := Option.some.inj isKept
  exact firstLeast.member

/-! ## What is seen of the kept items -/

section Seen

variable {Seen : Type x} {see : Item → Option Seen}

/-- What is seen of an item that is kept. -/
def Shows (see : Item → Option Seen) (key : Item → Key) (better : Item → Item → Bool)
    (items : List Item) (seen : Seen) : Prop :=
  ∃ item ∈ (keepBest key better items).entries.map Prod.snd, see item = some seen

omit byRank in
omit [LinearOrder Rank] in
private theorem shows_iff {items : List Item} {seen : Seen} :
    Shows see key better items seen ↔
      ∃ place item, (keepBest key better items).get? place = some item ∧
        see item = some seen := by
  constructor
  · rintro ⟨_, member, sees⟩
    obtain ⟨⟨place, item⟩, isEntry, rfl⟩ := List.mem_map.mp member
    exact ⟨place, item, (SortedMap.mem_entries_iff _ _ _).mp isEntry, sees⟩
  · rintro ⟨place, item, isKept, sees⟩
    have isEntry := (SortedMap.mem_entries_iff _ _ _).mpr isKept
    exact ⟨item, List.mem_map.mpr ⟨(place, item), isEntry, rfl⟩, sees⟩

/-- With the items that show `seen` at the front, it is seen if some least item shows it. -/
private theorem shows_of_front {front back : List Item} {item : Item} {seen : Seen}
    (least : Least key rank (front ++ back) item) (inFront : item ∈ front)
    (sees : ∀ other ∈ front, see other = some seen) :
    Shows see key better (front ++ back) seen := by
  obtain ⟨best, isKept⟩ := exists_kept key byRank least.member
  exact shows_iff.mpr
    ⟨key item, best, isKept, sees best (kept_in_front byRank least inFront isKept)⟩

/-- With the items that do not show `seen` at the front, it is not seen if every key has
a least item among them. -/
private theorem not_shows_of_front {front back : List Item} {seen : Seen}
    (front_hides : ∀ other ∈ front, see other ≠ some seen)
    (hasLeast : ∀ other ∈ front ++ back, ∃ tie ∈ front,
      Least key rank (front ++ back) tie ∧ key tie = key other) :
    ¬ Shows see key better (front ++ back) seen := by
  rw [shows_iff]
  rintro ⟨place, best, isKept, sees⟩
  obtain ⟨rfl, bestLeast⟩ := (get?_keepBest key byRank (front ++ back) place).1 best isKept
  obtain ⟨tie, inFront, least, sameKey⟩ := hasLeast best bestLeast.member
  rw [← sameKey] at isKept
  exact front_hides best (kept_in_front byRank least inFront isKept) sees

variable (key see) in
/-- What is seen of the kept items does not depend on the order of the list if and
only if whatever is seen of a least item is seen of all least items of some key. -/
theorem shows_perm_iff (items : List Item) :
    (∀ others, items.Perm others → ∀ seen,
      Shows see key better items seen ↔ Shows see key better others seen) ↔
      ∀ item, Least key rank items item → ∀ seen, see item = some seen →
        ∃ other ∈ items, ∀ tie, Least key rank items tie → key tie = key other →
          see tie = some seen := by
  classical
  constructor
  · intro invariant item least seen sees
    by_contra hidden
    push Not at hidden
    let sees' := fun other => decide (see other = some seen)
    have permuted : items.Perm (items.filter sees' ++ items.filter fun other => !sees' other) :=
      (List.filter_append_perm sees' items).symm
    have reversed : items.Perm ((items.filter fun other => !sees' other) ++ items.filter sees') :=
      permuted.trans List.perm_append_comm
    have shown : Shows see key better
        (items.filter sees' ++ items.filter fun other => !sees' other) seen := by
      apply shows_of_front byRank (least.of_perm permuted)
      · exact List.mem_filter.mpr ⟨least.member, decide_eq_true sees⟩
      · intro other member
        exact of_decide_eq_true (List.mem_filter.mp member).2
    have notShown : ¬ Shows see key better
        ((items.filter fun other => !sees' other) ++ items.filter sees') seen := by
      apply not_shows_of_front byRank
      · intro other member
        simpa [sees'] using (List.mem_filter.mp member).2
      · intro other member
        obtain ⟨tie, tieLeast, sameKey, hides⟩ := hidden other (reversed.mem_iff.mpr member)
        refine ⟨tie, ?_, tieLeast.of_perm reversed, sameKey⟩
        exact List.mem_filter.mpr ⟨tieLeast.member, by simpa [sees'] using hides⟩
    exact notShown ((invariant _ reversed seen).mp ((invariant _ permuted seen).mpr shown))
  · intro agree
    have ofLeast : ∀ others, items.Perm others → ∀ seen, Shows see key better others seen ↔
        ∃ item, Least key rank items item ∧ see item = some seen := by
      intro others permuted seen
      rw [shows_iff]
      constructor
      · rintro ⟨place, item, isKept, sees⟩
        have least := ((get?_keepBest key byRank others place).1 item isKept).2
        exact ⟨item, least.of_perm permuted.symm, sees⟩
      · rintro ⟨item, least, sees⟩
        obtain ⟨other, member, allSee⟩ := agree item least seen sees
        obtain ⟨best, isKept⟩ :=
          exists_kept key byRank (permuted.mem_iff.mp member)
        obtain ⟨sameKey, bestLeast⟩ := (get?_keepBest key byRank others (key other)).1 best isKept
        exact ⟨key other, best, isKept, allSee best (bestLeast.of_perm permuted.symm) sameKey⟩
    intro others permuted seen
    rw [ofLeast items (List.Perm.refl items) seen, ofLeast others permuted seen]

end Seen

end Ranked

end BestPerKey

end Ferrometer.Foundation
