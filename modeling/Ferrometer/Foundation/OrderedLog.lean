import Mathlib.Data.List.Infix
import Mathlib.Order.Basic

/-!
Contract: an append-only log whose entries are ordered by position, read through
a pointer.

Owns: the places a pointer can be at, what is still to be read from each of them,
where the pointer stands after reading, and that reading goes on undisturbed
while the log grows.

Does not own: what an entry holds, or how a pointer is moved other than by
reading.
-/

set_option autoImplicit false

namespace Ferrometer.Foundation.OrderedLog

universe u

variable {Entry : Type u} (position : Entry → Nat)

/-- Where a pointer is. After a seek no entry is current yet. -/
inductive Location where
  | head
  | tail
  | sought (position : Nat)
  | current (position : Nat)
deriving DecidableEq

/-- The positions increase strictly. -/
def Sorted (entries : List Entry) : Prop :=
  entries.Pairwise fun earlier later => position earlier < position later

instance (entries : List Entry) : Decidable (Sorted position entries) :=
  inferInstanceAs (Decidable (entries.Pairwise _))

/-- What can be read from a place. From the tail that is nothing, also later on. -/
def upcoming (location : Location) (entries : List Entry) : List Entry :=
  match location with
  | .head => entries
  | .tail => []
  | .sought start => entries.filter fun entry => start ≤ position entry
  | .current last => entries.filter fun entry => last < position entry

/-- The place after a step forward: the first upcoming entry, if there is one. -/
def advance (location : Location) (entries : List Entry) : Location :=
  match upcoming position location entries with
  | [] => location
  | entry :: _ => .current (position entry)

/-- The place after reading some entries from another one. -/
def after : Location → List Entry → Location
  | start, [] => start
  | _, entry :: rest => after (.current (position entry)) rest

variable {position}

theorem after_append (start : Location) (first second : List Entry) :
    after position start (first ++ second) =
      after position (after position start first) second := by
  induction first generalizing start with
  | nil => rfl
  | cons entry rest inductionHypothesis => exact inductionHypothesis _

theorem after_concat (start : Location) (read : List Entry) (entry : Entry) :
    after position start (read ++ [entry]) = .current (position entry) := by
  rw [after_append]
  rfl

theorem advance_of_nil {location : Location} {entries : List Entry}
    (nothing : upcoming position location entries = []) :
    advance position location entries = location := by
  rw [advance, nothing]

theorem advance_of_cons {location : Location} {entries rest : List Entry} {entry : Entry}
    (next : upcoming position location entries = entry :: rest) :
    advance position location entries = .current (position entry) := by
  rw [advance, next]

/-- The log only ever gets more to read. -/
theorem upcoming_grows (location : Location) {entries more : List Entry}
    (grown : entries <+: more) :
    upcoming position location entries <+: upcoming position location more := by
  cases location with
  | head => exact grown
  | tail => exact List.prefix_refl _
  | sought start => exact grown.filter _
  | current last => exact grown.filter _

theorem upcoming_sublist (location : Location) (entries : List Entry) :
    (upcoming position location entries).Sublist entries := by
  cases location with
  | head => exact List.Sublist.refl _
  | tail => exact List.nil_sublist _
  | sought start => exact List.filter_sublist
  | current last => exact List.filter_sublist

/-- In a sorted log, what comes after a middle entry is what stands behind it. -/
theorem filter_current {front rest : List Entry} {entry : Entry}
    (sorted : Sorted position (front ++ entry :: rest)) :
    (front ++ entry :: rest).filter (fun other => position entry < position other) = rest := by
  rw [Sorted, List.pairwise_append] at sorted
  obtain ⟨-, behind, across⟩ := sorted
  have noneBefore : front.filter (fun other => position entry < position other) = [] := by
    rw [List.filter_eq_nil_iff]
    intro other member
    have below := across other member entry List.mem_cons_self
    simp only [decide_eq_true_eq]
    omega
  have allBehind : rest.filter (fun other => position entry < position other) = rest := by
    rw [List.filter_eq_self]
    intro other member
    simpa using (List.pairwise_cons.mp behind).1 other member
  simp [List.filter_append, noneBefore, allBehind]

/-- Having read the first entry, the pointer goes on with the second. -/
theorem upcoming_of_cons {location : Location} {entries rest : List Entry} {entry : Entry}
    (sorted : Sorted position entries)
    (next : upcoming position location entries = entry :: rest) :
    upcoming position (.current (position entry)) entries = rest := by
  have restSorted : Sorted position (entry :: rest) := by
    rw [← next]
    exact List.Pairwise.sublist (upcoming_sublist location entries) sorted
  -- Whatever the place, what it passes over lies before what it lets through.
  have within : (entries.filter fun other => position entry < position other) =
      (entry :: rest).filter fun other => position entry < position other := by
    cases location with
    | head => rw [← next]; rfl
    | tail => simp [upcoming] at next
    | sought start =>
        have low : start ≤ position entry := by
          have member : entry ∈ upcoming position (.sought start) entries := by simp [next]
          simpa [upcoming] using (List.mem_filter.mp member).2
        rw [← next, upcoming, List.filter_filter]
        apply List.filter_congr
        intro other _
        grind
    | current last =>
        have low : last < position entry := by
          have member : entry ∈ upcoming position (.current last) entries := by simp [next]
          simpa [upcoming] using (List.mem_filter.mp member).2
        rw [← next, upcoming, List.filter_filter]
        apply List.filter_congr
        intro other _
        grind
  have whole : Sorted position ([] ++ entry :: rest) := restSorted
  rw [upcoming, within]
  exact filter_current whole

/-- Having read some of what was to come, the pointer goes on with the others. -/
theorem upcoming_after {start : Location} {entries read rest : List Entry}
    (sorted : Sorted position entries)
    (split : upcoming position start entries = read ++ rest) :
    upcoming position (after position start read) entries = rest := by
  induction read generalizing start with
  | nil => exact split
  | cons entry others inductionHypothesis =>
      exact inductionHypothesis (upcoming_of_cons sorted split)

/-- What has been read can be told from where the pointer is. -/
theorem eq_of_after_eq {start : Location} {entries first second : List Entry}
    (sorted : Sorted position entries) (firstAhead : first <+: upcoming position start entries)
    (secondAhead : second <+: upcoming position start entries)
    (same : after position start first = after position start second) : first = second := by
  rcases firstAhead with ⟨behindFirst, splitFirst⟩
  rcases secondAhead with ⟨behindSecond, splitSecond⟩
  have restFirst := upcoming_after sorted splitFirst.symm
  have restSecond := upcoming_after sorted splitSecond.symm
  rw [same, restSecond] at restFirst
  rw [← restFirst, ← splitSecond] at splitFirst
  exact List.append_cancel_right splitFirst

/-- What is still to come from a later place was to come from the earlier one. -/
theorem upcoming_after_suffix {start : Location} {entries read rest : List Entry}
    (sorted : Sorted position entries)
    (split : upcoming position start entries = read ++ rest) :
    upcoming position (after position start read) entries <:+ upcoming position start entries := by
  rw [upcoming_after sorted split, split]
  exact List.suffix_append read rest

theorem notMem_upcoming_after {start : Location} {entries read rest : List Entry} {entry : Entry}
    (sorted : Sorted position entries)
    (split : upcoming position start entries = read ++ rest) (passed : entry ∈ read) :
    entry ∉ upcoming position (after position start read) entries := by
  rw [upcoming_after sorted split]
  intro ahead
  have ordered : Sorted position (read ++ rest) := by
    rw [← split]
    exact sorted.sublist (upcoming_sublist start entries)
  have below := (List.pairwise_append.mp ordered).2.2 entry passed entry ahead
  exact absurd below (Nat.lt_irrefl _)

/-- Of the first entries ahead of a place, those that are ahead of a later place are among
the first ones there. -/
theorem mem_take_upcoming_after {start : Location} {entries read rest : List Entry} {entry : Entry}
    {count : Nat} (sorted : Sorted position entries)
    (split : upcoming position start entries = read ++ rest)
    (near : entry ∈ (upcoming position start entries).take count)
    (ahead : entry ∈ upcoming position (after position start read) entries) :
    entry ∈ (upcoming position (after position start read) entries).take count := by
  rw [split, List.take_append, List.mem_append] at near
  rcases near with passed | near
  · exact absurd ahead (notMem_upcoming_after sorted split (List.mem_of_mem_take passed))
  · rw [upcoming_after sorted split]
    exact List.take_subset_take_left rest (Nat.sub_le _ _) near

/-- A step forward from a sought position lands exactly on it, or passes over the
first entry after it. It passes over nothing if the entry at the position is there,
or nothing after it is there yet. -/
theorem upcoming_advance_sought {entries more : List Entry} {start : Nat}
    (sorted : Sorted position more) (grown : entries <+: more)
    (later : ∀ entry ∈ more, entry ∉ entries → start < position entry) :
    upcoming position (advance position (.sought start) entries) more =
        upcoming position (.current start) more ↔
      (∃ entry ∈ entries, position entry = start) ∨ ∀ entry ∈ entries, position entry ≤ start := by
  cases landed : upcoming position (.sought start) entries with
  | nil =>
      have below : ∀ entry ∈ entries, position entry < start := by
        simpa [upcoming, List.filter_eq_nil_iff] using landed
      rw [advance_of_nil landed]
      refine iff_of_true ?_ (Or.inr fun entry member => (below entry member).le)
      apply List.filter_congr
      intro entry member
      by_cases present : entry ∈ entries
      · have := below entry present
        grind
      · have := later entry member present
        grind
  | cons entry rest =>
      have member : entry ∈ upcoming position (.sought start) entries := by simp [landed]
      obtain ⟨present, reached⟩ := List.mem_filter.mp member
      have reached : start ≤ position entry := by simpa using reached
      rw [advance_of_cons landed]
      rcases reached.eq_or_lt with exact | beyond
      · rw [exact]
        exact iff_of_true rfl (Or.inl ⟨entry, present, rfl⟩)
      · refine iff_of_false (fun same => ?_) ?_
        · have skipped : entry ∈ upcoming position (.current start) more := by
            simpa [upcoming] using ⟨grown.subset present, beyond⟩
          rw [← same] at skipped
          simp [upcoming] at skipped
        · rintro (⟨other, otherPresent, there⟩ | all)
          · -- The landing entry is the first at or after the position.
            have among : other ∈ entry :: rest := by
              rw [← landed]
              simpa [upcoming] using ⟨otherPresent, there.ge⟩
            have ordered : Sorted position (entry :: rest) := by
              rw [← landed]
              exact (sorted.sublist grown.sublist).sublist (upcoming_sublist _ _)
            rcases List.mem_cons.mp among with rfl | behind
            · omega
            · have := (List.pairwise_cons.mp ordered).1 other behind
              omega
          · exact absurd (all entry present) (by omega)

/-- An entry that is there is landed on. -/
theorem advance_sought_present {entries : List Entry} {entry : Entry}
    (sorted : Sorted position entries) (present : entry ∈ entries) :
    advance position (.sought (position entry)) entries = .current (position entry) := by
  have among : entry ∈ upcoming position (.sought (position entry)) entries := by
    simpa [upcoming] using present
  cases landed : upcoming position (.sought (position entry)) entries with
  | nil => simp [landed] at among
  | cons first rest =>
      have reached : position entry ≤ position first := by
        have member : first ∈ upcoming position (.sought (position entry)) entries := by
          simp [landed]
        simpa [upcoming] using (List.mem_filter.mp member).2
      have ordered : Sorted position (first :: rest) := by
        rw [← landed]
        exact sorted.sublist (upcoming_sublist _ _)
      rw [advance_of_cons landed]
      rw [landed] at among
      rcases List.mem_cons.mp among with rfl | behind
      · rfl
      · have := (List.pairwise_cons.mp ordered).1 entry behind
        omega

/-- What is appended lies behind everything that was there. -/
theorem mem_drop_of_le {entries more : List Entry} {entry old : Entry} {count : Nat}
    (sorted : Sorted position more) (grown : entries <+: more) (within : count ≤ entries.length)
    (present : old ∈ entries) (member : entry ∈ more.drop count)
    (below : position entry ≤ position old) : entry ∈ entries.drop count := by
  obtain ⟨rest, rfl⟩ := grown
  rw [List.drop_append_of_le_length within, List.mem_append] at member
  rcases member with there | appended
  · exact there
  · have := (List.pairwise_append.mp sorted).2.2 old present entry appended
    omega

/-- Whether an entry is ahead of a place does not depend on the other entries. -/
theorem mem_upcoming_of_mem {location : Location} {entries more : List Entry} {entry : Entry}
    (ahead : entry ∈ upcoming position location more) (member : entry ∈ entries) :
    entry ∈ upcoming position location entries := by
  cases location with
  | head => exact member
  | tail => exact absurd ahead List.not_mem_nil
  | sought start => exact List.mem_filter.mpr ⟨member, (List.mem_filter.mp ahead).2⟩
  | current last => exact List.mem_filter.mpr ⟨member, (List.mem_filter.mp ahead).2⟩

theorem nodup_of_sorted {entries : List Entry} (sorted : Sorted position entries) :
    entries.Nodup :=
  sorted.imp fun less same => absurd less (by rw [same]; exact Nat.lt_irrefl _)

/-- From the current entry on, what is still to be read are the entries behind it. -/
theorem mem_upcoming_current {entries : List Entry} {entry : Entry} {last : Nat} :
    entry ∈ upcoming position (.current last) entries ↔
      entry ∈ entries ∧ last < position entry := by
  simp [upcoming]

/-- Nothing is behind the last entry. -/
theorem upcoming_current_last {entries : List Entry} {last : Entry}
    (sorted : Sorted position entries) (isLast : entries.getLast? = some last) :
    upcoming position (.current (position last)) entries = [] := by
  obtain ⟨front, rfl⟩ := List.getLast?_eq_some_iff.mp isLast
  rw [upcoming]
  exact filter_current sorted

/-- Behind the last entry is what has been appended since. -/
theorem upcoming_current_grown {entries more : List Entry} {last : Entry}
    (sorted : Sorted position more) (grown : entries <+: more)
    (isLast : entries.getLast? = some last) :
    upcoming position (.current (position last)) more = more.drop entries.length := by
  rcases grown with ⟨appended, rfl⟩
  rcases List.getLast?_eq_some_iff.mp isLast with ⟨front, rfl⟩
  rw [List.drop_left]
  rw [List.append_assoc, List.singleton_append] at sorted ⊢
  rw [upcoming]
  exact filter_current sorted

end Ferrometer.Foundation.OrderedLog
