import Ferrometer.Log.Source.Batches

/-!
Contract: where a source that has a saved cursor goes on reading.

Owns: what it means to resume exactly, and when a source does.

Does not own: what the cursor file holds.
-/

set_option autoImplicit false

namespace Ferrometer.Log.JournaldSource

open Ferrometer.Foundation

variable {api : JournalApi}

/-- What has been read since a source was positioned, and what it still has to read,
are together the entries strictly after the cursor. A first batch starts with the
first entry read. -/
def ResumesExactly (contract : JournalContract api) (cursor : Cursor)
    (positioned next : JournaldSource api) (result : Option Batch) : Prop :=
  ∃ read, Reads contract (contract.location positioned.journal) read next.journal ∧
    (∀ batch ∈ result, batch.entries.head? = read.head?.map positioned.toEntry) ∧
    read ++ upcoming (contract.location next.journal) (contract.entries next.journal) =
      upcoming (.current (contract.positionOf cursor)) (contract.entries next.journal)

variable {contract : JournalContract api} {source positioned next : JournaldSource api}
  {cursor : Cursor} {readable : List (Except String Unit)} {result : Option Batch}

/-- Only the place from which the source reads on matters. -/
private theorem resumesExactly_iff (nothingParked : positioned.pending = none)
    (read : firstEntries readable positioned = (next, .ok result)) :
    ResumesExactly contract cursor positioned next result ↔
      upcoming (contract.location positioned.journal) (contract.entries next.journal) =
        upcoming (.current (contract.positionOf cursor)) (contract.entries next.journal) := by
  obtain ⟨items, filled, fills, final⟩ := firstEntries_ok contract read
  constructor
  · rintro ⟨read, reads, -, exact⟩
    rw [reads.upcoming_eq (List.prefix_refl _), exact]
  · intro same
    obtain ⟨read, reads, leaves⟩ := fills.advances.reads (Reads.refl contract positioned.journal)
    rw [List.nil_append] at reads
    rw [nothingParked, Option.toList_none, List.nil_append] at leaves
    refine ⟨read, reads, fun batch isBatch => ?_, ?_⟩
    · obtain ⟨rfl, nonempty⟩ := final batch isBatch
      have entries : batch.entries = items.map Prod.fst := by
        rw [fills.pushed, Batch.pushAll_entries, List.nil_append]
      cases items with
      | nil => exact absurd entries nonempty
      | cons item rest =>
          cases read with
          | nil => simp at leaves
          | cons entry others =>
              have first := (List.cons.inj leaves).1
              rw [entries, ← first]
              rfl
    · rw [← reads.upcoming_eq (List.prefix_refl _), same]

/-- A source whose cursor can be sought resumes exactly when the entry of the cursor
is there, or nothing after it is. Else the step that is meant to pass over that
entry passes over the next one. -/
theorem resume_exact_iff (contract : JournalContract api) (fresh : source.Fresh)
    (saved : source.lastAcked = some cursor)
    (sought : (api.seekCursor source.journal cursor).2 = .ok ())
    (positions : positionToStart source = (positioned, .ok ()))
    (read : firstEntries readable positioned = (next, .ok result))
    (later : ∀ entry ∈ contract.entries next.journal,
      entry ∉ contract.entries positioned.journal → contract.positionOf cursor < entry.position) :
    ResumesExactly contract cursor positioned next result ↔
      (∃ entry ∈ contract.entries positioned.journal,
        entry.position = contract.positionOf cursor) ∨
      ∀ entry ∈ contract.entries positioned.journal,
        entry.position ≤ contract.positionOf cursor := by
  obtain ⟨frame, -, landed⟩ := positionToStart_saved contract saved sought positions
  have nothingParked : positioned.pending = none := by
    rw [frame]
    exact fresh.pending
  obtain ⟨items, filled, fills, -⟩ := firstEntries_ok contract read
  rw [resumesExactly_iff nothingParked read, landed]
  exact OrderedLog.upcoming_advance_sought (contract.sorted _) fills.advances.grows later

/-- A source that resumes after the second entry. -/
def resumingSource (journal : MemoryJournal) : JournaldSource MemoryJournal.api where
  name := "journald"
  journal := journal
  cursorFile := Path.ofString "/state/journal.cursor"
  lastAcked := some "xx"
  inFlight := none
  positioned := false
  batchSize := 2
  batchMaxBytes := 0
  pending := none
  batchWait := 5
  labelsMap := .empty
  staticLabels := .empty
  metadataMap := .empty

def resumed (journal : MemoryJournal) : JournaldSource MemoryJournal.api :=
  (positionToStart (resumingSource journal)).1

def resumedRead (journal : MemoryJournal) : JournaldSource MemoryJournal.api :=
  (firstEntries [] (resumed journal)).1

def plainBatch (entries : List (String × Cursor)) : Batch :=
  ({} : Batch).pushAll (entries.map fun entry =>
    ({ timestamp := 0, message := entry.1, labels := .empty, metadata := .empty }, entry.2))

/-- The entry of the cursor is still there, and the source starts behind it. -/
theorem resume_exact_iff_present :
    ResumesExactly MemoryJournal.contract "xx" (resumed (.sample 3 []))
      (resumedRead (.sample 3 [])) (some (plainBatch [("c", "xxx")])) := by
  have positions : positionToStart (resumingSource (.sample 3 [])) =
      (resumed (.sample 3 []), .ok ()) := rfl
  have read : firstEntries [] (resumed (.sample 3 [])) =
      (resumedRead (.sample 3 []), .ok (some (plainBatch [("c", "xxx")]))) := rfl
  exact (resume_exact_iff MemoryJournal.contract ⟨rfl, rfl, rfl⟩ rfl rfl positions read
    (by decide +kernel)).mpr (Or.inl (by decide +kernel))

/-- The first two entries are gone, the second of them that of the cursor. The third
entry is there, and the source starts with the fourth. -/
theorem resume_skips_entry :
    (MemoryJournal.api.seekCursor ((MemoryJournal.sample 5 []).vacuum 2) "xx").2 = .ok () ∧
      positionToStart (resumingSource ((MemoryJournal.sample 5 []).vacuum 2)) =
        (resumed ((MemoryJournal.sample 5 []).vacuum 2), .ok ()) ∧
      firstEntries [] (resumed ((MemoryJournal.sample 5 []).vacuum 2)) =
        (resumedRead ((MemoryJournal.sample 5 []).vacuum 2),
          .ok (some (plainBatch [("d", "xxxx"), ("e", "xxxxx")]))) ∧
      ¬ ResumesExactly MemoryJournal.contract "xx" (resumed ((MemoryJournal.sample 5 []).vacuum 2))
        (resumedRead ((MemoryJournal.sample 5 []).vacuum 2))
        (some (plainBatch [("d", "xxxx"), ("e", "xxxxx")])) := by
  have read : firstEntries [] (resumed ((MemoryJournal.sample 5 []).vacuum 2)) =
      (resumedRead ((MemoryJournal.sample 5 []).vacuum 2),
        .ok (some (plainBatch [("d", "xxxx"), ("e", "xxxxx")]))) := rfl
  refine ⟨rfl, rfl, read, ?_⟩
  intro resumes
  have same := (resumesExactly_iff rfl read).mp resumes
  exact absurd same (by decide +kernel)

end Ferrometer.Log.JournaldSource
