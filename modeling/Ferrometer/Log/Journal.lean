import Ferrometer.Foundation.OrderedLog
import Ferrometer.Log.Source

/-!
Contract: the systemd journal as a log source calls it.

Owns: the calls of the `systemd` crate as a parameter, what is assumed of them,
and a small journal that meets the assumptions.

Does not own: libsystemd. A handle is opaque. What entries it can see and where
its read pointer is are not part of the interface, only of the assumptions, and
a call may see entries that others have appended since the last one.
-/

set_option autoImplicit false

namespace Ferrometer.Log

open Ferrometer.Foundation

/-- `BTreeMap<String, String>`. -/
abbrev JournalRecord := SortedMap String String

structure JournalEntry where
  position : Nat
  cursor : Cursor
  record : JournalRecord
  timestamp : SystemTime
deriving DecidableEq

abbrev Location := OrderedLog.Location

/-- `systemd::journal::Journal`, with the texts of its errors. -/
structure JournalApi where
  Handle : Type
  seekCursor : Handle → Cursor → Handle × Except String Unit
  seekTail : Handle → Handle × Except String Unit
  next : Handle → Handle × Except String Nat
  previous : Handle → Handle × Except String Nat
  nextEntry : Handle → Handle × Except String (Option JournalRecord)
  cursor : Handle → Except String Cursor
  timestamp : Handle → Except String SystemTime
  process : Handle → Handle × Except String Unit

/-- What can be read from a place in a journal. -/
abbrev upcoming (location : Location) (entries : List JournalEntry) : List JournalEntry :=
  OrderedLog.upcoming JournalEntry.position location entries

/-- The place after one step forward in a journal. -/
abbrev advance (location : Location) (entries : List JournalEntry) : Location :=
  OrderedLog.advance JournalEntry.position location entries

/-- What libsystemd documents of its read pointer. Nothing is said of a call that
fails, but that it takes no entry away. -/
structure JournalContract (api : JournalApi) where
  /-- The entries that a handle can see, oldest first. -/
  entries : api.Handle → List JournalEntry
  location : api.Handle → Location
  /-- The place that a cursor stands for, whether or not its entry still exists. -/
  positionOf : Cursor → Nat
  sorted : ∀ handle, OrderedLog.Sorted JournalEntry.position (entries handle)
  cursors : ∀ handle, ∀ entry ∈ entries handle, positionOf entry.cursor = entry.position
  seekCursor_grows : ∀ handle cursor, entries handle <+: entries (api.seekCursor handle cursor).1
  seekTail_grows : ∀ handle, entries handle <+: entries (api.seekTail handle).1
  next_grows : ∀ handle, entries handle <+: entries (api.next handle).1
  previous_grows : ∀ handle, entries handle <+: entries (api.previous handle).1
  nextEntry_grows : ∀ handle, entries handle <+: entries (api.nextEntry handle).1
  process_grows : ∀ handle, entries handle <+: entries (api.process handle).1
  /-- A seek makes no entry current. -/
  seekCursor_ok : ∀ handle cursor after, api.seekCursor handle cursor = (after, .ok ()) →
    location after = .sought (positionOf cursor)
  seekTail_ok : ∀ handle after, api.seekTail handle = (after, .ok ()) → location after = .tail
  /-- A step forward makes the first upcoming entry current, if there is one. -/
  next_ok : ∀ handle after moved, api.next handle = (after, .ok moved) →
    location after = advance (location handle) (entries after)
  /-- A step back from the tail makes the last entry current, if there is one. -/
  previous_ok : ∀ handle after moved, api.previous handle = (after, .ok moved) →
    location handle = .tail →
    location after = match (entries after).getLast? with
      | none => .tail
      | some entry => .current entry.position
  /-- `next_entry` steps forward and returns what has become current. -/
  nextEntry_ok : ∀ handle after record, api.nextEntry handle = (after, .ok record) →
    record = (upcoming (location handle) (entries after)).head?.map JournalEntry.record ∧
      location after = advance (location handle) (entries after)
  cursor_ok : ∀ handle cursor, api.cursor handle = .ok cursor →
    ∀ entry ∈ entries handle, location handle = .current entry.position → cursor = entry.cursor
  timestamp_ok : ∀ handle timestamp, api.timestamp handle = .ok timestamp →
    ∀ entry ∈ entries handle, location handle = .current entry.position →
      timestamp = entry.timestamp
  /-- `process` takes note of appended entries. It does not move the pointer, even
  when it fails. -/
  process_stays : ∀ handle, location (api.process handle).1 = location handle

/-! ## A journal that meets the contract -/

/-- A journal in memory. Some of its entries are still to be appended: `arrivals`
says how many of them each call finds. A cursor has the length of its position, and no
blanks at its ends. -/
structure MemoryJournal where
  all : List JournalEntry
  sorted : OrderedLog.Sorted JournalEntry.position all
  cursors : ∀ entry ∈ all, entry.cursor.length = entry.position
  solid : ∀ entry ∈ all, Solid entry.cursor
  visible : Nat
  arrivals : List Nat
  location : Location

namespace MemoryJournal

def entries (journal : MemoryJournal) : List JournalEntry :=
  journal.all.take journal.visible

/-- What a call finds appended. -/
def observe (journal : MemoryJournal) : MemoryJournal :=
  { journal with
    visible := journal.visible + journal.arrivals.headD 0
    arrivals := journal.arrivals.tail }

/-- One step forward, and the entry that has become current. -/
def forward (journal : MemoryJournal) : MemoryJournal × Option JournalEntry :=
  match upcoming journal.location journal.observe.entries with
  | [] => (journal.observe, none)
  | entry :: _ => ({ journal.observe with location := .current entry.position }, some entry)

/-- One step back from the tail. -/
def backward (journal : MemoryJournal) : MemoryJournal :=
  match journal.observe.entries.getLast? with
  | none => { journal.observe with location := .tail }
  | some entry => { journal.observe with location := .current entry.position }

def current (journal : MemoryJournal) : Except String JournalEntry :=
  match journal.location with
  | .current position =>
      match journal.entries.find? (·.position = position) with
      | some entry => .ok entry
      | none => .error "no entry"
  | _ => .error "no entry"

def api : JournalApi where
  Handle := MemoryJournal
  seekCursor journal cursor := ({ journal.observe with location := .sought cursor.length }, .ok ())
  seekTail journal := ({ journal.observe with location := .tail }, .ok ())
  next journal := (journal.forward.1, .ok journal.forward.2.toList.length)
  previous journal :=
    (journal.backward, .ok journal.observe.entries.getLast?.toList.length)
  nextEntry journal := (journal.forward.1, .ok (journal.forward.2.map JournalEntry.record))
  cursor journal := journal.current.map JournalEntry.cursor
  timestamp journal := journal.current.map JournalEntry.timestamp
  process journal := (journal.observe, .ok ())

private theorem entries_grow (journal : MemoryJournal) :
    journal.entries <+: journal.observe.entries :=
  List.take_prefix_take_left (Nat.le_add_right _ _)

private theorem forward_entries (journal : MemoryJournal) :
    journal.forward.1.entries = journal.observe.entries := by
  unfold forward
  split <;> rfl

private theorem forward_grows (journal : MemoryJournal) :
    journal.entries <+: journal.forward.1.entries :=
  journal.forward_entries ▸ journal.entries_grow

private theorem forward_found (journal : MemoryJournal) :
    journal.forward.2 = (upcoming journal.location journal.forward.1.entries).head? := by
  rw [forward_entries]
  unfold forward
  split
  · rename_i found
    rw [found]
    rfl
  · rename_i found
    rw [found]
    rfl

private theorem forward_location (journal : MemoryJournal) :
    journal.forward.1.location = advance journal.location journal.forward.1.entries := by
  rw [forward_entries]
  unfold forward
  split
  · rename_i found
    rw [advance, OrderedLog.advance_of_nil found]
    rfl
  · rename_i found
    rw [advance, OrderedLog.advance_of_cons found]

private theorem backward_entries (journal : MemoryJournal) :
    journal.backward.entries = journal.observe.entries := by
  unfold backward
  split <;> rfl

private theorem backward_location (journal : MemoryJournal) :
    journal.backward.location = match journal.backward.entries.getLast? with
      | none => .tail
      | some entry => .current entry.position := by
  rw [backward_entries]
  unfold backward
  split <;> rfl

private theorem current_spec {journal : MemoryJournal} {entry found : JournalEntry}
    (member : entry ∈ journal.entries) (here : journal.location = .current entry.position)
    (isFound : journal.current = .ok found) : found = entry := by
  have distinct : (journal.entries.map JournalEntry.position).Nodup := by
    have sorted := List.Pairwise.sublist (List.take_sublist journal.visible _) journal.sorted
    exact List.pairwise_map.mpr (sorted.imp fun below => Nat.ne_of_lt below)
  unfold current at isFound
  rw [here] at isFound
  simp only at isFound
  split at isFound
  · rename_i other lookup
    obtain rfl := Except.ok.inj isFound
    have samePosition : other.position = entry.position := by
      simpa using List.find?_some lookup
    exact List.inj_on_of_nodup_map distinct (List.mem_of_find?_eq_some lookup) member samePosition
  · exact absurd isFound (by simp)

private theorem current_map_spec {Value : Type} {read : JournalEntry → Value} {value : Value}
    {journal : MemoryJournal} (called : journal.current.map read = .ok value) :
    ∀ entry ∈ journal.entries, journal.location = .current entry.position →
      value = read entry := by
  intro entry member here
  cases isFound : journal.current with
  | error message => simp [isFound, Except.map] at called
  | ok found =>
      rw [isFound] at called
      obtain rfl := Except.ok.inj called
      rw [current_spec member here isFound]

/-- Older entries are gone. -/
def vacuum (journal : MemoryJournal) (count : Nat) : MemoryJournal where
  all := journal.all.drop count
  sorted := journal.sorted.sublist (List.drop_sublist _ _)
  cursors entry member := journal.cursors entry (List.mem_of_mem_drop member)
  solid entry member := journal.solid entry (List.mem_of_mem_drop member)
  visible := journal.visible
  arrivals := journal.arrivals
  location := journal.location

def contract : JournalContract api where
  entries := entries
  location := location
  positionOf := String.length
  sorted journal := List.Pairwise.sublist (List.take_sublist _ _) journal.sorted
  cursors journal entry member := journal.cursors entry (List.mem_of_mem_take member)
  seekCursor_grows journal _ := journal.entries_grow
  seekTail_grows := entries_grow
  next_grows := forward_grows
  previous_grows journal := (backward_entries journal).symm ▸ entries_grow journal
  nextEntry_grows := forward_grows
  process_grows := entries_grow
  seekCursor_ok journal cursor after called := by
    obtain ⟨rfl, -⟩ := Prod.mk.inj called
    rfl
  seekTail_ok journal after called := by
    obtain ⟨rfl, -⟩ := Prod.mk.inj called
    rfl
  next_ok journal after moved called := by
    obtain ⟨rfl, -⟩ := Prod.mk.inj called
    exact forward_location journal
  previous_ok journal after moved called _ := by
    obtain ⟨rfl, -⟩ := Prod.mk.inj called
    exact backward_location journal
  nextEntry_ok journal after record called := by
    obtain ⟨rfl, found⟩ := Prod.mk.inj called
    exact ⟨(Except.ok.inj found).symm.trans (congrArg _ (forward_found journal)),
      forward_location journal⟩
  cursor_ok _ _ called := current_map_spec called
  timestamp_ok _ _ called := current_map_spec called
  process_stays _ := rfl

def sampleEntries : List JournalEntry :=
  [("a", "x"), ("b", "xx"), ("c", "xxx"), ("d", "xxxx"), ("e", "xxxxx")].map fun entry =>
    { position := entry.2.length
      cursor := entry.2
      record := .ofList [("MESSAGE", entry.1)]
      timestamp := 0 }

/-- The sample entries, the first of them in place. -/
def sample (visible : Nat) (arrivals : List Nat) : MemoryJournal where
  all := sampleEntries
  sorted := by decide
  cursors := by decide
  solid := by decide
  visible := visible
  arrivals := arrivals
  location := .head

end MemoryJournal

end Ferrometer.Log
