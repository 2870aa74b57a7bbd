import Ferrometer.Foundation.Stateful
import Ferrometer.Log.CursorFile
import Ferrometer.Signal
import Ferrometer.Time
import Mathlib.Algebra.GroupWithZero.Nat

/-!
Contract: what a log source hands to a shipper.

Owns: log entries with their approximate size, batches, that a batch built by
`push` knows its own size and its last cursor, and the interface of a source.

Does not own: where entries come from, or when a batch is full.
-/

set_option autoImplicit false

namespace Ferrometer.Log

open Ferrometer.Foundation

structure LogEntry where
  timestamp : SystemTime
  message : String
  labels : Labels
  metadata : Labels
deriving DecidableEq

def fieldOverhead : Nat := 4

/-- Timestamp and length prefixes. -/
def entryOverhead : Nat := 16

def approxFields (fields : Labels) : Nat :=
  (fields.entries.map fun field =>
    field.1.utf8ByteSize + field.2.utf8ByteSize + fieldOverhead).sum

def LogEntry.approxSize (entry : LogEntry) : Nat :=
  entryOverhead + entry.message.utf8ByteSize + approxFields entry.labels +
    approxFields entry.metadata

structure Batch where
  entries : List LogEntry := []
  endCursor : Cursor := ""
  approxBytes : Nat := 0
deriving DecidableEq

namespace Batch

def push (batch : Batch) (entry : LogEntry) (cursor : Cursor) : Batch where
  approxBytes := batch.approxBytes + entry.approxSize
  entries := batch.entries ++ [entry]
  endCursor := cursor

/-- A batch that holds these entries, each read with its cursor. -/
structure Holds (batch : Batch) (items : List (LogEntry × Cursor)) : Prop where
  entries : batch.entries = items.map Prod.fst
  endCursor : ∀ item ∈ items.getLast?, batch.endCursor = item.2
  approxBytes : batch.approxBytes = (batch.entries.map LogEntry.approxSize).sum

/-- Push several entries in turn. -/
def pushAll (batch : Batch) (items : List (LogEntry × Cursor)) : Batch :=
  items.foldl (fun batch item => batch.push item.1 item.2) batch

@[simp] theorem pushAll_entries (batch : Batch) (items : List (LogEntry × Cursor)) :
    (batch.pushAll items).entries = batch.entries ++ items.map Prod.fst := by
  induction items generalizing batch with
  | nil => simp [pushAll]
  | cons item rest inductionHypothesis =>
      have step : batch.pushAll (item :: rest) = (batch.push item.1 item.2).pushAll rest := rfl
      rw [step, inductionHypothesis]
      simp [push]

theorem default_holds : ({} : Batch).Holds [] where
  entries := rfl
  endCursor := by simp
  approxBytes := rfl

theorem Holds.push {batch : Batch} {items : List (LogEntry × Cursor)} (holds : batch.Holds items)
    (entry : LogEntry) (cursor : Cursor) :
    (batch.push entry cursor).Holds (items ++ [(entry, cursor)]) where
  entries := by simp [Batch.push, holds.entries]
  endCursor := by simp [Batch.push]
  approxBytes := by simp [Batch.push, holds.approxBytes]

theorem Holds.pushAll {batch : Batch} {items : List (LogEntry × Cursor)}
    (holds : batch.Holds items) (more : List (LogEntry × Cursor)) :
    (batch.pushAll more).Holds (items ++ more) := by
  induction more generalizing batch items with
  | nil => rwa [List.append_nil]
  | cons item rest inductionHypothesis =>
      rw [List.append_cons]
      exact inductionHypothesis (holds.push item.1 item.2)

end Batch

/-! ## Sources -/

/-- What a peek comes to. One that waits has not returned. -/
inductive Peek where
  | waiting
  | exhausted
  | batch (batch : Batch)
deriving DecidableEq

/-- The trait. The inputs of a call are what the outside decides while it runs. -/
structure Source where
  State : Type
  PeekInput : Type
  AckInput : Type
  peekBatch : PeekInput → Stateful State Error Peek
  ack : Cursor → AckInput → Stateful State Error Unit
  name : State → String

end Ferrometer.Log
