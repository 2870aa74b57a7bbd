import Ferrometer.Log.Source
import Mathlib.Data.List.Lex
import Mathlib.Data.Prod.Lex

/-!
Contract: the push request that the Loki sink makes of log entries.

Owns: the messages of `push.proto` that are sent, label sets as text, and the
entries grouped into streams.

Does not own: the wire format or the compression, which are parameters.
-/

set_option autoImplicit false

namespace Ferrometer.Log.Loki

open Ferrometer.Foundation

/-! ## Messages -/

structure Timestamp where
  seconds : Int64
  nanos : Int32
deriving DecidableEq

structure LabelPairAdapter where
  name : String
  value : String
deriving DecidableEq

structure EntryAdapter where
  timestamp : Option Timestamp
  line : String
  structuredMetadata : List LabelPairAdapter
deriving DecidableEq

structure StreamAdapter where
  /-- A label set in the format of Prometheus. -/
  labels : String
  entries : List EntryAdapter
  hash : UInt64
deriving DecidableEq

structure PushRequest where
  streams : List StreamAdapter
deriving DecidableEq

/-! ## Label sets -/

def escapeValue (value : String) : String :=
  String.join (value.toList.map fun symbol =>
    match symbol with
    | '\\' => "\\\\"
    | '"' => "\\\""
    | '\n' => "\\n"
    | _ => symbol.toString)

/-- The label set between braces, its values escaped. -/
def formatLabelString (labels : Labels) : String :=
  let pairs := labels.entries.map fun label => label.1 ++ "=\"" ++ escapeValue label.2 ++ "\""
  "\x7b" ++ ",".intercalate pairs ++ "\x7d"

/-! ## Building -/

/-- A label set as the key of a `BTreeMap`, compared pair by pair. -/
structure StreamKey where
  labels : Labels

instance : LinearOrder StreamKey :=
  LinearOrder.lift' (fun key => key.labels.entries.map toLex) fun first second same => by
    rcases first with ⟨⟨first, firstSorted⟩⟩
    rcases second with ⟨⟨second, secondSorted⟩⟩
    have equal : first = second := List.map_injective_iff.mpr toLex.injective same
    subst equal
    rfl

/-- A time before the epoch becomes the epoch. -/
def timestampOf (time : SystemTime) : Timestamp :=
  let nanos := time.toNat
  { seconds := .ofNat (nanos / 1000000000), nanos := .ofNat (nanos % 1000000000) }

def entryAdapter (entry : LogEntry) : EntryAdapter where
  timestamp := some (timestampOf entry.timestamp)
  line := entry.message
  structuredMetadata := entry.metadata.entries.map fun (name, value) => { name, value }

/-- `by_stream`: the entries under their label sets. -/
def groupByStream (entries : List LogEntry) : SortedMap StreamKey (List EntryAdapter) :=
  entries.foldl
    (fun byStream entry =>
      byStream.upsert ⟨entry.labels⟩ fun stream => stream.getD [] ++ [entryAdapter entry])
    .empty

def pushRequest (entries : List LogEntry) : PushRequest where
  streams := (groupByStream entries).entries.map fun (key, entries) =>
    { labels := formatLabelString key.labels, entries, hash := 0 }

/-- What encodes a request and what compresses it. -/
structure Codec where
  encodeToVec : PushRequest → List UInt8
  /-- `snap::raw::Encoder::compress_vec`. -/
  compressVec : List UInt8 → Except String (List UInt8)

def buildBody (codec : Codec) (entries : List LogEntry) : Except Error (List UInt8) :=
  (codec.compressVec (codec.encodeToVec (pushRequest entries))).mapError fun message =>
    .sink ("snappy compress: " ++ message)

end Ferrometer.Log.Loki
