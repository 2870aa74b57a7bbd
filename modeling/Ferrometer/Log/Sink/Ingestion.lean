import Ferrometer.Log.Delivery
import Ferrometer.Log.Sink.Loki
import Ferrometer.Log.Sink.Wire

/-!
Contract: a shipper from the journal to the Loki endpoint, request by request.

Owns: the run of a shipper whose answers are those of `LokiSink::send`, the bodies that
the endpoint has accepted, and what can be read back from them, stream by stream.

Does not own: a request that the endpoint has taken without saying so. Its entries are
sent again, and a server that wants them once has to see that they are the same.
-/

set_option autoImplicit false

namespace Ferrometer.Log.Loki

open Ferrometer.Config Ferrometer.Foundation
open Ferrometer.Foundation.ProtoWire

/-! ## Requests -/

/-- The Snappy encoder. What it writes is read back as what it was given. -/
structure Snappy where
  compressVec : List UInt8 → Except String (List UInt8)
  decompressVec : List UInt8 → Option (List UInt8)
  roundTrip : ∀ {bytes compressed}, compressVec bytes = .ok compressed →
    decompressVec compressed = some bytes

namespace Snappy

def codec (snappy : Snappy) : Codec where
  encodeToVec := encode
  compressVec := snappy.compressVec

/-- The request that an endpoint reads in a body. -/
def read (snappy : Snappy) (body : List UInt8) : Option PushRequest :=
  (snappy.decompressVec body).bind decode

theorem read_of_buildBody (snappy : Snappy) {entries : List LogEntry} {body : List UInt8}
    (built : buildBody snappy.codec entries = .ok body) :
    snappy.read body = some (pushRequest entries) := by
  unfold buildBody at built
  cases compressed : snappy.codec.compressVec (snappy.codec.encodeToVec (pushRequest entries)) with
  | error message =>
      rw [compressed] at built
      exact absurd built nofun
  | ok bytes =>
      rw [compressed] at built
      obtain rfl := Except.ok.inj built
      rw [read, snappy.roundTrip compressed]
      exact decode_encode_pushRequest entries

end Snappy

/-- A request, the entries that it was built of, and what became of it. -/
structure Exchanged where
  entries : List LogEntry
  post : Post
  outcome : Except String (StatusCode × Except String String)

def Exchanged.accepted (exchanged : Exchanged) : Bool :=
  match exchanged.outcome with
  | .ok (status, _) => status.isSuccess
  | .error _ => false

/-- The endpoint has refused these entries for good: there is one of them and it is too
large, or the request is invalid. Several that are too large are split. -/
def Exchanged.Refuses (exchanged : Exchanged) : Prop :=
  ∃ status text, exchanged.outcome = .ok (status, text) ∧ status.isSuccess = false ∧
    if isPayloadTooLarge status (summarizeBody (text.toOption.getD "")) = true then
      exchanged.entries.length = 1
    else status.code = 400

/-- The request of a call of `send`, if it makes one. -/
def LokiSink.exchanges (codec : Codec)
    (exchange : Post → Except String (StatusCode × Except String String)) (sink : LokiSink)
    (entries : List LogEntry) : List Exchanged :=
  if entries.isEmpty then []
  else
    match buildBody codec entries with
    | .error _ => []
    | .ok body => [⟨entries, sink.request body, exchange (sink.request body)⟩]

/-- The lines of a stream, by the text of its labels. -/
def linesOf (text : String) (request : PushRequest) : List EntryAdapter :=
  (request.streams.filter fun stream => stream.labels = text).flatMap StreamAdapter.entries

/-- Two label maps with label names have different texts. -/
theorem formatLabelString_injective {first second : Labels}
    (firstNamed : ∀ name ∈ first.keys, isLabelName name)
    (secondNamed : ∀ name ∈ second.keys, isLabelName name)
    (same : formatLabelString first = formatLabelString second) : first = second := by
  have readFirst := (parseLabelString_format first).mpr firstNamed
  have readSecond := (parseLabelString_format second).mpr secondNamed
  rw [same, readSecond] at readFirst
  rcases first with ⟨first, firstSorted⟩
  rcases second with ⟨second, secondSorted⟩
  obtain rfl : second = first := Option.some.inj readFirst
  rfl

private theorem flatMap_filter_eq {Key Item : Type} [DecidableEq Key] {keys : List Key}
    (distinct : keys.Nodup) (key : Key) (items : Key → List Item)
    (absent : key ∉ keys → items key = []) :
    (keys.filter fun other => other = key).flatMap items = items key := by
  have selected : keys.filter (fun other => other = key) = List.replicate (keys.count key) key := by
    rw [← List.filter_beq]
    apply List.filter_congr
    intro other _
    rw [beq_eq_decide]
  rw [selected]
  by_cases present : key ∈ keys
  · rw [List.count_eq_one_of_mem distinct present]
    simp
  · rw [List.count_eq_zero_of_not_mem present, absent present]
    rfl

/-- In a request, the lines under a label map are the entries that have it, in their
order. -/
theorem linesOf_pushRequest {entries : List LogEntry} {labels : Labels}
    (named : ∀ entry ∈ entries, ∀ name ∈ entry.labels.keys, isLabelName name)
    (labelsNamed : ∀ name ∈ labels.keys, isLabelName name) :
    linesOf (formatLabelString labels) (pushRequest entries) =
      (entries.filter fun entry => entry.labels = labels).map entryAdapter := by
  have distinct : ((groupByStream entries).keys.map StreamKey.labels).Nodup := by
    have keys : (groupByStream entries).keys.Nodup := (groupByStream entries).sorted.imp ne_of_lt
    apply keys.map
    rintro ⟨first⟩ ⟨second⟩ same
    exact congrArg StreamKey.mk same
  have occurs : ∀ other, other ∈ (groupByStream entries).keys.map StreamKey.labels ↔
      ∃ entry ∈ entries, entry.labels = other := by
    intro other
    rw [List.mem_map]
    constructor
    · rintro ⟨⟨key⟩, member, rfl⟩
      rw [groupByStream_eq, Grouping.mem_keys_groupInto] at member
      rcases member with ⟨entry, isEntry, equal⟩
      exact ⟨entry, isEntry, congrArg StreamKey.labels equal⟩
    · rintro ⟨entry, isEntry, rfl⟩
      refine ⟨⟨entry.labels⟩, ?_, rfl⟩
      rw [groupByStream_eq, Grouping.mem_keys_groupInto]
      exact ⟨entry, isEntry, rfl⟩
  have sameText : ∀ other ∈ (groupByStream entries).keys.map StreamKey.labels,
      decide (formatLabelString other = formatLabelString labels) = decide (other = labels) := by
    intro other member
    rcases (occurs other).mp member with ⟨entry, isEntry, rfl⟩
    apply decide_eq_decide.mpr
    refine ⟨formatLabelString_injective (named entry isEntry) labelsNamed, ?_⟩
    exact congrArg formatLabelString
  rw [linesOf, streams_eq, List.filter_map, List.flatMap_map]
  simp only [Function.comp_def]
  rw [List.filter_congr sameText]
  apply flatMap_filter_eq distinct labels fun other =>
    (entries.filter fun entry => entry.labels = other).map entryAdapter
  intro absent
  rw [List.map_eq_nil_iff, List.filter_eq_nil_iff]
  intro entry isEntry isLabels
  exact absent ((occurs labels).mpr ⟨entry, isEntry, of_decide_eq_true isLabels⟩)

/-! ## The run -/

variable {kind : Source}

/-- What the outside decides during one iteration, with the endpoint's answer in place of
the sink's. -/
structure PushInput (kind : Source) where
  resumed : Instant := 0
  peek : kind.PeekInput
  exchange : Post → Except String (StatusCode × Except String String)
  answered : Instant := 0
  ack : kind.AckInput

inductive PushEvent (kind : Source) where
  | iteration (input : PushInput kind)
  | shutdown

/-- The entries that an iteration sends. -/
def nextSlice (shipper : Shipper kind) (peek : kind.PeekInput) : List LogEntry :=
  match kind.peekBatch peek shipper.source with
  | (_, .ok (.batch batch)) =>
      let pending := batch.entries.drop (min shipper.progress.sent batch.entries.length)
      pending.take (min pending.length shipper.progress.chunk)
  | _ => []

structure Pushing (kind : Source) where
  shipper : Shipper kind
  /-- History: the requests made. -/
  exchanged : List Exchanged

namespace Pushing

section Machine

variable (snappy : Snappy) (sink : LokiSink)

def iteration (shipper : Shipper kind) (input : PushInput kind) : Iteration kind where
  resumed := input.resumed
  peek := input.peek
  answer := sink.send snappy.codec input.exchange (nextSlice shipper input.peek)
  answered := input.answered
  ack := input.ack

def step (pushing : Pushing kind) : PushEvent kind → Option (Pushing kind)
  | .iteration input => do
      let shipper ← pushing.shipper.step
        (.iteration (iteration snappy sink pushing.shipper input))
      some {
        shipper
        exchanged := pushing.exchanged ++
          sink.exchanges snappy.codec input.exchange (nextSlice pushing.shipper input.peek) }
  | .shutdown => do
      let shipper ← pushing.shipper.step .shutdown
      some { pushing with shipper }

def machine (kind : Source) : Machine (Pushing kind) (PushEvent kind) where
  step := step snappy sink

end Machine

/-! ## What an iteration adds -/

/-- The slice of a request that the endpoint has accepted. -/
def accepted? : Action → Option (List LogEntry)
  | .sent slice (.ok ()) => if slice.isEmpty then none else some slice
  | _ => none

/-- Actions that are acks. -/
def OnlyAcks (actions : List Action) : Prop :=
  ∀ action ∈ actions, ∃ cursor saved, action = .acked cursor saved

private theorem finishIfSent_actions (shipper : Shipper kind) (batch : Batch)
    (input : kind.AckInput) :
    ∃ acks, OnlyAcks acks ∧ (shipper.finishIfSent batch input).actions = shipper.actions ++ acks := by
  unfold Shipper.finishIfSent
  split
  · unfold Shipper.finishBatch
    rcases kind.ack batch.endCursor input shipper.source with ⟨source, failure | ⟨⟩⟩
    · exact ⟨[_], by simp [OnlyAcks], rfl⟩
    · exact ⟨[_], by simp [OnlyAcks], rfl⟩
  · exact ⟨[], nofun, by simp⟩

/-- An iteration sends its slice, or has none, and acks at most. -/
private theorem ship_actions (shipper : Shipper kind) (batch : Batch) (input : Iteration kind) :
    let pending := batch.entries.drop (min shipper.progress.sent batch.entries.length)
    let slice := pending.take (min pending.length shipper.progress.chunk)
    ∃ requests acks, (requests = [.sent slice input.answer] ∨ requests = [] ∧ slice = []) ∧
      OnlyAcks acks ∧
      (shipper.ship batch input).actions = shipper.actions ++ (requests ++ acks) := by
  intro pending slice
  unfold Shipper.ship
  by_cases nothing : pending.isEmpty
  · rw [if_pos nothing]
    have noSlice : slice = [] := by
      have isEmpty : pending = [] := List.isEmpty_iff.mp nothing
      rw [show slice = pending.take _ from rfl, isEmpty, List.take_nil]
    unfold Shipper.finishBatch
    rcases kind.ack batch.endCursor input.ack shipper.source with ⟨source, failure | ⟨⟩⟩
    · exact ⟨[], [_], Or.inr ⟨rfl, noSlice⟩, by simp [OnlyAcks], rfl⟩
    · exact ⟨[], [_], Or.inr ⟨rfl, noSlice⟩, by simp [OnlyAcks], rfl⟩
  · rw [if_neg nothing]
    rcases Shipper.handleAnswer_eq (shipper.requested slice input.answer) batch slice input with
      ⟨next, outcome, -, sameActions, -, -, -⟩
    have sent : next.actions = shipper.actions ++ [.sent slice input.answer] := sameActions
    rcases outcome with finishes | ⟨-, waits⟩
    · rcases finishIfSent_actions next batch input.ack with ⟨acks, onlyAcks, added⟩
      refine ⟨_, acks, Or.inl rfl, onlyAcks, ?_⟩
      rw [finishes, added, sent, List.append_assoc]
    · refine ⟨_, [], Or.inl rfl, nofun, ?_⟩
      rw [waits, sent, List.append_nil]

private theorem step_actions {shipper next : Shipper kind} {input : Iteration kind}
    (stepped : shipper.step (.iteration input) = some next) :
    ∃ requests acks, (requests = [.sent (nextSlice shipper input.peek) input.answer] ∨
        requests = [] ∧ nextSlice shipper input.peek = []) ∧ OnlyAcks acks ∧
      next.actions = shipper.actions ++ (requests ++ acks) := by
  rcases Shipper.step_cases stepped with
    ⟨-, ⟨other, -⟩ | ⟨same, source, outcome, equal, -, peeked, result⟩⟩
  · cases other
  · cases equal
    have nothing : (∀ batch, outcome ≠ .ok (.batch batch)) →
        nextSlice shipper input.peek = [] := by
      intro noBatch
      unfold nextSlice
      rw [peeked]
      split
      · rename_i batch equal
        exact absurd (congrArg Prod.snd equal) (noBatch batch)
      · rfl
    have idle : next.actions = shipper.actions → (∀ batch, outcome ≠ .ok (.batch batch)) →
        ∃ requests acks, (requests = [.sent (nextSlice shipper input.peek) input.answer] ∨
          requests = [] ∧ nextSlice shipper input.peek = []) ∧ OnlyAcks acks ∧
          next.actions = shipper.actions ++ (requests ++ acks) := by
      intro sameActions noBatch
      exact ⟨[], [], Or.inr ⟨rfl, nothing noBatch⟩, nofun, by simp [sameActions]⟩
    cases outcome with
    | error failure => exact idle (result ▸ rfl) nofun
    | ok peek =>
        cases peek with
        | waiting => exact result.elim
        | exhausted => exact idle (result ▸ rfl) nofun
        | batch batch =>
            have slice : nextSlice shipper input.peek =
                (batch.entries.drop (min shipper.progress.sent batch.entries.length)).take
                  (min (batch.entries.drop (min shipper.progress.sent
                    batch.entries.length)).length shipper.progress.chunk) := by
              unfold nextSlice
              rw [peeked]
            rw [slice, result]
            exact ship_actions { shipper with source, clock := input.answered } batch input

/-! ## The invariant -/

/-- Every body is that of its entries. The accepted requests are those of the slices that the
shipper counts as delivered, and what else it counts as settled has been refused. -/
structure Recorded (snappy : Snappy) (pushing : Pushing kind) : Prop where
  built : ∀ exchanged ∈ pushing.exchanged,
    buildBody snappy.codec exchanged.entries = .ok exchanged.post.body
  accepted : (pushing.exchanged.filter Exchanged.accepted).map Exchanged.entries =
    pushing.shipper.actions.filterMap accepted?
  refused : ∀ slice answer, .sent slice answer ∈ pushing.shipper.actions →
    settledBy slice answer ≠ [] → answer = .ok () ∨
      ∃ exchanged ∈ pushing.exchanged, exchanged.entries = slice ∧ exchanged.Refuses

section Send

variable (snappy : Snappy) (sink : LokiSink)
  (exchange : Post → Except String (StatusCode × Except String String)) (slice : List LogEntry)

private theorem send_of_isEmpty (isEmpty : slice.isEmpty = true) :
    sink.send snappy.codec exchange slice = .ok () ∧
      sink.exchanges snappy.codec exchange slice = [] := by
  simp [LokiSink.send, LokiSink.exchanges, isEmpty]

/-- Without a request, the failure is one that the shipper tries again. -/
private theorem send_of_unbuilt (nonempty : slice.isEmpty = false) {failure : Error}
    (unbuilt : buildBody snappy.codec slice = .error failure) :
    (∃ message, sink.send snappy.codec exchange slice = .error (.sink message)) ∧
      sink.exchanges snappy.codec exchange slice = [] := by
  have isSink : ∃ message, failure = .sink message := by
    unfold buildBody at unbuilt
    cases compressed : snappy.codec.compressVec (snappy.codec.encodeToVec (pushRequest slice)) with
    | error message =>
        rw [compressed] at unbuilt
        exact ⟨_, (Except.error.inj unbuilt).symm⟩
    | ok bytes =>
        rw [compressed] at unbuilt
        exact absurd unbuilt nofun
  rcases isSink with ⟨message, rfl⟩
  constructor
  · refine ⟨message, ?_⟩
    unfold LokiSink.send
    rw [nonempty, unbuilt]
    rfl
  · simp [LokiSink.exchanges, nonempty, unbuilt]

private theorem send_of_built (nonempty : slice.isEmpty = false) {body : List UInt8}
    (built : buildBody snappy.codec slice = .ok body) :
    sink.exchanges snappy.codec exchange slice =
        [⟨slice, sink.request body, exchange (sink.request body)⟩] ∧
      sink.send snappy.codec exchange slice =
        ((exchange (sink.request body)).mapError fun message => .sink message).bind
          fun answer => verdict answer.1 answer.2 := by
  constructor
  · simp [LokiSink.exchanges, nonempty, built]
  · unfold LokiSink.send
    rw [nonempty, built]
    rfl

/-- What one call of `send` adds to the requests and to what is settled. -/
private theorem send_recorded :
    (∀ exchanged ∈ sink.exchanges snappy.codec exchange slice,
      buildBody snappy.codec exchanged.entries = .ok exchanged.post.body) ∧
    ((sink.exchanges snappy.codec exchange slice).filter Exchanged.accepted).map
        Exchanged.entries =
      (accepted? (.sent slice (sink.send snappy.codec exchange slice))).toList ∧
    (settledBy slice (sink.send snappy.codec exchange slice) ≠ [] →
      sink.send snappy.codec exchange slice = .ok () ∨
        ∃ exchanged ∈ sink.exchanges snappy.codec exchange slice,
          exchanged.entries = slice ∧ exchanged.Refuses) := by
  cases isEmpty : slice.isEmpty with
  | true =>
      rcases send_of_isEmpty snappy sink exchange slice isEmpty with ⟨answered, none⟩
      rw [answered, none, accepted?, if_pos isEmpty]
      exact ⟨nofun, rfl, fun _ => Or.inl rfl⟩
  | false =>
      cases built : buildBody snappy.codec slice with
      | error failure =>
          rcases send_of_unbuilt snappy sink exchange slice isEmpty built with
            ⟨⟨message, answered⟩, none⟩
          rw [answered, none]
          exact ⟨nofun, rfl, fun settles => absurd rfl settles⟩
      | ok body =>
          rcases send_of_built snappy sink exchange slice isEmpty built with ⟨one, answered⟩
          rw [one]
          refine ⟨fun exchanged member => List.mem_singleton.mp member ▸ built, ?_⟩
          rcases outcome : exchange (sink.request body) with message | ⟨status, text⟩
          · have unsent : sink.send snappy.codec exchange slice = .error (.sink message) := by
              rw [answered, outcome]
              rfl
            rw [unsent]
            exact ⟨rfl, fun settles => absurd rfl settles⟩
          · have answered : sink.send snappy.codec exchange slice = verdict status text := by
              rw [answered, outcome]
              rfl
            by_cases success : status.isSuccess = true
            · have delivered : verdict status text = .ok () := if_pos success
              rw [answered, delivered, accepted?, isEmpty]
              refine ⟨?_, fun _ => Or.inl rfl⟩
              simp [Exchanged.accepted, success]
            · have failed : status.isSuccess = false := Bool.eq_false_of_not_eq_true success
              have unaccepted : List.filter Exchanged.accepted
                  [⟨slice, sink.request body, .ok (status, text)⟩] = [] := by
                simp [Exchanged.accepted, failed]
              rw [answered, unaccepted]
              unfold verdict
              rw [if_neg success]
              simp only
              by_cases tooLarge : isPayloadTooLarge status
                  (summarizeBody (text.toOption.getD "")) = true
              · rw [if_pos tooLarge]
                refine ⟨rfl, fun settles => Or.inr ?_⟩
                have single : slice.length = 1 := by
                  by_contra several
                  exact settles (if_neg several)
                exact ⟨_, List.mem_singleton_self _, rfl, status, text, rfl, failed,
                  (if_pos tooLarge).symm ▸ single⟩
              · rw [if_neg tooLarge]
                by_cases invalid : status.code = 400
                · rw [if_pos invalid]
                  exact ⟨rfl, fun _ => Or.inr ⟨_, List.mem_singleton_self _, rfl,
                    status, text, rfl, failed, (if_neg tooLarge).symm ▸ invalid⟩⟩
                · rw [if_neg invalid]
                  exact ⟨rfl, fun settles => absurd rfl settles⟩

end Send

private theorem filterMap_accepted (action : Action) :
    [action].filterMap accepted? = (accepted? action).toList := by
  cases taken : accepted? action <;> simp [taken]

private theorem filterMap_onlyAcks {acks : List Action} (onlyAcks : OnlyAcks acks) :
    acks.filterMap accepted? = [] := by
  apply List.filterMap_eq_nil_iff.mpr
  intro action member
  rcases onlyAcks action member with ⟨cursor, saved, rfl⟩
  rfl

/-- Actions that send nothing record nothing. -/
private theorem Recorded.idle {snappy : Snappy} {pushing : Pushing kind} {shipper : Shipper kind}
    (recorded : pushing.Recorded snappy) {acks : List Action} (onlyAcks : OnlyAcks acks)
    (actions : shipper.actions = pushing.shipper.actions ++ acks) :
    ({ pushing with shipper } : Pushing kind).Recorded snappy where
  built := recorded.built
  accepted := by
    rw [actions, List.filterMap_append, filterMap_onlyAcks onlyAcks, List.append_nil]
    exact recorded.accepted
  refused slice answer member settles := by
    rw [actions, List.mem_append] at member
    rcases member with before | isAck
    · exact recorded.refused slice answer before settles
    · rcases onlyAcks _ isAck with ⟨cursor, saved, equal⟩
      cases equal

theorem step_recorded {snappy : Snappy} {sink : LokiSink} {pushing next : Pushing kind}
    {event : PushEvent kind} (recorded : pushing.Recorded snappy)
    (stepped : pushing.step snappy sink event = some next) : next.Recorded snappy := by
  cases event with
  | shutdown =>
      rcases Option.bind_eq_some_iff.mp stepped with ⟨shipper, moved, equal⟩
      cases equal
      have same : shipper.actions = pushing.shipper.actions ++ [] := by
        rcases Shipper.step_cases moved with ⟨-, ⟨-, rfl⟩ | ⟨input, source, outcome, other, -⟩⟩
        · exact (List.append_nil _).symm
        · cases other
      exact recorded.idle (by simp [OnlyAcks]) same
  | iteration input =>
      rcases Option.bind_eq_some_iff.mp stepped with ⟨shipper, moved, equal⟩
      cases equal
      rcases step_actions moved with ⟨requests, acks, requested, onlyAcks, actions⟩
      have slice : nextSlice pushing.shipper (iteration snappy sink pushing.shipper input).peek =
          nextSlice pushing.shipper input.peek := rfl
      rw [slice] at requested
      rcases requested with rfl | ⟨rfl, nothing⟩
      · rcases send_recorded snappy sink input.exchange (nextSlice pushing.shipper input.peek) with
          ⟨built, accepted, refused⟩
        exact {
          built := by
            intro exchanged member
            exact (List.mem_append.mp member).elim (recorded.built exchanged) (built exchanged)
          accepted := by
            rw [actions, List.filterMap_append, List.filterMap_append,
              filterMap_onlyAcks onlyAcks, List.append_nil, List.filter_append, List.map_append,
              recorded.accepted, accepted, ← filterMap_accepted]
            rfl
          refused := by
            intro slice answer member settles
            rw [actions, List.mem_append, List.mem_append] at member
            rcases member with before | isSent | isAck
            · rcases recorded.refused slice answer before settles with ok | ⟨exchanged, old, rest⟩
              · exact Or.inl ok
              · exact Or.inr ⟨exchanged, List.mem_append_left _ old, rest⟩
            · obtain ⟨rfl, rfl⟩ := Action.sent.inj (List.mem_singleton.mp isSent)
              rcases refused settles with ok | ⟨exchanged, new, rest⟩
              · exact Or.inl ok
              · exact Or.inr ⟨exchanged, List.mem_append_right _ new, rest⟩
            · rcases onlyAcks _ isAck with ⟨cursor, saved, equal⟩
              cases equal }
      · have none := (send_of_isEmpty snappy sink input.exchange
          (nextSlice pushing.shipper input.peek) (by rw [nothing]; rfl)).2
        rw [none, List.append_nil]
        exact recorded.idle onlyAcks actions

/-! ## What has been ingested -/

/-- The slices that were accepted are a part of what is settled, in order. -/
theorem accepted_sublist (actions : List Action) :
    (actions.filterMap accepted?).flatten.Sublist (settled actions) := by
  induction actions with
  | nil => exact List.Sublist.refl _
  | cons action rest inductionHypothesis =>
      have own : (accepted? action).toList.flatten.Sublist action.settled := by
        unfold accepted?
        split
        · split
          · exact List.nil_sublist _
          · simp [Action.settled, settledBy]
        · exact List.nil_sublist _
      rw [settled, List.flatMap_cons, ← settled, List.filterMap_cons]
      cases taken : accepted? action with
      | none => exact inductionHypothesis.trans (List.sublist_append_right _ _)
      | some slice =>
          rw [taken] at own
          rw [List.flatten_cons]
          exact (by simpa using own : slice.Sublist action.settled).append inductionHypothesis

/-- They are all of it where nothing was settled in another way. -/
theorem accepted_eq_settled {actions : List Action}
    (onlyAccepted : ∀ slice answer, .sent slice answer ∈ actions →
      settledBy slice answer ≠ [] → answer = .ok ()) :
    (actions.filterMap accepted?).flatten = settled actions := by
  induction actions with
  | nil => rfl
  | cons action rest inductionHypothesis =>
      have others := inductionHypothesis fun slice answer member =>
        onlyAccepted slice answer (List.mem_cons_of_mem _ member)
      rw [settled, List.flatMap_cons, ← settled, ← others, List.filterMap_cons]
      cases action with
      | acked cursor saved => rfl
      | sent slice answer =>
          by_cases nothing : settledBy slice answer = []
          · have none : accepted? (.sent slice answer) = none := by
              unfold accepted?
              split
              · rename_i equal
                obtain ⟨rfl, rfl⟩ := Action.sent.inj equal
                exact if_pos (List.isEmpty_iff.mpr nothing)
              · rfl
            rw [none, Action.settled, nothing]
            rfl
          · obtain rfl := onlyAccepted slice answer List.mem_cons_self nothing
            have filled : slice.isEmpty = false := by simpa [settledBy] using nothing
            simp [accepted?, filled, Action.settled, settledBy]

end Pushing

open JournaldSource in
/-- What the bodies that were accepted say, against the journal from the start on. -/
structure Ingests {api : JournalApi} (contract : JournalContract api) (origin : JournaldSource api)
    (snappy : Snappy) (pushing : Pushing (asSource api)) (entries : List JournalEntry)
    (requests : List PushRequest) : Prop where
  /-- The shipper has settled the next entries of the journal, without a gap. -/
  fromStart : entries <+: upcoming (contract.location (positionToStart origin).1.journal)
    (contract.entries pushing.shipper.source.1.journal)
  settled : settled pushing.shipper.actions = entries.map origin.toEntry
  /-- Every body can be read, as the request of its entries. -/
  read : ∀ exchanged ∈ pushing.exchanged,
    snappy.read exchanged.post.body = some (pushRequest exchanged.entries)
  /-- These have been accepted. -/
  accepted : requests = (pushing.exchanged.filter Exchanged.accepted).map
    fun exchanged => pushRequest exchanged.entries
  /-- The lines of a stream are entries with its labels, each once and in journal order. -/
  inOrder : (∀ entry ∈ entries, ∀ name ∈ (origin.toEntry entry).labels.keys, isLabelName name) →
    ∀ labels : Labels, (∀ name ∈ labels.keys, isLabelName name) →
    (requests.flatMap (linesOf (formatLabelString labels))).Sublist
      (((entries.map origin.toEntry).filter fun entry => entry.labels = labels).map entryAdapter)
  /-- They are all of them where the endpoint has refused no request for good. Those that were
  split are not refused. -/
  complete : (∀ entry ∈ entries, ∀ name ∈ (origin.toEntry entry).labels.keys, isLabelName name) →
    (∀ exchanged ∈ pushing.exchanged, ¬ exchanged.Refuses) →
    ∀ labels : Labels, (∀ name ∈ labels.keys, isLabelName name) →
    requests.flatMap (linesOf (formatLabelString labels)) =
      ((entries.map origin.toEntry).filter fun entry => entry.labels = labels).map entryAdapter
  /-- What was settled without being accepted was refused. -/
  refused : ∀ slice answer, .sent slice answer ∈ pushing.shipper.actions →
    settledBy slice answer ≠ [] → answer ≠ .ok () →
    ∃ exchanged ∈ pushing.exchanged, exchanged.entries = slice ∧ exchanged.Refuses

private theorem lines_of_slices {slices : List (List LogEntry)} {labels : Labels}
    (named : ∀ entry ∈ slices.flatten, ∀ name ∈ entry.labels.keys, isLabelName name)
    (labelsNamed : ∀ name ∈ labels.keys, isLabelName name) :
    (slices.map pushRequest).flatMap (linesOf (formatLabelString labels)) =
      (slices.flatten.filter fun entry => entry.labels = labels).map entryAdapter := by
  induction slices with
  | nil => rfl
  | cons slice rest inductionHypothesis =>
      rw [List.flatten_cons] at named
      have own := linesOf_pushRequest (fun entry member => named entry
        (List.mem_append_left _ member)) labelsNamed
      have others := inductionHypothesis fun entry member => named entry
        (List.mem_append_right _ member)
      rw [List.map_cons, List.flatMap_cons, own, others, List.flatten_cons, List.filter_append,
        List.map_append]

open JournaldSource in
theorem pushing_run_ingests {api : JournalApi} (contract : JournalContract api)
    {origin : JournaldSource api} (fresh : origin.Fresh) (snappy : Snappy) (sink : LokiSink)
    {tree : FileTree} {backoffInitial backoffMax : Duration}
    {events : List (PushEvent (asSource api))} {pushing : Pushing (asSource api)}
    (ran : (Pushing.machine snappy sink (asSource api)).run
      ⟨Shipper.new origin tree backoffInitial backoffMax, []⟩ events = some pushing) :
    ∃ entries requests, Ingests contract origin snappy pushing entries requests := by
  have kept : ∀ {pushing next : Pushing (asSource api)} {event : PushEvent (asSource api)},
      (Ships contract origin pushing.shipper ∧ pushing.Recorded snappy) →
      pushing.step snappy sink event = some next →
      Ships contract origin next.shipper ∧ next.Recorded snappy := by
    intro pushing next event held stepped
    refine ⟨?_, Pushing.step_recorded held.2 stepped⟩
    cases event with
    | iteration input =>
        rcases Option.bind_eq_some_iff.mp stepped with ⟨shipper, moved, equal⟩
        cases equal
        exact held.1.step moved
    | shutdown =>
        rcases Option.bind_eq_some_iff.mp stepped with ⟨shipper, moved, equal⟩
        cases equal
        exact held.1.step moved
  have start : Ships contract origin (Shipper.new origin tree backoffInitial backoffMax) ∧
      Pushing.Recorded snappy
        (⟨Shipper.new origin tree backoffInitial backoffMax, []⟩ : Pushing (asSource api)) :=
    ⟨Ships.start contract fresh.inFlight fresh.pending tree backoffInitial backoffMax,
      nofun, rfl, fun _ _ isSent => absurd isSent (by simp [Shipper.new])⟩
  rcases (Pushing.machine snappy sink (asSource api)).run_invariant kept start ran with
    ⟨ships, recorded⟩
  have isReady : origin.ready = (positionToStart origin).1 := if_neg (by simp [fresh.positioned])
  rcases ships.delivered with ⟨entries, delivered⟩
  rw [isReady] at delivered
  have part := Pushing.accepted_sublist pushing.shipper.actions
  rw [delivered.settled] at part
  have namedSlices : (∀ entry ∈ entries, ∀ name ∈ (origin.toEntry entry).labels.keys,
      isLabelName name) →
      ∀ entry ∈ (pushing.shipper.actions.filterMap Pushing.accepted?).flatten,
        ∀ name ∈ entry.labels.keys, isLabelName name := by
    intro named entry member
    rcases List.mem_map.mp (part.subset member) with ⟨journalEntry, present, rfl⟩
    exact named journalEntry present
  refine ⟨entries, (pushing.shipper.actions.filterMap Pushing.accepted?).map pushRequest, {
    fromStart := delivered.fromStart
    settled := delivered.settled
    read := fun exchanged member => snappy.read_of_buildBody (recorded.built exchanged member)
    accepted := by rw [← recorded.accepted, List.map_map]; rfl
    inOrder := ?_
    complete := ?_
    refused := ?_ }⟩
  · intro named labels labelsNamed
    rw [lines_of_slices (namedSlices named) labelsNamed]
    exact (part.filter _).map _
  · intro named refusesNothing labels labelsNamed
    have all := Pushing.accepted_eq_settled fun slice answer isSent settles => by
      rcases recorded.refused slice answer isSent settles with ok | ⟨exchanged, member, -, refuses⟩
      · exact ok
      · exact absurd refuses (refusesNothing exchanged member)
    rw [lines_of_slices (namedSlices named) labelsNamed, all, delivered.settled]
  · intro slice answer isSent settles notOk
    exact (recorded.refused slice answer isSent settles).resolve_left notOk

/-- How 13 bytes are compressed: they are too few to hold a copy, and become one literal. -/
def literalSnappy : Snappy where
  compressVec bytes := .ok ([0x0d, 0x30] ++ bytes)
  decompressVec compressed := some (compressed.drop 2)
  roundTrip := by
    intro bytes compressed isCompressed
    obtain rfl := Except.ok.inj isCompressed
    rfl

/-- One entry, with the answer of the endpoint. -/
def pushOne (time : Instant) (status : StatusCode) :
    PushEvent (JournaldSource.asSource MemoryJournal.api) :=
  .iteration {
    resumed := time
    peek := (false, Caller.timer)
    exchange := fun _ => .ok (status, .ok "")
    answered := time
    ack := none }

/-- The first request is not taken at once, and the second one is invalid. -/
def pushedOneByOne : List (PushEvent (JournaldSource.asSource MemoryJournal.api)) :=
  [pushOne 1 ⟨503, "503 Service Unavailable"⟩, pushOne 9 ⟨204, "204 No Content"⟩,
    pushOne 10 ⟨400, "400 Bad Request"⟩]

def oneByOneSource : JournaldSource MemoryJournal.api :=
  { Caller.sampleSource (.sample 1 [0, 0, 4]) with batchSize := 1 }

theorem pushing_run_ingests_oneByOne :
    ∃ pushing, (Pushing.machine literalSnappy sampleSink
        (JournaldSource.asSource MemoryJournal.api)).run
        ⟨Shipper.new oneByOneSource FileTree.empty 5 60, []⟩ pushedOneByOne = some pushing ∧
      (pushing.exchanged.map Exchanged.accepted) = [false, true, false] ∧
      ∃ entries requests,
        Ingests MemoryJournal.contract oneByOneSource literalSnappy pushing entries requests := by
  have ends : ((Pushing.machine literalSnappy sampleSink
        (JournaldSource.asSource MemoryJournal.api)).run
        ⟨Shipper.new oneByOneSource FileTree.empty 5 60, []⟩ pushedOneByOne).map
      (fun pushing => pushing.exchanged.map Exchanged.accepted) = some [false, true, false] := by
    decide +kernel
  rcases Option.map_eq_some_iff.mp ends with ⟨pushing, ran, answers⟩
  exact ⟨pushing, ran, answers,
    pushing_run_ingests MemoryJournal.contract ⟨rfl, rfl, rfl⟩ literalSnappy sampleSink ran⟩

end Ferrometer.Log.Loki
