import Ferrometer.Foundation.Fallible
import Ferrometer.Http
import Ferrometer.Log.Shipper
import Ferrometer.Log.Sink.Push

/-!
Contract: what the Loki sink tells the shipper of a request.

Owns: `send` with its verdict on every status and body, and for which of them the
verdict is the one that the error variants are documented to stand for.

Does not own: the connection. What an endpoint answers is a parameter.
-/

set_option autoImplicit false

namespace Ferrometer.Log.Loki

open Ferrometer.Foundation

/-! ## Model -/

structure LokiSink where
  name : String
  endpoint : String
  authHeader : Option String

structure Post where
  endpoint : String
  headers : List (String × String)
  body : List UInt8

/-- All whitespace runs become one space. -/
def collapse (body : String) : List Char :=
  [' '].intercalate (Text.words isWhitespace body.toList)

def summaryMax : Nat := 300

def summarizeBody (body : String) : String :=
  let collapsed := collapse body
  if summaryMax < collapsed.length then .ofList (collapsed.take summaryMax ++ ['…'])
  else .ofList collapsed

def toAsciiLowercase (text : List Char) : List Char :=
  text.map Char.toLower

def tooLargePhrases : List String :=
  ["larger than max", "too large", "too big", "exceeds the maximum"]

def isPayloadTooLarge (status : StatusCode) (body : String) : Bool :=
  if status.code = 413 then true
  else
    let body := toAsciiLowercase body.toList
    tooLargePhrases.any fun needle => needle.toList <:+: body

/-- What `send` makes of an answer. A body that cannot be read is an empty one. -/
def verdict (status : StatusCode) (text : Except String String) : Except Error Unit :=
  if status.isSuccess then .ok ()
  else
    let text := summarizeBody (text.toOption.getD "")
    let msg := "HTTP " ++ status.display ++ ": " ++ text
    if isPayloadTooLarge status text then .error (.sinkPayloadTooLarge msg)
    else if status.code = 400 then .error (.sinkRejected msg)
    else .error (.sink msg)

namespace LokiSink

def request (sink : LokiSink) (body : List UInt8) : Post where
  endpoint := sink.endpoint
  headers :=
    [("Content-Type", "application/x-protobuf"), ("Content-Encoding", "snappy")] ++
      sink.authHeader.toList.map fun auth => ("Authorization", auth)
  body := body

/-- `exchange` is what becomes of a request: a transport error, or a status with the
text of the body. -/
def send (codec : Codec) (exchange : Post → Except String (StatusCode × Except String String))
    (sink : LokiSink) (entries : List LogEntry) : Except Error Unit :=
  if entries.isEmpty then .ok ()
  else do
    let body ← buildBody codec entries
    let (status, text) ← (exchange (sink.request body)).mapError fun message => .sink message
    verdict status text

end LokiSink

/-! ## What a verdict should be -/

/-- Some phrase for a size limit occurs, in whatever case. -/
def MentionsLimit (text : List Char) : Prop :=
  ∃ phrase ∈ tooLargePhrases, phrase.toList <:+: toAsciiLowercase text

instance (text : List Char) : Decidable (MentionsLimit text) :=
  inferInstanceAs (Decidable (∃ phrase ∈ tooLargePhrases, _))

def IsServerError (status : StatusCode) : Prop :=
  500 ≤ status.code ∧ status.code < 600

/-- The request is over a size limit: HTTP 413, or a 5xx whose body says so. -/
def OverLimit (status : StatusCode) (body : String) : Prop :=
  status.code = 413 ∨ IsServerError status ∧ MentionsLimit (collapse body)

/-- An answer is reported as what it is, and an entry of its own is dropped as too
large only after an answer that says so. -/
structure Classified (status : StatusCode) (body : String) (reported : Except Error Unit) :
    Prop where
  tooLarge : (∃ message, reported = .error (.sinkPayloadTooLarge message)) ↔
    OverLimit status body
  rejected : (∃ message, reported = .error (.sinkRejected message)) ↔ status.code = 400
  delivered : reported = .ok () ↔ status.isSuccess = true
  retryable : (∃ message, reported = .error (.sink message)) ↔
    ¬ OverLimit status body ∧ status.code ≠ 400 ∧ status.isSuccess = false
  drops : ∀ {kind : Source} (shipper : Shipper kind) (batch : Batch) (slice : List LogEntry)
    (input : Iteration kind), input.answer = reported →
    ∃ next : Shipper kind,
      (shipper.handleAnswer batch slice input = next.finishIfSent batch input.ack ∨
        shipper.handleAnswer batch slice input = next) ∧
      (next.progress.dropped = shipper.progress.dropped ∨
        slice.length = 1 ∧ OverLimit status body)

/-- The verdict is right for this answer: it needs no look at the body, or all that the
body says of a size limit it says in its first characters, and only after a 5xx. -/
def Faithful (status : StatusCode) (body : String) : Prop :=
  status.isSuccess = true ∨ status.code = 413 ∨
    (IsServerError status ∧
      (MentionsLimit (collapse body) → MentionsLimit ((collapse body).take summaryMax))) ∨
    (¬ IsServerError status ∧ ¬ MentionsLimit ((collapse body).take summaryMax))

/-! ## What is read of a body -/

/-- The mark behind a summary that was cut is part of no phrase. -/
theorem mentionsLimit_summarizeBody (body : String) :
    MentionsLimit (summarizeBody body).toList ↔
      MentionsLimit ((collapse body).take summaryMax) := by
  unfold summarizeBody
  by_cases long : summaryMax < (collapse body).length
  · simp only [if_pos long, String.toList_ofList]
    have mark : toAsciiLowercase ((collapse body).take summaryMax ++ ['…']) =
        toAsciiLowercase ((collapse body).take summaryMax) ++ ['…'] := by
      rw [toAsciiLowercase, List.map_append]
      rfl
    have absent : ∀ phrase ∈ tooLargePhrases, '…' ∉ phrase.toList := by decide
    constructor
    · rintro ⟨phrase, listed, occurs⟩
      rw [mark] at occurs
      exact ⟨phrase, listed, Text.infix_of_infix_concat occurs (absent phrase listed)⟩
    · rintro ⟨phrase, listed, occurs⟩
      refine ⟨phrase, listed, ?_⟩
      rw [mark]
      exact occurs.trans (List.prefix_append _ _).isInfix
  · have whole : (collapse body).take summaryMax = collapse body :=
      List.take_of_length_le (Nat.le_of_not_lt long)
    simp only [if_neg long, String.toList_ofList, whole]

/-- What the front of a text mentions, the text mentions. -/
theorem mentionsLimit_of_take {text : List Char} {count : Nat}
    (mentions : MentionsLimit (text.take count)) : MentionsLimit text := by
  rcases mentions with ⟨phrase, listed, occurs⟩
  refine ⟨phrase, listed, occurs.trans ?_⟩
  rw [toAsciiLowercase, List.map_take]
  exact (List.take_prefix _ _).isInfix

theorem isPayloadTooLarge_iff (status : StatusCode) (body : String) :
    isPayloadTooLarge status body = true ↔ status.code = 413 ∨ MentionsLimit body.toList := by
  unfold isPayloadTooLarge
  by_cases canonical : status.code = 413
  · simp [canonical]
  · simp [canonical, MentionsLimit]

/-! ## The verdict -/

section Verdict

variable {status : StatusCode} {body : String} {text : Except String String}

theorem not_overLimit_of_success (body : String) (accepted : status.isSuccess = true) :
    ¬ OverLimit status body ∧ status.code ≠ 400 := by
  have range : 200 ≤ status.code ∧ status.code < 300 := by
    simpa [StatusCode.isSuccess] using accepted
  unfold OverLimit IsServerError
  omega

theorem overLimit_iff_of_faithful (faithful : Faithful status body)
    (refused : ¬ status.isSuccess = true) :
    status.code = 413 ∨ MentionsLimit ((collapse body).take summaryMax) ↔
      OverLimit status body := by
  rcases faithful with accepted | canonical | ⟨serverError, inFront⟩ | ⟨other, silent⟩
  · exact absurd accepted refused
  · exact iff_of_true (Or.inl canonical) (Or.inl canonical)
  · apply or_congr_right
    exact ⟨fun mentions => ⟨serverError, mentionsLimit_of_take mentions⟩,
      fun exceeded => inFront exceeded.2⟩
  · apply or_congr_right
    exact iff_of_false silent fun exceeded => other exceeded.1

theorem faithful_of_overLimit_iff
    (agree : status.code = 413 ∨ MentionsLimit ((collapse body).take summaryMax) ↔
      OverLimit status body) : Faithful status body := by
  by_cases canonical : status.code = 413
  · exact Or.inr (Or.inl canonical)
  · apply Or.inr
    apply Or.inr
    by_cases serverError : IsServerError status
    · refine Or.inl ⟨serverError, fun mentions => ?_⟩
      exact (agree.mpr (Or.inr ⟨serverError, mentions⟩)).resolve_left canonical
    · refine Or.inr ⟨serverError, fun mentions => ?_⟩
      rcases agree.mp (Or.inr mentions) with isCanonical | exceeded
      · exact canonical isCanonical
      · exact serverError exceeded.1

/-- The verdict on an answer that is not a success. -/
theorem verdict_cases (refused : ¬ status.isSuccess = true)
    (isBody : text.toOption.getD "" = body) :
    ∃ message,
      (status.code = 413 ∨ MentionsLimit ((collapse body).take summaryMax)) ∧
          verdict status text = .error (.sinkPayloadTooLarge message) ∨
      ¬ (status.code = 413 ∨ MentionsLimit ((collapse body).take summaryMax)) ∧
        (status.code = 400 ∧ verdict status text = .error (.sinkRejected message) ∨
          status.code ≠ 400 ∧ verdict status text = .error (.sink message)) := by
  rw [← mentionsLimit_summarizeBody, ← isPayloadTooLarge_iff]
  unfold verdict
  rw [if_neg refused]
  simp only [isBody]
  by_cases tooLarge : isPayloadTooLarge status (summarizeBody body) = true
  · exact ⟨_, Or.inl ⟨tooLarge, if_pos tooLarge⟩⟩
  · simp only [if_neg tooLarge]
    by_cases invalid : status.code = 400
    · exact ⟨_, Or.inr ⟨tooLarge, Or.inl ⟨invalid, if_pos invalid⟩⟩⟩
    · exact ⟨_, Or.inr ⟨tooLarge, Or.inr ⟨invalid, if_neg invalid⟩⟩⟩

/-- A drop is an answer to a request of one entry that is reported as too large. -/
theorem drops_of_tooLarge {reported : Except Error Unit}
    (tooLarge : (∃ message, reported = .error (.sinkPayloadTooLarge message)) →
      OverLimit status body) {kind : Source} (shipper : Shipper kind) (batch : Batch)
    (slice : List LogEntry) (input : Iteration kind) (answered : input.answer = reported) :
    ∃ next : Shipper kind,
      (shipper.handleAnswer batch slice input = next.finishIfSent batch input.ack ∨
        shipper.handleAnswer batch slice input = next) ∧
      (next.progress.dropped = shipper.progress.dropped ∨
        slice.length = 1 ∧ OverLimit status body) := by
  rcases Shipper.handleAnswer_dropped shipper batch slice input with ⟨next, handled, counted⟩
  refine ⟨next, handled, counted.imp_right ?_⟩
  rintro ⟨single, exceeded, -⟩
  rw [answered] at exceeded
  exact ⟨single, tooLarge exceeded⟩

theorem classified_of_faithful (isBody : text.toOption.getD "" = body)
    (faithful : Faithful status body) : Classified status body (verdict status text) := by
  by_cases accepted : status.isSuccess = true
  · rcases not_overLimit_of_success body accepted with ⟨notOver, valid⟩
    have isOk : verdict status text = .ok () := if_pos accepted
    have notTooLarge : ¬ ∃ message,
        (.ok () : Except Error Unit) = .error (.sinkPayloadTooLarge message) := by simp
    rw [isOk]
    exact {
      tooLarge := iff_of_false notTooLarge notOver
      rejected := iff_of_false (by simp) valid
      delivered := iff_of_true rfl accepted
      retryable := by simp [accepted]
      drops := drops_of_tooLarge fun exceeded => absurd exceeded notTooLarge }
  · have agree := overLimit_iff_of_faithful faithful accepted
    have failed : status.isSuccess = false := by simpa using accepted
    rcases verdict_cases accepted isBody with ⟨message, verdictIs⟩
    rw [agree] at verdictIs
    rcases verdictIs with
      ⟨exceeded, isError⟩ | ⟨notOver, ⟨invalid, isError⟩ | ⟨valid, isError⟩⟩
    · have notInvalid : status.code ≠ 400 := by
        rcases exceeded with canonical | ⟨serverError, -⟩
        · omega
        · unfold IsServerError at serverError
          omega
      rw [isError]
      exact {
        tooLarge := iff_of_true ⟨message, rfl⟩ exceeded
        rejected := iff_of_false (by simp) notInvalid
        delivered := by simp [failed]
        retryable := iff_of_false (by simp) fun other => other.1 exceeded
        drops := drops_of_tooLarge fun _ => exceeded }
    · rw [isError]
      exact {
        tooLarge := iff_of_false (by simp) notOver
        rejected := iff_of_true ⟨message, rfl⟩ invalid
        delivered := by simp [failed]
        retryable := iff_of_false (by simp) fun other => other.2.1 invalid
        drops := drops_of_tooLarge (by simp) }
    · rw [isError]
      exact {
        tooLarge := iff_of_false (by simp) notOver
        rejected := iff_of_false (by simp) valid
        delivered := by simp [failed]
        retryable := iff_of_true ⟨message, rfl⟩ ⟨notOver, valid, failed⟩
        drops := drops_of_tooLarge (by simp) }

theorem faithful_of_classified (isBody : text.toOption.getD "" = body)
    (classified : Classified status body (verdict status text)) : Faithful status body := by
  by_cases accepted : status.isSuccess = true
  · exact Or.inl accepted
  · apply faithful_of_overLimit_iff
    rw [← classified.tooLarge]
    rcases verdict_cases accepted isBody with ⟨message, ⟨exceeded, isError⟩ | ⟨notOver, others⟩⟩
    · exact iff_of_true exceeded ⟨message, isError⟩
    · apply iff_of_false notOver
      rintro ⟨other, isTooLarge⟩
      rcases others with ⟨-, isError⟩ | ⟨-, isError⟩
      · exact absurd (isTooLarge.symm.trans isError) (by simp)
      · exact absurd (isTooLarge.symm.trans isError) (by simp)

end Verdict

/-! ## Sending -/

section Send

variable {codec : Codec}
  {exchange : Post → Except String (StatusCode × Except String String)} {sink : LokiSink}
  {entries : List LogEntry} {bytes : List UInt8} {status : StatusCode}
  {text : Except String String}

/-- An answer to a request is reported as the verdict on it. -/
theorem send_eq (nonempty : entries ≠ []) (built : buildBody codec entries = .ok bytes)
    (answered : exchange (sink.request bytes) = .ok (status, text)) :
    sink.send codec exchange entries = verdict status text := by
  have isFull : entries.isEmpty = false := by simpa using nonempty
  unfold LokiSink.send
  rw [isFull, built]
  show ((exchange (sink.request bytes)).mapError _).bind
    (fun answer => verdict answer.1 answer.2) = _
  rw [answered]
  rfl

theorem send_classified_iff (nonempty : entries ≠ [])
    (built : buildBody codec entries = .ok bytes)
    (answered : exchange (sink.request bytes) = .ok (status, text)) :
    Classified status (text.toOption.getD "") (sink.send codec exchange entries) ↔
      Faithful status (text.toOption.getD "") := by
  rw [send_eq nonempty built answered]
  exact ⟨faithful_of_classified rfl, classified_of_faithful rfl⟩

end Send

def sampleEntry : LogEntry where
  timestamp := 0
  message := "a"
  labels := .empty
  metadata := .empty

/-- One entry as it is encoded, and as a Snappy literal. -/
def sampleCodec : Codec where
  encodeToVec _ := [0x0a, 0x0b, 0x0a, 0x02, 0x7b, 0x7d, 0x12, 0x05, 0x0a, 0x00, 0x12, 0x01, 0x61]
  compressVec bytes := .ok ([0x0d, 0x30] ++ bytes)

def sampleSink : LokiSink where
  name := "loki"
  endpoint := "http://loki/loki/api/v1/push"
  authHeader := none

/-- How Loki reports the limit on its internal messages. -/
def grpcLimit : StatusCode × Except String String :=
  (⟨500, "500 Internal Server Error"⟩, .ok "grpc: received message larger than max\n")

theorem send_classified_iff_grpcLimit :
    Classified grpcLimit.1 (grpcLimit.2.toOption.getD "")
        (sampleSink.send sampleCodec (fun _ => .ok grpcLimit) [sampleEntry]) ↔
      Faithful grpcLimit.1 (grpcLimit.2.toOption.getD "") :=
  send_classified_iff (List.cons_ne_nil _ _) rfl rfl

/-- A validation error that speaks of a size is taken for one, and the entry is dropped
instead of being rejected. -/
theorem validationError_reported_tooLarge :
    ¬ Classified ⟨400, "400 Bad Request"⟩ "structured metadata too large"
      (sampleSink.send sampleCodec
        (fun _ => .ok (⟨400, "400 Bad Request"⟩, .ok "structured metadata too large"))
        [sampleEntry]) := by
  intro classified
  rcases classified.rejected.mpr rfl with ⟨message, isRejected⟩
  have isTooLarge : sampleSink.send sampleCodec
      (fun _ => .ok (⟨400, "400 Bad Request"⟩, .ok "structured metadata too large"))
      [sampleEntry] =
      .error (.sinkPayloadTooLarge "HTTP 400 Bad Request: structured metadata too large") := by
    decide +kernel
  exact absurd (isTooLarge.symm.trans isRejected) (by simp)

end Ferrometer.Log.Loki
