import Ferrometer.Forwarder.Otlphttp.Encode
import Ferrometer.Forwarder.Otlphttp.SendCycle
import Ferrometer.Http

/-!
Contract: one `drain_and_send`, step by step, next to the connection that
consumes its body.

Owns: the two holders of the popped batches (the send loop and the body
stream), `Arc::try_unwrap` on them when the send future resolves, what each
outcome of the request does to the batches, and when the process survives.

Does not own: when the connection polls or drops the stream, or what the server
answers. They are events, and any order of them is a run.

The release profile sets `panic = "abort"`, so a failed `expect` ends the
process. A state with the phase `aborted` has no step.
-/

set_option autoImplicit false

namespace Ferrometer.Forwarder.Otlphttp

open Ferrometer.Foundation

/-! ## Model -/

inductive SendResult where
  | response (status : StatusCode)
  | error (message : String)
deriving DecidableEq

inductive Phase where
  /-- No `drain_and_send` is running. -/
  | idle
  /-- The request is out. The body stream is `none` once it has come to its end or
  has been dropped. -/
  | sending (bodyStream : Option EncoderState)
  /-- The answer was no success, and its text is being read. -/
  | readingText (status : StatusCode)
  | aborted
deriving DecidableEq

inductive UploadEvent where
  | submit (metrics : List Metric)
  | drainAndSend
  | pollBody
  | dropBody
  | sendResolved (result : SendResult)
  | responseText (text : String)
deriving DecidableEq

structure Upload where
  cycle : SendCycle
  phase : Phase
  /-- What every `drain_and_send` so far has returned, oldest first. -/
  results : List (Except String Nat)

/-- References to the popped batches: the send loop's own, and the one inside
the body stream for as long as the stream holds its state. -/
def strongCount (bodyStream : Option EncoderState) : Nat :=
  1 + bodyStream.toList.length

/-- `Arc::try_unwrap` takes the value out of the last reference only. -/
def tryUnwrap (popped : List Submission) (bodyStream : Option EncoderState) :
    Option (List Submission) :=
  if strongCount bodyStream = 1 then some popped else none

namespace Upload

def initial : Upload where
  cycle := SendCycle.initial
  phase := .idle
  results := []

section Step

variable (limits : Limits) (resourceAttributes : List KeyValue)
  (encodeToVec : ExportMetricsServiceRequest → List UInt8)

/-- Put the popped batches back and return an error. -/
def failWith (upload : Upload) (message : String) : Option Upload := do
  let cycle ← SendCycle.step limits upload.cycle .failure
  some { cycle, phase := .idle, results := upload.results ++ [.error message] }

def step (upload : Upload) : UploadEvent → Option Upload
  | .submit metrics =>
      if upload.phase = .aborted then none
      else do
        let cycle ← SendCycle.step limits upload.cycle (.submit metrics)
        some { upload with cycle }
  | .drainAndSend =>
      match upload.phase with
      | .idle => do
          let cycle ← SendCycle.step limits upload.cycle .popForSend
          if cycle.inFlight = [] then
            some { upload with cycle, results := upload.results ++ [.ok 0] }
          else
            let popped := cycle.inFlight.map Submission.metrics
            some { upload with
              cycle, phase := .sending (some { popped, batchIdx := 0, resourceAttributes }) }
      | _ => none
  | .pollBody =>
      match upload.phase with
      | .sending (some bodyStream) =>
          match bodyStream.poll encodeToVec with
          | none => some { upload with phase := .aborted }
          | some none => some { upload with phase := .sending none }
          | some (some (_, bodyStream)) => some { upload with phase := .sending (some bodyStream) }
      | _ => none
  | .dropBody =>
      match upload.phase with
      | .sending (some _) => some { upload with phase := .sending none }
      | _ => none
  | .sendResolved result =>
      match upload.phase with
      | .sending bodyStream =>
          match tryUnwrap upload.cycle.inFlight bodyStream with
          | none => some { upload with phase := .aborted }
          | some popped =>
              match result with
              | .response status =>
                  if status.isSuccess then do
                    let cycle ← SendCycle.step limits upload.cycle .success
                    some {
                      cycle
                      phase := .idle
                      results := upload.results ++ [.ok (OldestFirst.total len popped)] }
                  else some { upload with phase := .readingText status }
              | .error message => upload.failWith limits message
      | _ => none
  | .responseText text =>
      match upload.phase with
      | .readingText status =>
          upload.failWith limits ("HTTP " ++ status.display ++ ": " ++ text)
      | _ => none

def machine : Machine Upload UploadEvent where
  step := step limits resourceAttributes encodeToVec

end Step

/-- When the send future resolves, the connection has let go of the body stream. -/
def ReleasedAtResolve (upload : Upload) : UploadEvent → Prop
  | .sendResolved _ => upload.phase = .sending none
  | _ => True

instance (upload : Upload) : ∀ event, Decidable (ReleasedAtResolve upload event)
  | .sendResolved _ => inferInstanceAs (Decidable (upload.phase = .sending none))
  | .submit _ | .drainAndSend | .pollBody | .dropBody | .responseText _ => isTrue trivial

/-- The metrics that the calls so far have counted as forwarded. -/
def forwarded (upload : Upload) : Nat :=
  (upload.results.map fun result => result.toOption.getD 0).sum

/-- What a run owes to the batches it has popped. -/
structure Settles (upload : Upload) : Prop where
  noPanic : upload.phase ≠ .aborted
  /-- With `distinct`: every batch is in exactly one of these places. -/
  accounted : (upload.cycle.delivered ++ upload.cycle.evicted ++ upload.cycle.state.batches ++
    upload.cycle.inFlight).Perm upload.cycle.submitted
  distinct : upload.cycle.submitted.Nodup
  /-- After a call has returned, none of its batches is left in flight. -/
  returned : upload.phase = .idle → upload.cycle.inFlight = []
  counted : upload.forwarded = OldestFirst.total len upload.cycle.delivered

/-! ## What a step can do -/

variable {limits : Limits} {resourceAttributes : List KeyValue}
  {encodeToVec : ExportMetricsServiceRequest → List UInt8}

/-- Every step that `step` takes. Encoding never panics, so the only way to abort
is to resolve the request while the body stream is alive. -/
inductive Steps (limits : Limits) (upload : Upload) : UploadEvent → Upload → Prop where
  | submitted {metrics : List Metric} {cycle : SendCycle} (alive : upload.phase ≠ .aborted)
      (taken : SendCycle.step limits upload.cycle (.submit metrics) = some cycle) :
      Steps limits upload (.submit metrics) { upload with cycle }
  | nothingToSend {cycle : SendCycle} (idle : upload.phase = .idle)
      (taken : SendCycle.step limits upload.cycle .popForSend = some cycle)
      (nothing : cycle.inFlight = []) :
      Steps limits upload .drainAndSend
        { upload with cycle, results := upload.results ++ [.ok 0] }
  | popped {cycle : SendCycle} {bodyStream : EncoderState} (idle : upload.phase = .idle)
      (taken : SendCycle.step limits upload.cycle .popForSend = some cycle) :
      Steps limits upload .drainAndSend { upload with cycle, phase := .sending (some bodyStream) }
  | polled {bodyStream : EncoderState} {remaining : Option EncoderState}
      (sending : upload.phase = .sending (some bodyStream)) :
      Steps limits upload .pollBody { upload with phase := .sending remaining }
  | dropped {bodyStream : EncoderState} (sending : upload.phase = .sending (some bodyStream)) :
      Steps limits upload .dropBody { upload with phase := .sending none }
  | panicked {bodyStream : EncoderState} {result : SendResult}
      (held : upload.phase = .sending (some bodyStream)) :
      Steps limits upload (.sendResolved result) { upload with phase := .aborted }
  | accepted {status : StatusCode} {cycle : SendCycle} (released : upload.phase = .sending none)
      (taken : SendCycle.step limits upload.cycle .success = some cycle) :
      Steps limits upload (.sendResolved (.response status)) {
        cycle
        phase := .idle
        results := upload.results ++ [.ok (OldestFirst.total len upload.cycle.inFlight)] }
  | rejected {status : StatusCode} (released : upload.phase = .sending none) :
      Steps limits upload (.sendResolved (.response status))
        { upload with phase := .readingText status }
  | failed {message : String} {cycle : SendCycle} (released : upload.phase = .sending none)
      (taken : SendCycle.step limits upload.cycle .failure = some cycle) :
      Steps limits upload (.sendResolved (.error message))
        { cycle, phase := .idle, results := upload.results ++ [.error message] }
  | answered {text message : String} {status : StatusCode} {cycle : SendCycle}
      (reading : upload.phase = .readingText status)
      (taken : SendCycle.step limits upload.cycle .failure = some cycle) :
      Steps limits upload (.responseText text)
        { cycle, phase := .idle, results := upload.results ++ [.error message] }

private theorem poll_isSome (bodyStream : EncoderState) :
    bodyStream.poll encodeToVec ≠ none := by
  unfold EncoderState.poll
  split
  · obtain ⟨item, built, -⟩ :=
      buildSliceRequest_represents bodyStream.popped[bodyStream.batchIdx]
        bodyStream.resourceAttributes
    simp [built]
  · simp

private theorem failWith_cases {upload next : Upload} {message : String}
    (failed : upload.failWith limits message = some next) :
    ∃ cycle, SendCycle.step limits upload.cycle .failure = some cycle ∧
      next = { cycle, phase := .idle, results := upload.results ++ [.error message] } := by
  obtain ⟨cycle, taken, equal⟩ := Option.bind_eq_some_iff.mp failed
  exact ⟨cycle, taken, (Option.some.inj equal).symm⟩

theorem steps_of_step {upload next : Upload} {event : UploadEvent}
    (stepped : step limits resourceAttributes encodeToVec upload event = some next) :
    Steps limits upload event next := by
  cases event with
  | submit metrics =>
      by_cases dead : upload.phase = .aborted
      · simp [step, dead] at stepped
      · rw [step, if_neg dead] at stepped
        obtain ⟨cycle, taken, equal⟩ := Option.bind_eq_some_iff.mp stepped
        obtain rfl := Option.some.inj equal
        exact .submitted dead taken
  | drainAndSend =>
      simp only [step] at stepped
      split at stepped
      · rename_i idle
        obtain ⟨cycle, taken, sent⟩ := Option.bind_eq_some_iff.mp stepped
        split at sent
        · rename_i nothing
          obtain rfl := Option.some.inj sent
          exact .nothingToSend idle taken nothing
        · obtain rfl := Option.some.inj sent
          exact .popped idle taken
      · exact absurd stepped (by simp)
  | pollBody =>
      simp only [step] at stepped
      split at stepped
      · rename_i bodyStream sending
        split at stepped
        · rename_i panics
          exact absurd panics (poll_isSome bodyStream)
        · obtain rfl := Option.some.inj stepped
          exact .polled sending
        · obtain rfl := Option.some.inj stepped
          exact .polled sending
      · exact absurd stepped (by simp)
  | dropBody =>
      simp only [step] at stepped
      split at stepped
      · rename_i sending
        obtain rfl := Option.some.inj stepped
        exact .dropped sending
      · exact absurd stepped (by simp)
  | sendResolved result =>
      simp only [step] at stepped
      split at stepped
      · rename_i bodyStream sending
        cases bodyStream with
        | some held =>
            obtain rfl := Option.some.inj stepped
            exact .panicked sending
        | none =>
            cases result with
            | response status =>
                simp only [tryUnwrap, strongCount, Option.toList_none, List.length_nil,
                  Nat.add_zero, if_true] at stepped
                split at stepped
                · obtain ⟨cycle, taken, equal⟩ := Option.bind_eq_some_iff.mp stepped
                  obtain rfl := Option.some.inj equal
                  exact .accepted sending taken
                · obtain rfl := Option.some.inj stepped
                  exact .rejected sending
            | error message =>
                obtain ⟨cycle, taken, rfl⟩ := failWith_cases stepped
                exact .failed sending taken
      · exact absurd stepped (by simp)
  | responseText text =>
      simp only [step] at stepped
      split at stepped
      · rename_i status reading
        obtain ⟨cycle, taken, rfl⟩ := failWith_cases stepped
        exact .answered reading taken
      · exact absurd stepped (by simp)

/-! ## Refinement -/

/-- Every step is one step of the send cycle, or none: the connection's part in
it is not seen there. -/
theorem step_refines {upload next : Upload} {event : UploadEvent}
    (stepped : step limits resourceAttributes encodeToVec upload event = some next) :
    ∃ events, (SendCycle.machine limits).run upload.cycle events = some next.cycle := by
  have one : ∀ {sendEvent cycle}, SendCycle.step limits upload.cycle sendEvent = some cycle →
      (SendCycle.machine limits).run upload.cycle [sendEvent] = some cycle :=
    fun taken => Machine.run_cons_eq_some _ |>.mpr ⟨_, taken, rfl⟩
  cases steps_of_step stepped with
  | submitted _ taken => exact ⟨_, one taken⟩
  | nothingToSend _ taken _ => exact ⟨_, one taken⟩
  | popped _ taken => exact ⟨_, one taken⟩
  | polled _ => exact ⟨[], rfl⟩
  | dropped _ => exact ⟨[], rfl⟩
  | panicked _ => exact ⟨[], rfl⟩
  | accepted _ taken => exact ⟨_, one taken⟩
  | rejected _ => exact ⟨[], rfl⟩
  | failed _ taken => exact ⟨_, one taken⟩
  | answered _ taken => exact ⟨_, one taken⟩

/-- Whatever the connection does, the buffer goes through a run of the send cycle. -/
theorem run_refines {events : List UploadEvent} {upload : Upload}
    (ran : (machine limits resourceAttributes encodeToVec).run initial events = some upload) :
    ∃ sendEvents,
      (SendCycle.machine limits).run SendCycle.initial sendEvents = some upload.cycle := by
  have simulated : ∀ {upload : Upload} {cycle : SendCycle} {event : UploadEvent} {next : Upload},
      upload.cycle = cycle →
      (machine limits resourceAttributes encodeToVec).step upload event = some next →
      ∃ sendEvents cycleNext,
        (SendCycle.machine limits).run cycle sendEvents = some cycleNext ∧
          next.cycle = cycleNext := by
    intro upload cycle event next related stepped
    subst related
    obtain ⟨sendEvents, ranOne⟩ := step_refines stepped
    exact ⟨sendEvents, _, ranOne, rfl⟩
  obtain ⟨sendEvents, cycle, ranCycle, rfl⟩ :=
    (machine limits resourceAttributes encodeToVec).run_simulation simulated rfl ran
  exact ⟨sendEvents, ranCycle⟩

/-! ## Returning and counting -/

/-- The part of `Settles` that every step keeps, the aborting one included. -/
structure Counts (upload : Upload) : Prop where
  returned : upload.phase = .idle → upload.cycle.inFlight = []
  counted : upload.forwarded = OldestFirst.total len upload.cycle.delivered

theorem initial_counts : initial.Counts where
  returned := fun _ => rfl
  counted := rfl

private theorem forwarded_append (upload : Upload) (result : Except String Nat) :
    ((upload.results ++ [result]).map fun result => result.toOption.getD 0).sum =
      upload.forwarded + result.toOption.getD 0 := by
  simp [forwarded]

theorem step_counts {upload next : Upload} {event : UploadEvent} (counts : upload.Counts)
    (stepped : step limits resourceAttributes encodeToVec upload event = some next) :
    next.Counts := by
  cases steps_of_step stepped with
  | submitted _ taken =>
      obtain ⟨delivered, inFlight⟩ := SendCycle.delivered_of_submit taken
      exact ⟨fun idle => inFlight.trans (counts.returned idle),
        counts.counted.trans (by rw [delivered])⟩
  | nothingToSend _ taken nothing =>
      refine ⟨fun _ => nothing, ?_⟩
      rw [forwarded, forwarded_append, SendCycle.delivered_of_popForSend taken]
      exact counts.counted
  | popped _ taken =>
      refine ⟨fun idle => absurd idle (by simp), ?_⟩
      rw [SendCycle.delivered_of_popForSend taken]
      exact counts.counted
  | polled _ => exact ⟨fun idle => absurd idle (by simp), counts.counted⟩
  | dropped _ => exact ⟨fun idle => absurd idle (by simp), counts.counted⟩
  | panicked _ => exact ⟨fun idle => absurd idle (by simp), counts.counted⟩
  | accepted _ taken =>
      obtain ⟨delivered, inFlight⟩ := SendCycle.delivered_of_success taken
      refine ⟨fun _ => inFlight, ?_⟩
      rw [forwarded, forwarded_append, delivered, OldestFirst.total_append, counts.counted]
      rfl
  | rejected _ => exact ⟨fun idle => absurd idle (by simp), counts.counted⟩
  | failed _ taken =>
      obtain ⟨delivered, inFlight⟩ := SendCycle.delivered_of_failure taken
      refine ⟨fun _ => inFlight, ?_⟩
      rw [forwarded, forwarded_append, delivered]
      exact counts.counted
  | answered _ taken =>
      obtain ⟨delivered, inFlight⟩ := SendCycle.delivered_of_failure taken
      refine ⟨fun _ => inFlight, ?_⟩
      rw [forwarded, forwarded_append, delivered]
      exact counts.counted

/-! ## When the process survives -/

private theorem step_dies {upload next : Upload} {event : UploadEvent}
    (stepped : step limits resourceAttributes encodeToVec upload event = some next) :
    next.phase = .aborted ↔ ¬ ReleasedAtResolve upload event := by
  cases steps_of_step stepped with
  | submitted alive _ => simpa [ReleasedAtResolve] using alive
  | nothingToSend idle _ _ => simp [ReleasedAtResolve, idle]
  | popped _ _ => simp [ReleasedAtResolve]
  | polled _ => simp [ReleasedAtResolve]
  | dropped _ => simp [ReleasedAtResolve]
  | panicked held => simp [ReleasedAtResolve, held]
  | accepted released _ => simp [ReleasedAtResolve, released]
  | rejected released => simp [ReleasedAtResolve, released]
  | failed released _ => simp [ReleasedAtResolve, released]
  | answered _ _ => simp [ReleasedAtResolve]

private theorem step_aborted {upload : Upload} {event : UploadEvent}
    (aborted : upload.phase = .aborted) :
    step limits resourceAttributes encodeToVec upload event = none := by
  cases event <;> simp [step, aborted]

theorem upload_run_settles_iff {events : List UploadEvent} {upload : Upload}
    (ran : (machine limits resourceAttributes encodeToVec).run initial events = some upload) :
    upload.Settles ↔
      (machine limits resourceAttributes encodeToVec).Along ReleasedAtResolve initial events := by
  have survives := (machine limits resourceAttributes encodeToVec).alive_iff_along
    step_aborted step_dies (by simp [initial]) ran
  obtain ⟨sendEvents, ranCycle⟩ := run_refines ran
  have valid := SendCycle.run_valid ranCycle
  have counts := (machine limits resourceAttributes encodeToVec).run_invariant
    (fun counts stepped => step_counts counts stepped) initial_counts ran
  constructor
  · exact fun settles => survives.mp settles.noPanic
  · intro along
    exact {
      noPanic := survives.mpr along
      accounted := by
        refine List.Perm.trans ?_ valid.accounted
        apply List.perm_iff_count.mpr
        intro batch
        simp only [List.count_append]
        omega
      distinct := valid.submitted_nodup
      returned := counts.returned
      counted := counts.counted }

/-- A server that answers after the body has been dropped, then one that accepts. -/
def rejectedThenAccepted : List UploadEvent :=
  [.submit (SendCycle.sampleBatch 2), .drainAndSend, .dropBody,
    .sendResolved (.response ⟨503, "503 Service Unavailable"⟩), .responseText "busy",
    .drainAndSend, .dropBody, .sendResolved (.response ⟨200, "200 OK"⟩)]

theorem upload_run_settles_iff_rejectedThenAccepted :
    ∃ upload, (machine SendCycle.sampleLimits [] ProtoWire.encode).run initial
      rejectedThenAccepted = some upload ∧ upload.Settles := by
  have ran : (machine SendCycle.sampleLimits [] ProtoWire.encode).run initial
      rejectedThenAccepted = some _ := rfl
  exact ⟨_, ran, (upload_run_settles_iff ran).mpr (by decide)⟩

/-- An answer that comes before the body has been read. -/
def earlyRejection : List UploadEvent :=
  [.submit (SendCycle.sampleBatch 1), .drainAndSend,
    .sendResolved (.response ⟨401, "401 Unauthorized"⟩)]

theorem earlyRejection_aborts :
    (∃ upload, (machine SendCycle.sampleLimits [] ProtoWire.encode).run initial
      earlyRejection = some upload ∧ upload.phase = .aborted) ∧
    ¬ ∀ events upload, (machine SendCycle.sampleLimits [] ProtoWire.encode).run initial
      events = some upload → upload.Settles := by
  refine ⟨⟨_, rfl, rfl⟩, ?_⟩
  intro settles
  exact (settles earlyRejection _ rfl).noPanic rfl

end Upload

end Ferrometer.Forwarder.Otlphttp
