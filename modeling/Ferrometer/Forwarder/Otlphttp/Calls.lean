import Ferrometer.Forwarder.Otlphttp.Run

/-!
Contract: one task that calls `submit` and `shutdown` of an `OtlphttpForwarder`, while the
forwarder runs.

Owns: the steps of the two calls in the order in which the caller makes them, that none of
them ever waits for the forwarder, and what a forwarder keeps of the calls made so far.

Does not own: who the caller is. With two callers at once the steps of their calls
interleave, and that is the send loop's own machine.
-/

set_option autoImplicit false

namespace Ferrometer.Forwarder.Otlphttp

open Ferrometer.Config Ferrometer.Foundation

/-- A call is two steps, the change and the `notify_one` after it. -/
inductive Call where
  | submit (metrics : List Metric)
  | notifySubmit
  | shutdown
  | notifyShutdown
deriving DecidableEq

/-- A step that `run` takes by itself, or that the clock or the endpoint takes. -/
def RunEvent.isOwn : RunEvent → Bool
  | .submit _ | .notifySubmit _ | .shutdown | .notifyShutdown => false
  | _ => true

namespace Call

def event (loop : RunLoop) : Call → RunEvent
  | .submit metrics => .submit metrics
  | .notifySubmit => .notifySubmit (loop.cycle.submitted.length - 1)
  | .shutdown => .shutdown
  | .notifyShutdown => .notifyShutdown

/-- The first of the two steps. -/
def opens : Call → Bool
  | .submit _ | .shutdown => true
  | _ => false

/-- The second step of a call whose first step this is. -/
def closing : Call → Option Call
  | .submit _ => some .notifySubmit
  | .shutdown => some .notifyShutdown
  | _ => none

def batch? : Call → Option (List Metric)
  | .submit metrics => some metrics
  | _ => none

end Call

/-- The batches handed over by a list of calls. -/
def batches (calls : List Call) : List (List Metric) :=
  calls.filterMap Call.batch?

@[simp] theorem batches_append (first second : List Call) :
    batches (first ++ second) = batches first ++ batches second :=
  List.filterMap_append

/-- The second step of the call that is under way. -/
def unclosed (made : List Call) : Option Call :=
  made.getLast?.bind Call.closing

/-- A task finishes a call before it starts the next one. -/
def MayFollow (made : List Call) (call : Call) : Prop :=
  match unclosed made with
  | none => call.opens = true
  | some closing => call = closing

/-- All calls that one forwarder gets: a `submit` for each batch, and a `shutdown` at the
end. -/
def callProgram (handed : List (List Metric)) (returned : Bool) : List Call :=
  handed.flatMap (fun metrics => [.submit metrics, .notifySubmit]) ++
    if returned then [.shutdown, .notifyShutdown] else []

@[simp] theorem callProgram_cons (metrics : List Metric) (rest : List (List Metric))
    (returned : Bool) :
    callProgram (metrics :: rest) returned =
      .submit metrics :: .notifySubmit :: callProgram rest returned := rfl

private theorem unclosed_cons_cons {closing : Call} (closed : closing.closing = none)
    (opening : Call) (made : List Call) :
    unclosed (opening :: closing :: made) = unclosed made := by
  cases made with
  | nil => exact closed
  | cons first rest => simp only [unclosed, List.getLast?_cons_cons]

private theorem mayFollow_pair {opening closing call : Call} {made rest program : List Call}
    (opens : opening.opens = true) (pairs : opening.closing = some closing)
    (closed : closing.closing = none)
    (others : ∀ made, made ++ call :: rest = program → MayFollow made call)
    (split : made ++ call :: rest = opening :: closing :: program) : MayFollow made call := by
  match made with
  | [] =>
      cases split
      exact opens
  | [first] =>
      cases split
      show match unclosed [opening] with | none => _ | some expected => closing = expected
      rw [show unclosed [opening] = some closing from pairs]
  | first :: second :: made =>
      simp only [List.cons_append, List.cons.injEq] at split
      rcases split with ⟨rfl, rfl, split⟩
      rw [MayFollow, unclosed_cons_cons closed]
      exact others made split

theorem mayFollow_of_program {handed : List (List Metric)} {returned : Bool}
    {made rest : List Call} {call : Call}
    (split : made ++ call :: rest = callProgram handed returned) : MayFollow made call := by
  induction handed generalizing made with
  | nil =>
      cases returned with
      | false => exact absurd split (by simp [callProgram])
      | true =>
          have others : ∀ made, made ++ call :: rest = [] → MayFollow made call :=
            fun made nothing => absurd nothing (by simp)
          exact mayFollow_pair rfl rfl rfl others split
  | cons metrics handed inductionHypothesis =>
      exact mayFollow_pair rfl rfl rfl (fun made => inductionHypothesis) split

theorem batches_callProgram (handed : List (List Metric)) (returned : Bool) :
    batches (callProgram handed returned) = handed := by
  induction handed with
  | nil => cases returned <;> rfl
  | cons metrics rest inductionHypothesis =>
      rw [callProgram_cons]
      exact congrArg (List.cons metrics) inductionHypothesis

/-- With the call of `shutdown` among them, a part of the calls has every batch. -/
theorem batches_of_shutdown {handed : List (List Metric)} {returned : Bool}
    {made rest : List Call} (split : made ++ rest = callProgram handed returned)
    (called : Call.shutdown ∈ made) : returned = true ∧ batches made = handed := by
  induction handed generalizing made with
  | nil =>
      have kept : batches made ++ batches rest = [] := by
        rw [← batches_append, split, batches_callProgram]
      refine ⟨?_, (List.append_eq_nil_iff.mp kept).1⟩
      cases returned with
      | true => rfl
      | false =>
          have nothing : made = [] := (List.append_eq_nil_iff.mp split).1
          exact absurd (nothing ▸ called) (by simp)
  | cons metrics handed inductionHypothesis =>
      match made with
      | [] => exact absurd called (by simp)
      | [first] =>
          cases split
          exact absurd called (by simp)
      | first :: second :: made =>
          simp only [callProgram_cons, List.cons_append, List.cons.injEq] at split
          rcases split with ⟨rfl, rfl, split⟩
          have later : Call.shutdown ∈ made := by simpa using called
          rcases inductionHypothesis split later with ⟨isReturned, same⟩
          exact ⟨isReturned, congrArg (List.cons metrics) same⟩

theorem shutdown_mem_callProgram {handed : List (List Metric)} :
    Call.shutdown ∈ callProgram handed true :=
  List.mem_append_right _ List.mem_cons_self

/-! ## What a forwarder keeps of the calls -/

namespace RunLoop

variable {limits : Limits} {backoffInitial backoffMax : Duration}

/-- What `run` does by itself leaves alone what the calls have left behind. -/
theorem step_isOwn {loop next : RunLoop} {event : RunEvent} (own : event.isOwn = true)
    (stepped : step limits backoffInitial backoffMax loop event = some next) :
    next.cycle.submitted = loop.cycle.submitted ∧ next.announcing = loop.announcing ∧
      next.shutdown = loop.shutdown ∧ next.shuttingDown = loop.shuttingDown := by
  have sameCalls : ∀ cycle final, ({ loop with cycle }.sent final).announcing = loop.announcing ∧
      ({ loop with cycle }.sent final).shutdown = loop.shutdown ∧
      ({ loop with cycle }.sent final).shuttingDown = loop.shuttingDown := by
    intro cycle final
    cases final <;> exact ⟨rfl, rfl, rfl⟩
  cases (steps_of_step stepped).2 with
  | submitted _ => cases own
  | submitNotified _ => cases own
  | shutdownSet => cases own
  | shutdownNotified _ => cases own
  | nothingToSend _ taken _ =>
      rw [sent_cycle]
      exact ⟨SendCycle.step_submitted (by simp) taken, sameCalls _ _⟩
  | popped _ taken _ => exact ⟨SendCycle.step_submitted (by simp) taken, rfl, rfl, rfl⟩
  | succeeded _ taken =>
      rw [sent_cycle]
      exact ⟨SendCycle.step_submitted (by simp) taken, sameCalls _ _⟩
  | @failed final cycle _ taken =>
      rw [notSent_cycle]
      apply And.intro (SendCycle.step_submitted (by simp) taken)
      rcases notSent_cases { loop with cycle } final with
        ⟨-, equal⟩ | ⟨-, equal⟩ | ⟨_, _, -, -, -, equal⟩
      all_goals rw [equal]; exact ⟨rfl, rfl, rfl⟩
  | _ => exact ⟨rfl, rfl, rfl, rfl⟩

/-- The forwarder has been called by one task, which has made these steps. -/
structure Served (made : List Call) (loop : RunLoop) : Prop where
  submitted : loop.cycle.submitted.map Submission.metrics = batches made
  announcing : loop.announcing =
    if unclosed made = some .notifySubmit then [loop.cycle.submitted.length - 1] else []
  shutdown : loop.shutdown = true ↔ Call.shutdown ∈ made
  shuttingDown : loop.shuttingDown = if unclosed made = some .notifyShutdown then 1 else 0

theorem initial_served : Served [] initial where
  submitted := rfl
  announcing := rfl
  shutdown := by simp [initial]
  shuttingDown := rfl

theorem Served.of_isOwn {made : List Call} {loop next : RunLoop} {event : RunEvent}
    (served : loop.Served made) (own : event.isOwn = true)
    (stepped : step limits backoffInitial backoffMax loop event = some next) :
    next.Served made := by
  rcases step_isOwn own stepped with ⟨submitted, announcing, shutdown, shuttingDown⟩
  exact {
    submitted := by rw [submitted, served.submitted]
    announcing := by rw [announcing, submitted, served.announcing]
    shutdown := by rw [shutdown, served.shutdown]
    shuttingDown := by rw [shuttingDown, served.shuttingDown] }

private theorem unclosed_snoc (made : List Call) (call : Call) :
    unclosed (made ++ [call]) = call.closing := by
  simp [unclosed]

private theorem batches_snoc (made : List Call) (call : Call) :
    batches (made ++ [call]) = batches made ++ call.batch?.toList := by
  rw [batches_append]
  cases call <;> rfl

private theorem unclosed_of_opens {made : List Call} {call : Call} (opens : call.opens = true)
    (follows : MayFollow made call) : unclosed made = none := by
  unfold MayFollow at follows
  cases under : unclosed made with
  | none => rfl
  | some closing =>
      rw [under] at follows
      rcases Option.bind_eq_some_iff.mp under with ⟨last, -, pairs⟩
      rw [follows] at opens
      cases last <;> cases pairs <;> cases opens

private theorem unclosed_of_closes {made : List Call} {call : Call} (closes : call.opens = false)
    (follows : MayFollow made call) : unclosed made = some call := by
  unfold MayFollow at follows
  cases under : unclosed made with
  | none =>
      rw [under] at follows
      exact absurd (closes.symm.trans follows) (by decide)
  | some closing =>
      rw [under] at follows
      exact congrArg some follows.symm

/-- The caller never waits for the forwarder: whatever `run` is doing, the next step of
the calls is free, and it leaves `run` where it is. -/
theorem Served.call {made : List Call} {loop : RunLoop} {call : Call}
    (served : loop.Served made) (valid : loop.Valid limits) (alive : loop.point ≠ .aborted)
    (follows : MayFollow made call) (filled : ∀ metrics, call = .submit metrics → metrics ≠ []) :
    ∃ next, step limits backoffInitial backoffMax loop (call.event loop) = some next ∧
      next.Served (made ++ [call]) ∧ next.point = loop.point := by
  have taken : ∀ {next}, Steps limits backoffInitial backoffMax loop (call.event loop) next →
      step limits backoffInitial backoffMax loop (call.event loop) = some next :=
    fun steps => step_of_steps alive steps
  cases call with
  | submit metrics =>
      have nonempty := filled metrics rfl
      have free := unclosed_of_opens rfl follows
      refine ⟨_, taken (.submitted (SendCycle.step_submit valid.cycle nonempty)), ?_, rfl⟩
      exact {
        submitted := by
          rw [batches_snoc, ← served.submitted]
          simp [SendCycle.nextSubmission, Call.batch?]
        announcing := by
          rw [if_neg nonempty, served.announcing, free, unclosed_snoc]
          simp [Call.closing]
        shutdown := by simpa using served.shutdown
        shuttingDown := by
          show loop.shuttingDown = _
          rw [served.shuttingDown, free, unclosed_snoc]
          simp [Call.closing] }
  | notifySubmit =>
      have under := unclosed_of_closes rfl follows
      have announcing : loop.announcing = [loop.cycle.submitted.length - 1] := by
        rw [served.announcing, if_pos under]
      have announced : loop.cycle.submitted.length - 1 ∈ loop.announcing := by
        rw [announcing]
        exact List.mem_singleton_self _
      refine ⟨_, taken (.submitNotified announced), ?_, rfl⟩
      exact {
        submitted := by
          rw [batches_snoc]
          exact served.submitted.trans (List.append_nil _).symm
        announcing := by
          show loop.announcing.erase _ = _
          rw [announcing, unclosed_snoc]
          simp [Call.closing]
        shutdown := by simpa using served.shutdown
        shuttingDown := by
          show loop.shuttingDown = _
          rw [served.shuttingDown, under, unclosed_snoc]
          simp [Call.closing] }
  | shutdown =>
      have free := unclosed_of_opens rfl follows
      refine ⟨_, taken .shutdownSet, ?_, rfl⟩
      exact {
        submitted := by
          rw [batches_snoc]
          exact served.submitted.trans (List.append_nil _).symm
        announcing := by
          show loop.announcing = _
          rw [served.announcing, free, unclosed_snoc]
          simp [Call.closing]
        shutdown := by simp
        shuttingDown := by
          show loop.shuttingDown + 1 = _
          rw [served.shuttingDown, free, unclosed_snoc]
          simp [Call.closing] }
  | notifyShutdown =>
      have under := unclosed_of_closes rfl follows
      have announced : loop.shuttingDown = 1 := by
        rw [served.shuttingDown, if_pos under]
      refine ⟨_, taken (.shutdownNotified (by omega)), ?_, rfl⟩
      exact {
        submitted := by
          rw [batches_snoc]
          exact served.submitted.trans (List.append_nil _).symm
        announcing := by
          show loop.announcing = _
          rw [served.announcing, under, unclosed_snoc]
          simp [Call.closing]
        shutdown := by simpa using served.shutdown
        shuttingDown := by
          show loop.shuttingDown - 1 = _
          rw [announced, unclosed_snoc]
          simp [Call.closing] }

end RunLoop

end Ferrometer.Forwarder.Otlphttp
