import Mathlib.Data.List.Basic

/-!
Contract: a notifier with at most one stored permit, waited on by one task.

Owns: the states of such a notifier and its three operations, and that a signal
is never lost between them.

Does not own: who signals, and what the waiting task does once it has been woken.
-/

set_option autoImplicit false

namespace Ferrometer.Foundation

/-- A task that waits and a permit in store exclude each other: only a task that
has been woken and has not gone on yet can have a permit next to it. -/
inductive Notify where
  /-- Nobody waits. -/
  | idle (permit : Bool)
  | waiting
  /-- The waiting task has been woken. A later signal is stored. -/
  | woken (permit : Bool)
deriving DecidableEq

namespace Notify

def notifyOne : Notify → Notify
  | idle _ => idle true
  | waiting => woken false
  | woken _ => woken true

/-- Poll the future of the one waiting task: whether it is ready, and what is left. -/
def poll : Notify → Bool × Notify
  | idle true => (true, idle false)
  | idle false => (false, waiting)
  | waiting => (false, waiting)
  | woken permit => (true, idle permit)

/-- Drop the future. A signal that it has been given and has not used goes into store. -/
def drop : Notify → Notify
  | idle permit => idle permit
  | waiting => idle false
  | woken _ => idle true

/-- The next poll is ready. -/
def signalled : Notify → Bool
  | idle permit => permit
  | waiting => false
  | woken _ => true

@[simp] theorem signalled_notifyOne (notify : Notify) : notify.notifyOne.signalled = true := by
  cases notify <;> rfl

@[simp] theorem poll_ready (notify : Notify) : notify.poll.1 = notify.signalled := by
  cases notify with
  | idle permit => cases permit <;> rfl
  | waiting => rfl
  | woken permit => rfl

@[simp] theorem signalled_drop (notify : Notify) : notify.drop.signalled = notify.signalled := by
  cases notify <;> rfl

end Notify

end Ferrometer.Foundation
