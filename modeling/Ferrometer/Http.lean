import Ferrometer.Time

/-!
Contract: what the agent sees of an HTTP exchange.

Owns: status codes, what an endpoint does with one request over time, and a
client whose timeout bounds the whole request.

Does not own: what a request says, or the text of the client's own errors.
`timedOut` stands for the one of a request that has run out of time.
-/

set_option autoImplicit false

namespace Ferrometer

open Ferrometer.Config

/-- A status line, with the text that the code is displayed as. -/
structure StatusCode where
  code : Nat
  display : String
deriving DecidableEq

def StatusCode.isSuccess (status : StatusCode) : Bool :=
  200 ≤ status.code ∧ status.code < 300

/-- The body of an answer, by when it has come after the head. -/
inductive BodyAnswer where
  | whole (after : Duration) (text : String)
  | broken (after : Duration) (message : String)
  | stalls
deriving DecidableEq

/-- What an endpoint does with one request, by how long it takes. -/
inductive Endpoint where
  | refuses (after : Duration) (message : String)
  | answers (after : Duration) (status : StatusCode) (body : BodyAnswer)
  | silent
deriving DecidableEq

/-- What is there after `elapsed`, if the timeout has not come first. -/
def within {Item : Type} (timeout elapsed : Duration) (timedOut : String)
    (outcome : Except String Item) : Duration × Except String Item :=
  if elapsed < timeout then (elapsed, outcome) else (timeout, .error timedOut)

variable (timeout : Duration) (timedOut : String)

/-- `send().await`, and when it is over. -/
def Endpoint.send : Endpoint → Duration × Except String (StatusCode × BodyAnswer)
  | .refuses after message => within timeout after timedOut (.error message)
  | .answers after status body => within timeout after timedOut (.ok (status, body))
  | .silent => (timeout, .error timedOut)

/-- `text().await` on an answer whose head has come after `elapsed`. -/
def BodyAnswer.text (elapsed : Duration) : BodyAnswer → Duration × Except String String
  | .whole after text => within timeout (elapsed + after) timedOut (.ok text)
  | .broken after message => within timeout (elapsed + after) timedOut (.error message)
  | .stalls => (timeout, .error timedOut)

end Ferrometer
