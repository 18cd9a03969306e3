import Loyalty.Accrual.Answer
import Loyalty.Failure

/-!
# One order in a worker's hands

A worker asks the accrual service about an order and acts on the answer: it settles the order,
marks it as being processed, holds all calls back for a while, or leaves it for a later round.
`followUp` is that decision and `Request.outcome` what the worker reports once the order store
has answered. Neither knows about time.
-/

namespace Loyalty.Pipeline

/-- An order as it was when it was listed. The status may be out of date. -/
structure Ticket where
  number : String
  status : OrderStatus := .new
  deriving DecidableEq, Repr

/-- What a worker asks of the order store. -/
inductive Request where
  | finalize (number : String) (status : OrderStatus) (accrual : Option Decimal)
  | markProcessing (number : String)
  deriving DecidableEq, Repr

def Request.number : Request → String
  | .finalize number _ _ | .markProcessing number => number

/-- What a worker did with one order. -/
inductive Outcome where
  | finalized (status : OrderStatus)
  | alreadyProcessed
  | markedProcessing
  /-- Undecided at the service, and already known to be. -/
  | unchanged
  | rateLimited (wait : Nat)
  /-- Left as it is for a later round. -/
  | failed
  deriving DecidableEq, Repr

/-- What an answer of the accrual service leads to. -/
inductive FollowUp where
  | request (r : Request)
  | defer (wait : Nat)
  | leave (outcome : Outcome)
  deriving DecidableEq, Repr

/-- The decision on an answer about the order of a ticket. -/
def followUp (held : Ticket) : Except AccrualError OrderAccrual → FollowUp
  | .error (.noContent _) => .request (.finalize held.number .invalid none)
  | .error (.retryAfter wait) => .defer wait
  | .error _ => .leave .failed
  | .ok answer =>
    if answer.order ≠ held.number then .leave .failed
    else match answer.status with
      | .processed | .invalid =>
        .request (.finalize held.number answer.status.orderStatus answer.accrual)
      | .registered | .processing =>
        if held.status = .new then .request (.markProcessing held.number)
        else .leave .unchanged

/-- What the order store answers to a request: the request was carried out, it found no order
that it applies to, or it failed. -/
inductive StoreAnswer where
  | done
  | nothing
  | failure (cause : Failure)
  deriving DecidableEq, Repr

def Request.outcome : Request → StoreAnswer → Outcome
  | .finalize _ _ _, .failure (.orderAlreadyProcessed _) => .alreadyProcessed
  | _, .failure _ => .failed
  | .finalize _ status _, _ => .finalized status
  | .markProcessing _, .done => .markedProcessing
  | .markProcessing _, .nothing => .unchanged

/-- A request is about the order of the ticket that led to it. -/
theorem number_of_followUp {held : Ticket} {answer : Except AccrualError OrderAccrual}
    {r : Request} (h : followUp held answer = .request r) : r.number = held.number := by
  unfold followUp at h
  split at h
  · cases h; rfl
  · cases h
  · cases h
  · split at h
    · cases h
    · split at h
      · cases h; rfl
      · cases h; rfl
      · split at h <;> cases h; rfl
      · split at h <;> cases h; rfl

end Loyalty.Pipeline
