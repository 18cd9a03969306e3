import Loyalty.Decimal.Basic
import Loyalty.Order.Status
import Loyalty.Text.Blank
import Loyalty.Whole

/-!
# Answers of the accrual service

The service answers about one order: its own number, a status of its own, and an accrual once
there is one. Anything else is an `AccrualError`. Only an undecided or failed request counts
against the circuit breaker; an order without content and a rate limit are orderly answers.
-/

namespace Loyalty

/-- How far the accrual service has come with an order. -/
inductive AccrualStatus where
  | registered
  | processing
  | invalid
  | processed
  deriving DecidableEq, Repr

namespace AccrualStatus

/-- All statuses, in the order in which they are listed to the reader. -/
def all : List AccrualStatus := [.registered, .processing, .invalid, .processed]

def name : AccrualStatus → String
  | .registered => "REGISTERED"
  | .processing => "PROCESSING"
  | .invalid => "INVALID"
  | .processed => "PROCESSED"

def ofName? (value : String) : Option AccrualStatus :=
  all.find? fun s => s.name == value

/-- What the status means for the order that is kept here. -/
def orderStatus : AccrualStatus → OrderStatus
  | .registered | .processing => .processing
  | .invalid => .invalid
  | .processed => .processed

end AccrualStatus

/-- What the accrual service says about one order. -/
structure OrderAccrual where
  order : String
  status : AccrualStatus
  accrual : Option Decimal
  deriving DecidableEq, Repr

/-- Why the accrual service gave no answer about an order. -/
inductive AccrualError where
  | noContent (number : String)
  /-- The service asks to be left alone for so many milliseconds. -/
  | retryAfter (wait : Nat)
  | unknown (detail : String)
  | request (detail : String)
  | circuitOpen (detail : String)
  deriving DecidableEq, Repr

namespace AccrualError

/-- The sentence that names the error; a wait is told in whole seconds. -/
def message : AccrualError → String
  | .noContent number => "no accrual registered for order " ++ number
  | .retryAfter wait => s!"rate limited, retry after {wait / 1000}s"
  | .unknown detail => "unexpected response from accrual service: " ++ detail
  | .request detail => "HTTP request failed: " ++ detail
  | .circuitOpen detail => "circuit breaker open: " ++ detail

def tripsBreaker : AccrualError → Bool
  | .request _ | .unknown _ => true
  | .noContent _ | .retryAfter _ | .circuitOpen _ => false

/-- The seconds to wait when the service does not say how long. -/
def defaultRetrySecs : Nat := 60

/-- The seconds that a `Retry-After` header asks for: a whole number of 64 bits between blanks;
anything else means the default. -/
def retrySecs (header : Option String) : Nat :=
  match header.map fun h => Text.parseNat Text.max64 (Text.trim h.toList) with
  | some (.ok secs) => secs
  | _ => defaultRetrySecs

end AccrualError

end Loyalty
