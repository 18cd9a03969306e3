import Loyalty.Accrual.Breaker
import Loyalty.Text.Raw
import Loyalty.Url.Parse
import Loyalty.Wire.OrderAccrual
import Loyalty.Wire.Problem

/-!
# Asking the accrual service

A client asks for one order at a time. What comes back is sorted by its status: an answer, no
content, a request to wait, or something unexpected. The circuit breaker counts the requests
that fail and the unexpected replies; while the circuit is open the service is not asked.
-/

namespace Loyalty.Accrual

/-- A complete reply of the service, after all redirects. -/
structure Reply where
  status : Nat
  /-- The first `Retry-After` header. -/
  retryAfter : Option Text.Raw := none
  body : Text.Raw := ⟨[]⟩

inductive Exchange where
  /-- No complete reply, for this reason. -/
  | failed (reason : String)
  | answered (reply : Reply)

/-- The text of a header, which holds printable ASCII and tabs only. -/
def headerText? (r : Text.Raw) : Option String :=
  if r.bytes.all fun b => b = 9 || (32 ≤ b && b < 127) then r.text? else none

/-- The answer that a reply holds about an order, or why it holds none.

A body is taken as text as a whole, so it is refused for any byte that is part of no character. A
reader that goes by the bytes passes over such a byte where it stands in a string that no field asks
for, and reads the rest; that is left out here. -/
def Reply.read (r : Reply) (number : String) : Except AccrualError OrderAccrual :=
  if r.status = 200 then
    match r.body.text? with
    | none => .error (.unknown ("invalid body for order " ++ number))
    | some s =>
      match Json.decode Wire.orderAccrual s with
      | .ok a => .ok a
      | .error _ => .error (.unknown ("invalid body for order " ++ number))
  else if r.status = 204 then .error (.noContent number)
  else if r.status = 429 then
    .error (.retryAfter (AccrualError.retrySecs (r.retryAfter.bind headerText?) * 1000))
  else
    .error (.unknown ("unknown status code " ++ Http.statusText r.status ++ " for order " ++
      number))

def Exchange.read (number : String) : Exchange → Except AccrualError OrderAccrual
  | .failed reason => .error (.request reason)
  | .answered r => r.read number

structure Client where
  baseUrl : String
  breaker : Breaker

namespace Client

/-- How many failures in a row open the circuit, and for how many seconds at least. -/
def defaultThreshold : Nat := 5
@[inherit_doc defaultThreshold] def defaultResetSecs : Nat := 30

/-- Why there can be no client: a circuit must stay open for a second at least. -/
inductive SetupError where
  | noResetTime
  deriving DecidableEq, Repr

def SetupError.message : SetupError → String
  | .noResetTime => "start must be > 1s: 0"

/-- A new client; slashes at the end of the address are dropped. -/
def new (baseUrl : String) (threshold resetSecs : Nat) : Except SetupError Client :=
  if resetSecs = 0 then .error .noResetTime
  else .ok ⟨Text.dropTrailing '/' baseUrl, { threshold, resetSecs }⟩

/-- The address that is asked for an order. -/
def target (c : Client) (number : String) : String := c.baseUrl ++ "/api/orders/" ++ number

/-- The address can be asked: it is one of the web. -/
def isReachable (url : String) : Bool :=
  match Url.parse url with
  | .ok u => u.scheme = "http".toList || u.scheme = "https".toList
  | .error _ => false

/-- What a call gave: the answer, and whether the service was asked. -/
structure Call where
  answer : Except AccrualError OrderAccrual
  asked : Bool

def trips : Except AccrualError OrderAccrual → Bool
  | .ok _ => false
  | .error e => e.tripsBreaker

/-- Asks for an order; `exchange` is what comes of the request if there is one. -/
def ask (c : Client) (number : String) (exchange : Exchange) :
    Except Breaker.OpenError (Call × Client) :=
  if c.breaker.isOpen then
    .ok (⟨.error (.circuitOpen "accrual service circuit breaker is open"), false⟩, c)
  else
    let reachable := isReachable (c.target number)
    let answer := if reachable then exchange.read number
      else .error (.request "the address can't be asked")
    (c.breaker.record? (trips answer)).map fun breaker =>
      (⟨answer, reachable⟩, { c with breaker })

end Client

end Loyalty.Accrual
