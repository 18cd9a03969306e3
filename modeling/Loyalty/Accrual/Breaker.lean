/-!
# The circuit breaker

After so many failures in a row no call is let through any more. Any other result of a call
begins the count anew. How long the circuit stays open is left to chance and not told here: an
open circuit stays open. At least half the time that was set is certain, and where the clock does
not reach that far the circuit can't open at all.
-/

namespace Loyalty.Accrual

/-- A circuit breaker that opens at `threshold` failures in a row, for about `resetSecs`
seconds. -/
structure Breaker where
  threshold : Nat
  resetSecs : Nat
  failures : Nat := 0
  isOpen : Bool := false
  deriving DecidableEq, Repr

namespace Breaker

/-- Why a circuit can't open. -/
inductive OpenError where
  | beyondClock
  deriving DecidableEq, Repr

def OpenError.message : OpenError → String
  | .beyondClock => "overflow when adding duration to instant"

def clockEnd : Nat := 9223372036854775807

/-- The clock reaches as far as the circuit would stay open. -/
def canOpen (b : Breaker) : Bool := b.resetSecs / 2 < clockEnd

/-- Counts the result of a call. -/
def record (b : Breaker) (failed : Bool) : Breaker :=
  if failed then
    { b with failures := b.failures + 1, isOpen := b.isOpen || b.threshold ≤ b.failures + 1 }
  else { b with failures := 0 }

/-- Counts the result of a call, unless the circuit would open and can't. -/
def record? (b : Breaker) (failed : Bool) : Except OpenError Breaker :=
  let next := b.record failed
  if next.isOpen && !b.isOpen && !b.canOpen then .error .beyondClock else .ok next

def word (b : Breaker) : String := if b.isOpen then "open" else "closed"

end Breaker

end Loyalty.Accrual
