/-!
# The status of an order

An order is `new` when it is registered, `processing` while the accrual service still works
on it, and ends as `invalid` or `processed`. The last two are terminal; the first two are the
ones that still have to be resolved.
-/

namespace Loyalty

/-- A name that stands for nothing of its kind. -/
structure UnknownName where
  kind : String
  value : String
  deriving DecidableEq, Repr

def UnknownName.message (e : UnknownName) : String :=
  s!"unknown {e.kind}: {e.value}"

/-- How far an order has come. -/
inductive OrderStatus where
  | new
  | processing
  | invalid
  | processed
  deriving DecidableEq, Repr

namespace OrderStatus

/-- All statuses, in the order in which they are listed to the reader. -/
def all : List OrderStatus := [.new, .processing, .invalid, .processed]

/-- The statuses that still have to be resolved. -/
def pending : List OrderStatus := [.new, .processing]

def name : OrderStatus → String
  | .new => "new"
  | .processing => "processing"
  | .invalid => "invalid"
  | .processed => "processed"

/-- The status never changes again. -/
def isTerminal : OrderStatus → Bool
  | .invalid | .processed => true
  | .new | .processing => false

def ofName (value : String) : Except UnknownName OrderStatus :=
  match all.find? fun s => s.name == value with
  | some s => .ok s
  | none => .error ⟨"order status", value⟩

theorem mem_pending_iff (s : OrderStatus) : s ∈ pending ↔ s.isTerminal = false := by
  cases s <;> decide

end OrderStatus

end Loyalty
