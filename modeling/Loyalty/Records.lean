import Loyalty.Decimal.Basic
import Loyalty.Ledger.Kind
import Loyalty.Order.Status
import Loyalty.Timestamp.Basic
import Loyalty.Uuid

/-!
# Users, orders, balances and ledger entries

The rows that the services answer with. A user has one balance; an order belongs to one user
and may carry an accrual; a ledger entry belongs to a user and names an order number, which
need not be that of a registered order.
-/

namespace Loyalty

structure User where
  id : Uuid
  username : String
  createdAt : Timestamp
  deriving DecidableEq, Repr

structure Order where
  id : Uuid
  number : String
  user : Uuid
  status : OrderStatus
  accrual : Option Decimal
  uploadedAt : Timestamp
  modifiedAt : Timestamp
  deriving DecidableEq, Repr

/-- A user's points: those that can be withdrawn, and those that were. -/
structure Balance where
  id : Uuid
  user : Uuid
  current : Decimal
  withdrawn : Decimal
  deriving DecidableEq, Repr

structure Entry where
  id : Uuid
  processedAt : Timestamp
  user : Uuid
  order : String
  kind : EntryKind
  amount : Decimal
  deriving DecidableEq, Repr

end Loyalty
