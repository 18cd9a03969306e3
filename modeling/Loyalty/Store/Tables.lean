import Loyalty.Decimal.Cents
import Loyalty.Records

/-!
# The tables

Four tables keep users, balances, orders and ledger entries, each in the order of creation.
Amounts are kept in hundredths. A row is answered as a record, in which an amount has no places
when it is whole and four otherwise.
-/

namespace Loyalty.Store

structure UserRow where
  id : Uuid
  username : String
  createdAt : Timestamp
  deriving DecidableEq, Repr

structure BalanceRow where
  id : Uuid
  user : Uuid
  current : Int
  withdrawn : Int
  deriving DecidableEq, Repr

structure OrderRow where
  id : Uuid
  number : String
  user : Uuid
  status : OrderStatus
  accrual : Option Int
  uploadedAt : Timestamp
  modifiedAt : Timestamp
  deriving DecidableEq, Repr

structure EntryRow where
  id : Uuid
  processedAt : Timestamp
  user : Uuid
  order : String
  kind : EntryKind
  amount : Int
  deriving DecidableEq, Repr

/-- All tables, each in the order of creation. -/
structure Tables where
  users : List UserRow := []
  balances : List BalanceRow := []
  orders : List OrderRow := []
  entries : List EntryRow := []
  deriving DecidableEq, Repr

def UserRow.record (r : UserRow) : User := ⟨r.id, r.username, r.createdAt⟩

def BalanceRow.record (r : BalanceRow) : Balance :=
  ⟨r.id, r.user, .ofColumn r.current, .ofColumn r.withdrawn⟩

def OrderRow.record (r : OrderRow) : Order :=
  ⟨r.id, r.number, r.user, r.status, r.accrual.map .ofColumn, r.uploadedAt, r.modifiedAt⟩

def EntryRow.record (r : EntryRow) : Entry :=
  ⟨r.id, r.processedAt, r.user, r.order, r.kind, .ofColumn r.amount⟩

namespace Tables

def hasUser (t : Tables) (user : Uuid) : Bool := t.users.any (·.id = user)

def balance? (t : Tables) (user : Uuid) : Option BalanceRow :=
  t.balances.find? (·.user = user)

def order? (t : Tables) (number : String) : Option OrderRow :=
  t.orders.find? (·.number = number)

def entry? (t : Tables) (kind : EntryKind) (number : String) : Option EntryRow :=
  t.entries.find? fun e => e.kind = kind && e.order = number

def entriesOf (t : Tables) (user : Uuid) : List EntryRow :=
  t.entries.filter (·.user = user)

/-- Puts a balance in the place of the one its user has. -/
def setBalance (t : Tables) (row : BalanceRow) : Tables :=
  { t with balances := t.balances.map fun b => if b.user = row.user then row else b }

/-- Puts an order in the place of the one of its number. -/
def setOrder (t : Tables) (row : OrderRow) : Tables :=
  { t with orders := t.orders.map fun o => if o.number = row.number then row else o }

end Tables

end Loyalty.Store
