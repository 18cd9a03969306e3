import Loyalty.Store.Session

/-!
# Orders in the store

Each function is one statement, with the meaning of the refusals that have one.
-/

namespace Loyalty.Store

/-- A refusal that means an order is missing when there is no row. -/
def noOrder (number : String) : DatabaseError → Failure
  | .rowNotFound => .orderNotFound number
  | e => .database e

/-- Registers an order for a user and answers the order of that number, which must be the
user's. -/
def createOrder (number : String) (user : Uuid) : Db Order := do
  let id ← Db.fresh
  let now ← Db.now
  let stored ← Db.statement .createOrder (fun e =>
      if e.isForeignKeyViolation then .userNotFound user.toText else .database e)
    (State.on "orders" fun t => t.insertOrder ⟨id, number, user, .new, none, now, now⟩)
  if stored.user = user then return stored else Db.fail (.orderNumberTaken number)

def getOrder (number : String) : Db Order :=
  Db.statement .getOrder (noOrder number) (State.reading "orders" (·.selectOrder number))

/-- Reads an order and keeps others from changing it until the transaction ends. -/
def lockOrder (number : String) : Db Order :=
  Db.statement .lockOrder (noOrder number) (State.reading "orders" (·.selectOrder number))

/-- The orders of the given statuses, oldest first, at most `limit` of them. -/
def listOrders (statuses : List OrderStatus) (limit : Int) : Db (List Order) :=
  Db.statement .listOrders .database (State.reading "orders" (·.selectOrders statuses limit))

/-- The orders of a user, newest first. -/
def listUserOrders (user : Uuid) : Db (List Order) :=
  Db.statement .listUserOrders .database
    (State.reading "orders" fun t => .ok (t.selectUserOrders user))

/-- Sets the status and the accrual of an order where they are given. -/
def updateOrder (number : String) (status : Option OrderStatus) (accrual : Option Decimal) :
    Db Order := do
  let now ← Db.now
  Db.statement .updateOrder (noOrder number)
    (State.on "orders" (·.updateOrder number status accrual now))

/-- Moves an order from one status to another; none if it was not in the first. -/
def transitionOrder (number : String) (source target : OrderStatus) : Db (Option Order) := do
  let now ← Db.now
  Db.statement .transitionOrder .database
    (State.on "orders" (·.moveOrder number source target now))

end Loyalty.Store
