import Loyalty.Failure
import Loyalty.Store.Tables

/-!
# Statements on the tables

What each statement reads and writes, and when the database refuses it. A column of amounts takes
the nearest hundredth of a value, up to ten to the eighteenth. Of several reasons to refuse a new
row the first counts: an amount that does not fit, one that breaks a check, a key that is taken,
a user that does not exist.
-/

namespace Loyalty.Store

/-- The answer of a statement, or the refusal of the database. -/
abbrev Answer (α : Type) := Except DatabaseError α

/-! ### Refusals -/

def noTable (table : String) : DatabaseError :=
  .server "42P01" ("relation \"" ++ table ++ "\" does not exist")

def zeroByte : DatabaseError :=
  .server "22021" "invalid byte sequence for encoding \"UTF8\": 0x00"

/-- An amount does not fit its column. -/
def overflow : DatabaseError := .server "22003" "numeric field overflow"

def checkViolation (table column rule : String) : DatabaseError :=
  .server "23514" ("new row for relation \"" ++ table ++ "\" violates check constraint \"" ++
    table ++ "_" ++ column ++ "_" ++ rule ++ "\"")

def uniqueViolation (key : String) : DatabaseError :=
  .server "23505" ("duplicate key value violates unique constraint \"" ++ key ++ "\"")

/-- A row belongs to a user that does not exist. -/
def noUser (table : String) : DatabaseError :=
  .server "23503" ("insert or update on table \"" ++ table ++
    "\" violates foreign key constraint \"" ++ table ++ "_user_id_fkey\"")

/-- A listing of a negative number of rows. -/
def negativeLimit : DatabaseError := .server "2201W" "LIMIT must not be negative"

def takeText (s : String) : Answer Unit :=
  if s.toList.contains '\x00' then .error zeroByte else .ok ()

/-- The hundredths that a column keeps of a value. -/
def takeAmount (d : Decimal) : Answer Int :=
  match d.toCents? with
  | some n => .ok n
  | none => .error overflow

def require (condition : Bool) (e : DatabaseError) : Answer Unit :=
  if condition then .ok () else .error e

/-- The row, or the refusal that there is none. -/
def found {α : Type} : Option α → Answer α
  | some a => .ok a
  | none => .error .rowNotFound

namespace Tables

/-! ### Users and balances -/

def insertUser (t : Tables) (row : UserRow) : Answer (User × Tables) := do
  takeText row.username
  require (!t.hasUser row.id) (uniqueViolation "users_pkey")
  require (!t.users.any (·.username = row.username)) (uniqueViolation "users_username_key")
  return (row.record, { t with users := t.users ++ [row] })

/-- Adds a balance of nothing. -/
def insertBalance (t : Tables) (id user : Uuid) : Answer (Balance × Tables) := do
  require (t.balance? user).isNone (uniqueViolation "balances_user_id_key")
  require (t.hasUser user) (noUser "balances")
  let row : BalanceRow := ⟨id, user, 0, 0⟩
  return (row.record, { t with balances := t.balances ++ [row] })

def selectBalance (t : Tables) (user : Uuid) : Answer Balance := do
  return (← found (t.balance? user)).record

/-- The values of a balance that are to be stored, if they can be. -/
def storeBalance (t : Tables) (row : BalanceRow) (current withdrawn : Decimal) :
    Answer (Balance × Tables) := do
  let current ← takeAmount current
  let withdrawn ← takeAmount withdrawn
  require (0 ≤ current) (checkViolation "balances" "current" "non_negative")
  require (0 ≤ withdrawn) (checkViolation "balances" "withdrawn" "non_negative")
  let row := { row with current, withdrawn }
  return (row.record, t.setBalance row)

/-- Adds an amount to what can be withdrawn. -/
def creditBalance (t : Tables) (user : Uuid) (amount : Decimal) : Answer (Balance × Tables) := do
  let row ← found (t.balance? user)
  t.storeBalance row ((Decimal.ofCents row.current).add amount) (.ofCents row.withdrawn)

/-- Moves an amount from what can be withdrawn to what was. -/
def debitBalance (t : Tables) (user : Uuid) (amount : Decimal) : Answer (Balance × Tables) := do
  let row ← found (t.balance? user)
  t.storeBalance row ((Decimal.ofCents row.current).add amount.neg)
    ((Decimal.ofCents row.withdrawn).add amount)

/-! ### Ledger entries -/

def insertEntry (t : Tables) (e : Entry) : Answer (Entry × Tables) := do
  takeText e.order
  let amount ← takeAmount e.amount
  require (0 < amount) (checkViolation "transactions" "amount" "positive")
  require (t.entry? e.kind e.order).isNone (uniqueViolation "transactions_type_order_unique")
  require (t.hasUser e.user) (noUser "transactions")
  let row : EntryRow := ⟨e.id, e.processedAt, e.user, e.order, e.kind, amount⟩
  return (row.record, { t with entries := t.entries ++ [row] })

def selectEntries (t : Tables) (user : Uuid) (kinds : List EntryKind) : List Entry :=
  (((t.entriesOf user).filter fun e => e.kind ∈ kinds).reverse).map EntryRow.record

def countEntries (t : Tables) (number : String) (kind : EntryKind) : Answer Nat := do
  takeText number
  return (t.entries.filter fun e => e.order = number && e.kind = kind).length

/-! ### Orders -/

/-- Adds an order unless its number is there, and answers the order of that number. -/
def insertOrder (t : Tables) (row : OrderRow) : Answer (Order × Tables) := do
  takeText row.number
  match t.order? row.number with
  | some stored => return (stored.record, t)
  | none =>
    require (t.hasUser row.user) (noUser "orders")
    return (row.record, { t with orders := t.orders ++ [row] })

def selectOrder (t : Tables) (number : String) : Answer Order := do
  takeText number
  return (← found (t.order? number)).record

def selectOrders (t : Tables) (statuses : List OrderStatus) (limit : Int) :
    Answer (List Order) := do
  require (0 ≤ limit) negativeLimit
  return ((t.orders.filter fun o => o.status ∈ statuses).take limit.toNat).map OrderRow.record

def selectUserOrders (t : Tables) (user : Uuid) : List Order :=
  ((t.orders.filter (·.user = user)).reverse).map OrderRow.record

def updateOrder (t : Tables) (number : String) (status : Option OrderStatus)
    (accrual : Option Decimal) (now : Timestamp) : Answer (Order × Tables) := do
  takeText number
  let row ← found (t.order? number)
  let given ← accrual.mapM takeAmount
  let row := { row with
    status := status.getD row.status
    accrual := given <|> row.accrual
    modifiedAt := if status.isNone && accrual.isNone then row.modifiedAt else now }
  return (row.record, t.setOrder row)

def moveOrder (t : Tables) (number : String) (source target : OrderStatus) (now : Timestamp) :
    Answer (Option Order × Tables) := do
  takeText number
  match t.order? number with
  | none => return (none, t)
  | some row =>
    if row.status = source then
      let row := { row with status := target, modifiedAt := now }
      return (some row.record, t.setOrder row)
    else return (none, t)

end Tables

end Loyalty.Store
