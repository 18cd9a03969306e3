import Loyalty.Store.Session

/-!
# Users, balances and ledger entries in the store

Each function is one statement, with the meaning of the refusals that have one. A new user is
the exception: it comes with a balance, in one transaction.
-/

namespace Loyalty.Store

/-- A refusal that means a user is missing when there is no row. -/
def noBalance (user : Uuid) : DatabaseError → Failure
  | .rowNotFound => .userNotFound user.toText
  | e => .database e

def createBalance (user : Uuid) : Db Balance := do
  let id ← Db.fresh
  Db.statement .createBalance (fun e =>
      if e.isUniqueViolation then
        .validation ("balance for user " ++ user.toText ++ " already exists")
      else if e.isForeignKeyViolation then .userNotFound user.toText
      else .database e)
    (State.on "balances" fun t => t.insertBalance id user)

/-- Adds a user with a balance of nothing. -/
def createUser (username : String) : Db User :=
  Db.transaction do
    let id ← Db.fresh
    let now ← Db.now
    let user ← Db.statement .insertUser (fun e =>
        if e.isUniqueViolation then .validation ("username " ++ username ++ " is already taken")
        else .database e)
      (State.on "users" fun t => t.insertUser ⟨id, username, now⟩)
    let _ ← createBalance user.id
    return user

def getBalance (user : Uuid) : Db Balance :=
  Db.statement .getBalance (noBalance user) (State.reading "balances" (·.selectBalance user))

/-- Reads the balance of a user and keeps others from changing it until the transaction ends. -/
def lockBalance (user : Uuid) : Db Balance :=
  Db.statement .lockBalance (noBalance user) (State.reading "balances" (·.selectBalance user))

/-- A new ledger entry, which no table holds yet. -/
def newEntry (user : Uuid) (order : String) (kind : EntryKind) (amount : Decimal) : Db Entry := do
  let id ← Db.fresh
  let processedAt ← Db.now
  return { id, processedAt, user, order, kind, amount }

/-- Adds a ledger entry. There is at most one of each kind for an order number. -/
def createTransaction (e : Entry) : Db Entry :=
  Db.statement .createTransaction (fun error =>
      if error.isUniqueViolation then .transactionExists e.order
      else if error.isForeignKeyViolation then .userNotFound e.user.toText
      else .database error)
    (State.on "transactions" fun t => t.insertEntry e)

/-- Brings a ledger entry to the balance of its user. -/
def updateBalance (e : Entry) : Db Balance :=
  let explain (error : DatabaseError) : Failure :=
    if error.isCheckViolation then .insufficientBalance else noBalance e.user error
  match e.kind with
  | .accrual =>
    Db.statement .creditBalance explain (State.on "balances" (·.creditBalance e.user e.amount))
  | .withdrawal =>
    Db.statement .debitBalance explain (State.on "balances" (·.debitBalance e.user e.amount))

/-- The entries of a user of the given kinds, newest first. -/
def listTransactions (user : Uuid) (kinds : List EntryKind) : Db (List Entry) :=
  Db.statement .listTransactions .database
    (State.reading "transactions" fun t => .ok (t.selectEntries user kinds))

def countTransactions (number : String) (kind : EntryKind) : Db Nat :=
  Db.statement .countTransactions .database
    (State.reading "transactions" (·.countEntries number kind))

end Loyalty.Store
