import Loyalty.Store.Statement

/-!
# A session with the database

A session runs statements one after the other on one connection. Within a transaction they work
on a draft of the store; a commit puts the draft in place of the store, and a failure drops it.
Outside of one each statement is its own transaction.

A statement can fail before it does anything: when there is no connection, or when a fault was
put on it. So every statement of an operation, its commit included, is a point at which the
operation may end.
-/

namespace Loyalty.Store

/-- A statement by what it does; the record of a session names them. -/
inductive Statement where
  | begin | commit
  | insertUser
  | createBalance | getBalance | lockBalance | creditBalance | debitBalance
  | createTransaction | listTransactions | countTransactions
  | createOrder | getOrder | lockOrder | listOrders | listUserOrders | updateOrder
  | transitionOrder
  | ping | countMigrations
  | createMigrationsTable | dirtyVersion | listMigrations | applyMigration | recordMigration
  deriving DecidableEq, Repr

def Statement.all : List Statement :=
  [.begin, .commit, .insertUser, .createBalance, .getBalance, .lockBalance, .creditBalance,
    .debitBalance, .createTransaction, .listTransactions, .countTransactions, .createOrder,
    .getOrder, .lockOrder, .listOrders, .listUserOrders, .updateOrder, .transitionOrder, .ping,
    .countMigrations, .createMigrationsTable, .dirtyVersion, .listMigrations, .applyMigration,
    .recordMigration]

def Statement.name : Statement → String
  | .begin => "begin"
  | .commit => "commit"
  | .insertUser => "insert_user"
  | .createBalance => "create_balance"
  | .getBalance => "get_balance"
  | .lockBalance => "lock_balance"
  | .creditBalance => "credit_balance"
  | .debitBalance => "debit_balance"
  | .createTransaction => "create_transaction"
  | .listTransactions => "list_transactions"
  | .countTransactions => "count_transactions"
  | .createOrder => "create_order"
  | .getOrder => "get_order"
  | .lockOrder => "lock_order"
  | .listOrders => "list_orders"
  | .listUserOrders => "list_user_orders"
  | .updateOrder => "update_order"
  | .transitionOrder => "transition_order"
  | .ping => "ping"
  | .countMigrations => "count_migrations"
  | .createMigrationsTable => "create_migrations_table"
  | .dirtyVersion => "dirty_version"
  | .listMigrations => "list_migrations"
  | .applyMigration => "apply_migration"
  | .recordMigration => "record_migration"

/-- A migration that was applied: its version, whether it went through, and whether its text is
still the same. -/
structure MigrationRow where
  version : Nat
  success : Bool
  unchanged : Bool
  deriving DecidableEq, Repr

def migrationVersion : Nat := 20250101000000

/-- All that the database keeps. The table of migrations may be missing, and the other tables
before the migration is applied. -/
structure State where
  tables : Tables := {}
  created : Bool := true
  migrations : Option (List MigrationRow) := some [⟨migrationVersion, true, true⟩]
  deriving DecidableEq, Repr

/-- How the database is reached. -/
inductive Link where
  | up
  /-- No connection comes about, for this reason. -/
  | down (reason : DatabaseError)
  /-- The pool of connections was closed. -/
  | closed
  deriving DecidableEq, Repr

/-- A fault that was put on a statement: after `skip` more calls the next one fails. -/
structure Fault where
  on : Statement
  skip : Nat := 0
  error : DatabaseError
  deriving DecidableEq, Repr

/-- A session: the store, the draft of an open transaction, and what else decides how statements
go. Identifiers are handed out by counting. -/
structure Session where
  store : State := {}
  draft : Option State := none
  link : Link := .up
  /-- How many connections there may be at once. -/
  maxConnections : Nat := 1
  faults : List Fault := []
  /-- The statements so far, the latest first. -/
  trace : List Statement := []
  now : Timestamp := ⟨0, 0⟩
  serial : Nat := 1
  deriving DecidableEq, Repr

/-- What befalls a call of a statement, and the faults that are left. -/
def strike (st : Statement) : List Fault → Option DatabaseError × List Fault
  | [] => (none, [])
  | f :: fs =>
    if f.on = st then
      match f.skip with
      | 0 => (some f.error, fs)
      | n + 1 => (none, { f with skip := n } :: fs)
    else
      let (e, fs) := strike st fs
      (e, f :: fs)

namespace Session

/-- What the statements of the session see. -/
def view (s : Session) : State := s.draft.getD s.store

/-- Puts what a statement has written where the statements of the session see it. -/
def put (s : Session) (d : State) : Session :=
  match s.draft with
  | some _ => { s with draft := some d }
  | none => { s with store := d }

/-- A connection is there, or comes about. -/
def connect (s : Session) : Answer Unit :=
  match s.draft, s.link with
  | some _, _ | none, .up => .ok ()
  | none, .down reason => .error reason
  | none, .closed => .error .poolClosed

/-- Runs a statement. -/
def call {α : Type} (s : Session) (st : Statement) (run : State → Answer (α × State)) :
    Answer α × Session :=
  match s.connect with
  | .error e => (.error e, s)
  | .ok _ =>
    let (fault, faults) := strike st s.faults
    let s := { s with faults, trace := st :: s.trace }
    match fault with
    | some e => (.error e, s)
    | none =>
      match run s.view with
      | .error e => (.error e, s)
      | .ok (a, d) => (.ok a, s.put d)

end Session

/-! ### Operations -/

/-- An operation on the database: it gives a result or fails, and leaves a session behind. -/
def Db (α : Type) := Session → Except Failure α × Session

namespace Db

def pure {α : Type} (a : α) : Db α := fun s => (.ok a, s)

/-- One operation after another; a failure ends both. -/
def bind {α β : Type} (x : Db α) (f : α → Db β) : Db β := fun s =>
  match x s with
  | (.ok a, s) => f a s
  | (.error e, s) => (.error e, s)

instance : Monad Db where
  pure := Db.pure
  bind := Db.bind

def fail {α : Type} (e : Failure) : Db α := fun s => (.error e, s)

def check {α : Type} : Except Failure α → Db α
  | .ok a => Db.pure a
  | .error e => fail e

/-- A statement, with the meaning of each refusal for the one who asked. -/
def statement {α : Type} (st : Statement) (explain : DatabaseError → Failure)
    (run : State → Answer (α × State)) : Db α := fun s =>
  let (answer, s) := s.call st run
  (answer.mapError explain, s)

/-- The time. No two readings of the clock are the same. -/
def now : Db Timestamp := fun s => (.ok s.now, { s with now := s.now.next })

/-- An identifier that was not handed out before. -/
def fresh : Db Uuid := fun s => (.ok ⟨BitVec.ofNat 128 s.serial⟩, { s with serial := s.serial + 1 })

/-- The operation as one transaction: its statements take effect together, or not at all. -/
def transaction {α : Type} (body : Db α) : Db α := fun s =>
  match s.call .begin fun d => .ok ((), d) with
  | (.error e, s) => (.error (.database e), s)
  | (.ok _, s) =>
    match body { s with draft := some s.store } with
    | (.error e, s) => (.error e, { s with draft := none })
    | (.ok a, s) =>
      match s.call .commit fun d => .ok ((), d) with
      | (.error e, s) => (.error (.database e), { s with draft := none })
      | (.ok _, s) => (.ok a, { s with store := s.view, draft := none })

end Db

/-- A statement on a table that must exist. -/
def State.on {α : Type} (table : String) (run : Tables → Answer (α × Tables)) (d : State) :
    Answer (α × State) :=
  if d.created then (run d.tables).map fun (a, tables) => (a, { d with tables })
  else .error (noTable table)

def State.reading {α : Type} (table : String) (run : Tables → Answer α) (d : State) :
    Answer (α × State) :=
  d.on table fun t => (run t).map fun a => (a, t)

end Loyalty.Store
