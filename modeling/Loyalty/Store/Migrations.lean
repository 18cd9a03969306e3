import Loyalty.Store.Session

/-!
# Migrations

The tables are made by one migration. The database remembers which migrations were applied;
before anything is done these are compared with the one that there is.
-/

namespace Loyalty.Store

/-- Why the migrations could not be run. -/
inductive MigrationError where
  | database (cause : DatabaseError)
  | dirty (version : Nat)
  | missing (version : Nat)
  | changed (version : Nat)
  deriving DecidableEq, Repr

def MigrationError.message : MigrationError → String
  | .database cause => "while executing migrations: " ++ cause.message
  | .dirty v => s!"migration {v} is partially applied; fix and remove row from `_sqlx_migrations` table"
  | .missing v =>
    s!"migration {v} was previously applied but is missing in the resolved migrations"
  | .changed v => s!"migration {v} was previously applied but has been modified"

/-- The sentence of the error and those of the causes behind it, outermost first. -/
def MigrationError.chain (e : MigrationError) : List String :=
  e.message ::
    match e with
    | .database cause => cause.chain
    | _ => []

/-- An operation that fails with what went wrong with the migrations. -/
abbrev Migrating (α : Type) := Session → Except MigrationError α × Session

def Migrating.statement {α : Type} (s : Session) (st : Statement)
    (run : State → Answer (α × State)) : Except MigrationError α × Session :=
  let (answer, s) := s.call st run
  (answer.mapError .database, s)

def migrationRows (d : State) : Answer (List MigrationRow × State) :=
  match d.migrations with
  | some rows => .ok (rows, d)
  | none => .error (noTable "_sqlx_migrations")

/-- What the applied migrations leave to be done. -/
def pendingMigration (rows : List MigrationRow) : Except MigrationError Bool :=
  match rows.find? (·.version ≠ migrationVersion) with
  | some row => .error (.missing row.version)
  | none =>
    match rows.find? (·.version = migrationVersion) with
    | none => .ok true
    | some row => if row.unchanged then .ok false else .error (.changed row.version)

/-- Makes the tables and remembers that they are made, in one transaction. -/
def applyMigration (s : Session) : Except MigrationError Unit × Session :=
  match Migrating.statement s .begin fun d => .ok ((), d) with
  | (.error e, s) => (.error e, s)
  | (.ok _, s) =>
    let s := { s with draft := some s.store }
    let closed (s : Session) : Session := { s with draft := none }
    match Migrating.statement s .applyMigration fun d => .ok ((), { d with created := true }) with
    | (.error e, s) => (.error e, closed s)
    | (.ok _, s) =>
      match Migrating.statement s .recordMigration fun d => .ok ((), { d with
        migrations := some ((d.migrations.getD []) ++ [⟨migrationVersion, true, true⟩]) }) with
      | (.error e, s) => (.error e, closed s)
      | (.ok _, s) =>
        match Migrating.statement s .commit fun d => .ok ((), d) with
        | (.error e, s) => (.error e, closed s)
        | (.ok _, s) => (.ok (), closed { s with store := s.view })

def runMigrations (s : Session) : Except MigrationError Unit × Session :=
  match Migrating.statement s .createMigrationsTable fun d =>
      .ok ((), { d with migrations := some (d.migrations.getD []) }) with
  | (.error e, s) => (.error e, s)
  | (.ok _, s) =>
    match Migrating.statement s .dirtyVersion fun d =>
        (migrationRows d).map fun (rows, d) => (rows.find? (!·.success), d) with
    | (.error e, s) => (.error e, s)
    | (.ok (some row), s) => (.error (.dirty row.version), s)
    | (.ok none, s) =>
      match Migrating.statement s .listMigrations migrationRows with
      | (.error e, s) => (.error e, s)
      | (.ok rows, s) =>
        match pendingMigration rows with
        | .error e => (.error e, s)
        | .ok false => (.ok (), s)
        | .ok true => applyMigration s

def countMigrations (s : Session) : Answer Nat × Session :=
  s.call .countMigrations fun d => (migrationRows d).map fun (rows, d) => (rows.length, d)

def ping (s : Session) : Answer Unit × Session := s.call .ping fun d => .ok ((), d)

/-- The database answers, or the operation fails. -/
def connect : Db Unit := fun s =>
  let (answer, s) := ping s
  (answer.mapError .database, s)

end Loyalty.Store
