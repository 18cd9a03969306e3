import Loyalty.Settings.Basic
import Loyalty.Startup.Report
import Loyalty.Store.Migrations

/-!
# The checks at the start

The settings, the database, its tables and the accrual service are looked at in this order. A
check that fails doesn't keep the next one from being made, except that tables are not looked at
in a database that does not answer.
-/

namespace Loyalty

open Loyalty.Store

/-- A sentence with the causes behind it, divided by colons. -/
def withCauses (sentence : String) (causes : List String) : String :=
  ": ".intercalate (sentence :: causes)

namespace StartupReport

/-- Looks at the settings; at the start the server needs a port of its own. -/
def checkSettings (s : Settings) (r : StartupReport) : StartupReport :=
  let problem? : Option String :=
    if s.serverPort = 0 then some (SettingsError.notAboveZero "SERVER_PORT").message
    else match s.validate with
      | .ok _ => none
      | .error e => some e.message
  match problem? with
  | none => r
  | some problem =>
    { r with environment := false, errors := r.errors ++ ["Environment: " ++ problem] }

/-- Looks at the tables: a migration must have been applied. -/
def checkMigrations (s : Session) (r : StartupReport) : StartupReport × Session :=
  let failed (problem : String) : StartupReport :=
    { r with migrations := false, errors := r.errors ++ ["Migrations: " ++ problem] }
  match countMigrations s with
  | (.ok 0, s) => (failed "No migrations applied", s)
  | (.ok _, s) => (r, s)
  | (.error e, s) => (failed (withCauses "Failed to check migrations table" e.chain), s)

/-- Looks at the database and then at its tables. -/
def checkDatabase (s : Session) (r : StartupReport) : StartupReport × Session :=
  match ping s with
  | (.ok _, s) => r.checkMigrations s
  | (.error _, s) =>
    ({ r with
        database := false
        migrations := false
        errors := r.errors ++ ["Database: Failed to connect to database"] }, s)

/-- Takes in whether the accrual service answers, and if it does not, why. -/
def checkAccrual (reached : Except (List String) Unit) (r : StartupReport) : StartupReport :=
  match reached with
  | .ok _ => r
  | .error causes =>
    { r with
      accrual := false
      errors := r.errors ++ ["Accrual: " ++ withCauses "Failed to connect to accrual system" causes] }

/-- The report on the start. `reached` tells whether the accrual service answers. -/
def examine (settings : Settings) (reached : Except (List String) Unit) (s : Session) :
    StartupReport × Session :=
  let (r, s) := (({} : StartupReport).checkSettings settings).checkDatabase s
  (r.checkAccrual reached, s)

end StartupReport

end Loyalty
