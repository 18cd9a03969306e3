import Loyalty.CommandLine.Grammar
import Loyalty.CommandLine.Outcome
import Loyalty.Service
import Loyalty.Settings.Environment
import Loyalty.Settings.Show
import Loyalty.Startup.Check
import Loyalty.Store.Address

/-!
# Running a command

A line is read first, then the settings; all commands but one open the database after that. The
server prints the report on its start and goes on only if that is good.
-/

namespace Loyalty.CommandLine

open Loyalty.Store

/-- A command that is one operation, and the lines that it prints about the result. -/
def runDb {α : Type} (op : Db α) (tell : α → List String) (s : Session) : Outcome × Session :=
  match op s with
  | (.ok a, s) => ({ printed := lines (tell a) }, s)
  | (.error f, s) => ({ failure := some f.chain }, s)

def showBalance (user : Uuid) : Session → Outcome × Session :=
  runDb (getBalance user) (balanceLines user)

def showWithdrawals (user : Uuid) : Session → Outcome × Session :=
  runDb (Service.listWithdrawals user) withdrawalLines

def withdraw (user : Uuid) (order : String) (amount : Decimal) : Session → Outcome × Session :=
  runDb (Service.withdraw user order amount) (withdrawnLines amount order)

def migrate (s : Session) : Outcome × Session :=
  match runMigrations s with
  | (.ok _, s) => ({ printed := lines ["✓ Database migrations completed"] }, s)
  | (.error e, s) => ({ failure := some e.chain }, s)

/-- How a command ends: it is over, or the server is up and has printed its report. -/
inductive Ending where
  | finished (outcome : Outcome)
  | serving (settings : Settings) (report : StartupReport)

/-- Starts the server. `reached` tells whether the accrual service answers. -/
def start (settings : Settings) (reached : Except (List String) Unit) (s : Session) :
    Ending × Session :=
  match runMigrations s with
  | (.error e, s) => (.finished { failure := some e.chain }, s)
  | (.ok _, s) =>
    let (report, s) := StartupReport.examine settings reached s
    if report.isValid then
      match connect s with
      | (.ok _, s) => (.serving settings report, s)
      | (.error f, s) => (.finished { printed := report.text, failure := some f.chain }, s)
    else
      (.finished { printed := report.text, failure := some ["Startup validation failed"] }, s)

def runOpen (settings : Settings) (reached : Except (List String) Unit) (s : Session) :
    Command → Ending × Session
  | .serve => start settings reached s
  | .config => (.finished { printed := settings.summary }, s)
  | .migrate => finished (migrate s)
  | .balance user => finished (showBalance user s)
  | .withdrawals user => finished (showWithdrawals user s)
  | .withdraw user order amount => finished (withdraw user order amount s)
where
  /-- The command is over with its outcome. -/
  finished (r : Outcome × Session) : Ending × Session := (.finished r.1, r.2)

def runCommand (settings : Settings) (reached : Except (List String) Unit) (s : Session)
    (c : Command) : Ending × Session :=
  if c = .config then runOpen settings reached s c
  else match openPool settings.databaseUrl settings.databaseMaxConnections s with
    | .ok s => runOpen settings reached s c
    | .error e => (.finished { failure := some e.chain }, s)

/-- Runs the program on a line and an environment. A line without a command starts the server. -/
def run (line : List Text.Raw) (env : Environment) (reached : Except (List String) Unit)
    (s : Session) : Except UsageError (Ending × Session) := do
  let command := (← parse line).getD .serve
  match env.settings with
  | .error e => return (.finished { failure := some e.chain }, s)
  | .ok settings => return runCommand settings reached s command

end Loyalty.CommandLine
