/-!
# The report on the start of the service

Before it serves, the program looks at four things: its settings, the database, whether the
tables are set up, and the accrual service. The report tells how each of them was found and
lists what was wrong. The accrual service may be down: it is asked again and again later.
-/

namespace Loyalty

/-- What was found at the start, and the errors in the order in which they came up. -/
structure StartupReport where
  environment : Bool := true
  database : Bool := true
  migrations : Bool := true
  accrual : Bool := true
  errors : List String := []
  deriving DecidableEq, Repr

namespace StartupReport

/-- The service can start; it does not need the accrual service for that. -/
def isValid (r : StartupReport) : Bool :=
  r.environment && r.database && r.migrations

/-- How a check is told. -/
def verdict (ok : Bool) : String := if ok then "✅ OK" else "❌ FAIL"

/-- The lines above the errors. -/
def checks (r : StartupReport) : List String :=
  ["", "=== Startup Validation Report ===",
    "Environment Variables: " ++ verdict r.environment,
    "Database Connectivity: " ++ verdict r.database,
    "Migrations Applied:    " ++ verdict r.migrations,
    "Accrual System:        " ++ verdict r.accrual]

def errorTexts (r : StartupReport) : List String :=
  r.errors.map ("  ❌ " ++ ·)

def conclusion (r : StartupReport) : List String :=
  ["", "Overall Status: " ++ (if r.isValid then "✅ PASS" else "❌ FAIL"),
    "=================================", ""]

/-- Everything that is printed but the errors themselves. -/
def frame (r : StartupReport) : List String :=
  r.checks ++ (if r.errors.isEmpty then [] else ["", "Errors:"]) ++ r.conclusion

def text (r : StartupReport) : String :=
  let lines := r.checks ++ (if r.errors.isEmpty then [] else ["", "Errors:"] ++ r.errorTexts)
    ++ r.conclusion
  String.join (lines.map (· ++ "\n"))

end StartupReport

end Loyalty
