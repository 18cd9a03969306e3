import Loyalty.Text.Raw
import Loyalty.Url.Parse
import Loyalty.Whole

/-!
# Settings

What the service is started with: its own port, where the database and the accrual service are,
and how the pipeline works. Settings are valid when every number that must be above zero is, and
the address of the accrual service is one.
-/

namespace Loyalty

open Loyalty.Text

/-- How the log is written. -/
inductive LogFormat where
  | text
  | json
  deriving DecidableEq, Repr

def LogFormat.name : LogFormat → String
  | .text => "text"
  | .json => "json"

structure Settings where
  serverPort : Nat := 8000
  databaseUrl : String
  databaseMaxConnections : Nat := 10
  accrualAddress : String := "http://localhost:3000"
  workers : Nat := 10
  pollIntervalSecs : Nat := 10
  batchSize : Int := 100
  requestTimeoutSecs : Nat := 5
  logFormat : LogFormat := .text
  deriving DecidableEq, Repr

/-- Why settings can't be used. -/
inductive SettingsError where
  | noDatabase
  /-- The variable holds bytes that are no text. -/
  | databaseNoText (value : Raw)
  | number (key raw : String) (cause : WholeError)
  | logFormat (value : String)
  | emptyDatabase
  | notAboveZero (key : String)
  | accrualAddress (cause : UrlError)
  deriving DecidableEq, Repr

/-- The sentences of an error and what lies behind it, outermost first. -/
def SettingsError.chain : SettingsError → List String
  | .noDatabase => ["DATABASE_URI must be set", "environment variable not found"]
  | .databaseNoText value =>
    ["DATABASE_URI must be set", "environment variable was not valid unicode: " ++ value.quoted]
  | .number key raw cause => [key ++ " has an invalid value: " ++ raw, cause.message]
  | .logFormat value => ["LOG_FORMAT must be 'text' or 'json', got '" ++ value ++ "'"]
  | .emptyDatabase => ["DATABASE_URI is empty"]
  | .notAboveZero key => [key ++ " must be greater than 0"]
  | .accrualAddress cause => ["ACCRUAL_SYSTEM_ADDRESS is not a valid URL", cause.message]

def SettingsError.message (e : SettingsError) : String := e.chain.headD ""

namespace Settings

/-- Refuses settings that can't be used, for the first of the reasons. -/
def validate (s : Settings) : Except SettingsError Unit := do
  if s.databaseUrl.isEmpty then throw .emptyDatabase
  if s.workers = 0 then throw (.notAboveZero "ACCRUAL_WORKERS")
  if s.pollIntervalSecs = 0 then throw (.notAboveZero "ACCRUAL_POLL_INTERVAL_SECS")
  if s.batchSize ≤ 0 then throw (.notAboveZero "ACCRUAL_BATCH_SIZE")
  if s.requestTimeoutSecs = 0 then throw (.notAboveZero "ACCRUAL_REQUEST_TIMEOUT_SECS")
  match Url.parse s.accrualAddress with
  | .error e => throw (.accrualAddress e)
  | .ok _ => return ()

end Settings

end Loyalty
