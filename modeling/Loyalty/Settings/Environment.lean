import Loyalty.Settings.Basic
import Loyalty.Text.Blank

/-!
# Settings from the environment

Each setting is a variable. One that is missing, blank or no text stands for its default; only
the address of the database has none.

The address of the accrual service is often given as host and port alone; then `http://` goes in
front. Blanks around it and slashes at its end are dropped first.
-/

namespace Loyalty

open Loyalty.Text

namespace Settings

/-- The schemes that are let stand, as they are written. -/
def plainScheme : List Char := "http://".toList
@[inherit_doc plainScheme] def secureScheme : List Char := "https://".toList

def namesScheme (cs : List Char) : Bool :=
  plainScheme.isPrefixOf cs || secureScheme.isPrefixOf cs

/-- The address without blanks around it and slashes at its end. -/
def trimAddress (cs : List Char) : List Char :=
  ((trim cs).reverse.dropWhile (· == '/')).reverse

/-- The address as the service uses it. -/
def normalizeChars (cs : List Char) : List Char :=
  let trimmed := trimAddress cs
  if namesScheme trimmed then trimmed else plainScheme ++ trimmed

@[inherit_doc normalizeChars]
def normalizeAddress (s : String) : String := String.ofList (normalizeChars s.toList)

end Settings

/-- The variables that the program is started with. -/
abbrev Environment := List (String × Raw)

namespace Environment

/-- The text of a variable, if it is set to one. -/
def text? (env : Environment) (key : String) : Option String :=
  (env.lookup key).bind Raw.text?

/-- The text of a variable, or why there is none. -/
def databaseText (env : Environment) (key : String) : Except SettingsError String :=
  match env.lookup key with
  | none => .error .noDatabase
  | some raw =>
    match raw.text? with
    | some s => .ok s
    | none => .error (.databaseNoText raw)

def database (env : Environment) : Except SettingsError String :=
  match env.databaseText "DATABASE_URI" with
  | .ok s => .ok s
  | .error _ => env.databaseText "DATABASE_URL"

/-- A number that a variable holds between blanks. -/
def number {α : Type} (env : Environment) (key : String)
    (parse : List Char → Except WholeError α) (default_ : α) : Except SettingsError α :=
  match env.text? key with
  | none => .ok default_
  | some raw =>
    let cs := trim raw.toList
    if cs.isEmpty then .ok default_ else (parse cs).mapError (.number key raw)

/-- The format of the log, in any case. -/
def logFormat (env : Environment) : Except SettingsError LogFormat :=
  let value := String.ofList ((trim ((env.text? "LOG_FORMAT").getD "text").toList).map Char.toLower)
  if value = "" ∨ value = "text" then .ok .text
  else if value = "json" then .ok .json
  else .error (.logFormat value)

def settings (env : Environment) : Except SettingsError Settings := do
  let databaseUrl ← env.database
  let standard : Settings := { databaseUrl }
  let settings : Settings := {
    databaseUrl
    serverPort := ← env.number "SERVER_PORT" (parseNat max16) standard.serverPort
    databaseMaxConnections :=
      ← env.number "DATABASE_MAX_CONNECTIONS" (parseNat max32) standard.databaseMaxConnections
    accrualAddress := Settings.normalizeAddress
      ((env.text? "ACCRUAL_SYSTEM_ADDRESS").getD standard.accrualAddress)
    workers := ← env.number "ACCRUAL_WORKERS" (parseNat max64) standard.workers
    pollIntervalSecs :=
      ← env.number "ACCRUAL_POLL_INTERVAL_SECS" (parseNat max64) standard.pollIntervalSecs
    batchSize := ← env.number "ACCRUAL_BATCH_SIZE" (parseInt maxSigned64) standard.batchSize
    requestTimeoutSecs :=
      ← env.number "ACCRUAL_REQUEST_TIMEOUT_SECS" (parseNat max64) standard.requestTimeoutSecs
    logFormat := ← env.logFormat }
  settings.validate
  return settings

end Environment

end Loyalty
