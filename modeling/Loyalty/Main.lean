import Loyalty.CommandLine.Run
import Loyalty.Http.Routes
import Loyalty.Wire.Problem

/-!
# The program

The outer layer: it takes the words of the line and the variables of the environment, runs the
command and prints. The database is kept in memory for as long as the program runs, and the
accrual service is not called. A server that is up reads one request a line, a method and an
address, and prints the status and the body of the answer.
-/

namespace Loyalty.Main

def settingNames : List String :=
  ["DATABASE_URI", "DATABASE_URL", "SERVER_PORT", "DATABASE_MAX_CONNECTIONS",
    "ACCRUAL_SYSTEM_ADDRESS", "ACCRUAL_WORKERS", "ACCRUAL_POLL_INTERVAL_SECS",
    "ACCRUAL_BATCH_SIZE", "ACCRUAL_REQUEST_TIMEOUT_SECS", "LOG_FORMAT"]

def environment : IO Environment :=
  settingNames.filterMapM fun key => do
    return (← IO.getEnv key).map fun value => (key, Text.Raw.ofString value)

def emptyDatabase : Store.Session := { store := { created := false, migrations := none } }

/-- Answers requests until there are no more. -/
partial def answerRequests (input : IO.FS.Stream) (s : Store.Session) : IO Unit := do
  let line ← input.getLine
  if line.isEmpty then return
  match line.trimAscii.toString.splitOn " " with
  | [method, target] =>
    let (a, s) := Http.answer method target s
    IO.println (Http.statusText a.status ++ "\n" ++ a.body.toText)
    answerRequests input s
  | _ => answerRequests input s

def run (words : List String) : IO UInt32 := do
  let env ← environment
  match CommandLine.run (words.map Text.Raw.ofString) env (.error []) emptyDatabase with
  | .error e => return e.exitCode.toUInt32
  | .ok (.finished o, _) =>
    IO.print o.printed
    IO.eprint o.errorText
    return o.exitCode.toUInt32
  | .ok (.serving _ report, s) =>
    IO.print report.text
    answerRequests (← IO.getStdin) s
    return 0

end Loyalty.Main

def main (words : List String) : IO UInt32 := Loyalty.Main.run words
