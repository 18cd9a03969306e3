import Loyalty.Settings.Basic

/-!
# Showing settings

The address of the database is shown without its password: what stands between the last colon
before the last `@`, and that `@`, becomes four stars, provided that two slashes stand before
them.
-/

namespace Loyalty.Settings

/-- What stands before and behind the last of a character. -/
def splitAtLast (c : Char) (cs : List Char) : Option (List Char × List Char) :=
  match cs.reverse.dropWhile (· != c) with
  | [] => none
  | _ :: before => some (before.reverse, (cs.reverse.takeWhile (· != c)).reverse)

/-- What stands before and behind the last two slashes. -/
def splitAtLastSlashes : List Char → Option (List Char × List Char)
  | [] => none
  | c :: cs =>
    match splitAtLastSlashes cs with
    | some (before, behind) => some (c :: before, behind)
    | none =>
      match c, cs with
      | '/', '/' :: behind => some ([], behind)
      | _, _ => none

/-- An address without its password. -/
def maskChars (url : List Char) : List Char :=
  match splitAtLast '@' url with
  | none => url
  | some (front, host) =>
    match splitAtLast ':' front with
    | none => url
    | some (front, _) =>
      match splitAtLastSlashes front with
      | none => url
      | some (scheme, user) => scheme ++ "//".toList ++ user ++ ":****@".toList ++ host

@[inherit_doc maskChars]
def maskPassword (url : String) : String := String.ofList (maskChars url.toList)

/-- What is printed about settings that can be used. -/
def summary (s : Settings) : String :=
  "Configuration:\n" ++
    s!"  Server Port: {s.serverPort}\n" ++
    "  Database URL: " ++ maskPassword s.databaseUrl ++ "\n" ++
    "  Accrual Address: " ++ s.accrualAddress ++ "\n" ++
    s!"  Workers: {s.workers}\n" ++
    s!"  Poll Interval: {s.pollIntervalSecs}s\n" ++
    s!"  Batch Size: {s.batchSize}\n" ++
    "✓ Configuration is valid\n"

end Loyalty.Settings
