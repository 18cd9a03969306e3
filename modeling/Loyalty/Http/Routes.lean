import Loyalty.Http.Answer
import Loyalty.Service
import Loyalty.Store.Migrations
import Loyalty.Text.Basic
import Loyalty.Url.Parse
import Loyalty.Wire.Records

/-!
# What can be asked for over HTTP

Five addresses are answered, all of them to be read only. Values within an address are compared
and taken as they stand between slashes; percent signs in them are resolved last.
-/

namespace Loyalty.Http

open Loyalty.Store Loyalty.Text

/-- What an address names; the values are as they stand in it. -/
inductive Route where
  | health
  | order (number : String)
  | orders (user : String)
  | balance (user : String)
  | withdrawals (user : String)
  deriving DecidableEq, Repr

def upToQuery (cs : List Char) : List Char := cs.takeWhile fun c => c != '?' && c != '#'

/-- The path of an address that starts with it, or that names scheme and host in front of it; there
the path may be left out. -/
def pathOf (target : String) : List Char :=
  match target.toList with
  | '/' :: cs => '/' :: upToQuery cs
  | cs =>
    match cs.dropWhile Url.isSchemeChar with
    | ':' :: '/' :: '/' :: rest =>
      match upToQuery (rest.dropWhile fun c => c != '/' && c != '?' && c != '#') with
      | [] => ['/']
      | path => path
    | _ => []

/-- What a path names. The number of an order has at least one character. -/
def Route.ofPath? (path : List Char) : Option Route :=
  match (parts '/' path).map String.ofList with
  | ["", "health"] => some .health
  | ["", "orders", number] => if number.isEmpty then none else some (.order number)
  | ["", "users", user, "orders"] => some (.orders user)
  | ["", "users", user, "balance"] => some (.balance user)
  | ["", "users", user, "withdrawals"] => some (.withdrawals user)
  | _ => none

def version : String := "0.1.0"

def healthJson (connected : Bool) (maxConnections : Nat) : Json :=
  let connections := if connected then 1 else 0
  .fields [("status", .text (if connected then "healthy" else "unhealthy")),
    ("version", .text version),
    ("db", .text (if connected then "connected" else "disconnected")),
    ("db_pool", .fields [("active_connections", .nat connections),
      ("idle_connections", .nat connections), ("max_connections", .nat maxConnections)])]

def balanceJson (b : Balance) : Json :=
  .fields [("current", Wire.ofDecimal b.current), ("withdrawn", Wire.ofDecimal b.withdrawn)]

def withdrawalJson (e : Entry) : Json :=
  .fields [("order", .text e.order), ("sum", Wire.ofDecimal e.amount),
    ("processed_at", Wire.ofTimestamp e.processedAt)]

def listJson {α : Type} (f : α → Json) (xs : List α) : Json := .array (xs.map f) none

/-- The value of an address without percent signs. -/
def pathText (name value : String) : Except Answer String :=
  match percentDecode value.toList with
  | some s => .ok s
  | none => .error (.badAddress ("Invalid UTF-8 in `" ++ name ++ "`"))

def pathUser (value : String) : Except Answer Uuid := do
  (Uuid.parse (← pathText "user_id" value)).mapError fun e =>
    .badAddress ("UUID parsing failed: " ++ e.message)

/-- What an operation gave, as an answer. -/
def answerWith {α : Type} (json : α → Json) (op : Db α) (s : Session) : Answer × Session :=
  match op s with
  | (.ok a, s) => (.of 200 (.json (json a)), s)
  | (.error f, s) => (.ofFailure f, s)

/-- An operation on the user that an address names, as an answer. -/
def answerFor {α : Type} (user : String) (json : α → Json) (op : Uuid → Db α) (s : Session) :
    Answer × Session :=
  match pathUser user with
  | .ok u => answerWith json (op u) s
  | .error a => (a, s)

def Route.answer (s : Session) : Route → Answer × Session
  | .health =>
    let (pong, s) := ping s
    let connected := pong matches .ok _
    (.of (if connected then 200 else 503) (.json (healthJson connected s.maxConnections)), s)
  | .order number =>
    match pathText "number" number with
    | .ok number => answerWith Wire.ofOrder (getOrder number) s
    | .error a => (a, s)
  | .orders user => answerFor user (listJson Wire.ofOrder) listUserOrders s
  | .balance user => answerFor user balanceJson getBalance s
  | .withdrawals user => answerFor user (listJson withdrawalJson) Service.listWithdrawals s

def answer (method target : String) (s : Session) : Answer × Session :=
  match Route.ofPath? (pathOf target) with
  | none => (.notFound, s)
  | some route =>
    if method = "GET" then route.answer s
    else if method = "HEAD" then
      let (a, s) := route.answer s
      (a.head, s)
    else (.wrongMethod, s)

end Loyalty.Http
