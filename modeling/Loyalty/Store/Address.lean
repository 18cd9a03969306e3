import Loyalty.Store.Session
import Loyalty.Text.Quoted
import Loyalty.Text.Utf8
import Loyalty.Url.Parse

/-!
# The address of the database

The database is named by an address; pairs in its query set how it is reached. A pair that has a
meaning must have a value that fits. User and password are text; a host that begins with a slash
names a directory, in which the socket of the database is.

A program opens the database before its first statement: the address must be one, at least one
connection must be allowed, and one must come about. No database has its socket in a directory.
-/

namespace Loyalty.Store

open Loyalty.Text

/-- The ways in which a connection may be secured. -/
def sslModes : List String :=
  ["disable", "allow", "prefer", "require", "verify-ca", "verify-full"]

/-- The name of the host of a pair is an address of four or sixteen bytes. -/
def isIpAddress (s : String) : Bool :=
  let four := match (Text.parts '.' s.toList).mapM Host.byte? with
    | some [_, _, _, _] => true
    | _ => false
  let sixteen := match Host.readIpv6 s.toList with
    | .ok _ => true
    | .error _ => false
  four || sixteen

def checkNumber (max : Nat) (value : String) : Except DatabaseError Unit :=
  match parseNat max value.toList with
  | .ok _ => .ok ()
  | .error e => .error (.configuration [e.message])

/-- Looks at a pair of the query. -/
def checkPair (key value : String) : Except DatabaseError Unit :=
  if key = "sslmode" ∨ key = "ssl-mode" then
    if sslModes.contains (String.ofList (value.toList.map Char.toLower)) then .ok ()
    else
      let reason := "unknown value " ++ quoted value ++ " for `ssl_mode`"
      .error (.configuration ["", reason])
  else if key = "statement-cache-capacity" then checkNumber max64 value
  else if key = "port" then checkNumber max16 value
  else if key = "hostaddr" then
    if isIpAddress value then .ok () else .error (.configuration ["invalid IP address syntax"])
  else .ok ()

/-- A part of the address, in which percent signs stand for bytes, must be text. -/
def checkPart (cs : List Char) : Except DatabaseError Unit :=
  match Utf8.check (percentBytes cs) with
  | .ok _ => .ok ()
  | .error e => .error (.configuration [e.message])

def hostText : Option Host → List Char
  | some (.text name) => name
  | _ => []

/-- The text names a directory with a socket, not a host. -/
def isDirectory (cs : List Char) : Bool := (percentBytes cs).head? = some '/'.toNat.toUInt8

/-- The parts of the address that are decoded: a host that names a directory, the user and the
password. -/
def decodedParts (u : Url) : List (List Char) :=
  [if isDirectory (hostText u.host) then hostText u.host else [], u.user, u.password]

/-- How the database is reached. -/
inductive Route where
  | network
  /-- By a socket of the same machine, at a path. -/
  | socket (path : List UInt8)
  deriving DecidableEq, Repr

def defaultPort : Nat := 5432

def valuesOf (key : String) (pairs : List (String × String)) : List String :=
  (pairs.filter fun (k, _) => k = key).map Prod.snd

/-- The directory that is named last, by the host or by a pair. -/
def directory? (u : Url) (pairs : List (String × String)) : Option (List UInt8) :=
  let named := ((valuesOf "host" pairs).filter fun v => v.toList.head? = some '/').map
    fun v => v.toUTF8.toList
  let host := if isDirectory (hostText u.host) then [percentBytes (hostText u.host)] else []
  (host ++ named).getLast?

/-- The port that is named last. -/
def portText (u : Url) (pairs : List (String × String)) : String :=
  match (valuesOf "port" pairs).filterMap fun v => (parseNat max16 v.toList).toOption with
  | [] => toString (u.port.getD defaultPort)
  | p :: ps => toString ((p :: ps).getLastD p)

def routeOf (u : Url) (pairs : List (String × String)) : Route :=
  match directory? u pairs with
  | none => .network
  | some d => .socket (d ++ ("/.s.PGSQL." ++ portText u pairs).toUTF8.toList)

/-- Looks at the address of the database, and tells how it is reached. -/
def checkAddress (address : String) : Except DatabaseError Route :=
  match Url.parse address with
  | .error e => .error (.configuration [e.message])
  | .ok u => do
    let pairs := (u.query.map Url.pairs).getD []
    (decodedParts u).forM checkPart
    pairs.forM fun (key, value) => checkPair key value
    return routeOf u pairs

/-- The most bytes of the path of a socket. -/
def maxSocketPath : Nat := 107

/-- Why the database is not reached by a socket at a path. -/
def noSocket (path : List UInt8) : DatabaseError :=
  .io <|
    if path.contains 0 then "paths must not contain interior null bytes"
    else if maxSocketPath < path.length then "path must be shorter than SUN_LEN"
    else "No such file or directory (os error 2)"

/-- Opens the database at an address. -/
def openPool (address : String) (maxConnections : Nat) (s : Session) : Answer Session := do
  let route ← checkAddress address
  if maxConnections = 0 then throw .poolTimedOut
  match route with
  | .socket path => throw (noSocket path)
  | .network =>
    s.connect
    return { s with maxConnections }

end Loyalty.Store
