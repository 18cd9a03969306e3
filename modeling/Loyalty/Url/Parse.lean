import Loyalty.Text.Utf8
import Loyalty.Url.Host

/-!
# Reading addresses

Controls and blanks around an address are dropped, and tabs and line ends within it. The scheme
decides how the rest is read: a web scheme has a host behind any number of slashes, of either
kind; a scheme that is not known has one behind two slashes only; a file may have one.
-/

namespace Loyalty.Url

/-- The character is dropped at the ends of an address. -/
def isEdge (c : Char) : Bool := c.toNat ≤ 0x20

/-- The character is dropped wherever it stands. -/
def isDropped (c : Char) : Bool := c == '\t' || c == '\n' || c == '\r'

/-- The characters of an address that count. -/
def clean (cs : List Char) : List Char :=
  ((cs.dropWhile isEdge).reverse.dropWhile isEdge).reverse.filter fun c => !isDropped c

def isLetter (c : Char) : Bool := ('a' ≤ c && c ≤ 'z') || ('A' ≤ c && c ≤ 'Z')

def isSchemeChar (c : Char) : Bool :=
  isLetter c || ('0' ≤ c && c ≤ '9') || c == '+' || c == '-' || c == '.'

/-- The scheme in lower case, and what follows its colon. -/
def splitScheme (cs : List Char) : Option (List Char × List Char) :=
  match cs with
  | [] => none
  | c :: _ =>
    if !isLetter c then none
    else match cs.dropWhile isSchemeChar with
      | ':' :: rest => some ((cs.takeWhile isSchemeChar).map Char.toLower, rest)
      | _ => none

/-- How a scheme is read. -/
inductive Kind where
  | web
  | file
  | other
  deriving DecidableEq, Repr

def webSchemes : List (List Char) := ["http", "https", "ws", "wss", "ftp"].map String.toList

def kindOf (scheme : List Char) : Kind :=
  if scheme ∈ webSchemes then .web
  else if scheme = "file".toList then .file
  else .other

/-- The character ends the part of an address that names the host. -/
def endsAuthority (k : Kind) (c : Char) : Bool :=
  c == '/' || c == '?' || c == '#' || (c == '\\' && k != .other)

/-- What stands in front of the last `@`, if there is one, and what stands behind it. -/
def splitUser (cs : List Char) : Option (List Char) × List Char :=
  match cs.reverse.dropWhile (· != '@') with
  | [] => (none, cs)
  | _ :: user => (some user.reverse, (cs.reverse.takeWhile (· != '@')).reverse)

/-- A user, and the password behind the first colon. -/
def splitPassword (cs : List Char) : List Char × List Char :=
  (cs.takeWhile (· != ':'), (cs.dropWhile (· != ':')).drop 1)

/-- Divides a host from what follows it; a colon within brackets belongs to the host. -/
def splitHost : Bool → List Char → List Char × List Char
  | _, [] => ([], [])
  | inside, c :: cs =>
    if c = ':' ∧ inside = false then ([], c :: cs)
    else
      let (host, rest) := splitHost (if c = '[' then true else if c = ']' then false else inside) cs
      (c :: host, rest)

def maxPort : Nat := 65535

/-- A port, which may be left out behind its colon. -/
def readPort (cs : List Char) : Except UrlError (Option Nat) :=
  match cs with
  | [] => .ok none
  | _ =>
    match cs.mapM Text.digit? with
    | none => .error .port
    | some ds =>
      let n := ds.foldl (fun acc d => acc * 10 + d) 0
      if n ≤ maxPort then .ok (some n) else .error .port

/-- The part of an address that names host and port, and whether more stands behind it; the
scheme and the query are known. A user and a port need a host. -/
def readAuthority (u : Url) (k : Kind) (cs : List Char) (more : Bool) : Except UrlError Url := do
  let (user?, rest) := splitUser cs
  let (user, password) := splitPassword (user?.getD [])
  let (name, port) := splitHost false rest
  if name.isEmpty then
    let named := !user.isEmpty || !password.isEmpty || user? = some [] && more
    if k == .web || named || !port.isEmpty then .error .emptyHost else .ok u
  else do
    let host ← if k == .web then Host.parse name else Host.parseText name
    let port ← readPort ((port.drop 1).takeWhile (· != '\\'))
    .ok { u with user, password, host, port }

/-- A drive of a disk, as in `c:` or `c|`. -/
def isDrive : List Char → Bool
  | [a, b] => isLetter a && (b == ':' || b == '|')
  | _ => false

/-- The host of a file, if it names one. -/
def readFileHost (cs : List Char) : Except UrlError (Option Host) :=
  match cs with
  | a :: b :: rest =>
    if (a == '/' || a == '\\') && (b == '/' || b == '\\') then
      let name := rest.takeWhile fun c => !endsAuthority .file c
      if name.isEmpty || isDrive name then .ok none else (Host.parse name).map some
    else .ok none
  | _ => .ok none

/-- The query: what stands between the first `?` and a `#`. -/
def queryOf (cs : List Char) : Option (List Char) :=
  match (cs.takeWhile (· != '#')).dropWhile (· != '?') with
  | [] => none
  | _ :: query => some query

/-- Reads what names host and port, up to the path. -/
def readUpToPath (u : Url) (k : Kind) (cs : List Char) : Except UrlError Url :=
  let authority := cs.takeWhile fun c => !endsAuthority k c
  readAuthority u k authority (authority.length < cs.length)

def readRest (scheme rest : List Char) : Except UrlError Url :=
  let u : Url := { scheme, query := queryOf rest }
  match kindOf scheme with
  | .web => readUpToPath u .web (rest.dropWhile fun c => c == '/' || c == '\\')
  | .file => (readFileHost rest).map fun host => { u with host }
  | .other =>
    match rest with
    | '/' :: '/' :: rest => readUpToPath u .other rest
    | _ => .ok u

def parse (s : String) : Except UrlError Url :=
  match splitScheme (clean s.toList) with
  | none => .error .relative
  | some (scheme, rest) => readRest scheme rest

/-! ### The pairs of a query -/

/-- The text of one side of a pair: a plus is a blank, and bytes that are no text are marked. -/
def unform (cs : List Char) : String :=
  String.ofList (Text.Utf8.markFaults 0
    (Text.percentBytes (cs.map fun c => if c = '+' then ' ' else c)))

/-- The pairs of a query, empty ones left out. -/
def pairs (query : List Char) : List (String × String) :=
  ((Text.parts '&' query).filter (· ≠ [])).map fun p =>
    (unform (p.takeWhile (· != '=')), unform ((p.dropWhile (· != '=')).drop 1))

end Loyalty.Url
