/-!
# Addresses

An address names a scheme and, for most schemes, a host and a port, and may name a user with a
password. The host is a domain, a number of four or sixteen bytes, or, for schemes that are not
known, some text.
-/

namespace Loyalty

inductive UrlError where
  | emptyHost
  | domainName
  | port
  | ipv4
  | ipv6
  | domainCharacter
  | relative
  deriving DecidableEq, Repr

def UrlError.message : UrlError → String
  | .emptyHost => "empty host"
  | .domainName => "invalid international domain name"
  | .port => "invalid port number"
  | .ipv4 => "invalid IPv4 address"
  | .ipv6 => "invalid IPv6 address"
  | .domainCharacter => "invalid domain character"
  | .relative => "relative URL without a base"

/-- What an address says about where the service is. -/
inductive Host where
  /-- A domain in lower case. -/
  | domain (name : List Char)
  | ipv4 (address : Nat)
  | ipv6 (pieces : List Nat)
  /-- A text that a scheme reads by rules of its own. -/
  | text (name : List Char)
  deriving DecidableEq, Repr

/-- An address, as far as it matters here: user and password as they are written, empty where there
is none; the query is the text between `?` and `#`. -/
structure Url where
  scheme : List Char
  user : List Char := []
  password : List Char := []
  host : Option Host := none
  port : Option Nat := none
  query : Option (List Char) := none
  deriving DecidableEq, Repr

end Loyalty
