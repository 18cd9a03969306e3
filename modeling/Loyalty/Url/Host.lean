import Loyalty.Text.Basic
import Loyalty.Url.Basic
import Loyalty.Url.Domain
import Loyalty.Whole

/-!
# Hosts

The host of a web address is read in three steps: bytes behind percent signs are put in, letters
are brought to lower case and to their plain form, and a name that ends in a number must be an
address of four bytes. Labels beyond ASCII are kept in their own letters.
-/

namespace Loyalty.Host

open Loyalty.Text

/-! ### Addresses of four bytes -/

/-- The number that digits of a base stand for. -/
def ofDigits? (base acc : Nat) : List Char → Option Nat
  | [] => some acc
  | c :: cs => do
    let d ← hexDigit? c
    if d < base then ofDigits? base (acc * base + d) cs else none

/-- A part of an address: a number that is octal behind a zero and hexadecimal behind `0x`. -/
def ipv4Number? : List Char → Option Nat
  | [] => none
  | '0' :: 'x' :: cs | '0' :: 'X' :: cs => ofDigits? 16 0 cs
  | '0' :: c :: cs => ofDigits? 8 0 (c :: cs)
  | cs => ofDigits? 10 0 cs

/-- The parts of a name, without the empty one behind a point at the end. -/
def nameParts (name : List Char) : List (List Char) :=
  let ps := parts '.' name
  match ps.reverse with
  | [] :: p :: rest => (p :: rest).reverse
  | _ => ps

/-- A name that must be an address of four bytes, because its last part is a number. -/
def endsInNumber (name : List Char) : Bool :=
  match (nameParts name).getLast? with
  | none | some [] => false
  | some last => last.all (fun c => (digit? c).isSome) || (ipv4Number? last).isSome

/-- Puts the leading bytes of an address in front of its last number. -/
def joinBytes (last : Nat) : Nat → List Nat → Nat
  | _, [] => last
  | place, n :: ns => n * twoTo (8 * place) + joinBytes last (place - 1) ns

/-- An address of four bytes. The last part stands for all bytes that are left. -/
def readIpv4 (name : List Char) : Except UrlError Nat :=
  let ps := nameParts name
  if 4 < ps.length then .error .ipv4
  else match ps.mapM ipv4Number? with
    | none => .error .ipv4
    | some ns =>
      match ns.reverse with
      | [] => .error .ipv4
      | last :: before =>
        if twoTo (8 * (4 - before.length)) ≤ last ∨ before.any (255 < ·) then .error .ipv4
        else .ok (joinBytes last 3 before.reverse)

/-! ### Addresses of sixteen bytes -/

/-- A piece: up to four hexadecimal digits. -/
def ipv6Piece? (cs : List Char) : Option Nat :=
  if cs.isEmpty ∨ 4 < cs.length then none else ofDigits? 16 0 cs

/-- A byte of an address of four bytes within one of sixteen. -/
def byte? : List Char → Option Nat
  | [] => none
  | ['0'] => some 0
  | '0' :: _ => none
  | cs => if 3 < cs.length then none else (ofDigits? 10 0 cs).filter (· < 256)

/-- The pieces of one side; the last may be written as four bytes. -/
def ipv6Side? (mayEndInBytes : Bool) (cs : List Char) : Option (List Nat) :=
  if cs.isEmpty then some []
  else
    let ps := parts ':' cs
    match ps.reverse with
    | last :: before =>
      if mayEndInBytes && last.contains '.' then do
        let bytes ← (parts '.' last).mapM byte?
        let front ← before.reverse.mapM ipv6Piece?
        match bytes with
        | [a, b, c, d] => some (front ++ [a * 256 + b, c * 256 + d])
        | _ => none
      else ps.mapM ipv6Piece?
    | [] => none

/-- What stands on either side of the first `::`. -/
def splitDoubleColon : List Char → Option (List Char × List Char)
  | [] => none
  | ':' :: ':' :: cs => some ([], cs)
  | c :: cs => (splitDoubleColon cs).map fun (a, b) => (c :: a, b)

def readIpv6 (cs : List Char) : Except UrlError (List Nat) :=
  let pieces? := match splitDoubleColon cs with
    | none => (ipv6Side? true cs).filter (·.length = 8)
    | some (a, b) => do
      let left ← ipv6Side? false a
      let right ← ipv6Side? true b
      let missing := 8 - (left.length + right.length)
      if left.length + right.length ≤ 7 then
        some (left ++ List.replicate missing 0 ++ right)
      else none
  match pieces? with
  | some ps => .ok ps
  | none => .error .ipv6

/-! ### Domains -/

/-- A domain in its plain form. -/
def readDomain (cs : List Char) : Except UrlError (List Char) :=
  match percentDecode cs with
  | none => .error .domainName
  | some s =>
    match Url.Domain.plain? s.toList with
    | none => .error .domainName
    | some [] => .error .emptyHost
    | some name => .ok name

def bracketed (cs : List Char) : Except UrlError Host :=
  if cs.getLast? = some ']' then (readIpv6 cs.dropLast).map .ipv6 else .error .ipv6

def parse : List Char → Except UrlError Host
  | '[' :: cs => bracketed cs
  | cs => do
    let name ← readDomain cs
    if endsInNumber name then (readIpv4 name).map .ipv4 else .ok (.domain name)

/-- The host of an address whose scheme is not known. -/
def parseText : List Char → Except UrlError Host
  | '[' :: cs => bracketed cs
  | cs =>
    if cs.any fun c => c.toNat = 0 || "\t\n\r #/:<>?@[\\]^|".toList.contains c then
      .error .domainCharacter
    else .ok (.text cs)

end Loyalty.Host
