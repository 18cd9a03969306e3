import Loyalty.Decimal.Basic

/-!
# The text of a decimal

All digits are written, with as many of them after the point as the scale says: `100.50` has
scale 2, and a decimal of scale -3 is written with three zeros behind its digits. Reading
takes an exponent part, which moves the scale, and one point anywhere among the digits.
-/

namespace Loyalty.Decimal

open Loyalty.Text

inductive ParseError where
  | emptyBase
  | whole (cause : WholeError)
  deriving DecidableEq, Repr

def ParseError.message : ParseError → String
  | .emptyBase => "Failed to parse empty string"
  | .whole cause => cause.message

def isExponentMark (c : Char) : Bool := c == 'e' || c == 'E'

/-- Digits of any number, with underscores allowed behind the first one. -/
def readLongDigits : Nat → List Char → Except WholeError Nat
  | acc, [] => .ok acc
  | acc, '_' :: cs => readLongDigits acc cs
  | acc, c :: cs =>
    match digit? c with
    | none => .error .invalidDigit
    | some d => readLongDigits (acc * 10 + d) cs

/-- An unsigned number of any length. -/
def readLongNat : List Char → Except WholeError Nat
  | [] => .error .empty
  | '_' :: _ => .error .invalidDigit
  | cs => readLongDigits 0 cs

/-- A number of any length with at most one sign. -/
def readLongInt : List Char → Except WholeError Int
  | '-' :: '+' :: _ => .error .invalidDigit
  | '-' :: cs => (readLongNat cs).map fun n => -Int.ofNat n
  | '+' :: '+' :: _ => .error .invalidDigit
  | '+' :: cs => (readLongNat cs).map Int.ofNat
  | cs => (readLongNat cs).map Int.ofNat

/-- The exponent behind its mark; one leading `+` more than the number's own sign is let pass. -/
def readExponent : List Char → Except WholeError Int
  | '+' :: cs => parseInt maxSigned64 cs
  | cs => parseInt maxSigned64 cs

/-- The digits without the first point, and how many characters follow that point. -/
def splitPoint (cs : List Char) : List Char × Nat :=
  match cs.dropWhile (· != '.') with
  | [] => (cs, 0)
  | _ :: after => (cs.takeWhile (· != '.') ++ after, after.length)

/-- Reads a decimal; a faulty exponent is reported before a faulty base. -/
def parseChars (cs : List Char) : Except ParseError Decimal := do
  let base := cs.takeWhile fun c => !isExponentMark c
  let exponent ←
    match cs.dropWhile fun c => !isExponentMark c with
    | [] => pure 0
    | _ :: rest => (readExponent rest).mapError ParseError.whole
  if base.isEmpty then throw .emptyBase
  let (digits, after) := splitPoint base
  let n ← (readLongInt digits).mapError ParseError.whole
  return ⟨n, (after : Int) - exponent⟩

@[inherit_doc parseChars]
def parse (s : String) : Except ParseError Decimal :=
  parseChars s.toList

def natDigits (n : Nat) : List Char :=
  Nat.toDigits 10 n

/-- The digits of a magnitude with the point put in by the scale. -/
def placePoint (digits : List Char) (scale : Int) : List Char :=
  if scale ≤ 0 then digits ++ List.replicate (-scale).toNat '0'
  else
    let padded := List.replicate (scale.toNat + 1 - digits.length) '0' ++ digits
    padded.take (padded.length - scale.toNat) ++ '.' :: padded.drop (padded.length - scale.toNat)

/-- The text of a decimal: a sign below zero, then all digits. -/
def toChars (d : Decimal) : List Char :=
  (if d.isNegative then ['-'] else []) ++ placePoint (natDigits d.digits.natAbs) d.scale

@[inherit_doc toChars]
def toText (d : Decimal) : String :=
  String.ofList d.toChars

end Loyalty.Decimal
