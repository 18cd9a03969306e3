import Loyalty.Binary64.Digits
import Loyalty.Decimal.Basic
import Loyalty.Json.Basic
import Loyalty.Whole

/-!
# JSON numbers

A whole number that fits 64 bits, with or without sign, is exact. Any other number is binary:
its digits are gathered in 64 bits, those that no longer fit are dropped, and the result is
multiplied or divided by the power of ten, so that it may lie next to the nearest binary number.
A number beyond the largest one is none.
-/

namespace Loyalty.Json

open Loyalty.Text

inductive Number where
  | whole (n : Int)
  | binary (x : Float)

/-- Digits gathered in 64 bits, the power of ten that goes with them, and the digits that no
longer fit. -/
def gather (significand : Nat) : List Char → Nat × List Char
  | [] => (significand, [])
  | c :: cs =>
    let next := significand * 10 + (digit? c).getD 0
    if max64 < next then (significand, c :: cs) else gather next cs

/-- The largest power of ten that is divided or multiplied by at once. -/
def largestPower : Nat := 308

/-- `x * 10 ^ e`, in steps; none beyond the largest number. The count bounds the steps. -/
def scaleBy : Nat → Float → Int → Option Float
  | 0, _, _ => some 0
  | n + 1, x, e =>
    if e.natAbs ≤ largestPower then
      let power := Float.ofScientific 1 false e.natAbs
      let y := if 0 ≤ e then x * power else x / power
      if y.isInf then none else some y
    else if x == 0 then some x
    else if 0 ≤ e then none
    else scaleBy n (x / Float.ofScientific 1 false largestPower) (e + largestPower)

def ofParts (negative : Bool) (significand : Nat) (e : Int) : Option Number :=
  (scaleBy (e.natAbs / largestPower + 1) significand.toUInt64.toFloat e).map fun x =>
    .binary (if negative then -x else x)

/-- The largest exponent that is counted. -/
def maxExponent : Nat := 2147483647

namespace Literal

/-- The number with its exponent, of which `power` is the part that comes from its digits. -/
def withExponent (l : Literal) (significand : Nat) (power : Int) : Option Number :=
  match l.exponent with
  | none => ofParts l.negative significand power
  | some (below, digits) =>
    match readDigits maxExponent .tooLarge 0 digits with
    | .ok e => ofParts l.negative significand (if below then power - e else power + e)
    | .error _ =>
      if significand ≠ 0 ∧ !below then none else some (.binary (if l.negative then -0.0 else 0.0))

/-- The value of a number; none beyond the largest one. -/
def value? (l : Literal) : Option Number :=
  let (significand, dropped) := gather 0 l.whole
  match l.fraction with
  | some digits =>
    let (significand, rest) := gather significand digits
    l.withExponent significand ((dropped.length : Int) - (digits.length - rest.length : Nat))
  | none =>
    if l.exponent.isSome ∨ dropped ≠ [] then l.withExponent significand dropped.length
    else if !l.negative then some (.whole significand)
    else if significand = 0 ∨ maxSigned64 + 1 < significand then
      some (.binary (-significand.toUInt64.toFloat))
    else some (.whole (-significand))

end Literal

/-- The decimal of a number. A binary number gives its first sixteen digits. -/
def Number.decimal : Number → Decimal
  | .whole n => .ofInt n
  | .binary x =>
    let p := Binary64.Parts.ofFloat x
    let s := p.significant 16
    ⟨if p.negative then -(s.digits : Int) else s.digits, -s.power⟩

end Loyalty.Json
