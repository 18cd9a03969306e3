import Loyalty.Text.Blank
import Loyalty.Whole

/-!
# Order numbers

An order number is a text of one to sixty-four ASCII digits. A withdrawal asks for more: the
digits also have to pass the Luhn rule, by which every second digit counted from the right is
doubled (less nine when that passes nine) and the sum of all is divisible by ten.

Each check reports the first rule that the text breaks.
-/

namespace Loyalty

open Loyalty.Text

/-- A broken rule: the field that was looked at and what is wrong with it. -/
structure Violation where
  field : String
  problem : String
  deriving DecidableEq, Repr

namespace Violation

def message (v : Violation) : String := v.field ++ ": " ++ v.problem

end Violation

/-- The text has a character that is not blank. -/
def checkRequired (field : String) (value : String) : Except Violation Unit :=
  if (trim value.toList).isEmpty then .error ⟨field, "must not be empty"⟩ else .ok ()

namespace OrderNumber

/-- The most bytes an order number has. -/
def maxLength : Nat := 64

/-- The name under which violations report an order number. -/
def field : String := "order_number"

/-- One to sixty-four ASCII digits. -/
def check (number : String) : Except Violation Unit := do
  checkRequired field number
  if number.utf8ByteSize > maxLength then
    throw ⟨field, s!"must be at most {maxLength} characters"⟩
  if !number.toList.all Char.isDigit then
    throw ⟨field, "must contain only digits"⟩

/-- The digits of the doubled digit `d`, added up. -/
def doubled (d : Nat) : Nat :=
  if d * 2 > 9 then d * 2 - 9 else d * 2

/-- The Luhn sum of digits listed from the right; `even` tells that the next one is taken as
it is and not doubled. -/
def luhnSum : (even : Bool) → List Nat → Nat
  | _, [] => 0
  | true, d :: ds => d + luhnSum false ds
  | false, d :: ds => doubled d + luhnSum true ds

/-- The values of the digits of a number, from the right. -/
def digitsFromRight (number : String) : List Nat :=
  number.toList.reverse.map fun c => c.toNat - '0'.toNat

/-- The Luhn sum of the number is divisible by ten. -/
def passesLuhn (number : String) : Bool :=
  luhnSum true (digitsFromRight number) % 10 == 0

/-- An order number that also passes the Luhn rule. -/
def checkLuhn (number : String) : Except Violation Unit := do
  check number
  if !passesLuhn number then throw ⟨field, "failed Luhn checksum"⟩

end OrderNumber

end Loyalty
