import Loyalty.Decimal.Basic
import Loyalty.OrderNumber

/-!
# Amounts of points

`roundAmount` brings any decimal to two places by looking at the first digit it drops. A
withdrawal has to be above zero once it is rounded; an accrual must not be below zero before it is
rounded.
-/

namespace Loyalty

namespace Decimal

/-- How many places an amount keeps. -/
def amountScale : Nat := 2

/-- The first of the digits that a cut to `places` places drops. -/
def firstDropped (places : Nat) (d : Decimal) : Nat :=
  d.digits.natAbs / tenTo ((d.scale - places).toNat - 1) % 10

/-- The decimal cut to `places` places, moved one step away from zero when the first dropped
digit is 5 or more. A decimal with no more places than that stays as it is. -/
def roundPlaces (places : Nat) (d : Decimal) : Decimal :=
  if d.scale ≤ places then d
  else
    let cut := d.rescale places
    if firstDropped places d ≤ 4 then cut
    else if d.isNegative then ⟨cut.digits - 1, places⟩
    else ⟨cut.digits + 1, places⟩

/-- An amount at exactly two places. -/
def roundAmount (d : Decimal) : Decimal :=
  (roundPlaces amountScale d).rescale amountScale

@[simp] theorem roundAmount_scale (d : Decimal) : (roundAmount d).scale = 2 := by
  simp [roundAmount, amountScale]

end Decimal

namespace Amount

def checkPositive (d : Decimal) : Except Violation Unit :=
  if d.isPositive then .ok () else .error ⟨"amount", "must be greater than zero"⟩

def checkNonNegative (d : Decimal) : Except Violation Unit :=
  if d.isNegative then .error ⟨"accrual", "can't be negative"⟩ else .ok ()

end Amount

end Loyalty
