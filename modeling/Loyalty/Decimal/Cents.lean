import Loyalty.Decimal.Basic

/-!
# Columns of amounts

Points are kept in hundredths. `nearestCent` is what a column of twenty digits with two places
makes of a value: the nearest hundredth, a half going away from zero, or an overflow from ten
to the eighteenth on.
-/

namespace Loyalty.Decimal

/-- The hundredth nearest to the value, a half going away from zero. -/
def nearestCent (d : Decimal) : Int :=
  if d.scale ≤ 2 then d.digits * tenTo (2 - d.scale).toNat
  else
    let unit := tenTo (d.scale - 2).toNat
    d.digits.sign * ((2 * d.digits.natAbs + unit) / (2 * unit) : Nat)

/-- One more than the largest number of hundredths that a column of amounts takes. -/
def centLimit : Nat := 100000000000000000000

/-- The hundredths that a column of amounts keeps of a value; `none` when they do not fit. -/
def toCents? (d : Decimal) : Option Int :=
  if (nearestCent d).natAbs < centLimit then some (nearestCent d) else none

/-- Hundredths as a decimal of two places. -/
def ofCents (n : Int) : Decimal := ⟨n, 2⟩

/-- A kept amount as it is read back: no places when it is whole, else four. -/
def ofColumn (n : Int) : Decimal :=
  if n % 100 = 0 then ⟨n / 100, 0⟩ else ⟨n * 100, 4⟩

theorem toCents?_eq_some_iff {d : Decimal} {n : Int} :
    toCents? d = some n ↔ nearestCent d = n ∧ n.natAbs < centLimit := by
  unfold toCents?
  constructor
  · intro h
    split at h
    · cases h; exact ⟨rfl, by assumption⟩
    · cases h
  · rintro ⟨rfl, h⟩
    simp [h]

@[simp] theorem nearestCent_ofCents (n : Int) : nearestCent (ofCents n) = n := by
  simp [nearestCent, ofCents]

end Loyalty.Decimal
