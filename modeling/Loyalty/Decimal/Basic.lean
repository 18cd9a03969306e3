import Loyalty.Whole

/-!
# Decimal numbers

A decimal is a whole number together with a scale: the number of its digits that stand
after the point. Two decimals may name one value (`1.5` and `1.50`), and the text of each
keeps its own digits.

Main statement: moving a decimal to a larger scale keeps its value (`rescale_digits_of_le`).
-/

namespace Loyalty

/-- The number `digits / 10 ^ scale`; a negative scale stands for trailing zeros. -/
structure Decimal where
  digits : Int
  scale : Int
  deriving DecidableEq, Repr

namespace Decimal

def ofInt (n : Int) : Decimal := ⟨n, 0⟩

/-- The digits at scale `s`; what does not fit is cut off toward zero. -/
def rescale (d : Decimal) (s : Int) : Decimal :=
  if s ≥ d.scale then ⟨d.digits * tenTo (s - d.scale).toNat, s⟩
  else ⟨d.digits.tdiv (tenTo (d.scale - s).toNat), s⟩

/-- Both decimals at the larger of their scales. -/
def aligned (a b : Decimal) : Int × Int :=
  ((a.rescale (max a.scale b.scale)).digits, (b.rescale (max a.scale b.scale)).digits)

def lt (a b : Decimal) : Bool :=
  (aligned a b).1 < (aligned a b).2

def isPositive (d : Decimal) : Bool := 0 < d.digits

def isNegative (d : Decimal) : Bool := d.digits < 0

/-- The exact sum, at the larger of the two scales. -/
def add (a b : Decimal) : Decimal :=
  ⟨(aligned a b).1 + (aligned a b).2, max a.scale b.scale⟩

def neg (d : Decimal) : Decimal := ⟨-d.digits, d.scale⟩

@[simp] theorem rescale_scale (d : Decimal) (s : Int) : (d.rescale s).scale = s := by
  unfold rescale; split <;> rfl

@[simp] theorem rescale_self (d : Decimal) : d.rescale d.scale = d := by
  simp [rescale]

theorem rescale_digits_of_le {d : Decimal} {s : Int} (h : d.scale ≤ s) :
    (d.rescale s).digits = d.digits * tenTo (s - d.scale).toNat := by
  simp [rescale, h]

end Decimal

end Loyalty
