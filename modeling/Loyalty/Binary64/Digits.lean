import Loyalty.Whole

/-!
# Decimal digits of a binary number

A finite number of 64 bits is `mantissa * 2 ^ exponent` with a mantissa below two to the
fifty-third. Its decimal digits come in two ways: a given count of them, the last one rounded to
nearest with a half going to the even neighbour, or the fewest that read back as the same number,
and of those the nearest. Both are worked out in whole numbers.
-/

namespace Loyalty.Binary64

/-- The magnitude `mantissa * 2 ^ exponent` of a finite number, and its sign. -/
structure Parts where
  negative : Bool
  mantissa : Nat
  exponent : Int
  deriving DecidableEq, Repr

def Parts.ofFloat (x : Float) : Parts :=
  let bits := x.toBits.toNat
  let biased : Nat := bits / twoTo 52 % twoTo 11
  let fraction : Nat := bits % twoTo 52
  let negative : Bool := bits / twoTo 63 = 1
  if biased = 0 then { negative, mantissa := fraction, exponent := -1074 }
  else { negative, mantissa := twoTo 52 + fraction, exponent := (biased : Int) - 1075 }

/-- A quotient of two whole numbers, the lower one above zero. -/
structure Ratio where
  num : Nat
  den : Nat
  deriving DecidableEq, Repr

namespace Ratio

/-- The number `n * 2 ^ e`. -/
def ofBinary (n : Nat) (e : Int) : Ratio :=
  if 0 ≤ e then ⟨n * twoTo e.toNat, 1⟩ else ⟨n, twoTo (-e).toNat⟩

/-- The number times ten to the power of `k`. -/
def shift (r : Ratio) (k : Int) : Ratio :=
  if 0 ≤ k then ⟨r.num * tenTo k.toNat, r.den⟩ else ⟨r.num, r.den * tenTo (-k).toNat⟩

/-- The whole number nearest to the quotient, a half going to the even neighbour. -/
def nearest (r : Ratio) : Nat :=
  let q := r.num / r.den
  let twice := 2 * (r.num % r.den)
  if twice < r.den || (twice = r.den && q % 2 = 0) then q else q + 1

def lt (a b : Ratio) : Bool := a.num * b.den < b.num * a.den

def width (n : Nat) : Nat := if n = 0 then 0 else (Nat.toDigits 10 n).length

/-- The power of ten of the first digit of a quotient above zero. -/
def magnitude (r : Ratio) : Int :=
  if r.den ≤ r.num then (width (r.num / r.den) : Int) - 1
  else -(width ((r.den + r.num - 1) / r.num - 1) : Int)

end Ratio

/-- Digits and a power of ten: the number `digits * 10 ^ power`. -/
structure Scientific where
  digits : Nat
  power : Int
  deriving DecidableEq, Repr

/-- The digits without zeros at their end, which the power counts instead. -/
def dropZeros (digits : Nat) (power : Int) : Scientific :=
  if 0 < digits ∧ digits % 10 = 0 then dropZeros (digits / 10) (power + 1) else ⟨digits, power⟩
termination_by digits
decreasing_by omega

def Scientific.trimmed (s : Scientific) : Scientific := dropZeros s.digits s.power

namespace Parts

def ratio (p : Parts) : Ratio := .ofBinary p.mantissa p.exponent

/-- The first `count` digits, the last one rounded. -/
def significant (count : Nat) (p : Parts) : Scientific :=
  if p.mantissa = 0 then ⟨0, 1 - (count : Int)⟩
  else
    let power := p.ratio.magnitude + 1 - count
    let digits := (p.ratio.shift (-power)).nearest
    if digits = tenTo count then ⟨digits / 10, power + 1⟩ else ⟨digits, power⟩

/-- The numbers half way to the next smaller and the next larger number of 64 bits. -/
def neighbours (p : Parts) : Ratio × Ratio :=
  let upper := Ratio.ofBinary (2 * p.mantissa + 1) (p.exponent - 1)
  if p.mantissa = twoTo 52 ∧ -1074 < p.exponent then
    (.ofBinary (4 * p.mantissa - 1) (p.exponent - 2), upper)
  else (.ofBinary (2 * p.mantissa - 1) (p.exponent - 1), upper)

/-- A decimal number reads back as this one: it lies between the half ways, or on one of them
when the mantissa is even. -/
def readsBack (p : Parts) (r : Ratio) : Bool :=
  let (lower, upper) := p.neighbours
  if p.mantissa % 2 = 0 then !r.lt lower && !upper.lt r
  else lower.lt r && r.lt upper

/-- The number of `count` digits next to this one that reads back, if there is one. -/
def ofCount? (p : Parts) (count : Nat) : Option Scientific :=
  let power := p.ratio.magnitude + 1 - count
  let scaled := p.ratio.shift (-power)
  let below := scaled.num / scaled.den
  let reads (n : Nat) : Bool := p.readsBack (Ratio.shift ⟨n, 1⟩ power)
  match reads below, reads (below + 1) with
  | true, true => some ⟨scaled.nearest, power⟩
  | true, false => some ⟨below, power⟩
  | false, true => some ⟨below + 1, power⟩
  | false, false => none

/-- The fewest digits that read back. -/
def shortest (p : Parts) : Scientific :=
  if p.mantissa = 0 then ⟨0, 0⟩
  else (((List.range' 1 17).findSome? p.ofCount?).getD (p.significant 17)).trimmed

end Parts

/-- The number written out with as many zeros as it takes, and at least one digit on either
side of the point. -/
def Scientific.positional (s : Scientific) : List Char :=
  let digits := Nat.toDigits 10 s.digits
  if 0 ≤ s.power then digits ++ List.replicate s.power.toNat '0' ++ ['.', '0']
  else
    let places := (-s.power).toNat
    let padded := List.replicate (places + 1 - digits.length) '0' ++ digits
    padded.take (padded.length - places) ++ '.' :: padded.drop (padded.length - places)

/-- The number with its first digit in front of the point, and the power of ten of that digit
with its sign. -/
def Scientific.exponential (s : Scientific) : List Char :=
  let digits := Nat.toDigits 10 s.digits
  let power := s.power + digits.length - 1
  let rest := if digits.length = 1 then [] else '.' :: digits.drop 1
  digits.take 1 ++ rest ++ 'e' :: (if power < 0 then '-' else '+') :: Nat.toDigits 10 power.natAbs

/-- The least and the largest power of ten of the first digit of a number that is written out. -/
def leastWrittenOut : Int := -5
@[inherit_doc leastWrittenOut] def largestWrittenOut : Int := 15

/-- The number written out, unless it is too small or too large for that. -/
def Scientific.toChars (s : Scientific) : List Char :=
  let power := s.power + (Nat.toDigits 10 s.digits).length - 1
  if leastWrittenOut ≤ power ∧ power ≤ largestWrittenOut then s.positional else s.exponential

/-- A finite number in the fewest digits that read back. -/
def text (x : Float) : String :=
  let p := Parts.ofFloat x
  String.ofList ((if p.negative then ['-'] else []) ++ p.shortest.toChars)

end Loyalty.Binary64
