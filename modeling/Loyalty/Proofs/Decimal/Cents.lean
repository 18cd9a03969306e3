import Mathlib
import Loyalty.Amount
import Loyalty.Decimal.Cents

/-!
# Amounts in a column and as decimals

A column of amounts holds hundredths, and a statement sends and receives decimals. `Decimal.value`
is the number that a decimal stands for. The lemmas say that nothing is lost on the way between
the two: an amount that was read from a column and is added to another one there changes it by
just its hundredths, and rounding an amount that is not below zero gives one that is not either.
-/

namespace Loyalty.Decimal

/-- The number that a decimal stands for. -/
def value (d : Decimal) : ℚ := d.digits * 10 ^ (-d.scale)

theorem value_nonneg_iff {d : Decimal} : 0 ≤ d.value ↔ 0 ≤ d.digits := by
  have unit : (0 : ℚ) < 10 ^ (-d.scale) := by positivity
  rw [value, mul_nonneg_iff_of_pos_right unit]
  exact Int.cast_nonneg_iff

theorem value_of_scale {d : Decimal} (h : d.scale = 2) : d.value = d.digits / 100 := by
  have places : (10 : ℚ) ^ (-2 : ℤ) = 1 / 100 := by norm_num
  rw [value, h, places]
  ring

/-- Hundredths have room in a column as long as their sum is below ten to the eighteenth. -/
theorem cents_add_lt {d : Decimal} (h : d.scale = 2) {n : Int}
    (room : (n : ℚ) / 100 + d.value < 10 ^ 18) : n + d.digits < centLimit := by
  have limit : (centLimit : ℚ) = 10 ^ 20 := by norm_num [centLimit]
  have sum : ((n + d.digits : Int) : ℚ) < (centLimit : ℚ) := by
    rw [value_of_scale h] at room
    rw [limit]
    push_cast
    linarith
  exact_mod_cast sum

theorem value_ofColumn (n : Int) : (ofColumn n).value = n / 100 := by
  unfold ofColumn
  split
  next whole =>
    obtain ⟨k, rfl⟩ := Int.dvd_of_emod_eq_zero whole
    simp [value]
  next =>
    have places : (10 : ℚ) ^ (-4 : ℤ) = 1 / 10000 := by norm_num
    simp only [value, places]
    push_cast
    ring

/-! ### Sums in a column -/

theorem neg_ofColumn (n : Int) : (ofColumn n).neg = ofColumn (-n) := by
  unfold ofColumn neg
  by_cases whole : n % 100 = 0
  · rw [if_pos whole, if_pos (by omega)]
    simp only [mk.injEq, and_true]
    omega
  · rw [if_neg whole, if_neg (by omega)]
    simp only [mk.injEq, and_true]
    omega

/-- Hundredths written with two more places are stored as they were. -/
theorem nearestCent_padded (n : Int) : nearestCent ⟨n * 100, 4⟩ = n := by
  have unit : tenTo (4 - 2 : Int).toNat = 100 := rfl
  have cut : (2 * (n * 100).natAbs + 100) / (2 * 100) = n.natAbs := by omega
  simp only [nearestCent, unit]
  rw [if_neg (by decide), cut, Int.sign_mul, show Int.sign 100 = 1 from rfl, mul_one]
  exact Int.sign_mul_natAbs n

/-- An amount that was read back is added to a column exactly. -/
theorem nearestCent_add_ofColumn (a n : Int) :
    nearestCent ((ofCents a).add (ofColumn n)) = a + n := by
  have two : tenTo 2 = 100 := rfl
  by_cases whole : n % 100 = 0
  · have sum : (ofCents a).add (ofColumn n) = ofCents (a + n) := by
      have back : n / 100 * 100 = n := by omega
      simp [ofColumn, whole, add, aligned, ofCents, rescale, two, back]
    rw [sum, nearestCent_ofCents]
  · have sum : (ofCents a).add (ofColumn n) = ⟨(a + n) * 100, 4⟩ := by
      simp [ofColumn, whole, add, aligned, ofCents, rescale, two, add_mul]
    rw [sum, nearestCent_padded]

theorem nearestCent_add_neg_ofColumn (a n : Int) :
    nearestCent ((ofCents a).add (ofColumn n).neg) = a - n := by
  rw [neg_ofColumn, nearestCent_add_ofColumn, sub_eq_add_neg]

/-! ### Rounded amounts -/

/-- A column compares to a rounded amount by its hundredths. -/
theorem lt_ofColumn {d : Decimal} (scale : d.scale = 2) (n : Int) :
    (ofColumn n).lt d = decide (n < d.digits) := by
  obtain ⟨digits, places⟩ := d
  obtain rfl : places = 2 := scale
  have two : tenTo 2 = 100 := rfl
  unfold ofColumn
  split
  next whole =>
    simp [lt, aligned, rescale, two]
    omega
  next => simp [lt, aligned, rescale, two]

/-- A decimal of two places is stored as it is. -/
theorem nearestCent_of_scale {d : Decimal} (h : d.scale = 2) : nearestCent d = d.digits := by
  simp [nearestCent, h]

theorem rescale_nonneg {d : Decimal} (h : 0 ≤ d.digits) (s : Int) : 0 ≤ (d.rescale s).digits := by
  unfold rescale
  split
  · exact Int.mul_nonneg h (Int.natCast_nonneg _)
  · exact Int.tdiv_nonneg h (Int.natCast_nonneg _)

theorem roundPlaces_nonneg {d : Decimal} (h : 0 ≤ d.digits) (places : Nat) :
    0 ≤ (roundPlaces places d).digits := by
  have cut := rescale_nonneg h places
  have sign : d.isNegative = false := by simp [isNegative, h]
  unfold roundPlaces
  split
  · exact h
  · rw [sign]
    dsimp only
    split
    · exact cut
    · exact Int.add_nonneg cut (by decide)

theorem roundAmount_nonneg {d : Decimal} (h : 0 ≤ d.digits) : 0 ≤ (roundAmount d).digits :=
  rescale_nonneg (roundPlaces_nonneg h _) _

end Loyalty.Decimal
