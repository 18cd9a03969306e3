import Loyalty.Amount
import Loyalty.Proofs.Decimal.Cents

/-!
# Rounding to the hundredth

`roundAmount` looks at one digit, the first that it drops, and a column of amounts looks at the whole
value. They agree because that one digit tells on which side of the half the dropped part lies, however
long it is (`half_up_div`), and because both treat a number below zero as its opposite.

`RoundsTo` says which hundredth is meant without a word on how it is found. What rounding does to the
order, the sign and the form of a number follows from it alone.

Main statement: `roundAmount_rounds`, for decimals of every scale.
-/

namespace Loyalty.Decimal

/-! ### The first dropped digit -/

/-- To add one half before a division by ten times a unit is to look at one digit. -/
theorem half_up_div (n : ℕ) {unit : ℕ} (pos : 0 < unit) :
    (2 * n + unit * 10) / (2 * (unit * 10)) =
      n / (unit * 10) + if n / unit % 10 ≤ 4 then 0 else 1 := by
  have half : (2 * n + unit * 10) / (2 * unit) = n / unit + 5 := by
    have doubled : 2 * n + unit * 10 = 2 * (n + unit * 5) := by ring
    rw [doubled, Nat.mul_div_mul_left _ _ (by decide), Nat.add_mul_div_left _ _ pos]
  rw [← mul_assoc, ← Nat.div_div_eq_div_mul, half, ← Nat.div_div_eq_div_mul]
  split <;> omega

theorem rescale_neg (d : Decimal) (s : Int) : d.neg.rescale s = (d.rescale s).neg := by
  unfold rescale neg
  dsimp only
  split
  · rw [Int.neg_mul]
  · rw [Int.neg_tdiv]

theorem firstDropped_neg (places : Nat) (d : Decimal) :
    firstDropped places d.neg = firstDropped places d := by
  simp only [firstDropped, neg, Int.natAbs_neg]

theorem firstDropped_of_digits_eq_zero (places : Nat) {d : Decimal} (h : d.digits = 0) :
    firstDropped places d = 0 := by
  simp [firstDropped, h]

theorem roundPlaces_neg (places : Nat) (d : Decimal) :
    roundPlaces places d.neg = (roundPlaces places d).neg := by
  unfold roundPlaces
  rw [firstDropped_neg, rescale_neg]
  by_cases fits : d.scale ≤ places
  · rw [if_pos fits, if_pos (show d.neg.scale ≤ places from fits)]
  · rw [if_neg fits, if_neg (show ¬ d.neg.scale ≤ places from fits)]
    by_cases low : firstDropped places d ≤ 4
    · simp only [low, if_true]
    · have nonzero : d.digits ≠ 0 := fun h =>
        low (by rw [firstDropped_of_digits_eq_zero places h]; decide)
      dsimp only
      rw [if_neg low, if_neg low]
      rcases Int.lt_or_gt_of_ne nonzero with below | above
      · have sign : d.isNegative = true := by simp [isNegative, below]
        have other : d.neg.isNegative = false := by simp [isNegative, neg, below.le]
        rw [sign, other]
        simp [neg]
        omega
      · have sign : d.isNegative = false := by simp [isNegative, above.le]
        have other : d.neg.isNegative = true := by simp [isNegative, neg, above]
        rw [sign, other]
        simp [neg]
        omega

theorem roundAmount_neg (d : Decimal) : roundAmount d.neg = (roundAmount d).neg := by
  rw [roundAmount, roundPlaces_neg, rescale_neg, roundAmount]

theorem nearestCent_neg (d : Decimal) : nearestCent d.neg = -nearestCent d := by
  unfold nearestCent neg
  dsimp only
  split
  · rw [Int.neg_mul]
  · rw [Int.sign_neg, Int.natAbs_neg, Int.neg_mul]

/-- A decimal stands for a number above or equal to zero, or is the opposite of one that does. -/
theorem eq_natCast_or_neg (d : Decimal) :
    (∃ n : ℕ, d = ⟨n, d.scale⟩) ∨ ∃ n : ℕ, d = neg ⟨n, d.scale⟩ := by
  obtain ⟨digits, scale⟩ := d
  obtain ⟨n, rfl | rfl⟩ := digits.eq_nat_or_neg
  · exact .inl ⟨n, rfl⟩
  · exact .inr ⟨n, rfl⟩

theorem nearestCent_natCast (n : ℕ) {s : Int} (long : 2 < s) :
    nearestCent ⟨n, s⟩ =
      ((2 * n + tenTo (s - 2).toNat) / (2 * tenTo (s - 2).toNat) : ℕ) := by
  have kept : nearestCent ⟨n, s⟩ =
      (n : Int).sign * ((2 * n + tenTo (s - 2).toNat) / (2 * tenTo (s - 2).toNat) : ℕ) := by
    simp [nearestCent, Int.not_le.2 long]
  rw [kept]
  obtain rfl | pos := Nat.eq_zero_or_pos n
  · have unit := tenTo_pos (s - 2).toNat
    have small : (2 * 0 + tenTo (s - 2).toNat) / (2 * tenTo (s - 2).toNat) = 0 :=
      Nat.div_eq_of_lt (by omega)
    rw [small]
    rfl
  · rw [Int.sign_eq_one_of_pos (by exact_mod_cast pos), one_mul]

theorem roundAmount_digits_natCast (n : ℕ) (s : Int) :
    (roundAmount ⟨n, s⟩).digits = nearestCent ⟨n, s⟩ := by
  obtain short | long := le_or_gt s 2
  · simp [roundAmount, roundPlaces, amountScale, rescale, nearestCent, short]
  · obtain ⟨j, places⟩ : ∃ j, (s - 2).toNat = j + 1 := ⟨(s - 2).toNat - 1, by omega⟩
    have unit : tenTo (s - 2).toNat = tenTo j * 10 := by rw [places, tenTo_succ]
    have cut : rescale ⟨n, s⟩ 2 = ofCents (n / (tenTo j * 10) : ℕ) := by
      simp [rescale, Int.not_le.2 long, unit, ofCents]
    have digit : firstDropped 2 ⟨n, s⟩ = n / tenTo j % 10 := by
      simp [firstDropped, places]
    have sign : isNegative ⟨n, s⟩ = false := by simp [isNegative]
    have rounded : roundPlaces 2 ⟨n, s⟩ =
        ofCents (n / (tenTo j * 10) + if n / tenTo j % 10 ≤ 4 then 0 else 1 : ℕ) := by
      rw [roundPlaces, if_neg (show ¬ s ≤ ((2 : ℕ) : Int) from Int.not_le.2 long), digit, sign]
      dsimp only
      rw [show ((2 : ℕ) : Int) = 2 from rfl, cut]
      split
      · rfl
      · rfl
    rw [nearestCent_natCast n long, unit, half_up_div n (tenTo_pos j), roundAmount, amountScale,
      rounded]
    exact congrArg digits (rescale_self (ofCents _))

/-- One digit decides as the whole value does. -/
theorem roundAmount_digits (d : Decimal) : (roundAmount d).digits = nearestCent d := by
  obtain ⟨n, h⟩ | ⟨n, h⟩ := d.eq_natCast_or_neg
  · rw [h]
    exact roundAmount_digits_natCast n d.scale
  · rw [h, roundAmount_neg, nearestCent_neg, ← roundAmount_digits_natCast n d.scale]
    rfl

theorem roundAmount_eq (d : Decimal) : roundAmount d = ofCents (nearestCent d) := by
  rw [← roundAmount_digits d, ofCents, ← roundAmount_scale d]

/-! ### The nearest hundredth -/

/-- `r` is the hundredth nearest to `q`, and of two that are as near the one farther from zero. -/
structure RoundsTo (q r : ℚ) : Prop where
  whole : ∃ n : ℤ, r = n / 100
  nearest : ∀ n : ℤ, |r - q| ≤ |(n : ℚ) / 100 - q|
  away : ∀ n : ℤ, |(n : ℚ) / 100 - q| = |r - q| → |(n : ℚ) / 100| ≤ |r|

namespace RoundsTo

variable {p q r s : ℚ}

/-- A hundredth is rounded to itself. -/
theorem self (n : ℤ) : RoundsTo (n / 100) (n / 100) := by
  refine ⟨⟨n, rfl⟩, fun m => ?_, fun m tie => ?_⟩
  · rw [sub_self, abs_zero]
    exact abs_nonneg _
  · rw [sub_self, abs_zero, abs_eq_zero, sub_eq_zero] at tie
    rw [tie]

theorem neg (h : RoundsTo q r) : RoundsTo (-q) (-r) := by
  obtain ⟨n, own⟩ := h.whole
  -- a hundredth lies to the one side as its opposite does to the other
  have mirror : ∀ a : ℚ, |a - -q| = |-a - q| := by
    intro a
    rw [← abs_neg]
    ring_nf
  refine ⟨⟨-n, by rw [own]; push_cast; ring⟩, fun m => ?_, fun m tie => ?_⟩
  · have near := h.nearest (-m)
    rw [mirror, mirror, neg_neg]
    rwa [Int.cast_neg, neg_div] at near
  · rw [mirror, mirror, neg_neg] at tie
    have far := h.away (-m)
    rw [Int.cast_neg, neg_div] at far
    rw [abs_neg, ← abs_neg ((m : ℚ) / 100)]
    exact far tie

/-- The hundredth that is less than half of one away, or half of one below. -/
theorem of_within {n : ℕ} (nonneg : 0 ≤ q) (above : (n : ℚ) / 100 - 1 / 200 ≤ q)
    (below : q < (n : ℚ) / 100 + 1 / 200) : RoundsTo q (n / 100) := by
  have near : |(n : ℚ) / 100 - q| ≤ 1 / 200 := abs_le.2 ⟨by linarith, by linarith⟩
  -- every other hundredth is half of one away at least, and those on the far side more than that
  have higher : ∀ m : ℤ, (n : ℤ) < m → 1 / 200 < |(m : ℚ) / 100 - q| := by
    intro m more
    have step : (n : ℚ) + 1 ≤ m := by exact_mod_cast more
    exact lt_abs.2 (.inl (by linarith))
  have lower : ∀ m : ℤ, m < n → 1 / 200 ≤ |(m : ℚ) / 100 - q| := by
    intro m less
    have step : (m : ℚ) + 1 ≤ n := by exact_mod_cast less
    exact le_abs.2 (.inr (by linarith))
  refine ⟨⟨n, by simp⟩, fun m => ?_, fun m tie => ?_⟩
  · rcases lt_trichotomy m n with less | rfl | more
    · exact near.trans (lower m less)
    · exact le_of_eq (by simp)
    · exact near.trans (higher m more).le
  · have under : m ≤ n := by
      by_contra more
      exact absurd (tie ▸ near) (not_le.2 (higher m (not_le.1 more)))
    have over_ : 0 ≤ m := by
      by_contra negative
      have step : (m : ℚ) + 1 ≤ 0 := by exact_mod_cast not_le.1 negative
      have far : 1 / 200 < |(m : ℚ) / 100 - q| := lt_abs.2 (.inr (by linarith))
      exact absurd (tie ▸ near) (not_le.2 far)
    have under : (m : ℚ) ≤ n := by exact_mod_cast under
    have over_ : (0 : ℚ) ≤ m := by exact_mod_cast over_
    rw [abs_of_nonneg (by positivity), abs_of_nonneg (by positivity)]
    linarith

/-- Rounding keeps the order. Were it turned round, both numbers would lie in the middle between the
two hundredths, and the tie would go both ways. -/
theorem mono (hp : RoundsTo p r) (hq : RoundsTo q s) (le : p ≤ q) : r ≤ s := by
  by_contra turned
  have turned : s < r := not_le.1 turned
  obtain ⟨m, rfl⟩ := hp.whole
  obtain ⟨n, rfl⟩ := hq.whole
  have low : ((m : ℚ) / 100 + n / 100) / 2 ≤ p := by
    have near := sq_le_sq.2 (hp.nearest n)
    nlinarith
  have high : q ≤ ((m : ℚ) / 100 + n / 100) / 2 := by
    have near := sq_le_sq.2 (hq.nearest m)
    nlinarith
  obtain rfl : p = q := by linarith
  have middle : p = ((m : ℚ) / 100 + n / 100) / 2 := by linarith
  have tie : |(n : ℚ) / 100 - p| = |(m : ℚ) / 100 - p| :=
    le_antisymm (hq.nearest m) (hp.nearest n)
  obtain same | opposite := abs_eq_abs.1 (le_antisymm (hp.away n tie) (hq.away m tie.symm))
  · exact absurd same turned.ne
  · have zero : p = 0 := by rw [middle, opposite]; ring
    have near := hp.nearest 0
    rw [zero, Int.cast_zero, zero_div, sub_zero, sub_zero, abs_zero, abs_nonpos_iff] at near
    linarith

theorem unique (hr : RoundsTo q r) (hs : RoundsTo q s) : r = s :=
  le_antisymm (hr.mono hs le_rfl) (hs.mono hr le_rfl)

theorem nonneg (h : RoundsTo q r) (le : 0 ≤ q) : 0 ≤ r := by
  have zero := self 0
  rw [Int.cast_zero, zero_div] at zero
  exact zero.mono h le

theorem nonpos (h : RoundsTo q r) (le : q ≤ 0) : r ≤ 0 := by
  have above := h.neg.nonneg (neg_nonneg.2 le)
  linarith

/-- From half a hundredth on something is left. -/
theorem pos_iff (h : RoundsTo q r) : 0 < r ↔ 1 / 200 ≤ q := by
  constructor
  · intro pos
    obtain ⟨n, rfl⟩ := h.whole
    have one_ : (1 : ℚ) ≤ n := by
      have some_ : (0 : ℚ) < n := by linarith
      exact_mod_cast some_
    have near := sq_le_sq.2 (h.nearest 0)
    rw [Int.cast_zero, zero_div] at near
    nlinarith
  · intro half
    have cent : RoundsTo (1 / 200) ((1 : ℕ) / 100) :=
      of_within (by norm_num) (by norm_num) (by norm_num)
    have more := cent.mono h half
    rw [Nat.cast_one] at more
    linarith

end RoundsTo

/-! ### The value of a decimal -/

@[simp] theorem value_ofCents (n : Int) : (ofCents n).value = n / 100 := value_of_scale rfl

@[simp] theorem value_neg (d : Decimal) : d.neg.value = -d.value := by
  simp [value, neg]

/-- The hundredths of a value that needs no rounding. -/
theorem value_of_short {d : Decimal} (short : d.scale ≤ 2) : d.value = nearestCent d / 100 := by
  have split : -d.scale = (2 - d.scale).toNat - 2 := by omega
  have kept : nearestCent d = d.digits * tenTo (2 - d.scale).toNat := by
    rw [nearestCent, if_pos short]
  have power : ((tenTo (2 - d.scale).toNat : ℕ) : ℚ) = 10 ^ (2 - d.scale).toNat := by
    simp [tenTo]
  rw [value, kept, split, zpow_sub₀ (by norm_num), zpow_natCast, Int.cast_mul, Int.cast_natCast,
    power]
  norm_num
  ring

/-- The value in units of the last place, where there are more than two. -/
theorem value_mul_of_long {d : Decimal} (long : 2 < d.scale) :
    d.value * (100 * (tenTo (d.scale - 2).toNat : ℕ)) = d.digits := by
  have split : -d.scale = -((d.scale - 2).toNat : Int) - 2 := by omega
  have power : ((tenTo (d.scale - 2).toNat : ℕ) : ℚ) = 10 ^ (d.scale - 2).toNat := by
    simp [tenTo]
  rw [value, split, zpow_sub₀ (by norm_num), zpow_neg, zpow_natCast, power]
  field_simp
  norm_num

/-- A column of amounts keeps the nearest hundredth. -/
theorem roundsTo_nearestCent (d : Decimal) : RoundsTo d.value (nearestCent d / 100) := by
  obtain short | long := le_or_gt d.scale 2
  · rw [value_of_short short]
    exact RoundsTo.self _
  · -- a number below zero is rounded as its opposite
    have natural : ∀ n : ℕ, RoundsTo (value ⟨n, d.scale⟩) (nearestCent ⟨n, d.scale⟩ / 100) := by
      intro n
      have scaled := value_mul_of_long (d := ⟨n, d.scale⟩) long
      rw [nearestCent_natCast n long]
      dsimp only at scaled
      set unit := tenTo (d.scale - 2).toNat with unit_eq
      set c := (2 * n + unit) / (2 * unit) with c_eq
      have pos : 0 < unit := tenTo_pos _
      have low : c * (2 * unit) ≤ 2 * n + unit := Nat.div_mul_le_self _ _
      have high : 2 * n + unit < (c + 1) * (2 * unit) :=
        Nat.lt_mul_of_div_lt (Nat.lt_succ_self c) (by omega)
      have pos : (0 : ℚ) < unit := by exact_mod_cast pos
      have low : (c : ℚ) * (2 * unit) ≤ 2 * n + unit := by exact_mod_cast low
      have high : (2 : ℚ) * n + unit < (c + 1) * (2 * unit) := by exact_mod_cast high
      have value_eq : value ⟨n, d.scale⟩ = n / (100 * unit) := by
        rw [eq_div_iff (by positivity)]
        exact scaled
      rw [value_eq, Int.cast_natCast]
      refine RoundsTo.of_within (by positivity) ?_ ?_
      · rw [le_div_iff₀ (by positivity)]
        nlinarith
      · rw [div_lt_iff₀ (by positivity)]
        nlinarith
    obtain ⟨n, h⟩ | ⟨n, h⟩ := d.eq_natCast_or_neg
    · rw [h]
      exact natural n
    · rw [h, value_neg, nearestCent_neg, Int.cast_neg, neg_div]
      exact (natural n).neg

theorem roundsTo_roundAmount (d : Decimal) : RoundsTo d.value (roundAmount d).value := by
  rw [roundAmount_eq, value_ofCents]
  exact roundsTo_nearestCent d

/-- A rounded amount is determined by its value. -/
theorem roundAmount_eq_of_value_eq {x y : Decimal} (same : x.value = y.value) :
    roundAmount x = roundAmount y := by
  have rounded : (roundAmount x).value = (roundAmount y).value :=
    (roundsTo_roundAmount x).unique (same ▸ roundsTo_roundAmount y)
  rw [roundAmount_eq, roundAmount_eq, value_ofCents, value_ofCents] at rounded
  have cents : nearestCent x = nearestCent y := by
    have cents : (nearestCent x : ℚ) = nearestCent y := by linarith
    exact_mod_cast cents
  rw [roundAmount_eq, roundAmount_eq, cents]

theorem value_pos_iff {d : Decimal} : 0 < d.value ↔ 0 < d.digits := by
  have unit : (0 : ℚ) < 10 ^ (-d.scale) := by positivity
  rw [value, mul_pos_iff_of_pos_right unit]
  exact Int.cast_pos

theorem checkPositive_eq_ok_iff {d : Decimal} : Amount.checkPositive d = .ok () ↔ 0 < d.value := by
  rw [value_pos_iff, Amount.checkPositive, isPositive]
  split
  next pos => exact iff_of_true rfl (of_decide_eq_true pos)
  next none_ => exact iff_of_false (by simp) (fun pos => none_ (decide_eq_true pos))

theorem checkNonNegative_eq_ok_iff {d : Decimal} :
    Amount.checkNonNegative d = .ok () ↔ 0 ≤ d.value := by
  rw [value_nonneg_iff, Amount.checkNonNegative, isNegative]
  split
  next below => exact iff_of_false (by simp) (not_le.2 (of_decide_eq_true below))
  next above => exact iff_of_true rfl (not_lt.1 fun below => above (decide_eq_true below))

/-- **Amounts are rounded as a column rounds them.** A rounded amount has two places and is the
hundredth nearest to the number, a half going away from zero; it is what a column keeps of the number if
that has room. So rounding twice is rounding once, the order stays, the opposite is rounded to the
opposite, only the number counts and not its form, and no sign is turned round. What is left is above
zero from half a hundredth on, and the two checks say so. -/
theorem roundAmount_rounds (x : Decimal) :
    (roundAmount x).scale = 2 ∧ RoundsTo x.value (roundAmount x).value ∧
    (∀ n, x.toCents? = some n ↔ roundAmount x = ofCents n ∧ n.natAbs < centLimit) ∧
    roundAmount (roundAmount x) = roundAmount x ∧
    (∀ y, x.value ≤ y.value → (roundAmount x).value ≤ (roundAmount y).value) ∧
    roundAmount x.neg = (roundAmount x).neg ∧
    (∀ y, x.value = y.value → roundAmount x = roundAmount y) ∧
    (0 ≤ x.value → 0 ≤ (roundAmount x).value) ∧ (x.value ≤ 0 → (roundAmount x).value ≤ 0) ∧
    (0 < (roundAmount x).value ↔ 1 / 200 ≤ x.value) ∧
    (Amount.checkPositive (roundAmount x) = .ok () ↔ 1 / 200 ≤ x.value) ∧
    (Amount.checkNonNegative x = .ok () ↔ 0 ≤ x.value) := by
  have rounds := roundsTo_roundAmount x
  have twice : roundAmount (roundAmount x) = roundAmount x := by
    rw [roundAmount_eq (roundAmount x), nearestCent_of_scale (roundAmount_scale x),
      roundAmount_digits, roundAmount_eq]
  have column : ∀ n, x.toCents? = some n ↔ roundAmount x = ofCents n ∧ n.natAbs < centLimit := by
    intro n
    rw [toCents?_eq_some_iff, roundAmount_eq, ofCents, ofCents, mk.injEq, and_iff_left rfl]
  exact ⟨roundAmount_scale x, rounds, column, twice,
    fun y le => rounds.mono (roundsTo_roundAmount y) le, roundAmount_neg x,
    fun y same => roundAmount_eq_of_value_eq same, rounds.nonneg, rounds.nonpos, rounds.pos_iff,
    checkPositive_eq_ok_iff.trans rounds.pos_iff, checkNonNegative_eq_ok_iff⟩

theorem roundAmount_rounds_halves :
    value ⟨-5, 3⟩ ≤ value ⟨-4, 3⟩ ∧
      (roundAmount ⟨-5, 3⟩).value ≤ (roundAmount ⟨-4, 3⟩).value ∧
      value ⟨5, -1⟩ = value ⟨500, 1⟩ ∧ roundAmount ⟨5, -1⟩ = roundAmount ⟨500, 1⟩ ∧
      roundAmount ⟨-5, 3⟩ = ofCents (-1) ∧ roundAmount ⟨-4, 3⟩ = ofCents 0 := by
  have order : value ⟨-5, 3⟩ ≤ value ⟨-4, 3⟩ := by norm_num [value]
  have same : value ⟨5, -1⟩ = value ⟨500, 1⟩ := by norm_num [value]
  obtain ⟨-, -, -, -, mono, -⟩ := roundAmount_rounds ⟨-5, 3⟩
  obtain ⟨-, -, -, -, -, -, form, -⟩ := roundAmount_rounds ⟨5, -1⟩
  exact ⟨order, mono _ order, same, form _ same, by decide, by decide⟩

end Loyalty.Decimal
