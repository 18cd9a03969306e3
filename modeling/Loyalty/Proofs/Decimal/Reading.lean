import Loyalty.Decimal.Text
import Loyalty.Proofs.Decimal.Cents

/-!
# Reading back a decimal

The text of a decimal has all its digits, and a point where its scale puts it. Who reads it gets the
decimal back; only a scale below zero is not seen again, since its zeros are written out and are read as
digits like the others. The number is the same in any case.

Main statements: `parse_toText` and `exists_parse_toText`, for decimals of every scale.
-/

namespace Loyalty.Decimal

/-! ### Reading digits -/

structure IsNumeral (cs : List Char) : Prop where
  digits : ∀ c ∈ cs, c.isDigit = true
  nonempty : cs ≠ []

/-- A numeral begins with no other character. -/
theorem IsNumeral.ne_cons {cs : List Char} (numeral : IsNumeral cs) {c : Char}
    (other : c.isDigit = false) (rest : List Char) : cs ≠ c :: rest := by
  rintro rfl
  have first := numeral.digits c List.mem_cons_self
  rw [other] at first
  cases first

theorem readLongDigits_of_isDigit {cs : List Char} (digits : ∀ c ∈ cs, c.isDigit = true)
    (acc : Nat) : readLongDigits acc cs = .ok (Nat.ofDigitChars 10 cs acc) := by
  induction cs generalizing acc with
  | nil => rfl
  | cons c cs ih =>
    have first : c.isDigit = true := digits c List.mem_cons_self
    have rest := ih fun c among => digits c (List.mem_cons_of_mem _ among)
    have value : Text.digit? c = some (c.toNat - '0'.toNat) := if_pos first
    have plain : c ≠ '_' := by
      rintro rfl
      cases first
    rw [readLongDigits.eq_3 _ _ _ plain, value, Nat.ofDigitChars_cons, Nat.mul_comm]
    exact rest _

theorem readLongNat_of_isNumeral {cs : List Char} (numeral : IsNumeral cs) :
    readLongNat cs = .ok (Nat.ofDigitChars 10 cs 0) := by
  rw [readLongNat.eq_3 cs numeral.nonempty (numeral.ne_cons rfl)]
  exact readLongDigits_of_isDigit numeral.digits 0

def signChars (negative : Bool) : List Char := if negative then ['-'] else []

def signed (negative : Bool) (n : Nat) : Int := if negative then -n else n

theorem readLongInt_of_isNumeral {cs : List Char} (numeral : IsNumeral cs) (negative : Bool) :
    readLongInt (signChars negative ++ cs) = .ok (signed negative (Nat.ofDigitChars 10 cs 0)) := by
  have read := readLongNat_of_isNumeral numeral
  cases negative with
  | true =>
    show readLongInt ('-' :: cs) = _
    rw [readLongInt.eq_2 cs (numeral.ne_cons rfl), read]
    rfl
  | false =>
    show readLongInt cs = _
    rw [readLongInt.eq_5 cs (fun _ => numeral.ne_cons rfl _) (numeral.ne_cons rfl)
      (fun _ => numeral.ne_cons rfl _) (numeral.ne_cons rfl), read]
    rfl

theorem signed_natAbs (d : Decimal) (k : Nat) :
    signed d.isNegative (d.digits.natAbs * k) = d.digits * k := by
  rw [signed, isNegative, Nat.cast_mul]
  split
  next below =>
    rw [Int.ofNat_natAbs_of_nonpos (of_decide_eq_true below).le]
    ring
  next above => rw [Int.natAbs_of_nonneg (not_lt.1 fun below => above (decide_eq_true below))]

/-! ### A point among digits -/

/-- Neither a digit nor a sign is a point or marks an exponent. -/
theorem plain_of_isDigit (negative : Bool) {cs : List Char} (digits : ∀ c ∈ cs, c.isDigit = true) :
    ∀ c ∈ signChars negative ++ cs, isExponentMark c = false ∧ c ≠ '.' := by
  intro c among
  obtain sign | digit := List.mem_append.1 among
  · cases negative with
    | true =>
      obtain rfl := List.mem_singleton.1 sign
      decide
    | false => cases sign
  · have digit := digits c digit
    refine ⟨?_, by rintro rfl; cases digit⟩
    rw [isExponentMark, Bool.or_eq_false_iff, beq_eq_false_iff_ne, beq_eq_false_iff_ne]
    constructor <;> rintro rfl <;> cases digit

/-- A text without an exponent is read as it stands. -/
theorem parseChars_of_splitPoint {cs digits : List Char} {after : Nat} {n : Int}
    (plain : ∀ c ∈ cs, isExponentMark c = false) (nonempty : cs ≠ [])
    (split : splitPoint cs = (digits, after)) (read : readLongInt digits = .ok n) :
    parseChars cs = .ok ⟨n, after⟩ := by
  have whole : cs.takeWhile (fun c => !isExponentMark c) = cs :=
    List.takeWhile_eq_self_iff.2 fun c among => by rw [plain c among]; rfl
  have none_ : cs.dropWhile (fun c => !isExponentMark c) = [] :=
    List.dropWhile_eq_nil_iff.2 fun c among => by rw [plain c among]; rfl
  have some_ : cs.isEmpty = false := List.isEmpty_eq_false_iff.2 nonempty
  simp [parseChars, whole, none_, some_, split, read, Except.mapError, bind, Except.bind, pure,
    Except.pure]

theorem parseChars_whole {cs : List Char} (numeral : IsNumeral cs) (negative : Bool) :
    parseChars (signChars negative ++ cs) =
      .ok ⟨signed negative (Nat.ofDigitChars 10 cs 0), 0⟩ := by
  have plain := plain_of_isDigit negative numeral.digits
  have none_ : (signChars negative ++ cs).dropWhile (· != '.') = [] :=
    List.dropWhile_eq_nil_iff.2 fun c among => bne_iff_ne.2 (plain c among).2
  exact parseChars_of_splitPoint (fun c among => (plain c among).1)
    (List.append_ne_nil_of_right_ne_nil _ numeral.nonempty) (by rw [splitPoint, none_])
    (readLongInt_of_isNumeral numeral negative)

theorem parseChars_pointed {before after : List Char} (numeral : IsNumeral (before ++ after))
    (negative : Bool) :
    parseChars (signChars negative ++ (before ++ '.' :: after)) =
      .ok ⟨signed negative (Nat.ofDigitChars 10 (before ++ after) 0), after.length⟩ := by
  have front := plain_of_isDigit negative fun c among =>
    numeral.digits c (List.mem_append_left after among)
  have behind := plain_of_isDigit false fun c among =>
    numeral.digits c (List.mem_append_right before among)
  have passes : ∀ c ∈ signChars negative ++ before, (c != '.') = true :=
    fun c among => bne_iff_ne.2 (front c among).2
  rw [← List.append_assoc]
  refine parseChars_of_splitPoint (fun c among => ?_) (by simp) ?_
    (readLongInt_of_isNumeral numeral negative)
  · obtain early | late := List.mem_append.1 among
    · exact (front c early).1
    · obtain rfl | late := List.mem_cons.1 late
      · decide
      · exact (behind c late).1
  · rw [splitPoint, List.dropWhile_append_of_pos passes, List.takeWhile_append_of_pos passes]
    simp

/-! ### Reading what was written -/

/-- The digits of a number with zeros in front and behind. -/
def padded (front n behind : Nat) : List Char :=
  List.replicate front '0' ++ natDigits n ++ List.replicate behind '0'

theorem isNumeral_padded (front n behind : Nat) : IsNumeral (padded front n behind) := by
  refine ⟨fun c among => ?_, by simp [padded, natDigits, Nat.toDigits_ne_nil]⟩
  rw [padded, List.mem_append, List.mem_append] at among
  obtain (zero | digit) | zero := among
  · rw [List.eq_of_mem_replicate zero]
    rfl
  · exact Nat.isDigit_of_mem_toDigits (by decide) (by decide) digit
  · rw [List.eq_of_mem_replicate zero]
    rfl

theorem ofDigitChars_padded (front n behind : Nat) :
    Nat.ofDigitChars 10 (padded front n behind) 0 = n * tenTo behind := by
  rw [padded, Nat.ofDigitChars_append, Nat.ofDigitChars_append, Nat.ofDigitChars_replicate_zero,
    Nat.ofDigitChars_replicate_zero, Nat.mul_zero, natDigits,
    Nat.ofDigitChars_toDigits (by decide) (by decide), Nat.mul_comm]
  rfl

/-- A scale above zero puts the point among the digits, with so many of them behind it. -/
theorem placePoint_of_pos (n scale : Nat) (pos : 0 < scale) :
    ∃ front before after, placePoint (natDigits n) scale = before ++ '.' :: after ∧
      before ++ after = padded front n 0 ∧ after.length = scale := by
  set front := scale + 1 - (natDigits n).length with front_eq
  set all := List.replicate front '0' ++ natDigits n with all_eq
  have long : scale ≤ all.length := by
    rw [all_eq, List.length_append, List.length_replicate]
    omega
  refine ⟨front, all.take (all.length - scale), all.drop (all.length - scale), ?_, ?_, ?_⟩
  · rw [placePoint, if_neg (by omega)]
    rfl
  · rw [List.take_append_drop, padded, List.replicate_zero, List.append_nil]
  · rw [List.length_drop]
    omega

/-- **What was written is read again**, the zeros of a scale below zero as digits. -/
theorem parse_toText (d : Decimal) : parse d.toText = .ok (d.rescale (max d.scale 0)) := by
  have chars : d.toText.toList =
      signChars d.isNegative ++ placePoint (natDigits d.digits.natAbs) d.scale :=
    String.toList_ofList
  rw [parse, chars]
  obtain below | above := le_or_gt d.scale 0
  · have placed : placePoint (natDigits d.digits.natAbs) d.scale =
        padded 0 d.digits.natAbs (-d.scale).toNat := by
      rw [placePoint, if_pos below]
      rfl
    rw [placed, parseChars_whole (isNumeral_padded _ _ _), ofDigitChars_padded, signed_natAbs,
      max_eq_right below, rescale, if_pos below, zero_sub]
  · obtain ⟨scale, own⟩ : ∃ n : Nat, d.scale = n := ⟨d.scale.toNat, by omega⟩
    obtain ⟨front, before, after, placed, joined, length⟩ :=
      placePoint_of_pos d.digits.natAbs scale (by omega)
    have numeral := isNumeral_padded front d.digits.natAbs 0
    rw [← joined] at numeral
    rw [own, placed, parseChars_pointed numeral, joined, ofDigitChars_padded, signed_natAbs, length,
      max_eq_left (by omega), ← own, rescale_self, tenTo_zero, Nat.cast_one, mul_one]

/-- More places do not change the number. -/
theorem value_rescale_of_le {d : Decimal} {s : Int} (le : d.scale ≤ s) :
    (d.rescale s).value = d.value := by
  have split : -d.scale = (s - d.scale).toNat + -s := by omega
  have power : ((tenTo (s - d.scale).toNat : ℕ) : ℚ) = 10 ^ (s - d.scale).toNat := by simp [tenTo]
  rw [value, rescale_scale, rescale_digits_of_le le, value, split, zpow_add₀ (by norm_num),
    zpow_natCast, Int.cast_mul, Int.cast_natCast, power, mul_assoc]

/-- A text names the number that it was written for. -/
theorem exists_parse_toText (d : Decimal) :
    ∃ again, parse d.toText = .ok again ∧ again.value = d.value :=
  ⟨_, parse_toText d, value_rescale_of_le (le_max_left _ _)⟩

end Loyalty.Decimal
