import Mathlib
import Loyalty.OrderNumber

/-!
# What the Luhn rule accepts and what it finds

A text is accepted when it has one to sixty-four digits and their sum is divisible by ten, where every
second of them, counted from the right, counts with the digits of its double. The check is made in
machine words, bytes taken down to digits and added up in thirty-two bits; since only digits come that
far, no step leaves its range.

What a digit adds to the sum tells it from every other digit, at either kind of place. So one digit
that is put in the place of another is always found, and there is one digit to complete any number.
Two neighbours change places unnoticed only when they are the digits 0 and 9, which add as much in
one order as in the other.

Main statement: `luhn_accepts_and_detects`, for every text.
-/

namespace Loyalty.OrderNumber

/-! ### The texts that are order numbers -/

/-- The text has digits and nothing else. -/
def IsNumeral (number : String) : Prop := number ≠ "" ∧ ∀ c ∈ number.toList, c.isDigit = true

/-- The database takes every numeral as a text. -/
theorem IsNumeral.text {number : String} (numeral : IsNumeral number) :
    '\x00' ∉ number.toList := by
  intro zero
  have digit := numeral.2 _ zero
  cases digit

theorem toNat_of_isDigit {c : Char} (digit : c.isDigit = true) : 48 ≤ c.toNat ∧ c.toNat ≤ 57 := by
  simpa [Char.isDigit_iff_toNat] using digit

theorem isBlank_of_isDigit {c : Char} (digit : c.isDigit = true) : Text.isBlank c = false := by
  obtain ⟨low, high⟩ := toNat_of_isDigit digit
  have apart : ∀ r ∈ Text.blankRanges, r.2 < 48 ∨ 57 < r.1 := by decide
  rw [Text.isBlank, List.any_eq_false]
  intro r among
  rw [Bool.and_eq_true, decide_eq_true_eq, decide_eq_true_eq]
  obtain below | above := apart r among <;> omega

def bytes (number : String) : List UInt8 := number.toUTF8.data.toList

theorem bytes_eq (number : String) :
    bytes number = number.toList.flatMap String.utf8EncodeChar := by
  rw [bytes, String.toUTF8, ← String.utf8Encode_toList, List.utf8Encode, List.data_toByteArray]

theorem utf8EncodeChar_of_isDigit {c : Char} (digit : c.isDigit = true) :
    String.utf8EncodeChar c = [c.toNat.toUInt8] := by
  have low : c.val.toNat ≤ 127 := (toNat_of_isDigit digit).2.trans (by decide)
  rw [String.utf8EncodeChar, if_pos low]
  rfl

/-- Every digit is one byte. -/
theorem bytes_of_isDigit {number : String} (digits : ∀ c ∈ number.toList, c.isDigit = true) :
    bytes number = number.toList.map fun c => c.toNat.toUInt8 := by
  rw [bytes_eq, ← List.flatMap_pure_eq_map]
  exact List.flatMap_congr fun c among => utf8EncodeChar_of_isDigit (digits c among)

theorem utf8ByteSize_of_isDigit {number : String}
    (digits : ∀ c ∈ number.toList, c.isDigit = true) : number.utf8ByteSize = number.length := by
  have size : number.utf8ByteSize = (bytes number).length := rfl
  rw [size, bytes_of_isDigit digits, List.length_map, String.length_toList]

/-- An order number is a numeral of at most sixty-four digits. -/
theorem check_eq_ok_iff {number : String} :
    check number = .ok () ↔ IsNumeral number ∧ number.length ≤ 64 := by
  by_cases digits : ∀ c ∈ number.toList, c.isDigit = true
  · have all : number.toList.all Char.isDigit = true := List.all_eq_true.2 digits
    have size := utf8ByteSize_of_isDigit digits
    have trimmed : Text.trim number.toList = number.toList :=
      Text.trim_eq_self
        (fun c first => isBlank_of_isDigit (digits c (List.mem_of_mem_head? first)))
        (fun c last => isBlank_of_isDigit (digits c (List.mem_of_mem_getLast? last)))
    have empty : number.toList.isEmpty = true ↔ number = "" := by
      rw [List.isEmpty_iff, String.toList_eq_nil_iff]
    unfold check checkRequired IsNumeral
    rw [trimmed, size, all]
    by_cases none_ : number = ""
    · rw [if_pos (empty.2 none_)]
      exact iff_of_false nofun fun h => h.1.1 none_
    · rw [if_neg (mt empty.1 none_)]
      show (do
        if number.length > maxLength then
          throw ⟨field, s!"must be at most {maxLength} characters"⟩ : Except Violation Unit) =
        .ok () ↔ _
      by_cases long : number.length > maxLength
      · rw [if_pos long]
        exact iff_of_false nofun fun h => absurd h.2 (Nat.not_le.2 long)
      · rw [if_neg long]
        exact iff_of_true rfl ⟨⟨none_, digits⟩, Nat.not_lt.1 long⟩
  · have all : number.toList.all Char.isDigit = false :=
      Bool.eq_false_iff.2 (mt List.all_eq_true.1 digits)
    refine iff_of_false (fun passed => ?_) fun h => digits h.1.2
    unfold check at passed
    rw [all] at passed
    cases blank : checkRequired field number with
    | error v =>
      rw [blank] at passed
      cases passed
    | ok _ =>
      rw [blank] at passed
      by_cases long : number.utf8ByteSize > maxLength
      · rw [if_pos long] at passed
        cases passed
      · rw [if_neg long] at passed
        cases passed

/-! ### The sum by places -/

/-- What a digit adds at a place of either kind. -/
def added (even : Bool) (d : Nat) : Nat := if even then d else doubled d

/-- The kind of the place that is so many further on. -/
def further (even : Bool) (n : Nat) : Bool := if n % 2 = 0 then even else !even

/-- What a digit counts at a place, the places counted from 0: at every second one the digits of its
double. -/
def share (place d : Nat) : Nat := if place % 2 = 1 then (Nat.digits 10 (2 * d)).sum else d

/-- The Luhn sum of a number: what its digits count at their places from the right. -/
def luhnTotal (number : String) : Nat := ((digitsFromRight number).mapIdx share).sum

section Sum

variable {even : Bool} {d : Nat} {ds xs ys : List Nat}

theorem luhnSum_cons : luhnSum even (d :: ds) = added even d + luhnSum (!even) ds := by
  cases even <;> rfl

theorem luhnSum_singleton : luhnSum even [d] = added even d := luhnSum_cons

theorem further_not (n : Nat) : further (!even) n = further even (n + 1) := by
  unfold further
  obtain even_ | odd := Nat.mod_two_eq_zero_or_one n
  · rw [if_pos even_, if_neg (by omega)]
  · rw [if_neg (by omega), if_pos (by omega), Bool.not_not]

theorem luhnSum_append :
    luhnSum even (xs ++ ys) = luhnSum even xs + luhnSum (further even xs.length) ys := by
  induction xs generalizing even with
  | nil => simp [luhnSum, further]
  | cons d xs ih =>
    rw [List.cons_append, luhnSum_cons, luhnSum_cons, ih, further_not, List.length_cons,
      Nat.add_assoc]

theorem added_eq_share (n : Nat) (digit : d ≤ 9) : added (n % 2 = 0) d = share n d := by
  have twice : ∀ d ≤ 9, doubled d = (Nat.digits 10 (2 * d)).sum := by decide +kernel
  unfold added share
  obtain even_ | odd := Nat.mod_two_eq_zero_or_one n
  · rw [if_pos (by simpa using even_), if_neg (by omega)]
  · rw [if_neg (by simp [odd]), if_pos odd, twice d digit]

/-- The sum that goes from digit to digit is the one that goes by places. -/
theorem luhnSum_eq (n : Nat) (digits : ∀ d ∈ ds, d ≤ 9) :
    luhnSum (n % 2 = 0) ds = (ds.mapIdx fun i => share (i + n)).sum := by
  induction ds generalizing n with
  | nil => rfl
  | cons d ds ih =>
    have other : (!decide (n % 2 = 0)) = decide ((n + 1) % 2 = 0) := by
      rw [← decide_not, decide_eq_decide]
      omega
    have places : (fun i => share (i + 1 + n)) = fun i => share (i + (n + 1)) := by
      funext i
      rw [Nat.add_assoc, Nat.add_comm 1 n]
    rw [luhnSum_cons, other, ih _ fun d among => digits d (List.mem_cons_of_mem _ among),
      List.mapIdx_cons, List.sum_cons, places, Nat.zero_add,
      added_eq_share n (digits d List.mem_cons_self)]

end Sum

/-! ### The check on the digits -/

def values (cs : List Char) : List Nat := cs.map fun c => c.toNat - '0'.toNat

theorem value_le {c : Char} (digit : c.isDigit = true) : c.toNat - '0'.toNat ≤ 9 := by
  have high := (toNat_of_isDigit digit).2
  show c.toNat - 48 ≤ 9
  omega

theorem values_le {cs : List Char} (digits : ∀ c ∈ cs, c.isDigit = true) :
    ∀ d ∈ values cs, d ≤ 9 := by
  intro d among
  obtain ⟨c, mine, rfl⟩ := List.mem_map.1 among
  exact value_le (digits c mine)

theorem checkLuhn_of_check_eq_error {number : String} {v : Violation}
    (refused : check number = .error v) : checkLuhn number = .error v := by
  rw [checkLuhn, refused]
  rfl

theorem checkLuhn_of_check_eq_ok {number : String} (passed : check number = .ok ()) :
    checkLuhn number =
      if luhnSum true (digitsFromRight number) % 10 = 0 then .ok ()
      else .error ⟨field, "failed Luhn checksum"⟩ := by
  rw [checkLuhn, passed]
  show (do if !passesLuhn number then throw ⟨field, "failed Luhn checksum"⟩ :
    Except Violation Unit) = _
  unfold passesLuhn
  by_cases divides : luhnSum true (digitsFromRight number) % 10 = 0
  · rw [divides]
    rfl
  · rw [if_neg divides, beq_eq_false_iff_ne.2 divides]
    rfl

theorem checkLuhn_eq_ok_iff {number : String} :
    checkLuhn number = .ok () ↔ IsNumeral number ∧ number.length ≤ 64 ∧
      luhnSum true (digitsFromRight number) % 10 = 0 := by
  rw [← and_assoc, ← check_eq_ok_iff]
  cases plain : check number with
  | error v =>
    rw [checkLuhn_of_check_eq_error plain]
    exact iff_of_false nofun fun h => nomatch h.1
  | ok _ =>
    rw [checkLuhn_of_check_eq_ok plain]
    by_cases divides : luhnSum true (digitsFromRight number) % 10 = 0
    · rw [if_pos divides]
      exact iff_of_true rfl ⟨rfl, divides⟩
    · rw [if_neg divides]
      exact iff_of_false nofun fun h => divides h.2

theorem digitsFromRight_ofList (cs : List Char) :
    digitsFromRight (String.ofList cs) = values cs.reverse := by
  rw [digitsFromRight, String.toList_ofList]
  rfl

/-- The check on a text that is given by its characters. -/
theorem checkLuhn_ofList_iff {cs : List Char} :
    checkLuhn (String.ofList cs) = .ok () ↔ cs ≠ [] ∧ (∀ c ∈ cs, c.isDigit = true) ∧
      cs.length ≤ 64 ∧ luhnSum true (values cs.reverse) % 10 = 0 := by
  have empty : String.ofList cs ≠ "" ↔ cs ≠ [] := by
    rw [Ne, Ne, ← String.toList_eq_nil_iff, String.toList_ofList]
  rw [checkLuhn_eq_ok_iff, IsNumeral, empty, String.toList_ofList, String.length_ofList,
    digitsFromRight_ofList, and_assoc]

/-! ### The sum in machine words -/

/-- The digit that a byte stands for; none if the byte lies below that of `0`. -/
def ofByte? (b : UInt8) : Option UInt32 :=
  if 48 ≤ b then some (b - 48).toUInt32 else none

/-- A sum, a double and a difference; none if they leave thirty-two bits. -/
def add? (a b : UInt32) : Option UInt32 :=
  if a.toNat + b.toNat < UInt32.size then some (a + b) else none
@[inherit_doc add?] def double? (a : UInt32) : Option UInt32 :=
  if a.toNat * 2 < UInt32.size then some (a * 2) else none
@[inherit_doc add?] def sub? (a b : UInt32) : Option UInt32 :=
  if b ≤ a then some (a - b) else none

def addedWord? (even : Bool) (digit : UInt32) : Option UInt32 :=
  if even then some digit
  else do
    let twice ← double? digit
    if 9 < twice then sub? twice 9 else some twice

/-- The sum of the digits that bytes stand for, the rightmost first, onto a sum. -/
def sumWords? (even : Bool) (sum : UInt32) : List UInt8 → Option UInt32
  | [] => some sum
  | b :: bs => do
    let digit ← ofByte? b
    let sum ← add? sum (← addedWord? even digit)
    sumWords? (!even) sum bs

/-- The check in machine words: no answer if a step leaves its range. -/
def checkLuhnInWords? (number : String) : Option (Except Violation Unit) :=
  match check number with
  | .error v => some (.error v)
  | .ok _ => (sumWords? true 0 (bytes number).reverse).map fun sum =>
    if sum % 10 = 0 then .ok () else .error ⟨field, "failed Luhn checksum"⟩

theorem ofByte?_of_isDigit {c : Char} (digit : c.isDigit = true) :
    ∃ w, ofByte? c.toNat.toUInt8 = some w ∧ w.toNat = c.toNat - '0'.toNat := by
  obtain ⟨low, high⟩ := toNat_of_isDigit digit
  have byte : c.toNat.toUInt8.toNat = c.toNat := by
    rw [Nat.toUInt8, UInt8.toNat_ofNat', Nat.mod_eq_of_lt (by omega)]
  have above : (48 : UInt8) ≤ c.toNat.toUInt8 := by
    rw [UInt8.le_iff_toNat_le, byte]
    exact low
  refine ⟨_, if_pos above, ?_⟩
  rw [UInt8.toNat_toUInt32, UInt8.toNat_sub_of_le _ _ above, byte]
  rfl

theorem addedWord?_of_le (even : Bool) {w : UInt32} (digit : w.toNat ≤ 9) :
    ∃ v, addedWord? even w = some v ∧ v.toNat = added even w.toNat ∧ v.toNat ≤ 9 := by
  cases even with
  | true => exact ⟨w, rfl, rfl, digit⟩
  | false =>
    have room : w.toNat * 2 < UInt32.size := by
      have size : UInt32.size = 4294967296 := rfl
      omega
    have twice : (w * 2).toNat = w.toNat * 2 := by
      rw [UInt32.toNat_mul]
      exact Nat.mod_eq_of_lt room
    have begun : addedWord? false w = if 9 < w * 2 then sub? (w * 2) 9 else some (w * 2) := by
      show (do
        let twice ← double? w
        if 9 < twice then sub? twice 9 else some twice) = _
      rw [double?, if_pos room]
      rfl
    rw [begun]
    by_cases large : (9 : UInt32) < w * 2
    · have large' : 9 < w.toNat * 2 := by
        rw [← twice]
        exact UInt32.lt_iff_toNat_lt.1 large
      have under : (9 : UInt32) ≤ w * 2 := UInt32.le_of_lt large
      have less : (w * 2 - 9).toNat = w.toNat * 2 - 9 := by
        rw [UInt32.toNat_sub_of_le _ _ under, twice]
        rfl
      refine ⟨w * 2 - 9, by rw [if_pos large, sub?, if_pos under], ?_, by omega⟩
      rw [less, added, doubled, if_neg Bool.false_ne_true, if_pos large']
    · have small : ¬ 9 < w.toNat * 2 := by
        rw [← twice]
        exact fun more => large (UInt32.lt_iff_toNat_lt.2 more)
      refine ⟨w * 2, if_neg large, ?_, by omega⟩
      rw [twice, added, doubled, if_neg Bool.false_ne_true, if_neg small]

/-- As long as there is room for nine more with each digit, no step leaves its range. -/
theorem sumWords?_of_isDigit {cs : List Char} (digits : ∀ c ∈ cs, c.isDigit = true) (even : Bool)
    (sum : UInt32) (room : sum.toNat + 9 * cs.length < UInt32.size) :
    ∃ total, sumWords? even sum (cs.map fun c => c.toNat.toUInt8) = some total ∧
      total.toNat = sum.toNat + luhnSum even (values cs) := by
  induction cs generalizing even sum with
  | nil => exact ⟨sum, rfl, rfl⟩
  | cons c cs ih =>
    obtain ⟨w, read, value⟩ := ofByte?_of_isDigit (digits c List.mem_cons_self)
    have small : w.toNat ≤ 9 := by
      rw [value]
      exact value_le (digits c List.mem_cons_self)
    obtain ⟨v, adds, worth, bound⟩ := addedWord?_of_le even small
    rw [List.length_cons] at room
    have fits : sum.toNat + v.toNat < UInt32.size := by omega
    have next : (sum + v).toNat = sum.toNat + v.toNat := by
      rw [UInt32.toNat_add]
      exact Nat.mod_eq_of_lt fits
    obtain ⟨total, summed, same⟩ :=
      ih (fun c among => digits c (List.mem_cons_of_mem _ among)) (!even) (sum + v) (by omega)
    refine ⟨total, ?_, ?_⟩
    · simp [sumWords?, read, adds, add?, fits, summed]
    · have parted : values (c :: cs) = w.toNat :: values cs := by rw [value]; rfl
      rw [same, next, parted, luhnSum_cons, worth, Nat.add_assoc]

/-- In machine words the check gives the same answer, whatever the text. -/
theorem checkLuhnInWords?_eq (number : String) :
    checkLuhnInWords? number = some (checkLuhn number) := by
  unfold checkLuhnInWords?
  cases plain : check number with
  | error v => rw [checkLuhn_of_check_eq_error plain]
  | ok _ =>
    obtain ⟨⟨-, digits⟩, short⟩ := check_eq_ok_iff.1 plain
    have turned : ∀ c ∈ number.toList.reverse, c.isDigit = true := fun c among =>
      digits c (List.mem_reverse.1 among)
    have length : number.toList.reverse.length ≤ 64 := by
      rw [List.length_reverse, String.length_toList]
      exact short
    obtain ⟨total, summed, same⟩ := sumWords?_of_isDigit turned true 0 (by
      have size : UInt32.size = 4294967296 := rfl
      rw [size, UInt32.toNat_zero]
      omega)
    rw [UInt32.toNat_zero, Nat.zero_add] at same
    have rest : total % 10 = 0 ↔ luhnSum true (digitsFromRight number) % 10 = 0 := by
      rw [← UInt32.toNat_inj, UInt32.toNat_mod, same]
      rfl
    rw [bytes_of_isDigit digits, ← List.map_reverse, summed, checkLuhn_of_check_eq_ok plain]
    simp only [Option.map_some, rest]

/-! ### What the sum tells apart -/

section Detection

variable {even : Bool} {d e : Nat} {c other : Char} {front behind : List Char}

theorem added_le (digit : d ≤ 9) : added even d ≤ 9 := by
  have all : ∀ even : Bool, ∀ d ≤ 9, added even d ≤ 9 := by decide
  exact all even d digit

/-- At either kind of place different digits add different amounts. -/
theorem added_inj (first : d ≤ 9) (second : e ≤ 9) (same : added even d = added even e) :
    d = e := by
  have all : ∀ even : Bool, ∀ d ≤ 9, ∀ e ≤ 9, added even d = added even e → d = e := by
    decide +kernel
  exact all even d first e second same

/-- Two digits at neighbouring places add the same in either order only if they are one digit, or 0
and 9. -/
theorem added_swap (first : d ≤ 9) (second : e ≤ 9) :
    (added even d + added (!even) e) % 10 = (added even e + added (!even) d) % 10 ↔
      d = e ∨ (d = 0 ∧ e = 9) ∨ (d = 9 ∧ e = 0) := by
  have all : ∀ even : Bool, ∀ d ≤ 9, ∀ e ≤ 9,
      ((added even d + added (!even) e) % 10 = (added even e + added (!even) d) % 10 ↔
        d = e ∨ (d = 0 ∧ e = 9) ∨ (d = 9 ∧ e = 0)) := by decide +kernel
  exact all even d first e second

/-- A digit is told by its value. -/
theorem eq_of_value_eq (digit : c.isDigit = true) (digit' : other.isDigit = true)
    (same : c.toNat - '0'.toNat = other.toNat - '0'.toNat) : c = other := by
  have low := (toNat_of_isDigit digit).1
  have low' := (toNat_of_isDigit digit').1
  have same : c.toNat - 48 = other.toNat - 48 := same
  exact Char.toNat_inj.1 (by omega)

/-- The sum over a number, with what so many neighbours in it add set apart. -/
theorem exists_luhnSum_eq (front behind : List Char) (n : Nat) :
    ∃ even rest, ∀ block : List Char, block.length = n →
      luhnSum true (values (front ++ (block ++ behind)).reverse) =
        rest + luhnSum even (values block.reverse) := by
  refine ⟨further true (values behind.reverse).length,
    luhnSum true (values behind.reverse) +
      luhnSum (further (further true (values behind.reverse).length) n) (values front.reverse),
    fun block length => ?_⟩
  have parted : values (front ++ (block ++ behind)).reverse =
      values behind.reverse ++ (values block.reverse ++ values front.reverse) := by
    simp [values]
  have places : (values block.reverse).length = n := by
    rw [values, List.length_map, List.length_reverse, length]
  rw [parted, luhnSum_append, luhnSum_append, places]
  omega

/-- One digit in the place of another is found. -/
theorem checkLuhn_replace_iff (passed : checkLuhn (String.ofList (front ++ c :: behind)) = .ok ()) :
    checkLuhn (String.ofList (front ++ other :: behind)) = .ok () ↔ other = c := by
  refine ⟨fun passed' => ?_, fun same => by rwa [same]⟩
  obtain ⟨-, digits, -, divides⟩ := checkLuhn_ofList_iff.1 passed
  obtain ⟨-, digits', -, divides'⟩ := checkLuhn_ofList_iff.1 passed'
  have digit := digits c (by simp)
  have digit' := digits' other (by simp)
  obtain ⟨even, rest, sums⟩ := exists_luhnSum_eq front behind 1
  have sum (c : Char) : luhnSum true (values (front ++ c :: behind).reverse) =
      rest + added even (c.toNat - '0'.toNat) := by
    refine (sums [c] rfl).trans ?_
    show rest + luhnSum even [c.toNat - '0'.toNat] = _
    rw [luhnSum_singleton]
  rw [sum] at divides divides'
  have bound : added even (c.toNat - '0'.toNat) ≤ 9 := added_le (value_le digit)
  have bound' : added even (other.toNat - '0'.toNat) ≤ 9 := added_le (value_le digit')
  have same : added even (other.toNat - '0'.toNat) = added even (c.toNat - '0'.toNat) := by omega
  exact eq_of_value_eq digit' digit (added_inj (value_le digit') (value_le digit) same)

/-- Two neighbours that change places are found unless they are one digit, or 0 and 9. -/
theorem checkLuhn_swap_iff {a b : Char}
    (passed : checkLuhn (String.ofList (front ++ a :: b :: behind)) = .ok ()) :
    checkLuhn (String.ofList (front ++ b :: a :: behind)) = .ok () ↔
      a = b ∨ (a = '0' ∧ b = '9') ∨ (a = '9' ∧ b = '0') := by
  obtain ⟨-, digits, short, divides⟩ := checkLuhn_ofList_iff.1 passed
  have first := digits a (by simp)
  have second := digits b (by simp)
  have among (c : Char) : c ∈ front ++ b :: a :: behind ↔ c ∈ front ++ a :: b :: behind := by
    simp [or_left_comm]
  obtain ⟨even, rest, sums⟩ := exists_luhnSum_eq front behind 2
  have sum (a b : Char) : luhnSum true (values (front ++ a :: b :: behind).reverse) =
      rest + (added even (b.toNat - '0'.toNat) + added (!even) (a.toNat - '0'.toNat)) := by
    refine (sums [a, b] rfl).trans ?_
    show rest + luhnSum even [b.toNat - '0'.toNat, a.toNat - '0'.toNat] = _
    rw [luhnSum_cons, luhnSum_singleton]
  rw [sum] at divides
  have named (c x : Char) (digit : c.isDigit = true) (digit' : x.isDigit = true) :
      c.toNat - '0'.toNat = x.toNat - '0'.toNat ↔ c = x :=
    ⟨eq_of_value_eq digit digit', fun same => by rw [same]⟩
  have kinds : a = b ∨ (a = '0' ∧ b = '9') ∨ (a = '9' ∧ b = '0') ↔
      (added even (a.toNat - '0'.toNat) + added (!even) (b.toNat - '0'.toNat)) % 10 =
        (added even (b.toNat - '0'.toNat) + added (!even) (a.toNat - '0'.toNat)) % 10 := by
    rw [added_swap (value_le first) (value_le second), named a b first second,
      ← named a '0' first rfl, ← named b '9' second rfl, ← named a '9' first rfl,
      ← named b '0' second rfl]
    rfl
  rw [checkLuhn_ofList_iff, sum, kinds]
  constructor
  · rintro ⟨-, -, -, divides'⟩
    omega
  · intro same
    refine ⟨by simp, fun c mine => digits c ((among c).1 mine), ?_, by omega⟩
    simpa using short

/-- One digit completes a number. -/
theorem exists_last_digit {cs : List Char} (digits : ∀ c ∈ cs, c.isDigit = true)
    (short : cs.length ≤ 63) :
    ∃ last : Char, last.isDigit = true ∧
      ∀ c, checkLuhn (String.ofList (cs ++ [c])) = .ok () ↔ c = last := by
  have reach : ∀ n < 10, (Nat.digitChar ((10 - n) % 10)).isDigit = true ∧
      (Nat.digitChar ((10 - n) % 10)).toNat - '0'.toNat = (10 - n) % 10 := by decide
  obtain ⟨digit, value⟩ :=
    reach (luhnSum false (values cs.reverse) % 10) (Nat.mod_lt _ (by decide))
  set last := Nat.digitChar ((10 - luhnSum false (values cs.reverse) % 10) % 10)
  have sum (c : Char) : luhnSum true (values (cs ++ [c]).reverse) =
      c.toNat - '0'.toNat + luhnSum false (values cs.reverse) := by
    rw [List.reverse_append]
    rfl
  have passed : checkLuhn (String.ofList (cs ++ [last])) = .ok () := by
    refine checkLuhn_ofList_iff.2 ⟨by simp, fun c among => ?_, ?_, ?_⟩
    · obtain mine | mine := List.mem_append.1 among
      · exact digits c mine
      · rw [List.mem_singleton.1 mine]
        exact digit
    · rw [List.length_append, List.length_singleton]
      omega
    · rw [sum, value]
      omega
  exact ⟨last, digit, fun c => checkLuhn_replace_iff passed⟩

end Detection

/-- **What the Luhn rule accepts and what it finds.** A text is accepted just when it has one to
sixty-four digits whose Luhn sum is divisible by ten; whatever the text, no step of the sum leaves its
machine word. One digit completes any number of up to sixty-three digits. In a number that is
accepted, no digit can be replaced by another character, and no two neighbours can change places but
the digits 0 and 9. -/
theorem luhn_accepts_and_detects (number : String) :
    (checkLuhn number = .ok () ↔
      IsNumeral number ∧ number.length ≤ 64 ∧ 10 ∣ luhnTotal number) ∧
    checkLuhnInWords? number = some (checkLuhn number) ∧
    (IsNumeral number → number.length ≤ 63 →
      ∃ last : Char, last.isDigit = true ∧ ∀ c, checkLuhn (number.push c) = .ok () ↔ c = last) ∧
    (checkLuhn number = .ok () →
      (∀ front c behind, number.toList = front ++ c :: behind → ∀ other,
        checkLuhn (String.ofList (front ++ other :: behind)) = .ok () ↔ other = c) ∧
      ∀ front a b behind, number.toList = front ++ a :: b :: behind →
        (checkLuhn (String.ofList (front ++ b :: a :: behind)) = .ok () ↔
          a = b ∨ (a = '0' ∧ b = '9') ∨ (a = '9' ∧ b = '0'))) := by
  refine ⟨?_, checkLuhnInWords?_eq number, ?_, fun passed => ⟨?_, ?_⟩⟩
  · rw [checkLuhn_eq_ok_iff]
    refine and_congr_right fun numeral => and_congr_right fun _ => ?_
    have digits := values_le fun c among => numeral.2 c (List.mem_reverse.1 among)
    have total : luhnSum true (digitsFromRight number) = luhnTotal number := luhnSum_eq 0 digits
    rw [total, Nat.dvd_iff_mod_eq_zero]
  · rintro ⟨-, digits⟩ short
    rw [← String.length_toList] at short
    obtain ⟨last, digit, only⟩ := exists_last_digit digits short
    refine ⟨last, digit, fun c => ?_⟩
    have pushed : number.push c = String.ofList (number.toList ++ [c]) := by
      rw [← String.toList_push, String.ofList_toList]
    rw [pushed]
    exact only c
  · intro front c behind parted other
    rw [← String.ofList_toList (s := number), parted] at passed
    exact checkLuhn_replace_iff passed
  · intro front a b behind parted
    rw [← String.ofList_toList (s := number), parted] at passed
    exact checkLuhn_swap_iff passed

theorem luhn_accepts_and_detects_elevenDigits :
    checkLuhn "79927398713" = .ok () ∧ IsNumeral "7992739871" ∧
      (∀ c, checkLuhn ("7992739871".push c) = .ok () ↔ c = '3') ∧
      checkLuhn "97927398713" ≠ .ok () := by
  have passed : checkLuhn "79927398713" = .ok () := by decide +kernel
  have numeral : IsNumeral "7992739871" := (check_eq_ok_iff.1 (by decide +kernel)).1
  obtain ⟨-, -, completes, -⟩ := luhn_accepts_and_detects "7992739871"
  obtain ⟨last, -, only⟩ := completes numeral (by decide)
  obtain rfl : '3' = last := (only '3').1 passed
  obtain ⟨-, -, -, detects⟩ := luhn_accepts_and_detects "79927398713"
  have swapped := (detects passed).2 [] '7' '9' "927398713".toList rfl
  exact ⟨passed, numeral, only, fun unnoticed => absurd (swapped.1 unnoticed) (by decide)⟩

end Loyalty.OrderNumber
