import Mathlib
import Loyalty.Json.Reader
import Loyalty.Json.Writer

/-!
# Reading what was written

A value that a text can stand for is read again from the text that is written for it, down to the
digits of its numbers and whatever characters its strings hold. The reader is followed move by move:
from where a value has to follow it gets to where that value is complete, whatever is still open around
it, in fewer than two moves for each character.

Main statement: `read_write`, for values of any depth.
-/

namespace Loyalty.Json

open Loyalty.Text (byteLength lastHexDigits)

/-! ### Values that a text stands for -/

def AreDigits (ds : List Char) : Prop := ds ≠ [] ∧ ∀ c ∈ ds, isDigit c = true

/-- The parts of the number are digits, and a zero at the beginning stands alone. -/
structure Literal.IsPlain (l : Literal) : Prop where
  whole : AreDigits l.whole
  zero : ∀ c cs, l.whole ≠ '0' :: c :: cs
  fraction : ∀ ds, l.fraction = some ds → AreDigits ds
  exponent : ∀ below ds, l.exponent = some (below, ds) → AreDigits ds

/-- A value without faults: its strings are strings, its numbers are spelled out, and its arrays and
objects are closed. -/
inductive IsPlain : Json → Prop
  | null : IsPlain .null
  | bool (b : Bool) : IsPlain (.bool b)
  | number {l : Literal} (plain : l.IsPlain) : IsPlain (.number l)
  | text (s : String) : IsPlain (text s)
  | array {items : List Json} (plain : ∀ v ∈ items, IsPlain v) : IsPlain (.array items none)
  | fields {fs : List (String × Json)} (plain : ∀ f ∈ fs, IsPlain f.2) : IsPlain (fields fs)

/-! ### Strings -/

/-- A character that is not escaped is none that the reader stops at. -/
theorem escape_cases (c : Char) :
    (∃ e, escape c = ['\\', e] ∧ plainEscape? e = some c ∧ e ≠ 'u') ∨
      (c.toNat < 0x20 ∧ escape c = '\\' :: 'u' :: lastHexDigits c.toNat 4) ∨
      (escape c = [c] ∧ c ≠ '"' ∧ c ≠ '\\' ∧ ¬ c.toNat < 0x20) := by
  unfold escape
  split
  next same => exact .inl ⟨'"', rfl, by rw [same]; rfl, by decide⟩
  next quote =>
  split
  next same => exact .inl ⟨'\\', rfl, by rw [same]; rfl, by decide⟩
  next slash =>
  split
  next same => exact .inl ⟨'b', rfl, by rw [same]; rfl, by decide⟩
  split
  next same => exact .inl ⟨'f', rfl, by rw [same]; rfl, by decide⟩
  split
  next same => exact .inl ⟨'n', rfl, by rw [same]; rfl, by decide⟩
  split
  next same => exact .inl ⟨'r', rfl, by rw [same]; rfl, by decide⟩
  split
  next same => exact .inl ⟨'t', rfl, by rw [same]; rfl, by decide⟩
  split
  next control => exact .inr (.inl ⟨control, rfl⟩)
  next printed => exact .inr (.inr ⟨rfl, quote, slash, printed⟩)

/-- The four digits of a control character are read as its number. -/
theorem lastHexDigits_control {n : Nat} (control : n < 0x20) :
    ∃ a b c d, lastHexDigits n 4 = [a, b, c, d] ∧ hexValue? a b c d = some n ∧
      byteLength [a, b, c, d] = 4 := by
  have all : ∀ n < 0x20,
      lastHexDigits n 4 = ['0', '0', Nat.digitChar (n / 16), Nat.digitChar (n % 16)] ∧
      hexValue? '0' '0' (Nat.digitChar (n / 16)) (Nat.digitChar (n % 16)) = some n ∧
      byteLength ['0', '0', Nat.digitChar (n / 16), Nat.digitChar (n % 16)] = 4 := by
    decide +kernel
  exact ⟨_, _, _, _, all n control⟩

/-- A string so far without any half of a pair. -/
def spelled (cs : List Char) : Spelled := { chars := cs.reverse }

/-- What is written for a character is read as the character. -/
theorem scanString_escape (front : List Char) (c : Char) (rest : List Char) :
    scanString (spelled front) (escape c ++ rest) = scanString (spelled (front ++ [c])) rest := by
  have added : (spelled front).add c = spelled (front ++ [c]) := by
    simp [spelled, Spelled.add]
  obtain ⟨e, written, named, notUnit⟩ | ⟨control, written⟩ | ⟨written, quote, slash, printed⟩ :=
    escape_cases c
  · rw [written]
    show scanString (spelled front) ('\\' :: e :: rest) = _
    rw [scanString.eq_6 _ _ _ (fun _ _ _ _ _ unit => absurd unit notUnit) notUnit, named]
    exact congrArg (scanString · rest) added
  · obtain ⟨a, b, x, d, digits, value, size⟩ := lastHexDigits_control control
    have long : isShort (a :: b :: x :: d :: rest) = false := by
      show decide (byteLength [a, b, x, d] < 4) = false
      rw [size]
      rfl
    have unit : (spelled front).addUnit c.toNat = (spelled front).add c := by
      have low : isHighHalf c.toNat = false ∧ isLowHalf c.toNat = false := by
        simp only [isHighHalf, isLowHalf, Bool.and_eq_false_iff, decide_eq_false_iff_not]
        omega
      simp [Spelled.addUnit, spelled, low, Spelled.add]
    rw [written, digits]
    show scanString (spelled front) ('\\' :: 'u' :: a :: b :: x :: d :: rest) = _
    rw [scanString.eq_4, if_neg (by rw [long]; exact Bool.false_ne_true), value]
    show scanString ((spelled front).addUnit c.toNat) rest = _
    rw [unit, added]
  · rw [written]
    show scanString (spelled front) (c :: rest) = _
    rw [scanString.eq_7 _ _ _ quote (fun same => absurd same slash)
      (fun _ _ _ _ _ same => absurd same slash) (fun _ same => absurd same slash)
      (fun _ _ same => absurd same slash), if_neg printed, added]

/-- What is written for a string is read as the string. -/
theorem scanString_written (front cs rest : List Char) :
    scanString (spelled front) (cs.flatMap escape ++ '"' :: rest) =
      .found (some (String.ofList (front ++ cs))) rest := by
  induction cs generalizing front with
  | nil =>
    show scanString (spelled front) ('"' :: rest) = _
    rw [scanString.eq_2, List.append_nil]
    simp [Spelled.close, spelled]
  | cons c cs ih =>
    rw [List.flatMap_cons, List.append_assoc, scanString_escape, ih, List.append_assoc]
    rfl

theorem scanString_quote (s : String) (rest : List Char) :
    scanString {} (s.toList.flatMap escape ++ '"' :: rest) = .found (some s) rest := by
  have read := scanString_written [] s.toList rest
  rwa [List.nil_append, String.ofList_toList] at read

/-! ### Numbers -/

/-- What follows does not carry a number on. -/
def EndsNumber (rest : List Char) : Prop :=
  ∀ c ∈ rest.head?, isDigit c = false ∧ c ≠ '.' ∧ c ≠ 'e' ∧ c ≠ 'E'

section Numbers

variable {n l : Literal} {ds rest : List Char}

theorem takeWhile_isDigit (digits : AreDigits ds) (other : ∀ c ∈ rest.head?, isDigit c = false) :
    (ds ++ rest).takeWhile isDigit = ds ∧ (ds ++ rest).dropWhile isDigit = rest := by
  rw [List.takeWhile_append_of_pos digits.2, List.dropWhile_append_of_pos digits.2]
  cases rest with
  | nil => simp
  | cons c rest =>
    have other : isDigit c = false := other c rfl
    simp [other]

def exponentChars (l : Literal) : List Char :=
  match l.exponent with
  | some (below, ds) => 'e' :: ((if below then ['-'] else []) ++ ds)
  | none => []

def fractionChars (l : Literal) : List Char :=
  match l.fraction with
  | some ds => '.' :: ds
  | none => []

theorem writeNumber_eq (l : Literal) :
    writeNumber l = (if l.negative then ['-'] else []) ++ (l.whole ++ (fractionChars l ++
      exponentChars l)) := by
  rw [writeNumber, List.append_assoc, List.append_assoc]
  rfl

theorem scanExponent_written (plain : l.IsPlain) (ends : EndsNumber rest)
    (same : n.exponent = none) :
    scanExponent n (exponentChars l ++ rest) = .found { n with exponent := l.exponent } rest := by
  unfold exponentChars
  cases written : l.exponent with
  | none =>
    have kept : { n with exponent := none } = n := by rw [← same]
    rw [List.nil_append, kept]
    cases rest with
    | nil => rfl
    | cons c rest =>
      obtain ⟨-, -, small, large⟩ := ends c rfl
      unfold scanExponent
      split <;> simp_all
  | some parts =>
    obtain ⟨below, ds⟩ := parts
    have digits := plain.exponent below ds written
    obtain ⟨taken, dropped⟩ := takeWhile_isDigit digits fun c first => (ends c first).1
    obtain ⟨d, ds', rfl⟩ := List.exists_cons_of_ne_nil digits.1
    have first : isDigit d = true := digits.2 d List.mem_cons_self
    cases below with
    | true =>
      show scanExponent n ('e' :: '-' :: (d :: ds' ++ rest)) = _
      unfold scanExponent
      simp only [taken, dropped]
    | false =>
      have sign : d ≠ '+' ∧ d ≠ '-' := by
        constructor <;> rintro rfl <;> cases first
      show scanExponent n ('e' :: (d :: ds' ++ rest)) = _
      unfold scanExponent
      split
      case h_5 behind same =>
        cases same
        simp only [taken, dropped]
      all_goals simp_all

theorem scanFraction_written (plain : l.IsPlain) (ends : EndsNumber rest)
    (open_ : n.fraction = none) (same : n.exponent = none) :
    scanFraction n (fractionChars l ++ (exponentChars l ++ rest)) =
      .found { n with fraction := l.fraction, exponent := l.exponent } rest := by
  unfold fractionChars
  cases written : l.fraction with
  | none =>
    have point : ∀ cs, exponentChars l ++ rest ≠ '.' :: cs := by
      unfold exponentChars
      cases l.exponent with
      | none =>
        intro cs same
        exact (ends '.' (by rw [List.nil_append] at same; rw [same]; rfl)).2.1 rfl
      | some parts => exact nofun
    have kept : { n with fraction := none, exponent := l.exponent } =
        { n with exponent := l.exponent } := by rw [← open_]
    rw [List.nil_append, kept, scanFraction.eq_2 _ _ point]
    exact scanExponent_written plain ends same
  | some ds =>
    have digits := plain.fraction ds written
    have other : ∀ c ∈ (exponentChars l ++ rest).head?, isDigit c = false := by
      unfold exponentChars
      cases l.exponent with
      | none => exact fun c first => (ends c first).1
      | some parts =>
        intro c first
        obtain rfl : 'e' = c := by simpa using first
        rfl
    obtain ⟨taken, dropped⟩ := takeWhile_isDigit digits other
    obtain ⟨d, ds', rfl⟩ := List.exists_cons_of_ne_nil digits.1
    show scanFraction n ('.' :: (d :: ds' ++ (exponentChars l ++ rest))) = _
    rw [scanFraction.eq_1, taken, dropped]
    exact scanExponent_written (n := { n with fraction := some (d :: ds') }) plain ends same

/-- What is written for a number is read as the number. -/
theorem scanNumber_written (plain : l.IsPlain) (ends : EndsNumber rest) :
    scanNumber l.negative (l.whole ++ (fractionChars l ++ (exponentChars l ++ rest))) =
      .found l rest := by
  have other : ∀ c ∈ (fractionChars l ++ (exponentChars l ++ rest)).head?, isDigit c = false := by
    unfold fractionChars exponentChars
    intro c first
    cases fraction : l.fraction with
    | some ds =>
      rw [fraction] at first
      obtain rfl : '.' = c := by simpa using first
      rfl
    | none =>
      rw [fraction] at first
      cases exponent : l.exponent with
      | some parts =>
        rw [exponent] at first
        obtain rfl : 'e' = c := by simpa using first
        rfl
      | none =>
        rw [exponent] at first
        exact (ends c first).1
  obtain ⟨taken, dropped⟩ := takeWhile_isDigit plain.whole other
  have read := scanFraction_written (n := ⟨l.negative, l.whole, none, none⟩) plain ends rfl rfl
  unfold scanNumber
  rw [taken, dropped]
  split
  next none_ => exact absurd none_ plain.whole.1
  next more => exact absurd more (plain.zero _ _)
  next => exact read

end Numbers

/-! ### The way of the reader -/

/-- So many moves lead from one point to another. -/
inductive Leads : Nat → Point → List Char → Point → List Char → Prop
  | stay (p : Point) (cs : List Char) : Leads 0 p cs p cs
  | go {n : Nat} {p q r : Point} {cs ds es : List Char} (first : move p cs = .go q ds)
      (others : Leads n q ds r es) : Leads (n + 1) p cs r es

section Ways

variable {m n : Nat} {p q r : Point} {cs ds es rest : List Char} {v : Json} {stack : List Frame}

theorem Leads.trans (way : Leads m p cs q ds) (on : Leads n q ds r es) :
    Leads (m + n) p cs r es := by
  induction way with
  | stay p cs => rwa [Nat.zero_add]
  | go first others ih =>
    rw [Nat.add_right_comm]
    exact .go first (ih on)

theorem Leads.step (way : Leads n p cs q ds) (last : move q ds = .go r es) :
    Leads (n + 1) p cs r es := way.trans (.go last (.stay r es))

/-- The moves on the way are used up. -/
theorem Leads.moves (way : Leads n p cs q ds) (k : Nat) : moves (n + k) p cs = moves k q ds := by
  induction way with
  | stay p cs => rw [Nat.zero_add]
  | go first others ih =>
    rw [Nat.add_right_comm, Json.moves, first]
    exact ih

theorem isDigit_cases {c : Char} (digit : isDigit c = true) :
    isSpace c = false ∧ c ≠ ']' ∧ c ≠ 'n' ∧ c ≠ 't' ∧ c ≠ 'f' ∧ c ≠ '"' ∧ c ≠ '[' ∧ c ≠ '{' ∧
      c ≠ '-' := by
  refine ⟨?_, ?_, ?_, ?_, ?_, ?_, ?_, ?_, ?_⟩
  · rw [Bool.eq_false_iff]
    intro space
    simp only [isSpace, Bool.or_eq_true, beq_iff_eq] at space
    obtain ((rfl | rfl) | rfl) | rfl := space <;> cases digit
  all_goals
    rintro rfl
    cases digit

/-- The text of a value begins with no blank, and not with the end of an array. -/
theorem IsPlain.head (plain : IsPlain v) :
    ∃ c cs, write v = c :: cs ∧ isSpace c = false ∧ c ≠ ']' := by
  cases plain with
  | null => exact ⟨'n', _, rfl, rfl, by decide⟩
  | bool b => cases b with
    | true => exact ⟨'t', _, rfl, rfl, by decide⟩
    | false => exact ⟨'f', _, rfl, rfl, by decide⟩
  | @number l plain =>
    have written : write (.number l) = writeNumber l := by rw [write]
    rw [written, writeNumber_eq]
    cases l.negative with
    | true => exact ⟨'-', _, rfl, rfl, by decide⟩
    | false =>
      obtain ⟨c, cs, parted⟩ := List.exists_cons_of_ne_nil plain.whole.1
      have digit := isDigit_cases (plain.whole.2 c (by rw [parted]; exact List.mem_cons_self))
      rw [parted]
      exact ⟨c, _, rfl, digit.1, digit.2.1⟩
  | text s => exact ⟨'"', _, by rw [Json.text, write, quote], rfl, by decide⟩
  | array plain => exact ⟨'[', _, by rw [write], rfl, by decide⟩
  | fields plain => exact ⟨'{', _, by rw [Json.fields, write], rfl, by decide⟩

/-- From where the value has to follow, its text leads to where it is complete. -/
def IsRead (v : Json) : Prop :=
  ∀ stack rest, EndsNumber rest →
    ∃ n, n < 2 * (write v).length ∧
      Leads n (.value stack) (write v ++ rest) (.complete v stack) rest

theorem skipSpace_cons {c : Char} (space : isSpace c = false) (cs : List Char) :
    skipSpace (c :: cs) = c :: cs :=
  List.dropWhile_cons_of_neg (by rw [space]; exact Bool.false_ne_true)

theorem isRead_number {l : Literal} (plain : l.IsPlain) : IsRead (.number l) := by
  intro stack rest ends
  have written : write (.number l) = writeNumber l := by rw [write]
  have read := scanNumber_written plain ends
  have first : move (.value stack) (writeNumber l ++ rest) =
      .go (.complete (.number l) stack) rest := by
    rw [writeNumber_eq]
    cases sign : l.negative with
    | true =>
      rw [sign] at read
      show ofScan Json.number stack
        (scanNumber true (l.whole ++ (fractionChars l ++ exponentChars l) ++ rest)) = _
      rw [List.append_assoc, List.append_assoc, read]
      rfl
    | false =>
      rw [sign] at read
      obtain ⟨c, cs, parted⟩ := List.exists_cons_of_ne_nil plain.whole.1
      have digit : isDigit c = true := plain.whole.2 c (by rw [parted]; exact List.mem_cons_self)
      obtain ⟨space, -, n, t, f, quote, bracket, brace, minus⟩ := isDigit_cases digit
      rw [parted] at read ⊢
      have whole : (if false = true then ['-'] else []) ++ (c :: cs ++ (fractionChars l ++
          exponentChars l)) ++ rest =
            c :: (cs ++ (fractionChars l ++ (exponentChars l ++ rest))) := by
        simp
      rw [whole, move, skipSpace_cons space, moveValue.eq_9 _ _ _ n t f quote bracket brace minus,
        if_pos digit]
      show ofScan Json.number stack (scanNumber false _) = _
      rw [show scanNumber false (c :: (cs ++ (fractionChars l ++ (exponentChars l ++ rest)))) = _
        from read]
      rfl
  obtain ⟨c, cs, parted⟩ := List.exists_cons_of_ne_nil plain.whole.1
  refine ⟨1, ?_, by rw [written]; exact .go first (.stay _ _)⟩
  rw [written, writeNumber_eq, parted]
  simp only [List.length_append, List.length_cons]
  omega

/-- A character that a value may stand in front of does not carry a number on. -/
theorem endsNumber_cons {c : Char} (mark : c = ',' ∨ c = ']' ∨ c = '}') (rest : List Char) :
    EndsNumber (c :: rest) := by
  intro d first
  obtain rfl : c = d := by simpa using first
  obtain rfl | rfl | rfl := mark <;> decide

/-- Behind a comma in an array the next item has to follow. -/
theorem move_comma {c : Char} (space : isSpace c = false) (other : c ≠ ']') (v : Json)
    (done : List Json) (stack : List Frame) (cs : List Char) :
    move (.complete v (.array done :: stack)) (',' :: c :: cs) =
      .go (.value (.array (v :: done) :: stack)) (c :: cs) := by
  have comma : skipSpace (',' :: c :: cs) = ',' :: c :: cs := rfl
  simp only [move, comma, moveComplete, skipSpace_cons space]
  split
  next same =>
    cases same
    exact absurd rfl other
  next => rfl

/-- An array that does not end at once has its first item to follow. -/
theorem move_opened {c : Char} (space : isSpace c = false) (other : c ≠ ']')
    (stack : List Frame) (cs : List Char) :
    move (.opened stack) (c :: cs) = .go (.value (.array [] :: stack)) (c :: cs) := by
  simp only [move, skipSpace_cons space]
  split
  next same =>
    cases same
    exact absurd rfl other
  next => rfl

/-- The text of items begins as the first of them. -/
theorem writeItems_head (plain : IsPlain v) (vs : List Json) :
    ∃ c cs, writeItems (v :: vs) = c :: cs ∧ isSpace c = false ∧ c ≠ ']' := by
  obtain ⟨c, cs, begins, space, bracket⟩ := plain.head
  cases vs with
  | nil => exact ⟨c, _, by rw [writeItems, begins]; rfl, space, bracket⟩
  | cons _ _ => exact ⟨c, _, by rw [writeItems, begins]; rfl; exact nofun, space, bracket⟩

/-- From where an item of an array has to follow, the items lead to where the array is complete. -/
theorem leads_items {w : Json} {vs : List Json} (plain : ∀ v ∈ w :: vs, IsPlain v)
    (each : ∀ v ∈ w :: vs, IsRead v) (done : List Json) (stack : List Frame) (rest : List Char) :
    ∃ n, n < 2 * (writeItems (w :: vs)).length ∧
      Leads n (.value (.array done :: stack)) (writeItems (w :: vs) ++ rest)
        (.complete (.array (done.reverse ++ w :: vs) none) stack) rest := by
  induction vs generalizing w done with
  | nil =>
    obtain ⟨n, short, way⟩ := each w List.mem_cons_self (.array done :: stack) (']' :: rest)
      (endsNumber_cons (.inr (.inl rfl)) rest)
    have written : writeItems [w] = write w ++ [']'] := by rw [writeItems]
    have closed : (w :: done).reverse = done.reverse ++ [w] := List.reverse_cons
    rw [written, List.append_assoc, ← closed]
    refine ⟨n + 1, ?_, way.step rfl⟩
    rw [List.length_append, List.length_singleton]
    omega
  | cons v vs ih =>
    obtain ⟨n, short, way⟩ := each w List.mem_cons_self (.array done :: stack)
      (',' :: (writeItems (v :: vs) ++ rest)) (endsNumber_cons (.inl rfl) _)
    obtain ⟨m, short', way'⟩ := ih (fun v among => plain v (List.mem_cons_of_mem _ among))
      (fun v among => each v (List.mem_cons_of_mem _ among)) (w :: done)
    have written : writeItems (w :: v :: vs) = write w ++ ',' :: writeItems (v :: vs) := by
      rw [writeItems]
      exact nofun
    have closed : (w :: done).reverse ++ v :: vs = done.reverse ++ w :: v :: vs := by simp
    obtain ⟨c, ds, next, space, bracket⟩ := writeItems_head (plain v (by simp)) vs
    have comma := move_comma space bracket w done stack (ds ++ rest)
    rw [← List.cons_append, ← next] at comma
    rw [written, ← closed, List.append_assoc]
    refine ⟨n + 1 + m, ?_, (way.step comma).trans way'⟩
    rw [List.length_append, List.length_cons]
    omega

def keyed (fs : List (String × Json)) : List (Json × Json) := fs.map fun (k, v) => (text k, v)

/-- A key is read, and then its value has to follow. -/
theorem move_key (done : List (Json × Json)) (mayClose : Bool) (stack : List Frame) (k : String)
    (rest : List Char) :
    move (.key done mayClose stack) (write (text k) ++ ':' :: rest) =
      .go (.value (.object done (text k) :: stack)) rest := by
  have written : write (text k) ++ ':' :: rest =
      '"' :: (k.toList.flatMap escape ++ '"' :: ':' :: rest) := by
    rw [text, write, quote]
    simp
  rw [written]
  show moveKey done mayClose stack ('"' :: (k.toList.flatMap escape ++ '"' :: ':' :: rest)) = _
  rw [moveKey.eq_3, scanString_quote]
  rfl

/-- From where a key has to follow, the fields lead to where the object is complete. -/
theorem leads_fields {k : String} {w : Json} {fs : List (String × Json)} (this : IsRead w)
    (each : ∀ f ∈ fs, IsRead f.2) (done : List (Json × Json)) (mayClose : Bool)
    (stack : List Frame) (rest : List Char) :
    ∃ n, n < 2 * (writeFields (keyed ((k, w) :: fs))).length ∧
      Leads n (.key done mayClose stack) (writeFields (keyed ((k, w) :: fs)) ++ rest)
        (.complete (.object (done.reverse ++ keyed ((k, w) :: fs)) none) stack) rest := by
  induction fs generalizing k w done mayClose with
  | nil =>
    obtain ⟨n, short, way⟩ := this (.object done (text k) :: stack) ('}' :: rest)
      (endsNumber_cons (.inr (.inr rfl)) rest)
    have written : writeFields (keyed [(k, w)]) = write (text k) ++ ':' :: (write w ++ ['}']) := by
      show writeFields [(text k, w)] = _
      rw [writeFields]
    have closed : ((text k, w) :: done).reverse = done.reverse ++ keyed [(k, w)] :=
      List.reverse_cons
    rw [written, ← closed, List.append_assoc, List.cons_append, List.append_assoc]
    refine ⟨n + 1 + 1, ?_, .go (move_key _ _ _ _ _) (way.step rfl)⟩
    simp only [List.length_append, List.length_cons, List.length_nil]
    omega
  | cons f fs ih =>
    obtain ⟨k', w'⟩ := f
    obtain ⟨n, short, way⟩ := this (.object done (text k) :: stack)
      (',' :: (writeFields (keyed ((k', w') :: fs)) ++ rest)) (endsNumber_cons (.inl rfl) _)
    obtain ⟨m, short', way'⟩ := ih (k := k') (w := w') (each _ List.mem_cons_self)
      (fun f among => each f (List.mem_cons_of_mem _ among)) ((text k, w) :: done) false
    have written : writeFields (keyed ((k, w) :: (k', w') :: fs)) =
        write (text k) ++ ':' :: (write w ++ ',' :: writeFields (keyed ((k', w') :: fs))) := by
      show writeFields ((text k, w) :: keyed ((k', w') :: fs)) = _
      rw [writeFields]
      exact nofun
    have closed : ((text k, w) :: done).reverse ++ keyed ((k', w') :: fs) =
        done.reverse ++ keyed ((k, w) :: (k', w') :: fs) := by
      simp [keyed]
    rw [written, ← closed, List.append_assoc, List.cons_append, List.append_assoc]
    refine ⟨n + 1 + m + 1, ?_, .go (move_key _ _ _ _ _) ((way.step rfl).trans way')⟩
    simp only [List.length_append, List.length_cons]
    omega

/-- A value without faults is read, whatever is still open around it. -/
theorem IsPlain.isRead (plain : IsPlain v) : IsRead v := by
  induction plain with
  | null =>
    intro stack rest ends
    exact ⟨1, by rw [write]; decide, .go rfl (.stay _ _)⟩
  | bool b =>
    intro stack rest ends
    cases b with
    | true => exact ⟨1, by rw [write]; decide, .go rfl (.stay _ _)⟩
    | false => exact ⟨1, by rw [write]; decide, .go rfl (.stay _ _)⟩
  | number plain => exact isRead_number plain
  | text s =>
    intro stack rest ends
    have written : write (Json.text s) ++ rest =
        '"' :: (s.toList.flatMap escape ++ '"' :: rest) := by
      rw [Json.text, write, quote]
      simp
    have first : move (.value stack) ('"' :: (s.toList.flatMap escape ++ '"' :: rest)) =
        .go (.complete (Json.text s) stack) rest := by
      show ofScan .string stack (scanString {} (s.toList.flatMap escape ++ '"' :: rest)) = _
      rw [scanString_quote]
      rfl
    refine ⟨1, ?_, by rw [written]; exact .go first (.stay _ _)⟩
    rw [Json.text, write, quote, List.length_cons]
    omega
  | @array items plain each =>
    intro stack rest ends
    rw [write, List.length_cons, List.cons_append]
    cases items with
    | nil =>
      have written : writeItems [] = [']'] := by rw [writeItems]
      rw [written]
      exact ⟨2, by decide, .go rfl (.go rfl (.stay _ _))⟩
    | cons w vs =>
      obtain ⟨n, short, way⟩ := leads_items plain each [] stack rest
      obtain ⟨c, ds, next, space, bracket⟩ := writeItems_head (plain w List.mem_cons_self) vs
      have entered := move_opened space bracket stack (ds ++ rest)
      rw [← List.cons_append, ← next] at entered
      refine ⟨n + 1 + 1, by omega, .go ?_ (.go entered way)⟩
      rfl
  | @fields fs plain each =>
    intro stack rest ends
    have written : write (Json.fields fs) = '{' :: writeFields (keyed fs) := by
      rw [Json.fields, write]
      rfl
    rw [written, List.length_cons, List.cons_append]
    cases fs with
    | nil =>
      have written : writeFields (keyed []) = ['}'] := by
        show writeFields [] = _
        rw [writeFields]
      rw [written]
      exact ⟨2, by decide, .go rfl (.go rfl (.stay _ _))⟩
    | cons f fs =>
      obtain ⟨k, w⟩ := f
      obtain ⟨n, short, way⟩ := leads_fields (k := k) (w := w) (each _ List.mem_cons_self)
        (fun f among => each f (List.mem_cons_of_mem _ among)) [] true stack rest
      exact ⟨n + 1, by omega, .go rfl way⟩

end Ways

/-- A value without faults is read again from its text, and nothing is left of the text. -/
theorem read_write {v : Json} (plain : IsPlain v) : read (write v) = ⟨v, false⟩ := by
  obtain ⟨n, short, way⟩ := plain.isRead [] [] nofun
  obtain ⟨k, enough⟩ : ∃ k, 2 * (write v).length + 2 = n + (k + 1) :=
    ⟨2 * (write v).length + 1 - n, by omega⟩
  rw [List.append_nil] at way
  rw [read, enough, way.moves]
  rfl

end Loyalty.Json
