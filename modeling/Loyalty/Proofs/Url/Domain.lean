import Mathlib
import Loyalty.Url.Parse

/-!
# What a host is read from

A control character or blank at the end of the text of a host stays there on every step of the way to
the plain form, and no label may hold one; so no such text names a host. A name of plain letters
becomes the same letters in lower case.
-/

namespace Loyalty.Url

open Loyalty.Text

/-- A control character of ASCII or a blank. -/
def IsLow (c : Char) : Prop := c.toNat ≤ 0x20

section Low

variable {c : Char} {cs : List Char}

theorem IsLow.induction {p : Char → Prop} (every : ∀ n < 0x21, p (Char.ofNat n)) (low : IsLow c) :
    p c := by
  have this := every c.toNat (Nat.lt_succ_of_le low)
  rwa [Char.ofNat_toNat] at this

theorem IsLow.ne (low : IsLow c) {d : Char} (high : 0x20 < d.toNat) : c ≠ d := by
  rintro rfl
  exact absurd low (Nat.not_le.2 high)

/-! ### Percent signs and bytes -/

theorem IsLow.hexDigit? (low : IsLow c) : hexDigit? c = none :=
  low.induction (p := fun c => Text.hexDigit? c = none) (by decide)

/-- The byte that a character of one byte is written as. -/
def byteOf (c : Char) : UInt8 := UInt8.ofNat c.toNat

theorem IsLow.bytesOf (low : IsLow c) : bytesOf c = [byteOf c] :=
  low.induction (p := fun c => Text.bytesOf c = [byteOf c]) (by decide +kernel)

/-- A character with which no two hexadecimal digits begin stands for itself. -/
theorem percentBytes_cons {d : Char}
    (plain : ∀ a b rest, d = '%' → cs = a :: b :: rest →
      Text.hexDigit? a = none ∨ Text.hexDigit? b = none) :
    percentBytes (d :: cs) = Text.bytesOf d ++ percentBytes cs := by
  rw [percentBytes.eq_def]
  split
  · contradiction
  next a b rest same =>
    cases same
    obtain none_ | none_ := plain a b rest rfl rfl
    · rw [none_]
    · rw [none_]
      cases Text.hexDigit? a <;> rfl
  next same =>
    cases same
    rfl

/-- A low character at the end of a text is its last byte. -/
theorem IsLow.percentBytes_append (low : IsLow c) (cs : List Char) :
    percentBytes (cs ++ [c]) = percentBytes cs ++ [byteOf c] := by
  fun_induction percentBytes cs with
  | case1 =>
    have plain (a b rest) (_ : c = '%') (more : [] = a :: b :: rest) :
      Text.hexDigit? a = none ∨ Text.hexDigit? b = none := nomatch more
    rw [List.nil_append, percentBytes_cons plain, low.bytesOf, percentBytes.eq_1]
    rfl
  | case2 a b cs x y second first ih =>
    show percentBytes ('%' :: a :: b :: (cs ++ [c])) = _
    rw [percentBytes.eq_2, first, second, ih]
    rfl
  | case3 a b cs other ih =>
    show percentBytes ('%' :: (a :: b :: cs ++ [c])) = _
    rw [percentBytes_cons, ih, List.append_assoc]
    rintro _ _ _ - same
    cases same
    by_contra both
    rw [not_or, ← ne_eq, ← ne_eq, Option.ne_none_iff_exists', Option.ne_none_iff_exists'] at both
    obtain ⟨⟨x, first⟩, y, second⟩ := both
    exact other x y first second
  | case4 d cs other ih =>
    rw [List.cons_append, percentBytes_cons, ih, List.append_assoc]
    rintro a b rest rfl same
    match cs, same with
    | [], same => cases same
    | [_], same =>
      cases same
      exact .inr low.hexDigit?
    | a' :: b' :: cs, same => exact absurd rfl (other a' b' cs rfl)

/-- Among the bytes of a character is that of a low one only if it is that character. -/
theorem IsLow.eq_of_mem (low : IsLow c) {d : Char} (among : byteOf c ∈ String.utf8EncodeChar d) :
    c = d := by
  have small : (byteOf c).toNat = c.toNat :=
    UInt8.toNat_ofNat_of_lt' (by unfold IsLow at low; show _ < 256; omega)
  have high (n k : Nat) (below : n < 64) (above : 128 ≤ k ∧ k ≤ 192 ∨ k = 224 ∧ n < 16 ∨
      k = 240 ∧ n < 8) : byteOf c ≠ UInt8.ofNat n + UInt8.ofNat k := by
    intro same
    have this := congrArg UInt8.toNat same
    rw [small, ← UInt8.ofNat_add, UInt8.toNat_ofNat_of_lt' (by show _ < 256; omega)] at this
    unfold IsLow at low
    omega
  have within (n k : Nat) (pos : 0 < k) : n % k < k := Nat.mod_lt n pos
  unfold String.utf8EncodeChar at among
  dsimp only at among
  split at among
  next ascii =>
    have this := congrArg UInt8.toNat (List.mem_singleton.1 among)
    rw [small, UInt8.toNat_ofNat_of_lt' (by show _ < 256; omega)] at this
    exact Char.toNat_inj.1 this
  next =>
    exfalso
    split at among
    · obtain same | same := by simpa using among
      · exact high _ 192 (by omega) (by omega) same
      · exact high _ 128 (by omega) (by omega) same
    · split at among
      · obtain same | same | same := by simpa using among
        · exact high _ 224 (by omega) (by omega) same
        · exact high _ 128 (by omega) (by omega) same
        · exact high _ 128 (by omega) (by omega) same
      · obtain same | same | same | same := by simpa using among
        · exact high _ 240 (by omega) (by omega) same
        · exact high _ 128 (by omega) (by omega) same
        · exact high _ 128 (by omega) (by omega) same
        · exact high _ 128 (by omega) (by omega) same

/-- The bytes of a decoded text are those that the text stood for. -/
theorem percentDecode_eq_some {s : String} :
    percentDecode cs = some s ↔ percentBytes cs = s.toList.flatMap String.utf8EncodeChar := by
  have bytes : (⟨(percentBytes cs).toArray⟩ : ByteArray) = (percentBytes cs).toByteArray :=
    ByteArray.ext List.data_toByteArray.symm
  have written : s.toByteArray = (s.toList.flatMap String.utf8EncodeChar).toByteArray :=
    String.utf8Encode_toList.symm
  rw [percentDecode, bytes, ← List.toByteArray_inj, ← written, String.fromUTF8?]
  constructor
  · intro decoded
    split at decoded
    · cases decoded
      rfl
    · cases decoded
  · intro same
    rw [dif_pos (same ▸ s.isValidUTF8)]
    exact congrArg some (String.toByteArray_inj.1 same)

theorem IsLow.percentDecode_append (low : IsLow c) {s : String}
    (decoded : percentDecode (cs ++ [c]) = some s) : ∃ front, s.toList = front ++ [c] := by
  rw [percentDecode_eq_some, low.percentBytes_append] at decoded
  obtain none_ | ⟨front, d, parted⟩ := List.eq_nil_or_concat s.toList
  · rw [none_] at decoded
    simp at decoded
  · have among : byteOf c ∈ String.utf8EncodeChar d := by
      rw [parted, List.concat_eq_append, List.flatMap_append, List.flatMap_singleton] at decoded
      obtain none_ | ⟨bytes, b, last⟩ := List.eq_nil_or_concat (String.utf8EncodeChar d)
      · exact absurd none_ String.utf8EncodeChar_ne_nil
      · rw [last, List.concat_eq_append, ← List.append_assoc] at decoded
        have same := List.append_inj_right' decoded rfl
        rw [last, List.concat_eq_append, (List.cons.inj same).1]
        exact List.mem_append_right _ List.mem_cons_self
    exact ⟨front, by rw [parted, low.eq_of_mem among, List.concat_eq_append]⟩

/-! ### The composed form -/

theorem IsLow.isSimple (low : IsLow c) : IsSimple c := by
  unfold IsLow at low
  unfold IsSimple Composition.firstWhole
  omega

theorem orderMarks_append (simple : IsSimple c) (run : List (Nat × Char)) (cs : List Char) :
    ∃ front, orderMarks run (cs ++ [c]) = front ++ [c] := by
  induction cs generalizing run with
  | nil =>
    refine ⟨run.map Prod.snd, ?_⟩
    simp [orderMarks, combiningClass_of_isSimple simple]
  | cons d cs ih =>
    rw [List.cons_append, orderMarks]
    split
    · obtain ⟨front, last⟩ := ih []
      exact ⟨run.map Prod.snd ++ d :: front, by rw [last]; simp⟩
    · exact ih _

theorem joinAll_append (simple : IsSimple c) (letter : Option Char) (marks : List Char)
    (last : Nat) (cs : List Char) :
    ∃ front, joinAll letter marks last (cs ++ [c]) = front ++ [c] := by
  have apart (a : Nat) : Composition.join? a c.toNat = none := by
    apply Composition.join?_of_lt
    unfold IsSimple Composition.firstWhole at simple
    unfold Composition.firstSecond
    omega
  induction cs generalizing letter marks last with
  | nil =>
    refine ⟨letter.toList ++ marks, ?_⟩
    simp [joinAll, combiningClass_of_isSimple simple, apart]
  | cons d cs ih =>
    rw [List.cons_append, joinAll]
    split
    · exact ih _ _ _
    · split
      · obtain ⟨front, last⟩ := ih (some d) [] 0
        exact ⟨letter.toList ++ marks ++ front, by rw [last]; simp⟩
      · exact ih _ _ _

theorem composed_append (simple : IsSimple c) (cs : List Char) :
    ∃ front, composed (cs ++ [c]) = front ++ [c] := by
  rw [composed, List.flatMap_append, List.flatMap_singleton, takeApart_of_isSimple simple]
  obtain ⟨ordered, last⟩ := orderMarks_append simple [] (cs.flatMap (takeApart maxDepth))
  rw [last]
  exact joinAll_append simple none [] 0 ordered

/-! ### Labels -/

theorem mem_parts (among : c ∈ cs) {mark : Char} (other : c ≠ mark) :
    ∃ p ∈ parts mark cs, c ∈ p := by
  induction cs with
  | nil => cases among
  | cons d cs ih =>
    rw [parts]
    obtain rfl | behind := List.mem_cons.1 among
    · rw [if_neg other]
      split
      · exact ⟨_, List.mem_cons_self, List.mem_cons_self⟩
      · exact ⟨_, List.mem_cons_self, List.mem_cons_self⟩
    · obtain ⟨p, among, inside⟩ := ih behind
      split
      · exact ⟨p, List.mem_cons_of_mem _ among, inside⟩
      · split
        next first others same =>
          rw [same] at among
          obtain rfl | behind := List.mem_cons.1 among
          · exact ⟨_, List.mem_cons_self, List.mem_cons_of_mem _ inside⟩
          · exact ⟨p, List.mem_cons_of_mem _ behind, inside⟩
        next none_ => exact absurd none_ (parts_ne_nil _ _)

theorem IsLow.isPlainLabel (low : IsLow c) (among : c ∈ cs) : Domain.isPlainLabel cs = false := by
  have forbidden : Domain.isForbidden c = true := by
    simp only [Domain.isForbidden, Bool.or_eq_true, decide_eq_true_eq]
    exact .inl (.inl low)
  have any : cs.any Domain.isForbidden = true := List.any_eq_true.2 ⟨c, among, forbidden⟩
  unfold Domain.isPlainLabel
  rw [any]
  simp

/-- The digits of a distance are digits. -/
theorem mem_of_distance {bias k weight value : Nat} {n : Nat} {rest : List Char}
    (read : Punycode.distance bias k weight value cs = some (n, rest)) (among : c ∈ cs) :
    Punycode.digit? c ≠ none ∨ c ∈ rest := by
  induction cs generalizing k weight value with
  | nil => cases among
  | cons d cs ih =>
    rw [Punycode.distance] at read
    obtain ⟨x, digit, read⟩ := Option.bind_eq_some_iff.1 read
    obtain rfl | behind := List.mem_cons.1 among
    · exact .inl (by rw [digit]; exact Option.some_ne_none x)
    · dsimp only at read
      split at read
      · cases read
      · split at read
        · cases read
          exact .inr behind
        · exact ih read behind

/-- What was there stays when characters are put in, and what is read for it is digits. -/
theorem mem_of_insertAll {code start bias : Nat} {out meant : List Char}
    (read : Punycode.insertAll code start bias cs out = some meant) :
    (c ∈ out → c ∈ meant) ∧ (c ∈ cs → Punycode.digit? c ≠ none) := by
  fun_induction Punycode.insertAll code start bias cs out with
  | case1 =>
    cases read
    exact ⟨id, nofun⟩
  | case2 => cases read
  | case3 code start bias out d cs delta rest far points total code' place valid ih =>
    obtain ⟨stays, digits⟩ := ih read
    refine ⟨fun among => stays ?_, fun among => ?_⟩
    · rw [← List.take_append_drop place out, List.mem_append] at among
      simp only [List.mem_append, List.mem_cons]
      exact among.imp id .inr
    · exact (mem_of_distance far among).elim id digits
  | case4 => cases read

/-- A character other than the hyphen is a plain one or one of the digits. -/
theorem mem_splitPlain (among : c ∈ cs) (other : c ≠ '-') :
    c ∈ (Punycode.splitPlain cs).1 ∨ c ∈ (Punycode.splitPlain cs).2 := by
  unfold Punycode.splitPlain
  split
  · exact .inr among
  · exact .inr among
  next d before _ same =>
    have hyphen : d = '-' := by
      have this := List.head?_dropWhile_not (· != '-') cs.reverse
      rw [same] at this
      simpa using this
    have turned := List.takeWhile_append_dropWhile (p := (· != '-')) (l := cs.reverse)
    rw [same, hyphen] at turned
    generalize cs.reverse.takeWhile (· != '-') = digits at turned
    have parted : cs = before.reverse ++ '-' :: digits.reverse := by
      rw [← List.reverse_reverse cs, ← turned]
      simp
    have behind : cs.drop (before.length + 1) = digits.reverse := by
      have size : before.length + 1 = (before.reverse ++ ['-']).length := by simp
      rw [parted, List.append_cons, size, List.drop_left]
    rw [behind]
    rw [parted, List.mem_append, List.mem_cons] at among
    exact among.imp id fun rest => rest.resolve_left other

theorem IsLow.mem_decode? (low : IsLow c) {meant : List Char}
    (read : Punycode.decode? cs = some meant) (among : c ∈ cs) : c ∈ meant := by
  have noDigit : Punycode.digit? c = none :=
    low.induction (p := fun c => Punycode.digit? c = none) (by decide)
  rw [Punycode.decode?] at read
  obtain ⟨stays, digits⟩ := mem_of_insertAll (c := c) read
  exact (mem_splitPlain among (low.ne (by decide))).elim stays
    fun behind => absurd noDigit (digits behind)

/-- No label holds a low character. -/
theorem IsLow.readLabel? (low : IsLow c) (among : c ∈ cs) : Domain.readLabel? cs = none := by
  unfold Domain.readLabel?
  split
  next coded =>
    split
    · rfl
    · rw [Option.filter_eq_none_iff]
      intro meant read
      have behind : c ∈ coded := by
        simpa [low.ne (d := 'x') (by decide), low.ne (d := 'n') (by decide),
          low.ne (d := '-') (by decide)] using among
      rw [low.isPlainLabel (low.mem_decode? read behind)]
      simp
  next =>
    split
    · rfl
    · rw [low.isPlainLabel among]
      rfl

/-! ### Domains -/

theorem ne_none_of_mapM {α β : Type} {f : α → Option β} {xs : List α} {ys : List β}
    (all : xs.mapM f = some ys) {x : α} (among : x ∈ xs) : f x ≠ none := by
  induction xs generalizing ys with
  | nil => cases among
  | cons x' xs ih =>
    rw [List.mapM_cons] at all
    obtain ⟨y, first, all⟩ := Option.bind_eq_some_iff.1 all
    obtain ⟨ys', others, -⟩ := Option.bind_eq_some_iff.1 all
    obtain rfl | behind := List.mem_cons.1 among
    · rw [first]
      exact Option.some_ne_none y
    · exact ih others behind

/-- The labels of a name are labels and go together. -/
def HasLabels (name : List Char) : Prop :=
  ∃ labels, (parts '.' name).mapM Domain.readLabel? = some labels ∧ Domain.agree labels = true

theorem plain?_eq_some {name : List Char} :
    Domain.plain? cs = some name ↔
      ∃ forms, cs.mapM plainForm? = some forms ∧ composed forms.flatten = name ∧
        HasLabels name := by
  simp only [Domain.plain?, Option.bind_eq_bind, Option.bind_eq_some_iff,
    Option.ite_none_right_eq_some, Option.some.injEq]
  constructor
  · rintro ⟨forms, plain, labels, read, agree, rfl⟩
    exact ⟨forms, plain, rfl, labels, read, agree⟩
  · rintro ⟨forms, plain, rfl, labels, read, agree⟩
    exact ⟨forms, plain, labels, read, agree, rfl⟩

theorem IsLow.plainForm? (low : IsLow c) : plainForm? c = some [c] := by
  have ascii : c.toNat < 0x80 := by
    unfold IsLow at low
    omega
  have same : c.toLower = c := low.induction (p := fun c => c.toLower = c) (by decide)
  rw [Url.plainForm?, if_pos ascii, same]

/-- A text with a low character at its end has no plain form. -/
theorem IsLow.plain?_append (low : IsLow c) (cs : List Char) :
    Domain.plain? (cs ++ [c]) = none := by
  by_contra some_
  obtain ⟨name, plain⟩ := Option.ne_none_iff_exists'.1 some_
  obtain ⟨forms, taken, rfl, labels, read, -⟩ := plain?_eq_some.1 plain
  have ends : ∃ front, forms.flatten = front ++ [c] := by
    rw [List.mapM_append] at taken
    obtain ⟨front, -, taken⟩ := Option.bind_eq_some_iff.1 taken
    rw [List.mapM_cons, low.plainForm?] at taken
    cases taken
    exact ⟨front.flatten, by simp⟩
  obtain ⟨front, last⟩ := ends
  obtain ⟨whole, last'⟩ := composed_append low.isSimple front
  rw [last, last'] at read
  have point : c ≠ '.' := low.ne (by decide)
  obtain ⟨label, among, inside⟩ := mem_parts
    (List.mem_append_right whole (List.mem_singleton_self c)) point
  exact ne_none_of_mapM read among (low.readLabel? inside)

theorem IsLow.readDomain_append (low : IsLow c) (cs : List Char) :
    Host.readDomain (cs ++ [c]) = .error .domainName := by
  unfold Host.readDomain
  split
  · rfl
  next s decoded =>
    obtain ⟨front, last⟩ := low.percentDecode_append decoded
    rw [last, low.plain?_append]

/-- **No host ends in a control character or a blank.** -/
theorem IsLow.parse_append (low : IsLow c) (cs : List Char) (h : Host) :
    Host.parse (cs ++ [c]) ≠ .ok h := by
  unfold Host.parse
  split
  next inside same =>
    have last : inside.getLast? ≠ some ']' := by
      intro closed
      obtain ⟨front, rfl⟩ := List.getLast?_eq_some_iff.1 closed
      have same : cs ++ [c] = ('[' :: front) ++ [']'] := same
      have last := List.append_inj_right' same rfl
      exact low.ne (by decide) (List.cons.inj last).1
    rw [Host.bracketed, if_neg last]
    exact nofun
  next =>
    rw [low.readDomain_append]
    exact nofun

end Low

/-! ### Names of letters -/

section Letters

variable {c : Char} {name : List Char}

theorem isLetter_induction {p : Char → Prop}
    (every : ∀ n < 0x80, isLetter (Char.ofNat n) = true → p (Char.ofNat n))
    (letter : isLetter c = true) : p c := by
  have ascii : c.toNat < 0x80 := by
    simp only [isLetter, Bool.or_eq_true, Bool.and_eq_true, decide_eq_true_eq] at letter
    obtain ⟨-, top⟩ | ⟨-, top⟩ := letter
    · exact lt_of_le_of_lt (UInt32.le_iff_toNat_le.1 top) (by decide)
    · exact lt_of_le_of_lt (UInt32.le_iff_toNat_le.1 top) (by decide)
  have this := every c.toNat ascii
  rw [Char.ofNat_toNat] at this
  exact this letter

theorem plainForm?_of_isLetter (letter : isLetter c = true) : plainForm? c = some [c.toLower] := by
  have ascii : c.toNat < 0x80 :=
    isLetter_induction (p := fun c => c.toNat < 0x80) (by decide) letter
  rw [plainForm?, if_pos ascii]

theorem toLower_isSimple (letter : isLetter c = true) : IsSimple c.toLower :=
  isLetter_induction (p := fun c => IsSimple c.toLower)
    (by unfold IsSimple Composition.firstWhole; decide) letter

/-- A letter is written as its one byte and stands for itself. -/
theorem bytesOf_of_isLetter (letter : isLetter c = true) :
    bytesOf c = String.utf8EncodeChar c ∧ c ≠ '%' :=
  isLetter_induction (p := fun c => bytesOf c = String.utf8EncodeChar c ∧ c ≠ '%')
    (by decide +kernel) letter

/-- Letters are read as they are, in lower case. -/
theorem plain?_of_isLetter (letters : ∀ c ∈ name, isLetter c = true) {plain : List Char} :
    Domain.plain? name = some plain ↔ plain = name.map Char.toLower ∧ HasLabels plain := by
  have forms : name.mapM plainForm? = some (name.map fun c => [c.toLower]) := by
    induction name with
    | nil => rfl
    | cons c cs ih =>
      rw [List.mapM_cons, plainForm?_of_isLetter (letters c List.mem_cons_self),
        ih fun d among => letters d (List.mem_cons_of_mem _ among)]
      rfl
  have joined : composed (name.map fun c => [c.toLower]).flatten = name.map Char.toLower := by
    rw [← List.flatMap_def, ← List.map_eq_flatMap, composed_of_isSimple]
    intro d among
    obtain ⟨c, inside, rfl⟩ := List.mem_map.1 among
    exact toLower_isSimple (letters c inside)
  rw [plain?_eq_some]
  constructor
  · rintro ⟨forms', same, rfl, labels⟩
    cases forms.symm.trans same
    rw [joined] at labels ⊢
    exact ⟨rfl, labels⟩
  · rintro ⟨rfl, labels⟩
    exact ⟨_, forms, joined, labels⟩

theorem percentDecode_of_isLetter (letters : ∀ c ∈ name, isLetter c = true) :
    percentDecode name = some (String.ofList name) := by
  rw [percentDecode_eq_some, String.toList_ofList]
  induction name with
  | nil => rw [percentBytes.eq_1]; rfl
  | cons c cs ih =>
    obtain ⟨bytes, sign⟩ := bytesOf_of_isLetter (letters c List.mem_cons_self)
    rw [percentBytes_cons fun _ _ _ same => absurd same sign, bytes, List.flatMap_cons,
      ih fun d among => letters d (List.mem_cons_of_mem _ among)]

theorem readDomain_eq_ok {cs : List Char} :
    Host.readDomain cs = .ok name ↔
      ∃ s, percentDecode cs = some s ∧ Domain.plain? s.toList = some name ∧ name ≠ [] := by
  unfold Host.readDomain
  cases percentDecode cs with
  | none => simp
  | some s =>
    cases plain : Domain.plain? s.toList with
    | none => simp [plain]
    | some d => cases d <;> simp +contextual [plain, eq_comm]

/-- **A name of letters** that does not end in a number is the host that has it in lower case, if it
has labels at all. -/
theorem parse_of_isLetter (letters : ∀ c ∈ name, isLetter c = true) (some_ : name ≠ [])
    (noNumber : Host.endsInNumber (name.map Char.toLower) = false) {h : Host} :
    Host.parse name = .ok h ↔
      h = .domain (name.map Char.toLower) ∧ HasLabels (name.map Char.toLower) := by
  have domain (d : List Char) : Host.readDomain name = .ok d ↔
      d = name.map Char.toLower ∧ HasLabels d := by
    rw [readDomain_eq_ok, percentDecode_of_isLetter letters]
    simp only [Option.some.injEq, exists_eq_left', String.toList_ofList, plain?_of_isLetter letters]
    refine ⟨And.left, fun both => ⟨both, ?_⟩⟩
    rw [both.1]
    simpa using some_
  unfold Host.parse
  split
  next inside => exact absurd (letters '[' List.mem_cons_self) (by decide)
  next =>
    cases read : Host.readDomain name with
    | error e =>
      have none_ : ¬ HasLabels (name.map Char.toLower) := fun labels =>
        nomatch read.symm.trans ((domain _).2 ⟨rfl, labels⟩)
      simp [bind, Except.bind, none_]
    | ok d =>
      obtain ⟨rfl, labels⟩ := (domain d).1 read
      simp [bind, Except.bind, noNumber, labels, eq_comm]

/-- The host that a name stands for has labels. -/
theorem hasLabels_of_parse {cs : List Char} (read : Host.parse cs = .ok (.domain name)) :
    HasLabels name := by
  unfold Host.parse at read
  split at read
  next inside =>
    unfold Host.bracketed at read
    split at read
    · cases six : Host.readIpv6 inside.dropLast <;> rw [six] at read <;> cases read
    · cases read
  next =>
    cases domain : Host.readDomain cs with
    | error e =>
      rw [domain] at read
      cases read
    | ok d =>
      rw [domain] at read
      simp only [bind, Except.bind] at read
      split at read
      · cases four : Host.readIpv4 d <;> rw [four] at read <;> cases read
      · cases read
        obtain ⟨s, -, plain, -⟩ := readDomain_eq_ok.1 domain
        obtain ⟨-, -, -, labels⟩ := plain?_eq_some.1 plain
        exact labels

end Letters

end Loyalty.Url
