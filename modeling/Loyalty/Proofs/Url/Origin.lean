import Mathlib
import Loyalty.Proofs.Url.Domain

/-!
# What a web address names

A web address names its scheme, in lower case, and the host that stands between the slashes behind
the scheme and what comes next. Slashes that are dropped from the end of the address, and with them
the blanks in front of these, do not change that.
-/

namespace Loyalty.Url

/-- The scheme and the host that an address names, if it names a host. -/
def origin? (address : String) : Option (List Char × Host) :=
  (parse address).toOption.bind fun u => u.host.map fun host => (u.scheme, host)

/-- The host that is named by the part of a web address in front of its path. -/
def hostOf? (authority : List Char) : Option Host :=
  let (name, port) := splitHost false (splitUser authority).2
  if name.isEmpty then none
  else (Host.parse name).toOption.bind fun host =>
    (readPort ((port.drop 1).takeWhile (· != '\\'))).toOption.map fun _ => host

/-- The part of a web address in front of its path. -/
def authorityOf (rest : List Char) : List Char :=
  (rest.dropWhile fun c => c == '/' || c == '\\').takeWhile fun c => !endsAuthority .web c

section Authority

variable {c : Char} {cs rest written : List Char}

theorem origin_readAuthority (u : Url) (cs : List Char) (more : Bool) :
    ((readAuthority u .web cs more).toOption.bind fun v => v.host.map fun host => (v.scheme, host)) =
      (hostOf? cs).map fun host => (u.scheme, host) := by
  unfold readAuthority hostOf?
  dsimp only
  split
  · rfl
  · rw [if_pos (by rfl)]
    cases Host.parse (splitHost false (splitUser cs).2).1 with
    | error e => rfl
    | ok host =>
      cases readPort (((splitHost false (splitUser cs).2).2.drop 1).takeWhile (· != '\\')) <;> rfl

/-! ### The end of the host -/

theorem splitUser_append (other : c ≠ '@') (cs : List Char) :
    ∃ front, (splitUser (cs ++ [c])).2 = front ++ [c] ∧ front ⊆ cs := by
  have passed : (c != '@') = true := bne_iff_ne.2 other
  have turned : (cs ++ [c]).reverse = c :: cs.reverse := by simp
  unfold splitUser
  rw [turned, List.dropWhile_cons_of_pos (p := (· != '@')) passed,
    List.takeWhile_cons_of_pos (p := (· != '@')) passed]
  split
  · exact ⟨cs, rfl, List.Subset.refl cs⟩
  · refine ⟨(cs.reverse.takeWhile (· != '@')).reverse, List.reverse_cons, fun x among => ?_⟩
    have among := (List.takeWhile_prefix _).subset (List.mem_reverse.1 among)
    exact List.mem_reverse.1 among

theorem splitHost_append (inside : Bool) (cs : List Char) :
    (splitHost inside cs).1 ++ (splitHost inside cs).2 = cs ∧
      ((splitHost inside cs).2 = [] ∨ ∃ port, (splitHost inside cs).2 = ':' :: port) := by
  induction cs generalizing inside with
  | nil => exact ⟨rfl, .inl rfl⟩
  | cons d cs ih =>
    rw [splitHost]
    split
    next colon => exact ⟨rfl, .inr ⟨cs, by rw [colon.1]⟩⟩
    next =>
      obtain ⟨joined, port⟩ := ih (if d = '[' then true else if d = ']' then false else inside)
      exact ⟨congrArg (d :: ·) joined, port⟩

theorem IsLow.readPort_append (low : IsLow c) (cs : List Char) (port : Option Nat) :
    readPort (cs ++ [c]) ≠ .ok port := by
  have noDigit : Text.digit? c = none :=
    low.induction (p := fun c => Text.digit? c = none) (by decide)
  have unread : (cs ++ [c]).mapM Text.digit? = none := by
    by_contra read
    obtain ⟨ds, read⟩ := Option.ne_none_iff_exists'.1 read
    exact ne_none_of_mapM read (List.mem_append_right cs (List.mem_singleton_self c)) noDigit
  unfold readPort
  split
  next same => simp at same
  next =>
    rw [unread]
    exact nofun

/-- What ends in a control character or a blank names no host. -/
theorem IsLow.hostOf?_append (low : IsLow c) (plain : '\\' ∉ cs) : hostOf? (cs ++ [c]) = none := by
  obtain ⟨front, parted, within⟩ := splitUser_append (low.ne (by decide : 0x20 < '@'.toNat)) cs
  obtain ⟨joined, port⟩ := splitHost_append false (front ++ [c])
  unfold hostOf?
  rw [parted]
  generalize splitHost false (front ++ [c]) = split at joined port
  obtain ⟨name, behind⟩ := split
  dsimp only at joined port ⊢
  split
  · rfl
  obtain rfl | ⟨port, rfl⟩ := port
  · rw [List.append_nil] at joined
    rw [joined]
    cases read : Host.parse (front ++ [c]) with
    | error e => rfl
    | ok h => exact absurd read (low.parse_append front h)
  · obtain rfl | ⟨digits, d, rfl⟩ := List.eq_nil_or_concat port
    · have last := List.append_inj_right' joined rfl
      exact absurd (List.cons.inj last).1.symm (low.ne (by decide))
    · rw [List.concat_eq_append] at joined ⊢
      have joined : (name ++ ':' :: digits) ++ [d] = front ++ [c] := by
        rw [← joined]
        simp
      obtain rfl : d = c := (List.cons.inj (List.append_inj_right' joined rfl)).1
      obtain rfl := List.append_cancel_right joined
      have kept : ((':' :: (digits ++ [d])).drop 1).takeWhile (· != '\\') = digits ++ [d] := by
        refine List.takeWhile_eq_self_iff.2 fun x among => bne_iff_ne.2 ?_
        rintro rfl
        obtain among | same := List.mem_append.1 among
        · exact plain (within (by simp [among]))
        · exact low.ne (by decide) (List.mem_singleton.1 same).symm
      rw [kept]
      cases Host.parse name with
      | error e => rfl
      | ok h =>
        cases read : readPort (digits ++ [d]) with
        | error e => rfl
        | ok n => exact absurd read (low.readPort_append digits n)

theorem ne_of_isLetter {d : Char} (other : isLetter d = false) (letter : isLetter c = true) :
    c ≠ d := by
  rintro rfl
  rw [letter] at other
  cases other

theorem splitHost_colon (letters : ∀ c ∈ written, isLetter c = true) :
    splitHost false (written ++ [':']) = (written, [':']) := by
  induction written with
  | nil => rfl
  | cons c cs ih =>
    have letter := letters c List.mem_cons_self
    have colon : ¬ (c = ':' ∧ false = false) := fun same => ne_of_isLetter (by decide) letter same.1
    rw [List.cons_append, splitHost, if_neg colon, if_neg (ne_of_isLetter (by decide) letter),
      if_neg (ne_of_isLetter (by decide) letter),
      ih fun d among => letters d (List.mem_cons_of_mem _ among)]

/-- Letters with a colon behind them are read as the letters alone. -/
theorem hostOf?_colon (letters : ∀ c ∈ written, isLetter c = true) (some_ : written ≠ []) :
    hostOf? (written ++ [':']) = (Host.parse written).toOption := by
  have noUser : splitUser (written ++ [':']) = (none, written ++ [':']) := by
    have all : ∀ x ∈ (written ++ [':']).reverse, (x != '@') = true := by
      intro x among
      rw [List.mem_reverse, List.mem_append, List.mem_singleton] at among
      obtain among | rfl := among
      · exact bne_iff_ne.2 (ne_of_isLetter (by decide) (letters x among))
      · rfl
    rw [splitUser, List.dropWhile_eq_nil_iff.2 all]
  have named : written.isEmpty = false := by simpa using some_
  unfold hostOf?
  rw [noUser]
  dsimp only
  rw [splitHost_colon letters]
  dsimp only
  rw [named]
  cases Host.parse written <;> rfl

end Authority

/-! ### Reading a web address -/

section Reading

variable {rest written : List Char}

/-- What is left of the rest of an address: blanks at its end are dropped, and tabs and line ends. -/
def cleanEnd (rest : List Char) : List Char :=
  (rest.rdropWhile isEdge).filter fun c => !isDropped c

theorem rdropWhile_append_cons {p : Char → Bool} {c : Char} (stays : p c = false)
    (front rest : List Char) :
    (front ++ c :: rest).rdropWhile p = front ++ c :: rest.rdropWhile p := by
  induction rest using List.reverseRecOn with
  | nil => exact List.rdropWhile_concat_neg _ _ _ (by simp [stays])
  | append_singleton rest x ih =>
    cases drops : p x with
    | true =>
      rw [← List.cons_append, ← List.append_assoc, List.rdropWhile_concat_pos _ _ _ drops, ih,
        List.rdropWhile_concat_pos _ _ _ drops]
    | false =>
      rw [← List.cons_append, ← List.append_assoc,
        List.rdropWhile_concat_neg _ _ _ (by simp [drops]),
        List.rdropWhile_concat_neg _ _ _ (by simp [drops])]
      simp

theorem stays_of_isLetter {c : Char} (letter : isLetter c = true) :
    isEdge c = false ∧ isDropped c = false :=
  isLetter_induction (p := fun c => isEdge c = false ∧ isDropped c = false) (by decide) letter

theorem clean_append (letters : ∀ c ∈ written, isLetter c = true) (some_ : written ≠ [])
    (rest : List Char) : clean (written ++ ':' :: rest) = written ++ ':' :: cleanEnd rest := by
  obtain ⟨c, cs, rfl⟩ := List.exists_cons_of_ne_nil some_
  have begins : (c :: cs ++ ':' :: rest).dropWhile isEdge = c :: cs ++ ':' :: rest :=
    List.dropWhile_cons_of_neg (by simp [(stays_of_isLetter (letters c List.mem_cons_self)).1])
  have ends : ((c :: cs ++ ':' :: rest).reverse.dropWhile isEdge).reverse =
      c :: cs ++ ':' :: rest.rdropWhile isEdge := rdropWhile_append_cons rfl _ _
  have kept : (c :: cs).filter (fun c => !isDropped c) = c :: cs :=
    List.filter_eq_self.2 fun x among => by simp [(stays_of_isLetter (letters x among)).2]
  rw [clean, begins, ends, List.filter_append, kept]
  rfl

theorem splitScheme_append (letters : ∀ c ∈ written, isLetter c = true) (some_ : written ≠ [])
    (rest : List Char) :
    splitScheme (written ++ ':' :: rest) = some (written.map Char.toLower, rest) := by
  obtain ⟨c, cs, rfl⟩ := List.exists_cons_of_ne_nil some_
  have within : ∀ x ∈ c :: cs, isSchemeChar x = true := by
    intro x among
    simp [isSchemeChar, letters x among]
  have ended : isSchemeChar ':' = false := rfl
  have taken : (c :: cs ++ ':' :: rest).takeWhile isSchemeChar = c :: cs := by
    rw [List.takeWhile_append_of_pos within, List.takeWhile_cons_of_neg (by simp [ended]),
      List.append_nil]
  have dropped : (c :: cs ++ ':' :: rest).dropWhile isSchemeChar = ':' :: rest := by
    rw [List.dropWhile_append_of_pos within, List.dropWhile_cons_of_neg (by simp [ended])]
  have letter : (!isLetter c) = false := by simp [letters c List.mem_cons_self]
  show (if !isLetter c then none else _) = _
  rw [letter, dropped, taken]
  rfl

theorem origin?_append (letters : ∀ c ∈ written, isLetter c = true)
    (web : written.map Char.toLower ∈ webSchemes) (rest : List Char) :
    origin? (String.ofList (written ++ ':' :: rest)) =
      (hostOf? (authorityOf (cleanEnd rest))).map fun host => (written.map Char.toLower, host) := by
  have some_ : written ≠ [] := by
    rintro rfl
    exact absurd web (by decide)
  have kind : kindOf (written.map Char.toLower) = .web := by
    rw [kindOf, if_pos web]
  rw [origin?, parse, String.toList_ofList, clean_append letters some_,
    splitScheme_append letters some_]
  dsimp only
  unfold readRest
  rw [kind]
  exact origin_readAuthority _ _ _

/-- Where a second scheme stands behind the first, it is what the host is read from. -/
theorem authorityOf_scheme (letters : ∀ c ∈ written, isLetter c = true) (some_ : written ≠ [])
    (tail : List Char) :
    authorityOf (cleanEnd ('/' :: '/' :: (written ++ ':' :: '/' :: tail))) = written ++ [':'] := by
  obtain ⟨c, cs, rfl⟩ := List.exists_cons_of_ne_nil some_
  have whole : '/' :: '/' :: (c :: cs ++ ':' :: '/' :: tail) =
      ('/' :: '/' :: (c :: cs ++ [':'])) ++ '/' :: tail := by simp
  have kept : ('/' :: '/' :: (c :: cs ++ [':'])).filter (fun x => !isDropped x) =
      '/' :: '/' :: (c :: cs ++ [':']) := by
    have all : ∀ x ∈ c :: cs, (!isDropped x) = true := fun x among => by
      rw [(stays_of_isLetter (letters x among)).2]
      rfl
    rw [List.filter_cons_of_pos rfl, List.filter_cons_of_pos rfl, List.filter_append,
      List.filter_eq_self.2 all]
    rfl
  have stays : ¬ (c == '/' || c == '\\') = true := by
    have slash : c ≠ '/' := ne_of_isLetter rfl (letters c List.mem_cons_self)
    have backslash : c ≠ '\\' := ne_of_isLetter rfl (letters c List.mem_cons_self)
    simp [slash, backslash]
  have inside : ∀ x ∈ c :: cs ++ [':'], (!endsAuthority .web x) = true := by
    intro x among
    obtain among | same := List.mem_append.1 among
    · exact isLetter_induction (p := fun x => (!endsAuthority .web x) = true) (by decide)
        (letters x among)
    · rw [List.mem_singleton.1 same]
      rfl
  rw [whole, cleanEnd, rdropWhile_append_cons rfl, List.filter_append, kept,
    List.filter_cons_of_pos rfl, authorityOf, List.cons_append, List.cons_append,
    List.dropWhile_cons_of_pos rfl, List.dropWhile_cons_of_pos rfl, List.cons_append,
    List.cons_append, List.dropWhile_cons_of_neg (p := fun c => c == '/' || c == '\\') stays,
    ← List.cons_append, ← List.cons_append, List.takeWhile_append_of_pos inside,
    List.takeWhile_cons_of_neg (by decide), List.append_nil]

/-! ### Slashes at the end -/

theorem rdropWhile_append {p : Char → Bool} (stays : rest.rdropWhile p ≠ []) (front : List Char) :
    (front ++ rest).rdropWhile p = front ++ rest.rdropWhile p := by
  have stays : ¬ (rest.reverse.dropWhile p).isEmpty = true := by
    intro none_
    exact stays (List.reverse_eq_nil_iff.2 (List.isEmpty_iff.1 none_))
  rw [List.rdropWhile, List.reverse_append, List.dropWhile_append, if_neg stays,
    List.reverse_append, List.reverse_reverse, List.rdropWhile]


/-- Slashes at the end are no part of what stands in front of the path; control characters and blanks
in front of them are, unless the path has begun before. -/
theorem authorityOf_append (front : List Char) {lows : List Char} (low : ∀ c ∈ lows, IsLow c)
    (k : Nat) :
    authorityOf (front ++ (lows ++ List.replicate k '/')) = authorityOf front ∨
      lows ≠ [] ∧ ∃ before, '\\' ∉ before ∧
        authorityOf (front ++ (lows ++ List.replicate k '/')) = before ++ lows := by
  have inside : ∀ c ∈ lows, (!endsAuthority .web c) = true := by
    intro c among
    exact (low c among).induction (p := fun c => (!endsAuthority .web c) = true) (by decide)
  have behind :
      (lows ++ List.replicate k '/').takeWhile (fun c => !endsAuthority .web c) = lows := by
    rw [List.takeWhile_append_of_pos inside]
    cases k with
    | zero => simp
    | succ k => rw [List.replicate_succ, List.takeWhile_cons_of_neg (by decide), List.append_nil]
  unfold authorityOf
  rw [List.dropWhile_append]
  generalize (front.dropWhile fun c => c == '/' || c == '\\') = first
  split
  next none_ =>
    rw [List.isEmpty_iff.1 none_]
    cases lows with
    | nil =>
      left
      have all : ∀ c ∈ List.replicate k '/', (c == '/' || c == '\\') = true := by
        intro c among
        rw [List.eq_of_mem_replicate among]
        rfl
      rw [List.nil_append, List.dropWhile_eq_nil_iff.2 all]
    | cons c lows =>
      right
      have stays : ¬ (c == '/' || c == '\\') = true := by
        have slash : c ≠ '/' := (low c List.mem_cons_self).ne (by decide)
        have backslash : c ≠ '\\' := (low c List.mem_cons_self).ne (by decide)
        simp [slash, backslash]
      refine ⟨nofun, [], List.not_mem_nil, ?_⟩
      rw [List.cons_append, List.dropWhile_cons_of_neg (p := fun c => c == '/' || c == '\\') stays,
        ← List.cons_append, behind]
      rfl
  next =>
    rw [List.takeWhile_append, behind]
    split
    next whole =>
      have same := (List.takeWhile_prefix _).eq_of_length whole
      cases lows with
      | nil => exact .inl (by rw [same, List.append_nil])
      | cons c lows =>
        refine .inr ⟨nofun, first, fun among => ?_, rfl⟩
        have this := List.takeWhile_eq_self_iff.1 same '\\' among
        exact absurd this (by decide)
    next => exact .inl rfl

/-- Slashes that are dropped from the end of a web address do not change the host. -/
theorem hostOf?_append_slashes {host : Host} {k : Nat}
    (names : hostOf? (authorityOf (cleanEnd (rest ++ List.replicate k '/'))) = some host) :
    hostOf? (authorityOf (cleanEnd rest)) = some host := by
  cases k with
  | zero => rwa [List.replicate_zero, List.append_nil] at names
  | succ k =>
    have whole : cleanEnd (rest ++ List.replicate (k + 1) '/') = cleanEnd rest ++
        ((rest.rtakeWhile isEdge).filter (fun c => !isDropped c) ++ List.replicate (k + 1) '/') := by
      have stays : (rest ++ List.replicate (k + 1) '/').rdropWhile isEdge =
          rest ++ List.replicate (k + 1) '/' := by
        rw [List.replicate_succ', ← List.append_assoc]
        exact List.rdropWhile_concat_neg _ _ _ (by decide)
      have kept : (List.replicate (k + 1) '/').filter (fun c => !isDropped c) =
          List.replicate (k + 1) '/' := by
        rw [List.filter_replicate_of_pos (by decide)]
      rw [cleanEnd, stays, List.filter_append, kept, cleanEnd, ← List.append_assoc,
        ← List.filter_append, List.rdropWhile_append_rtakeWhile]
    have low : ∀ c ∈ (rest.rtakeWhile isEdge).filter (fun c => !isDropped c), IsLow c := by
      intro c among
      have edge : isEdge c = true := List.mem_rtakeWhile_imp (List.mem_of_mem_filter among)
      simpa [isEdge, IsLow] using edge
    rw [whole] at names
    obtain same | ⟨some_, before, plain, parted⟩ := authorityOf_append (cleanEnd rest) low (k + 1)
    · rwa [same] at names
    · generalize (rest.rtakeWhile isEdge).filter (fun c => !isDropped c) = lows at *
      obtain ⟨lows, c, rfl⟩ := (List.eq_nil_or_concat lows).resolve_left some_
      rw [List.concat_eq_append] at parted low names
      have last : IsLow c := low c (by simp)
      have plain' : '\\' ∉ before ++ lows := by
        rw [List.mem_append, not_or]
        exact ⟨plain, fun among => (low _ (List.mem_append_left _ among)).ne (by decide) rfl⟩
      rw [parted, ← List.append_assoc, last.hostOf?_append plain'] at names
      cases names

/-- A host that is named is read from the name of one. -/
theorem exists_parse_of_hostOf? {authority : List Char} {host : Host}
    (names : hostOf? authority = some host) : ∃ name, Host.parse name = .ok host := by
  unfold hostOf? at names
  dsimp only at names
  split at names
  · cases names
  · obtain ⟨host', read, names⟩ := Option.bind_eq_some_iff.1 names
    obtain ⟨-, -, rfl⟩ := Option.map_eq_some_iff.1 names
    refine ⟨(splitHost false (splitUser authority).2).1, ?_⟩
    cases parsed : Host.parse (splitHost false (splitUser authority).2).1 with
    | error e =>
      rw [parsed] at read
      cases read
    | ok host =>
      rw [parsed] at read
      cases read
      rfl

end Reading

end Loyalty.Url
