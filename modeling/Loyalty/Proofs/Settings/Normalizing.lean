import Mathlib
import Loyalty.Proofs.Url.Origin
import Loyalty.Settings.Environment

/-!
# What becomes of the address of the accrual service

The address is normalised once. Slashes are dropped after the blanks, so that a blank in front of
them is left at the end, and the next time more would be dropped. A scheme is known by its lower case
letters alone; one in other letters gets a second scheme in front and becomes the host itself.

Main statement: `normalizeAddress_keeps_iff`, which says just when an address stays as it was normalised,
and just when it names the host that was given.
-/

namespace Loyalty.Settings

open Loyalty.Text Loyalty.Url

/-! ### Trimming -/

section Trimming

variable {c : Char} {cs : List Char}

theorem mem_dropWhile {p : Char → Bool} (among : c ∈ cs) (stays : p c = false) :
    c ∈ cs.dropWhile p := by
  rw [← List.takeWhile_append_dropWhile (p := p) (l := cs), List.mem_append] at among
  refine among.resolve_left fun taken => ?_
  rw [List.mem_takeWhile_imp taken] at stays
  cases stays

/-- Neither blank nor slash, a character stays. -/
theorem mem_trimAddress (among : c ∈ cs) (solid : isBlank c = false) (other : c ≠ '/') :
    c ∈ trimAddress cs := by
  have trimmed : c ∈ trim cs :=
    List.mem_reverse.2 (mem_dropWhile (List.mem_reverse.2 (mem_dropWhile among solid)) solid)
  exact List.mem_reverse.2 (mem_dropWhile (List.mem_reverse.2 trimmed) (by simpa using other))

theorem trimAddress_prefix (cs : List Char) : trimAddress cs <+: trimLeft cs := by
  have slashes : trimAddress cs <+: trim cs := List.rdropWhile_prefix _ _
  have blanks : trim cs <+: trimLeft cs := List.rdropWhile_prefix _ _
  exact slashes.trans blanks

theorem head_trimAddress (cs : List Char) : ∀ c ∈ (trimAddress cs).head?, isBlank c = false := by
  intro c first
  obtain ⟨rest, whole⟩ := trimAddress_prefix cs
  refine head_trimLeft cs c ?_
  rw [← whole, List.head?_append, Option.mem_def.1 first]
  rfl

theorem last_trimAddress (cs : List Char) : '/' ∉ (trimAddress cs).getLast? := by
  intro last
  obtain ⟨front, ends⟩ := List.getLast?_eq_some_iff.1 (Option.mem_def.1 last)
  have kept : (trimAddress cs).rdropWhile (· == '/') = trimAddress cs :=
    List.rdropWhile_idempotent (· == '/') (trim cs)
  rw [ends, List.rdropWhile_concat_pos _ _ _ (by rfl)] at kept
  have longer := (List.rdropWhile_prefix (· == '/') front).length_le
  rw [kept, List.length_append, List.length_singleton] at longer
  omega

theorem trimAddress_eq_self (first : ∀ c ∈ cs.head?, isBlank c = false)
    (last : ∀ c ∈ cs.getLast?, isBlank c = false ∧ c ≠ '/') : trimAddress cs = cs := by
  have blanks : trim cs = cs := trim_eq_self first fun c ends => (last c ends).1
  have slashes : cs.rdropWhile (· == '/') = cs := by
    obtain rfl | ⟨front, c, rfl⟩ := List.eq_nil_or_concat cs
    · rfl
    · rw [List.concat_eq_append] at last ⊢
      have other := (last c (by simp)).2
      exact List.rdropWhile_concat_neg _ _ _ (by simpa using other)
  rw [trimAddress, blanks]
  exact slashes

end Trimming

/-! ### Normalising twice -/

section Twice

variable {cs : List Char}

theorem plainScheme_eq : plainScheme = ['h', 't', 't', 'p', ':', '/', '/'] := String.toList_ofList

theorem ofList_plainScheme : String.ofList plainScheme = "http://" := String.ofList_toList

theorem isBlank_of_mem_plainScheme {c : Char} (among : c ∈ plainScheme) : isBlank c = false := by
  rw [plainScheme_eq] at among
  simp only [List.mem_cons, List.not_mem_nil, or_false] at among
  obtain rfl | rfl | rfl | rfl | rfl | rfl | rfl := among <;> decide

theorem namesScheme_normalizeChars (cs : List Char) : namesScheme (normalizeChars cs) = true := by
  unfold normalizeChars
  dsimp only
  split
  next named => exact named
  next => rw [namesScheme, List.isPrefixOf_iff_prefix.2 (List.prefix_append _ _), Bool.true_or]

theorem getLast?_normalizeChars (some_ : trimAddress cs ≠ []) :
    (normalizeChars cs).getLast? = (trimAddress cs).getLast? := by
  unfold normalizeChars
  dsimp only
  split
  · rfl
  · rw [List.getLast?_append_of_ne_nil _ some_]

theorem head_normalizeChars (cs : List Char) :
    ∀ c ∈ (normalizeChars cs).head?, isBlank c = false := by
  unfold normalizeChars
  dsimp only
  split
  · exact head_trimAddress cs
  · intro c first
    rw [plainScheme_eq] at first
    obtain rfl : 'h' = c := Option.some.inj first
    decide

/-- An address stays as it was normalised unless a blank is left at its end. -/
theorem normalizeChars_normalizeChars (some_ : trimAddress cs ≠ []) :
    normalizeChars (normalizeChars cs) = normalizeChars cs ↔
      ∀ c ∈ (trimAddress cs).getLast?, isBlank c = false := by
  have first := head_normalizeChars cs
  have last := getLast?_normalizeChars some_
  have named := namesScheme_normalizeChars cs
  have slash := last_trimAddress cs
  rw [← last] at slash ⊢
  generalize normalizeChars cs = n at *
  constructor
  · intro same c ends
    by_contra blank
    rw [Bool.not_eq_false] at blank
    have shorter : trimAddress n <+: n := by
      have this := trimAddress_prefix n
      rwa [trimLeft_eq_self first] at this
    -- what is dropped is at least the blank, so nothing but a second scheme could make up for it
    have dropped : (trimAddress n).length < n.length := by
      by_contra all
      have slashes := (List.rdropWhile_prefix (· == '/') (trim n)).length_le
      have blanks : trim n <+: trimLeft n := List.rdropWhile_prefix isBlank (trimLeft n)
      rw [trimLeft_eq_self first] at blanks
      have whole : trim n = n := blanks.eq_of_length_le ((Nat.le_of_not_lt all).trans slashes)
      rw [← whole] at ends
      rw [last_trimRight (trimLeft n) c ends] at blank
      cases blank
    unfold normalizeChars at same
    dsimp only at same
    split at same
    · rw [same] at dropped
      exact lt_irrefl _ dropped
    next unnamed =>
      have scheme : plainScheme <+: n := ⟨_, same⟩
      have short : trimAddress n <+: plainScheme := by
        obtain long | short := le_total plainScheme.length (trimAddress n).length
        · have named := List.prefix_of_prefix_length_le scheme shorter long
          rw [namesScheme, List.isPrefixOf_iff_prefix.2 named, Bool.true_or] at unnamed
          exact absurd rfl unnamed
        · exact List.prefix_of_prefix_length_le shorter scheme short
      have within : c ∈ plainScheme := by
        have among := List.mem_of_getLast? (Option.mem_def.1 ends)
        rw [← same, List.mem_append] at among
        exact among.elim id fun behind => short.subset behind
      rw [isBlank_of_mem_plainScheme within] at blank
      cases blank
  · intro solid
    have kept : trimAddress n = n := trimAddress_eq_self first fun c ends =>
      ⟨solid c ends, fun same => slash (same ▸ ends)⟩
    unfold normalizeChars
    rw [kept, if_pos named]

end Twice

/-! ### The scheme and the host -/

section Scheme

variable {written tail : List Char} {host : Host}

/-- The scheme of a service that is asked in the open, and of one that is asked in secret. -/
def http : List Char := "http".toList
@[inherit_doc http] def https : List Char := "https".toList

theorem http_eq : http = ['h', 't', 't', 'p'] := String.toList_ofList

theorem https_eq : https = ['h', 't', 't', 'p', 's'] := String.toList_ofList

theorem secureScheme_eq : secureScheme = ['h', 't', 't', 'p', 's', ':', '/', '/'] :=
  String.toList_ofList

/-- The text is one of the two schemes, in letters of either case. -/
def IsScheme (written : List Char) : Prop :=
  written.map Char.toLower = http ∨ written.map Char.toLower = https

theorem isLetter_of_toLower {c : Char} (letter : isLetter c.toLower = true) : isLetter c = true := by
  by_cases large : c.val ≥ 'A'.val ∧ c.val ≤ 'Z'.val
  · simp only [isLetter, Bool.or_eq_true, Bool.and_eq_true, decide_eq_true_eq]
    exact .inr large
  · rwa [show c.toLower = c from dif_neg large] at letter

theorem IsScheme.letters (web : IsScheme written) : ∀ c ∈ written, isLetter c = true := by
  intro c among
  have lower := List.mem_map_of_mem (f := Char.toLower) among
  have known : ∀ d ∈ ['h', 't', 't', 'p', 's'], isLetter d = true := by
    intro d among
    simp only [List.mem_cons, List.not_mem_nil, or_false] at among
    obtain rfl | rfl | rfl | rfl | rfl := among <;> rfl
  refine isLetter_of_toLower (known _ ?_)
  obtain same | same := web
  · rw [same, http_eq] at lower
    exact List.mem_append_left ['s'] lower
  · rwa [same, https_eq] at lower

theorem IsScheme.mem_webSchemes (web : IsScheme written) :
    written.map Char.toLower ∈ webSchemes := by
  obtain same | same := web
  · rw [same]
    exact List.mem_cons_self
  · rw [same]
    exact List.mem_cons_of_mem _ List.mem_cons_self

theorem IsScheme.ne_nil (web : IsScheme written) : written ≠ [] := by
  rintro rfl
  obtain same | same := web
  · rw [http_eq] at same
    cases same
  · rw [https_eq] at same
    cases same

/-- A scheme is known by its lower case letters. -/
theorem namesScheme_iff (web : IsScheme written) :
    namesScheme (written ++ ':' :: '/' :: '/' :: tail) = true ↔
      written = written.map Char.toLower := by
  rw [namesScheme, Bool.or_eq_true, List.isPrefixOf_iff_prefix, List.isPrefixOf_iff_prefix,
    plainScheme_eq, secureScheme_eq]
  obtain same | same := web
  · rw [same, http_eq]
    rw [http_eq] at same
    obtain ⟨a, _, rfl, -, same⟩ := List.map_eq_cons_iff.1 same
    obtain ⟨b, _, rfl, -, same⟩ := List.map_eq_cons_iff.1 same
    obtain ⟨c, _, rfl, -, same⟩ := List.map_eq_cons_iff.1 same
    obtain ⟨d, _, rfl, -, same⟩ := List.map_eq_cons_iff.1 same
    rw [List.map_eq_nil_iff] at same
    simp [same, List.cons_prefix_cons, eq_comm]
  · rw [same, https_eq]
    rw [https_eq] at same
    obtain ⟨a, _, rfl, -, same⟩ := List.map_eq_cons_iff.1 same
    obtain ⟨b, _, rfl, -, same⟩ := List.map_eq_cons_iff.1 same
    obtain ⟨c, _, rfl, -, same⟩ := List.map_eq_cons_iff.1 same
    obtain ⟨d, _, rfl, -, same⟩ := List.map_eq_cons_iff.1 same
    obtain ⟨e, _, rfl, last, same⟩ := List.map_eq_cons_iff.1 same
    have other : ':' ≠ e := by
      rintro rfl
      exact absurd last (by decide)
    rw [List.map_eq_nil_iff] at same
    simp [same, other, List.cons_prefix_cons, eq_comm]

/-- The host that is named when a scheme stands where a host is read. -/
theorem parse_of_isScheme (web : IsScheme written) :
    Host.parse written = .ok host ↔
      host = .domain (written.map Char.toLower) ∧ HasLabels (written.map Char.toLower) := by
  refine parse_of_isLetter web.letters web.ne_nil ?_
  obtain same | same := web
  · rw [same, http_eq]
    decide
  · rw [same, https_eq]
    decide

/-- A second scheme in front makes a host of the first. -/
theorem origin?_plainScheme (web : IsScheme written) {scheme : List Char} :
    origin? (String.ofList (plainScheme ++ (written ++ ':' :: '/' :: tail))) = some (scheme, host) ↔
      scheme = http ∧ host = .domain (written.map Char.toLower) ∧
        HasLabels (written.map Char.toLower) := by
  have letters := web.letters
  have plain : IsScheme http := .inl (by rw [http_eq]; rfl)
  have parted : plainScheme ++ (written ++ ':' :: '/' :: tail) =
      http ++ ':' :: ('/' :: '/' :: (written ++ ':' :: '/' :: tail)) := by
    rw [plainScheme_eq, http_eq]
    rfl
  have lower : http.map Char.toLower = http := by
    rw [http_eq]
    rfl
  rw [parted, origin?_append plain.letters plain.mem_webSchemes,
    authorityOf_scheme letters web.ne_nil, hostOf?_colon letters web.ne_nil, lower,
    ← parse_of_isScheme web]
  cases Host.parse written <;> simp [Except.toOption, eq_comm]

/-- What is dropped from the end of an address that names a host leaves it that host. -/
theorem trimAddress_of_scheme {cs rest : List Char}
    (begins : trim cs = written ++ ':' :: '/' :: '/' :: rest)
    (names : hostOf? (authorityOf (cleanEnd ('/' :: '/' :: rest))) = some host) :
    ∃ kept, trimAddress cs = written ++ ':' :: '/' :: '/' :: kept ∧
      hostOf? (authorityOf (cleanEnd ('/' :: '/' :: kept))) = some host := by
  have slashes : rest.rtakeWhile (· == '/') =
      List.replicate (rest.rtakeWhile (· == '/')).length '/' := by
    refine List.eq_replicate_iff.2 ⟨rfl, fun x among => ?_⟩
    exact eq_of_beq (List.mem_rtakeWhile_imp (p := (· == '/')) among)
  have parted := List.rdropWhile_append_rtakeWhile (p := (· == '/')) (l := rest)
  rw [slashes] at parted
  generalize (rest.rtakeWhile (· == '/')).length = k at parted
  have some_ : rest.rdropWhile (· == '/') ≠ [] := by
    intro none_
    rw [none_, List.nil_append] at parted
    have all : '/' :: '/' :: rest = [] ++ List.replicate (k + 2) '/' := by
      rw [← parted]
      rfl
    rw [all] at names
    cases hostOf?_append_slashes names
  have front : written ++ ':' :: '/' :: '/' :: rest = (written ++ [':', '/', '/']) ++ rest := by
    simp
  refine ⟨rest.rdropWhile (· == '/'), ?_, ?_⟩
  · have trimmed : trimAddress cs = (trim cs).rdropWhile (· == '/') := rfl
    rw [trimmed, begins, front, rdropWhile_append some_]
    simp
  · have whole : '/' :: '/' :: rest =
        ('/' :: '/' :: rest.rdropWhile (· == '/')) ++ List.replicate k '/' := by
      rw [List.cons_append, List.cons_append, parted]
    rw [whole] at names
    exact hostOf?_append_slashes names

end Scheme

/-- **What becomes of an address.** An address with anything in it but blanks and slashes stays as it
was normalised if no blank is left at its end, and only then. One that begins with the scheme `http`
or `https`, in letters of either case, and names a host keeps both if the scheme is in lower case, and
only then: otherwise it gets a second scheme and names the first one as its host. -/
theorem normalizeAddress_keeps_iff (raw : String) :
    ((∃ c ∈ raw.toList, isBlank c = false ∧ c ≠ '/') →
      (normalizeAddress (normalizeAddress raw) = normalizeAddress raw ↔
        ∀ c ∈ (trimAddress raw.toList).getLast?, isBlank c = false)) ∧
    ∀ (written rest : List Char) (host : Host), IsScheme written →
      trim raw.toList = written ++ "://".toList ++ rest →
      origin? (trimmed raw) = some (written.map Char.toLower, host) →
      (origin? (normalizeAddress raw) = some (written.map Char.toLower, host) ↔
        written = written.map Char.toLower ∨
          written.map Char.toLower = http ∧ host = .domain http) ∧
      (written ≠ written.map Char.toLower →
        normalizeAddress raw = "http://" ++ String.ofList (trimAddress raw.toList) ∧
        ∀ scheme host, origin? (normalizeAddress raw) = some (scheme, host) →
          scheme = http ∧ host = .domain (written.map Char.toLower)) := by
  constructor
  · rintro ⟨c, among, solid, other⟩
    have some_ : trimAddress raw.toList ≠ [] :=
      List.ne_nil_of_mem (mem_trimAddress among solid other)
    rw [← normalizeChars_normalizeChars some_, normalizeAddress, normalizeAddress,
      String.toList_ofList, String.ofList_inj]
  · intro written rest host web begins names
    have slashes : "://".toList = [':', '/', '/'] := String.toList_ofList
    have begins : trim raw.toList = written ++ ':' :: '/' :: '/' :: rest := by
      rw [begins, slashes]
      simp
    rw [trimmed, begins, origin?_append web.letters web.mem_webSchemes,
      Option.map_eq_some_iff] at names
    obtain ⟨host', names, same⟩ := names
    cases same
    obtain ⟨kept, trims, keeps⟩ := trimAddress_of_scheme begins names
    have normal : normalizeAddress raw = String.ofList
        (if namesScheme (trimAddress raw.toList) then trimAddress raw.toList
          else plainScheme ++ trimAddress raw.toList) := rfl
    have stays : origin? (String.ofList (trimAddress raw.toList)) =
        some (written.map Char.toLower, host) := by
      rw [trims, origin?_append web.letters web.mem_webSchemes, keeps]
      rfl
    by_cases lower : written = written.map Char.toLower
    · have named : namesScheme (trimAddress raw.toList) = true := by
        rw [trims]
        exact (namesScheme_iff web).2 lower
      rw [normal, if_pos named]
      exact ⟨iff_of_true stays (.inl lower), fun other => absurd lower other⟩
    · have unnamed : ¬ namesScheme (trimAddress raw.toList) = true := by
        rw [trims]
        exact fun named => lower ((namesScheme_iff web).1 named)
      rw [normal, if_neg unnamed, trims]
      refine ⟨?_, fun _ => ⟨?_, fun scheme host names => ?_⟩⟩
      · rw [origin?_plainScheme web]
        constructor
        · rintro ⟨plain, rfl, -⟩
          exact .inr ⟨plain, by rw [plain]⟩
        · rintro (same | ⟨plain, rfl⟩)
          · exact absurd same lower
          · obtain ⟨name, read⟩ := exists_parse_of_hostOf? names
            exact ⟨plain, by rw [plain], by rw [plain]; exact hasLabels_of_parse read⟩
      · rw [String.ofList_append, ofList_plainScheme]
      · obtain ⟨first, second, -⟩ := (origin?_plainScheme web).1 names
        exact ⟨first, second⟩

/-- The usual address is stable; and one with its scheme in upper case, at the machine itself, gets a
second scheme and no longer names that machine. -/
theorem normalizeAddress_keeps_iff_loopback :
    normalizeAddress (normalizeAddress " localhost:3000/ ") = normalizeAddress " localhost:3000/ " ∧
      origin? (normalizeAddress "HTTP://[::1]:8080/") ≠
        some (http, .ipv6 [0, 0, 0, 0, 0, 0, 0, 1]) := by
  constructor
  · have last : (trimAddress " localhost:3000/ ".toList).getLast? = some '0' := by decide +kernel
    refine ((normalizeAddress_keeps_iff " localhost:3000/ ").1
      ⟨'l', by decide +kernel, by decide⟩).2 ?_
    intro c ends
    obtain rfl : '0' = c := Option.some.inj (last.symm.trans ends)
    decide
  · have web : IsScheme "HTTP".toList := .inl (by decide +kernel)
    have names : origin? (trimmed "HTTP://[::1]:8080/") =
        some ("HTTP".toList.map Char.toLower, .ipv6 [0, 0, 0, 0, 0, 0, 0, 1]) := by
      decide +kernel
    obtain ⟨keeps, -⟩ := (normalizeAddress_keeps_iff "HTTP://[::1]:8080/").2 "HTTP".toList
      "[::1]:8080/".toList _ web (by decide +kernel) names
    have lower : "HTTP".toList.map Char.toLower = http := by decide +kernel
    rw [lower] at keeps
    intro same
    obtain upper | ⟨-, other⟩ := keeps.1 same
    · exact absurd upper (by decide +kernel)
    · cases other

/-- Upper case letters cost an address its host, and a blank in front of the last slash costs another
one its rest. -/
theorem normalizeAddress_loses_host :
    normalizeAddress "HTTP://accrual:8080" = "http://HTTP://accrual:8080" ∧
      origin? (normalizeAddress "HTTP://accrual:8080") ≠
        some (http, .domain "accrual".toList) ∧
      origin? "HTTP://[::1]:8080" = some (http, .ipv6 [0, 0, 0, 0, 0, 0, 0, 1]) ∧
      origin? (normalizeAddress "HTTP://[::1]:8080") ≠ origin? "HTTP://[::1]:8080" ∧
      normalizeAddress "localhost:3000 /" = "http://localhost:3000 " ∧
      normalizeAddress (normalizeAddress "localhost:3000 /") = "http://localhost:3000" := by
  have web : IsScheme "HTTP".toList := .inl (by decide +kernel)
  have lower : "HTTP".toList.map Char.toLower = "http".toList := by decide +kernel
  have domain : normalizeAddress "HTTP://accrual:8080" = String.ofList (plainScheme ++
      ("HTTP".toList ++ ':' :: '/' :: "/accrual:8080".toList)) := by decide +kernel
  have number : normalizeAddress "HTTP://[::1]:8080" = String.ofList (plainScheme ++
      ("HTTP".toList ++ ':' :: '/' :: "/[::1]:8080".toList)) := by decide +kernel
  have loopback : origin? "HTTP://[::1]:8080" = some (http, .ipv6 [0, 0, 0, 0, 0, 0, 0, 1]) := by
    decide +kernel
  refine ⟨by decide +kernel, ?_, loopback, ?_, by decide +kernel, by decide +kernel⟩
  · rw [domain, ne_eq, origin?_plainScheme web, lower]
    rintro ⟨-, same, -⟩
    exact absurd same (by decide +kernel)
  · rw [loopback, number, ne_eq, origin?_plainScheme web]
    rintro ⟨-, same, -⟩
    cases same

end Loyalty.Settings
