import Mathlib
import Loyalty.Settings.Show

/-!
# What is shown of a password

The address of a database is shown with four stars in the place of its password. The place is found
from the right: the last `@`, and the last colon before it. Neither has to be the one that stands
next to the password, since a password may hold colons and what comes behind it may hold both. So a
part of the password may be shown, or all of it.

Main statement: `maskPassword_eq_iff`, which says just when two passwords cannot be told apart by
what is shown.
-/

namespace Loyalty.Settings

/-! ### The last of a character -/

/-- The text up to the last of a character, which stays; nothing if there is none. -/
def upToLast (c : Char) (cs : List Char) : List Char := cs.rdropWhile (· != c)

theorem upToLast_of_not_mem {c : Char} {cs : List Char} (absent : c ∉ cs) : upToLast c cs = [] := by
  refine List.rdropWhile_eq_nil_iff.2 fun x hx => ?_
  rw [bne_iff_ne]
  rintro rfl
  exact absent hx

theorem upToLast_append (c : Char) (front : List Char) {behind : List Char} (last : c ∉ behind) :
    upToLast c (front ++ c :: behind) = front ++ [c] := by
  induction behind using List.reverseRecOn with
  | nil => exact List.rdropWhile_concat_neg _ _ _ (by simp)
  | append_singleton behind x ih =>
    rw [List.mem_append, List.mem_singleton, not_or] at last
    rw [upToLast, ← List.cons_append, ← List.append_assoc,
      List.rdropWhile_concat_pos _ _ _ (by simpa using Ne.symm last.2)]
    exact ih last.1

/-- A text that has the character is parted at the last one. -/
theorem exists_last {c : Char} {cs : List Char} (present : c ∈ cs) :
    ∃ front behind, cs = front ++ c :: behind ∧ c ∉ behind := by
  induction cs using List.reverseRecOn with
  | nil => cases present
  | append_singleton cs x ih =>
    by_cases same : c = x
    · exact ⟨cs, [], by rw [same], List.not_mem_nil⟩
    · obtain ⟨front, behind, rfl, last⟩ := ih (by simpa [same] using present)
      exact ⟨front, behind ++ [x], by simp, by simp [last, same]⟩

theorem splitAtLast_append (c : Char) (front : List Char) {behind : List Char}
    (last : c ∉ behind) : splitAtLast c (front ++ c :: behind) = some (front, behind) := by
  have turned : (front ++ c :: behind).reverse = behind.reverse ++ c :: front.reverse := by simp
  have other : ∀ x ∈ behind.reverse, (x != c) = true := by
    intro x hx
    rw [bne_iff_ne]
    rintro rfl
    exact last (List.mem_reverse.1 hx)
  have dropped : (behind.reverse ++ c :: front.reverse).dropWhile (· != c) =
      c :: front.reverse := by
    rw [List.dropWhile_append_of_pos other, List.dropWhile_cons_of_neg (by simp)]
  have taken : (behind.reverse ++ c :: front.reverse).takeWhile (· != c) = behind.reverse := by
    rw [List.takeWhile_append_of_pos other, List.takeWhile_cons_of_neg (by simp), List.append_nil]
  simp only [splitAtLast, turned, dropped, taken, List.reverse_reverse]

theorem upToLast_append_of_mem {c : Char} (front : List Char) {behind : List Char}
    (present : c ∈ behind) : upToLast c (front ++ behind) = front ++ upToLast c behind := by
  obtain ⟨here, rest, rfl, last⟩ := exists_last present
  rw [← List.append_assoc, upToLast_append c _ last, upToLast_append c _ last, List.append_assoc]

theorem upToLast_append_of_not_mem {c : Char} (front : List Char) {behind : List Char}
    (absent : c ∉ behind) : upToLast c (front ++ behind) = upToLast c front := by
  by_cases present : c ∈ front
  · obtain ⟨here, rest, rfl, last⟩ := exists_last present
    have after : c ∉ rest ++ behind := by simp [last, absent]
    rw [List.append_assoc, List.cons_append, upToLast_append c _ after, upToLast_append c _ last]
  · rw [upToLast_of_not_mem present, upToLast_of_not_mem (by simp [present, absent])]

theorem upToLast_cons_self (c : Char) (cs : List Char) :
    upToLast c (c :: cs) = c :: upToLast c cs := by
  by_cases present : c ∈ cs
  · exact upToLast_append_of_mem [c] present
  · rw [upToLast_of_not_mem present]
    exact upToLast_append c [] present

/-! ### The last two slashes -/

theorem eq_of_splitAtLastSlashes {cs before behind : List Char}
    (h : splitAtLastSlashes cs = some (before, behind)) : cs = before ++ '/' :: '/' :: behind := by
  induction cs generalizing before with
  | nil => cases h
  | cons c cs ih =>
    unfold splitAtLastSlashes at h
    cases rest : splitAtLastSlashes cs with
    | some parts =>
      obtain ⟨before', behind'⟩ := parts
      rw [rest] at h
      cases h
      rw [ih rest, List.cons_append]
    | none =>
      rw [rest] at h
      dsimp only at h
      split at h
      · cases h
        rfl
      · cases h

theorem splitAtLastSlashes_isSome (before behind : List Char) :
    (splitAtLastSlashes (before ++ '/' :: '/' :: behind)).isSome = true := by
  induction before with
  | nil =>
    rw [List.nil_append]
    unfold splitAtLastSlashes
    split
    · rfl
    · rfl
  | cons c before ih =>
    rw [List.cons_append]
    unfold splitAtLastSlashes
    split
    · rfl
    next none_there =>
      rw [none_there] at ih
      cases ih

/-! ### The masked address -/

/-- What stands between the last colon before the last `@` and that `@` is replaced. -/
theorem maskChars_append {front hidden host before behind : List Char}
    (slashes : front = before ++ '/' :: '/' :: behind) (lastColon : ':' ∉ hidden)
    (lastAt : '@' ∉ host) :
    maskChars (front ++ ':' :: hidden ++ '@' :: host) = front ++ ":****@".toList ++ host := by
  have parted : splitAtLast '@' (front ++ ':' :: hidden ++ '@' :: host) =
      some (front ++ ':' :: hidden, host) := splitAtLast_append '@' _ lastAt
  have again : splitAtLast ':' (front ++ ':' :: hidden) = some (front, hidden) :=
    splitAtLast_append ':' _ lastColon
  obtain ⟨⟨scheme, user⟩, found⟩ := Option.isSome_iff_exists.1
    (splitAtLastSlashes_isSome before behind)
  rw [← slashes] at found
  have whole : front = scheme ++ '/' :: '/' :: user := eq_of_splitAtLastSlashes found
  simp only [maskChars, parted, again, found]
  rw [whole]
  simp

/-- Of what stands behind the user, all is shown up to the last colon before the last `@`. -/
theorem maskChars_eq {base secret host before behind : List Char}
    (slashes : base = before ++ '/' :: '/' :: behind) (lastAt : '@' ∉ host) :
    maskChars (base ++ ':' :: secret ++ '@' :: host) =
      base ++ upToLast ':' (':' :: secret) ++ "****@".toList ++ host := by
  obtain ⟨front, hidden, parted, lastColon⟩ :=
    exists_last (List.mem_cons_self (a := ':') (l := secret))
  have here : base ++ ':' :: secret = (base ++ front) ++ ':' :: hidden := by
    rw [parted, List.append_assoc]
  have within : base ++ front = before ++ '/' :: '/' :: (behind ++ front) := by
    rw [slashes]
    simp
  rw [here, maskChars_append within lastColon lastAt, parted, upToLast_append ':' front lastColon]
  simp

/-! ### Two passwords -/

/-- The address of a database that is reached with a user and a password. -/
def address (scheme user password rest : String) : String :=
  scheme ++ "://" ++ user ++ ":" ++ password ++ "@" ++ rest

theorem toList_address (scheme user password rest : String) :
    (address scheme user password rest).toList =
      (scheme.toList ++ "://".toList ++ user.toList) ++ ':' :: password.toList ++
        '@' :: rest.toList := by
  simp [address]

/-- **What a password shows.** Two passwords for the same address are shown alike just when they
agree up to their last colons; but when a colon stands behind the password and before an `@`, then
only if they are the same. -/
theorem maskPassword_eq_iff (scheme user p q rest : String) :
    maskPassword (address scheme user p rest) = maskPassword (address scheme user q rest) ↔
      if ':' ∈ upToLast '@' rest.toList then p = q
      else upToLast ':' p.toList = upToLast ':' q.toList := by
  have slashes : scheme.toList ++ "://".toList ++ user.toList =
      (scheme.toList ++ [':']) ++ '/' :: '/' :: user.toList := by simp
  rw [maskPassword, maskPassword, String.ofList_inj, toList_address, toList_address]
  generalize scheme.toList ++ "://".toList ++ user.toList = base at *
  by_cases marked : '@' ∈ rest.toList
  · obtain ⟨front, host, parted, lastAt⟩ := exists_last marked
    -- what is taken for the password goes on up to the last mark
    have reach : ∀ secret : List Char, base ++ ':' :: secret ++ '@' :: rest.toList =
        base ++ ':' :: (secret ++ '@' :: front) ++ '@' :: host := by
      intro secret
      rw [parted]
      simp
    rw [reach, reach, maskChars_eq slashes lastAt, maskChars_eq slashes lastAt, parted,
      upToLast_append '@' front lastAt, List.append_left_inj, List.append_left_inj,
      List.append_right_inj, ← List.cons_append, ← List.cons_append]
    by_cases colon : ':' ∈ front
    · have present : ':' ∈ '@' :: front := List.mem_cons_of_mem _ colon
      rw [if_pos (List.mem_append_left _ colon), upToLast_append_of_mem _ present,
        upToLast_append_of_mem _ present, List.append_left_inj, List.cons.injEq,
        and_iff_right rfl, String.toList_inj]
    · have absent : ':' ∉ '@' :: front := by simp [colon]
      rw [if_neg (by simp [colon]), upToLast_append_of_not_mem _ absent,
        upToLast_append_of_not_mem _ absent, upToLast_cons_self, upToLast_cons_self,
        List.cons.injEq, and_iff_right rfl]
  · rw [maskChars_eq slashes marked, maskChars_eq slashes marked, upToLast_of_not_mem marked,
      if_neg List.not_mem_nil, List.append_left_inj, List.append_left_inj, List.append_right_inj,
      upToLast_cons_self, upToLast_cons_self, List.cons.injEq, and_iff_right rfl]

/-- A password that holds a colon is shown up to there, so it is told from one that holds none; and
one before a port and a later `@` is shown as a whole. -/
theorem maskPassword_shows_password :
    (∀ c ∈ [':', '@', '/'], c ∉ "u".toList) ∧
      (∀ c ∈ ['@', '/', '?', '#'], c ∉ "p:q".toList ∧ c ∉ "q".toList) ∧
      maskPassword (address "postgres" "u" "p:q" "h/d") ≠
        maskPassword (address "postgres" "u" "q" "h/d") ∧
      maskPassword (address "postgres" "u" "p:q" "h/d") = "postgres://u:p:****@h/d" ∧
      maskPassword (address "postgres" "u" "q" "h/d") = "postgres://u:****@h/d" ∧
      maskPassword (address "postgres" "u" "q" "h:5432/d?a=@") = "postgres://u:q@h:****@" := by
  have first : maskPassword (address "postgres" "u" "p:q" "h/d") = "postgres://u:p:****@h/d" := by
    decide +kernel
  have second : maskPassword (address "postgres" "u" "q" "h/d") = "postgres://u:****@h/d" := by
    decide +kernel
  refine ⟨by simp, by simp, ?_, first, second, by decide +kernel⟩
  rw [first, second]
  decide

end Loyalty.Settings
