import Mathlib

/-!
# So many in a row

Of a list whose entries are told apart in two kinds: whether `k` entries of the one kind stand in a row
somewhere (`InARow`), and how many of the last entries are of that kind (`streak`). The second is what is
kept count of while the list grows, and it tells when the first comes to hold
(`inARow_append_singleton`). No row reaches across an entry of the other kind (`inARow_append_cons`).
-/

namespace Loyalty.Accrual

variable {α β : Type} {p : α → Prop} {k : Nat} {as before after : List α} {a : α}

/-- Somewhere among the entries `k` in a row are of that kind. -/
def InARow (k : Nat) (p : α → Prop) (as : List α) : Prop :=
  ∃ row, row <:+: as ∧ row.length = k ∧ ∀ a ∈ row, p a

/-- How many of the last entries are of that kind, in a row. -/
def streak (p : α → Prop) [DecidablePred p] (as : List α) : Nat :=
  (as.reverse.takeWhile p).length

/-- A row that some of the entries hold is held by all of them. -/
theorem InARow.mono {bs : List α} (row : InARow k p as) (within : as <:+: bs) : InARow k p bs := by
  obtain ⟨row, inner, length, all⟩ := row
  exact ⟨row, inner.trans within, length, all⟩

theorem streak_append_of_pos [DecidablePred p] (counts : p a) :
    streak p (as ++ [a]) = streak p as + 1 := by
  simp [streak, counts]

theorem streak_append_of_neg [DecidablePred p] (counts : ¬ p a) : streak p (as ++ [a]) = 0 := by
  simp [streak, counts]

/-- The last `k` entries are of that kind just when the streak is that long. -/
theorem le_streak_iff [DecidablePred p] :
    k ≤ streak p as ↔ ∃ row, row <:+ as ∧ row.length = k ∧ ∀ a ∈ row, p a := by
  constructor
  · intro long
    refine ⟨((as.reverse.takeWhile p).take k).reverse, ?_, ?_, ?_⟩
    · have front : (as.reverse.takeWhile p).take k <+: as.reverse :=
        (List.take_prefix _ _).trans (List.takeWhile_prefix _)
      rw [← List.reverse_prefix, List.reverse_reverse]
      exact front
    · rw [List.length_reverse, List.length_take]
      exact Nat.min_eq_left long
    · intro a among
      have kept : a ∈ as.reverse.takeWhile p := List.mem_of_mem_take (List.mem_reverse.1 among)
      simpa using List.mem_takeWhile_imp kept
  · rintro ⟨row, ⟨front, rfl⟩, rfl, all⟩
    have split : ((front ++ row).reverse.takeWhile p).length =
        row.length + (front.reverse.takeWhile p).length := by
      rw [List.reverse_append, List.takeWhile_append_of_pos, List.length_append,
        List.length_reverse]
      intro a among
      simpa using all a (List.mem_reverse.1 among)
    show row.length ≤ ((front ++ row).reverse.takeWhile p).length
    omega

/-- A row among the entries with one more at the end stood there before, or ends with the new
one. -/
theorem inARow_append_singleton [DecidablePred p] (some_ : 0 < k) :
    InARow k p (as ++ [a]) ↔ InARow k p as ∨ (p a ∧ k ≤ streak p as + 1) := by
  have ends : (∃ row, row <:+ as ++ [a] ∧ row.length = k ∧ ∀ x ∈ row, p x) ↔
      p a ∧ k ≤ streak p as + 1 := by
    rw [← le_streak_iff]
    by_cases counts : p a
    · rw [streak_append_of_pos counts]
      simp [counts]
    · rw [streak_append_of_neg counts]
      simp [counts]
      omega
  rw [← ends]
  constructor
  · rintro ⟨row, within, length, all⟩
    rcases List.infix_concat_iff.1 within with last | before
    · exact .inr ⟨row, last, length, all⟩
    · exact .inl ⟨row, before, length, all⟩
  · rintro (⟨row, before, length, all⟩ | ⟨row, last, length, all⟩)
    · exact ⟨row, List.infix_concat_iff.2 (.inr before), length, all⟩
    · exact ⟨row, List.infix_concat_iff.2 (.inl last), length, all⟩

theorem inARow_map {f : β → α} {bs : List β} :
    InARow k p (bs.map f) ↔ InARow k (fun b => p (f b)) bs := by
  constructor
  · rintro ⟨row, within, length, all⟩
    obtain ⟨row', within', rfl⟩ := List.infix_map_iff.1 within
    refine ⟨row', within', by simpa using length, fun b among => ?_⟩
    exact all (f b) (List.mem_map_of_mem among)
  · rintro ⟨row, within, length, all⟩
    refine ⟨row.map f, within.map f, by simpa using length, fun a among => ?_⟩
    obtain ⟨b, mine, rfl⟩ := List.mem_map.1 among
    exact all b mine

theorem not_inARow_nil (some_ : 0 < k) : ¬ InARow k p [] := by
  rintro ⟨row, within, length, -⟩
  rw [List.infix_nil.1 within] at length
  exact absurd length (Nat.ne_of_lt some_)

/-- The last entries of the kind begin behind one that is not. -/
theorem streak_append_cons [DecidablePred p] (breaks : ¬ p a) :
    streak p (before ++ a :: after) = streak p after := by
  induction after using List.reverseRecOn with
  | nil => exact streak_append_of_neg breaks
  | append_singleton after x ih =>
    rw [← List.cons_append, ← List.append_assoc]
    by_cases counts : p x
    · rw [streak_append_of_pos counts, streak_append_of_pos counts, ih]
    · rw [streak_append_of_neg counts, streak_append_of_neg counts]

theorem streak_map [DecidablePred p] {f : β → α} {bs : List β} :
    streak p (bs.map f) = streak (fun b => p (f b)) bs := by
  rw [streak, streak, ← List.map_reverse, List.takeWhile_map, List.length_map]
  rfl

/-- A row does not reach across an entry of another kind. -/
theorem inARow_append_cons [DecidablePred p] (some_ : 0 < k) (breaks : ¬ p a) :
    InARow k p (before ++ a :: after) ↔ InARow k p before ∨ InARow k p after := by
  induction after using List.reverseRecOn with
  | nil => simp [inARow_append_singleton some_, breaks, not_inARow_nil some_]
  | append_singleton after x ih =>
    rw [← List.cons_append, ← List.append_assoc, inARow_append_singleton some_,
      inARow_append_singleton some_, ih, streak_append_cons breaks, or_assoc]

end Loyalty.Accrual
