import Mathlib
import Loyalty.Store.Tables

/-!
# Rows of the tables

What it means that a row was found, and which rows there are once one was put in the place of
another. A balance is known by its user and an order by its number, so both are replaced in the
same way: by the rows of that key.
-/

namespace Loyalty.Store

/-! ### Replacing by key -/

section Replace

variable {α κ : Type} [DecidableEq κ] (key : α → κ) {rows : List α} {row x : α}

theorem map_replace (rows : List α) (row : α) :
    (rows.map fun y => if key y = key row then row else y).map key = rows.map key := by
  rw [List.map_map]
  refine List.map_congr_left fun y _ => ?_
  by_cases same : key y = key row
  · simp [same]
  · simp [same]

theorem mem_replace :
    x ∈ (rows.map fun y => if key y = key row then row else y) ↔
      (x = row ∧ ∃ y ∈ rows, key y = key row) ∨ (x ∈ rows ∧ key x ≠ key row) := by
  rw [List.mem_map]
  constructor
  · intro h
    obtain ⟨y, hy, rfl⟩ := h
    by_cases same : key y = key row
    · rw [if_pos same]
      exact .inl ⟨rfl, y, hy, same⟩
    · rw [if_neg same]
      exact .inr ⟨hy, same⟩
  · intro h
    obtain ⟨rfl, y, hy, same⟩ | ⟨hx, other⟩ := h
    · exact ⟨y, hy, if_pos same⟩
    · exact ⟨x, hx, if_neg other⟩

/-- A row whose key is its own is the only one of its key. -/
theorem filter_key_eq_singleton (h : (rows.map key).Nodup) (hx : x ∈ rows) :
    rows.filter (fun y => key y = key x) = [x] := by
  induction rows with
  | nil => cases hx
  | cons y rows ih =>
    rw [List.map_cons, List.nodup_cons] at h
    by_cases same : key y = key x
    · have bare : rows.filter (fun z => key z = key x) = [] := by
        refine List.filter_eq_nil_iff.2 fun z hz => ?_
        intro hzx
        exact h.1 (List.mem_map.2 ⟨z, hz, (of_decide_eq_true hzx).trans same.symm⟩)
      obtain rfl | hx := List.mem_cons.1 hx
      · rw [List.filter_cons_of_pos (by simp), bare]
      · exact absurd (List.mem_map.2 ⟨x, hx, same.symm⟩) h.1
    · have hx : x ∈ rows := by
        obtain rfl | hx := List.mem_cons.1 hx
        · exact absurd rfl same
        · exact hx
      rw [List.filter_cons_of_neg (by simp [same]), ih h.2 hx]

/-- A row whose key is its own is the one that is found by its key. -/
theorem find?_key (h : (rows.map key).Nodup) (hx : x ∈ rows) :
    rows.find? (fun y => key y = key x) = some x := by
  rw [← List.head?_filter, filter_key_eq_singleton key h hx]
  rfl

/-- When keys are unique, the row of the new row's key is the only one that changes. -/
theorem map_replace_eq_set (unique : (rows.map key).Nodup) {i : Nat} (there : rows[i]? = some x)
    (keyed : key row = key x) :
    (rows.map fun y => if key y = key row then row else y) = rows.set i row := by
  obtain ⟨inside, here⟩ := List.getElem?_eq_some_iff.1 there
  refine List.ext_getElem (by simp) fun j hj _ => ?_
  rw [List.getElem_map, List.getElem_set]
  by_cases same : i = j
  · subst same
    rw [here, if_pos keyed.symm, if_pos rfl]
  · have hj : j < rows.length := by simpa using hj
    have other : key rows[j] ≠ key row := by
      intro own
      refine same ((List.getElem?_inj (by simpa using inside) unique).1 ?_)
      rw [List.getElem?_map, List.getElem?_map, there, List.getElem?_eq_getElem hj,
        Option.map_some, Option.map_some, own, keyed]
    rw [if_neg other, if_neg same]

/-- A row of another key is found as before. -/
theorem find?_replace_of_ne (rows : List α) {k : κ} (other : k ≠ key row) :
    (rows.map fun y => if key y = key row then row else y).find? (fun y => key y = k) =
      rows.find? fun y => key y = k := by
  induction rows with
  | nil => rfl
  | cons y rows ih =>
    rw [List.map_cons, List.find?_cons, List.find?_cons, ih]
    by_cases same : key y = key row
    · rw [if_pos same, decide_eq_false other.symm, decide_eq_false (by rw [same]; exact other.symm)]
    · rw [if_neg same]

end Replace

namespace Tables

variable {t : Tables}

/-! ### Users and balances -/

theorem hasUser_iff {user : Uuid} : t.hasUser user = true ↔ ∃ u ∈ t.users, u.id = user := by
  simp [hasUser]

theorem balance?_of_mem {b : BalanceRow} (single : (t.balances.map (·.user)).Nodup)
    (hb : b ∈ t.balances) : t.balance? b.user = some b :=
  find?_key BalanceRow.user single hb

theorem mem_of_balance? {user : Uuid} {b : BalanceRow} (h : t.balance? user = some b) :
    b ∈ t.balances ∧ b.user = user :=
  ⟨List.mem_of_find?_eq_some h, by simpa using List.find?_some h⟩

theorem balance?_eq_none {user : Uuid} :
    t.balance? user = none ↔ ∀ b ∈ t.balances, b.user ≠ user := by
  simp [balance?]

theorem map_user_setBalance (t : Tables) (row : BalanceRow) :
    (t.setBalance row).balances.map (·.user) = t.balances.map (·.user) :=
  map_replace BalanceRow.user t.balances row

/-- With one balance a user, only the one in the place of the old one changes. -/
theorem setBalance_eq_set (single : (t.balances.map BalanceRow.user).Nodup) {j : Nat}
    {b row : BalanceRow} (there : t.balances[j]? = some b) (owner : row.user = b.user) :
    t.setBalance row = { t with balances := t.balances.set j row } := by
  rw [setBalance, map_replace_eq_set BalanceRow.user single there owner]

theorem mem_setBalance {row b : BalanceRow} :
    b ∈ (t.setBalance row).balances ↔
      (b = row ∧ ∃ old ∈ t.balances, old.user = row.user) ∨
        (b ∈ t.balances ∧ b.user ≠ row.user) :=
  mem_replace BalanceRow.user

/-! ### Orders -/

theorem mem_of_order? {number : String} {o : OrderRow} (h : t.order? number = some o) :
    o ∈ t.orders ∧ o.number = number :=
  ⟨List.mem_of_find?_eq_some h, by simpa using List.find?_some h⟩

theorem order?_of_mem {o : OrderRow} (numbers : (t.orders.map OrderRow.number).Nodup)
    (ho : o ∈ t.orders) : t.order? o.number = some o :=
  find?_key OrderRow.number numbers ho

theorem order?_eq_none {number : String} :
    t.order? number = none ↔ ∀ o ∈ t.orders, o.number ≠ number := by
  simp [order?]

theorem map_number_setOrder (t : Tables) (row : OrderRow) :
    (t.setOrder row).orders.map (·.number) = t.orders.map (·.number) :=
  map_replace OrderRow.number t.orders row

/-- With one order a number, only the one in the place of the old one changes. -/
theorem setOrder_eq_set (numbers : (t.orders.map OrderRow.number).Nodup) {i : Nat}
    {o row : OrderRow} (there : t.orders[i]? = some o) (number : row.number = o.number) :
    t.setOrder row = { t with orders := t.orders.set i row } := by
  rw [setOrder, map_replace_eq_set OrderRow.number numbers there number]

theorem order?_setOrder_of_ne {number : String} {row : OrderRow} (other : number ≠ row.number) :
    (t.setOrder row).order? number = t.order? number :=
  find?_replace_of_ne OrderRow.number t.orders other

theorem mem_setOrder {row o : OrderRow} :
    o ∈ (t.setOrder row).orders ↔
      (o = row ∧ ∃ old ∈ t.orders, old.number = row.number) ∨
        (o ∈ t.orders ∧ o.number ≠ row.number) :=
  mem_replace OrderRow.number

/-! ### Ledger entries -/

theorem entry?_append_of_ne {kind : EntryKind} {number : String} {e : EntryRow}
    (other : number ≠ e.order) :
    Tables.entry? { t with entries := t.entries ++ [e] } kind number = t.entry? kind number := by
  have unlike : (decide (e.kind = kind) && decide (e.order = number)) = false := by
    rw [decide_eq_false other.symm, Bool.and_false]
  unfold entry?
  rw [List.find?_append, List.find?_singleton, unlike]
  exact Option.or_none

theorem entry?_eq_none {kind : EntryKind} {number : String} :
    t.entry? kind number = none ↔ ∀ e ∈ t.entries, ¬ (e.kind = kind ∧ e.order = number) := by
  unfold entry?
  simp

end Tables

end Loyalty.Store
