import Loyalty.Proofs.Service.History

/-!
# Rows that the schema allows

The columns and keys of the tables put demands on the rows, and a statement that would break one is
refused. `WithinSchema` names the demands that later statements on the same rows rely on: an order
number is a text that a statement can send again, an order belongs to a user, and what a balance has
paid out still fits its column when the balance is stored again.

Main statement: `withinSchema_history`, for every history.
-/

namespace Loyalty.Store

/-- The rows are such that statements can read and store them again. -/
structure WithinSchema (t : Tables) : Prop where
  text : ∀ o ∈ t.orders, '\x00' ∉ o.number.toList
  owned : ∀ o ∈ t.orders, t.hasUser o.user = true
  paid : ∀ b ∈ t.balances, 0 ≤ b.withdrawn ∧ b.withdrawn.natAbs < Decimal.centLimit

variable {t : Tables}

theorem WithinSchema.empty : WithinSchema {} where
  text := nofun
  owned := nofun
  paid := nofun

theorem WithinSchema.userCreated (h : WithinSchema t) (row : UserRow) (id : Uuid) :
    WithinSchema { t with
      users := t.users ++ [row], balances := t.balances ++ [⟨id, row.id, 0, 0⟩] } where
  text := h.text
  owned := by
    intro o ho
    obtain ⟨u, hu, same⟩ := Tables.hasUser_iff.1 (h.owned o ho)
    exact Tables.hasUser_iff.2 ⟨u, List.mem_append_left _ hu, same⟩
  paid := by
    intro b hb
    obtain hb | rfl := List.mem_append.1 hb |>.imp_right List.mem_singleton.1
    · exact h.paid b hb
    · have small : Int.natAbs 0 < Decimal.centLimit := by decide
      exact ⟨le_rfl, small⟩

theorem WithinSchema.register (h : WithinSchema t) {row : OrderRow}
    (owned : t.hasUser row.user = true) (text : '\x00' ∉ row.number.toList) :
    WithinSchema { t with orders := t.orders ++ [row] } where
  text := by
    intro o ho
    obtain ho | rfl := List.mem_append.1 ho |>.imp_right List.mem_singleton.1
    · exact h.text o ho
    · exact text
  owned := by
    intro o ho
    obtain ho | rfl := List.mem_append.1 ho |>.imp_right List.mem_singleton.1
    · exact h.owned o ho
    · exact owned
  paid := h.paid

/-- An order that is there may be changed as long as it keeps its number and its owner. -/
theorem WithinSchema.setOrder (h : WithinSchema t) {row next : OrderRow}
    (found : t.order? row.number = some row) (number : next.number = row.number)
    (user : next.user = row.user) : WithinSchema (t.setOrder next) where
  text := by
    intro o ho
    obtain ⟨rfl, -⟩ | ⟨ho, -⟩ := Tables.mem_setOrder.1 ho
    · rw [number]
      exact h.text row (Tables.mem_of_order? found).1
    · exact h.text o ho
  owned := by
    intro o ho
    obtain ⟨rfl, -⟩ | ⟨ho, -⟩ := Tables.mem_setOrder.1 ho
    · rw [user]
      exact h.owned row (Tables.mem_of_order? found).1
    · exact h.owned o ho
  paid := h.paid

theorem WithinSchema.post (h : WithinSchema t) {b : BalanceRow} {e : EntryRow}
    (posting : Posting t b e) : WithinSchema (t.post b e) where
  text := h.text
  owned := h.owned
  paid := by
    intro x hx
    obtain rfl | ⟨hx, -⟩ := (Tables.mem_balances_post posting.held).1 hx
    · refine ⟨?_, posting.bounded⟩
      have before := (h.paid b (Tables.mem_of_balance? posting.held).1).1
      have positive := posting.positive
      rw [BalanceRow.withdrawn_after]
      split <;> omega
    · exact h.paid x hx

end Loyalty.Store

namespace Loyalty.Service

open Loyalty.Store

theorem withinSchema_of_change {t t' : Tables} (h : WithinSchema t) (change : Change t t') :
    WithinSchema t' := by
  cases change with
  | nothing => exact h
  | userCreated row id => exact h.userCreated row id
  | orderRegistered row _ owned _ _ text => exact h.register owned text
  | orderMarked row now found => exact h.setOrder found rfl rfl
  | orderSettled row status given now found => exact h.setOrder found rfl rfl
  | orderCredited row b e now found _ posting =>
    have stays : (t.post b e).order? row.number = some row := found
    exact (h.post posting).setOrder stays rfl rfl
  | withdrawn b e posting => exact h.post posting

theorem withinSchema_history (s : Session) (calls : List Call) :
    WithinSchema (history s calls).store.tables :=
  history_induction WithinSchema.empty (fun _ _ => withinSchema_of_change) s calls

end Loyalty.Service
