import Loyalty.Proofs.Service.History

/-!
# An order is credited once

The row of an order and the entry that credits it are written by different statements, and
withdrawals are entries of the same table. `Credited` ties orders and credits to each other in both
directions: a credit belongs to a processed order that carries just its amount, and a processed
order that carries anything has its credit. Only an order that has not ended is ever changed, and
such an order carries nothing and has no credit yet.

Main statement: `credited_once`, for every order and every entry after every history.
-/

namespace Loyalty.Store

/-- What is unique to a ledger entry. -/
def EntryRow.key (e : EntryRow) : EntryKind × String := (e.kind, e.order)

/-- Credits and processed orders correspond to each other. -/
structure Credited (t : Tables) : Prop where
  numbers : (t.orders.map OrderRow.number).Nodup
  keys : (t.entries.map EntryRow.key).Nodup
  bare : ∀ o ∈ t.orders, o.status ≠ .processed → o.accrual = none
  earned : ∀ e ∈ t.entries, e.kind = .accrual → ∃ o ∈ t.orders, o.number = e.order ∧
    o.status = .processed ∧ o.accrual = some e.amount ∧ o.user = e.user ∧ 0 < e.amount
  paid : ∀ o ∈ t.orders, ∀ a, o.accrual = some a → 0 < a →
    ∃ e ∈ t.entries, e.kind = .accrual ∧ e.order = o.number

variable {t : Tables}

/-! ### What a change keeps -/

theorem Credited.empty : Credited {} where
  numbers := List.nodup_nil
  keys := List.nodup_nil
  bare := nofun
  earned := nofun
  paid := nofun

/-- Users and balances play no part. -/
theorem Credited.withAccounts (h : Credited t) (users : List UserRow) (balances : List BalanceRow) :
    Credited { t with users, balances } :=
  ⟨h.numbers, h.keys, h.bare, h.earned, h.paid⟩

theorem Credited.keys_append (h : Credited t) {e : EntryRow}
    (free : t.entry? e.kind e.order = none) : ((t.entries ++ [e]).map EntryRow.key).Nodup := by
  rw [List.map_append, List.map_singleton]
  refine List.Nodup.append h.keys (List.nodup_singleton _) ?_
  rw [List.disjoint_singleton]
  intro taken
  obtain ⟨x, hx, same⟩ := List.mem_map.1 taken
  obtain ⟨kind, order⟩ := Prod.mk.inj same
  exact Tables.entry?_eq_none.1 free x hx ⟨kind, order⟩

theorem Credited.register (h : Credited t) {row : OrderRow} (free : t.order? row.number = none)
    (none_yet : row.accrual = none) : Credited { t with orders := t.orders ++ [row] } where
  numbers := by
    rw [List.map_append, List.map_singleton]
    refine List.Nodup.append h.numbers (List.nodup_singleton _) ?_
    simpa using Tables.order?_eq_none.1 free
  keys := h.keys
  bare := by
    intro o ho
    obtain ho | rfl := List.mem_append.1 ho |>.imp_right List.mem_singleton.1
    · exact h.bare o ho
    · exact fun _ => none_yet
  earned := by
    intro e he accrual
    obtain ⟨o, ho, rest⟩ := h.earned e he accrual
    exact ⟨o, List.mem_append_left _ ho, rest⟩
  paid := by
    intro o ho a ha positive
    obtain ho | rfl := List.mem_append.1 ho |>.imp_right List.mem_singleton.1
    · exact h.paid o ho a ha positive
    · rw [none_yet] at ha
      cases ha

/-- An order that has not ended may be changed, together with the entries that are due to it. -/
theorem Credited.settle (h : Credited t) {row next : OrderRow} (due : List EntryRow)
    (found : t.order? row.number = some row) (pending : row.status.isTerminal = false)
    (same : next.number = row.number) (keys : ((t.entries ++ due).map EntryRow.key).Nodup)
    (bare : next.status ≠ .processed → next.accrual = none)
    (earned : ∀ e ∈ due, e.kind = .accrual → next.number = e.order ∧ next.status = .processed ∧
      next.accrual = some e.amount ∧ next.user = e.user ∧ 0 < e.amount)
    (paid : ∀ a, next.accrual = some a → 0 < a →
      ∃ e ∈ due, e.kind = .accrual ∧ e.order = next.number) :
    Credited ({ t with entries := t.entries ++ due }.setOrder next) := by
  obtain ⟨hrow, -⟩ := Tables.mem_of_order? found
  have present : next ∈ ({ t with entries := t.entries ++ due }.setOrder next).orders :=
    Tables.mem_setOrder.2 (.inl ⟨rfl, row, hrow, same.symm⟩)
  -- the order of a credit has ended, so it is not the one that changes
  have stays : ∀ o ∈ t.orders, o.status = .processed →
      o ∈ ({ t with entries := t.entries ++ due }.setOrder next).orders := by
    intro o ho processed
    refine Tables.mem_setOrder.2 (.inr ⟨ho, fun number => ?_⟩)
    obtain rfl : o = row := List.inj_on_of_nodup_map h.numbers ho hrow (number.trans same)
    rw [processed] at pending
    cases pending
  refine ⟨?_, keys, ?_, ?_, ?_⟩
  · exact (Tables.map_number_setOrder _ _).symm ▸ h.numbers
  · intro o ho
    obtain ⟨rfl, -⟩ | ⟨ho, -⟩ := Tables.mem_setOrder.1 ho
    · exact bare
    · exact h.bare o ho
  · intro e he accrual
    obtain he | he := List.mem_append.1 he
    · obtain ⟨o, ho, number, processed, rest⟩ := h.earned e he accrual
      exact ⟨o, stays o ho processed, number, processed, rest⟩
    · exact ⟨next, present, earned e he accrual⟩
  · intro o ho a ha positive
    obtain ⟨rfl, -⟩ | ⟨ho, -⟩ := Tables.mem_setOrder.1 ho
    · obtain ⟨e, he, rest⟩ := paid a ha positive
      exact ⟨e, List.mem_append_right _ he, rest⟩
    · obtain ⟨e, he, rest⟩ := h.paid o ho a ha positive
      exact ⟨e, List.mem_append_left _ he, rest⟩

/-- An order that has not ended may be changed alone as long as nothing is due to it. -/
theorem Credited.change (h : Credited t) {row next : OrderRow}
    (found : t.order? row.number = some row) (pending : row.status.isTerminal = false)
    (same : next.number = row.number) (bare : next.status ≠ .processed → next.accrual = none)
    (worthless : ∀ a, next.accrual = some a → ¬ 0 < a) : Credited (t.setOrder next) := by
  have settled := h.settle [] found pending same (by simpa using h.keys) bare nofun
    fun a ha positive => absurd positive (worthless a ha)
  rw [List.append_nil] at settled
  exact settled

theorem Credited.withdraw (h : Credited t) {e : EntryRow} (free : t.entry? e.kind e.order = none)
    (isWithdrawal : e.kind = .withdrawal) : Credited { t with entries := t.entries ++ [e] } where
  numbers := h.numbers
  keys := h.keys_append free
  bare := h.bare
  earned := by
    intro x hx accrual
    obtain hx | rfl := List.mem_append.1 hx |>.imp_right List.mem_singleton.1
    · exact h.earned x hx accrual
    · rw [isWithdrawal] at accrual
      cases accrual
  paid := by
    intro o ho a ha positive
    obtain ⟨x, hx, rest⟩ := h.paid o ho a ha positive
    exact ⟨x, List.mem_append_left _ hx, rest⟩

end Loyalty.Store

namespace Loyalty.Service

open Loyalty.Store

theorem credited_of_change {t t' : Tables} (h : Credited t) (change : Change t t') :
    Credited t' := by
  -- an order that has not ended carries nothing
  have blank : ∀ row : OrderRow, t.order? row.number = some row →
      row.status.isTerminal = false → row.accrual = none := by
    intro row found pending
    refine h.bare row (Tables.mem_of_order? found).1 fun processed => ?_
    rw [processed] at pending
    cases pending
  cases change with
  | nothing => exact h
  | userCreated => exact h.withAccounts _ _
  | orderRegistered row free _ _ bare => exact h.register free bare
  | orderMarked row now found new =>
    have pending : row.status.isTerminal = false := by rw [new]; rfl
    have none_yet := blank row found pending
    refine h.change found pending rfl (fun _ => none_yet) fun a ha => ?_
    cases none_yet.symm.trans ha
  | orderSettled row status given now found pending _ worthless =>
    have none_yet := blank row found pending
    refine h.change found pending rfl (fun unprocessed => ?_) fun a ha => ?_
    · cases given with
      | none => exact none_yet
      | some a => exact absurd (worthless a rfl).1 unprocessed
    · cases given with
      | none => cases none_yet.symm.trans ha
      | some given =>
        cases ha
        simp [(worthless a rfl).2]
  | orderCredited row b e now found pending posting isAccrual forOrder toOwner =>
    have settled : Credited ({ t with entries := t.entries ++ [e] }.setOrder
        { row with status := .processed, accrual := some e.amount, modifiedAt := now }) := by
      refine h.settle [e] found pending rfl (h.keys_append posting.free) (fun unprocessed => ?_)
        (fun x hx _ => ?_) fun a _ _ => ?_
      · exact absurd rfl unprocessed
      · obtain rfl := List.mem_singleton.1 hx
        exact ⟨forOrder.symm, rfl, rfl, toOwner.symm, posting.positive⟩
      · exact ⟨e, List.mem_singleton_self e, isAccrual, forOrder⟩
    exact settled.withAccounts _ _
  | withdrawn b e posting isWithdrawal =>
    exact (h.withdraw posting.free isWithdrawal).withAccounts _ _

theorem credited_history (s : Session) (calls : List Call) :
    Credited (history s calls).store.tables :=
  history_induction Credited.empty (fun _ _ => credited_of_change) s calls

/-! ### Every history -/

/-- **An order is credited once.** After any calls, whatever became of each, there is a credit for
an order just when the order is processed and carries an accrual above zero; then it is the only
one, it went to the owner, and its amount is the accrual. There is no credit for a number that is
not an order's, and an order that is not processed carries no accrual. -/
theorem credited_once (s : Session) (calls : List Call) :
    (∀ o ∈ (history s calls).store.tables.orders,
      ((∃ e ∈ (history s calls).store.tables.entries, e.kind = .accrual ∧ e.order = o.number) ↔
        o.status = .processed ∧ ∃ a, o.accrual = some a ∧ 0 < a) ∧
      (∀ e ∈ (history s calls).store.tables.entries, e.kind = .accrual → e.order = o.number →
        (history s calls).store.tables.entries.filter
            (fun x => x.kind = .accrual && x.order = o.number) = [e] ∧
          e.user = o.user ∧ o.accrual = some e.amount) ∧
      (o.status = .new ∨ o.status = .processing ∨ o.status = .invalid → o.accrual = none)) ∧
    ∀ e ∈ (history s calls).store.tables.entries, e.kind = .accrual →
      ∃ o ∈ (history s calls).store.tables.orders, o.number = e.order := by
  have credited := credited_history s calls
  generalize (history s calls).store.tables = t at *
  -- the order of a credit is the order with its number
  have order : ∀ o ∈ t.orders, ∀ e ∈ t.entries, e.kind = .accrual → e.order = o.number →
      o.status = .processed ∧ o.accrual = some e.amount ∧ o.user = e.user ∧ 0 < e.amount := by
    intro o ho e he accrual number
    obtain ⟨x, hx, same, rest⟩ := credited.earned e he accrual
    obtain rfl : x = o := List.inj_on_of_nodup_map credited.numbers hx ho (same.trans number)
    exact rest
  refine ⟨fun o ho => ⟨⟨?_, ?_⟩, ?_, ?_⟩, ?_⟩
  · intro h
    obtain ⟨e, he, accrual, number⟩ := h
    obtain ⟨processed, amount, -, positive⟩ := order o ho e he accrual number
    exact ⟨processed, e.amount, amount, positive⟩
  · intro h
    obtain ⟨-, a, ha, positive⟩ := h
    exact credited.paid o ho a ha positive
  · intro e he accrual number
    obtain ⟨-, amount, owner, -⟩ := order o ho e he accrual number
    refine ⟨?_, owner.symm, amount⟩
    have only := filter_key_eq_singleton EntryRow.key credited.keys he
    rw [← only]
    refine List.filter_congr fun x _ => ?_
    simp [EntryRow.key, accrual, number]
  · intro h
    obtain new | processing | invalid := h
    · exact credited.bare o ho (by simp [new])
    · exact credited.bare o ho (by simp [processing])
    · exact credited.bare o ho (by simp [invalid])
  · intro e he accrual
    obtain ⟨o, ho, number, -⟩ := credited.earned e he accrual
    exact ⟨o, ho, number⟩

theorem credited_once_creditAndWithdrawal :
    ∃ e : EntryRow, e.amount = 10051 ∧
      (history {} creditAndWithdrawal).store.tables.entries.filter
        (fun x => x.kind = .accrual && x.order = "79927398713") = [e] := by
  have order : (⟨⟨3⟩, "79927398713", ⟨1⟩, .processed, some 10051, ⟨0, 1000⟩, ⟨0, 3000⟩⟩ : OrderRow) ∈
      (history {} creditAndWithdrawal).store.tables.orders := by decide +kernel
  obtain ⟨exactly, once, -⟩ := (credited_once {} creditAndWithdrawal).1 _ order
  obtain ⟨e, he, accrual, number⟩ := exactly.2 ⟨rfl, 10051, rfl, by decide⟩
  obtain ⟨only, -, amount⟩ := once e he accrual number
  exact ⟨e, (Option.some.inj amount).symm, only⟩

end Loyalty.Service
