import Loyalty.Proofs.Ledger.Agreement
import Loyalty.Proofs.Ledger.Credit
import Loyalty.Proofs.Ledger.Settling

/-!
# A pending order can be settled

To settle an order takes its row, the balance of its owner, a free place for its credit in the
ledger, and room for the amount. An order that is pending has all of these but the last after every
history: its owner is a user and so has a balance, a credit would mean that it had been processed
already, and a withdrawal against its number takes another place.

Main statement: `pending_settles`, for every history, every terminal status, and every accrual for
which the balance has room.
-/

namespace Loyalty.Service

open Loyalty.Store

variable {d : State} {row : OrderRow}

/-- There is no credit yet for an order that has not ended. -/
theorem entry?_of_pending {t : Tables} (credited : Credited t) (found : t.order? row.number = some row)
    (pending : row.status.isTerminal = false) : t.entry? .accrual row.number = none := by
  refine Tables.entry?_eq_none.2 fun e he same => ?_
  obtain ⟨isAccrual, forOrder⟩ := same
  obtain ⟨o, ho, number, processed, -⟩ := credited.earned e he isAccrual
  have present := (Tables.mem_of_order? found).1
  obtain rfl : o = row :=
    List.inj_on_of_nodup_map credited.numbers ho present (number.trans forOrder)
  rw [processed] at pending
  cases pending

/-- The owner of an order has a balance. -/
theorem balance?_of_owner {t : Tables} (agreement : Agreement t) (schema : WithinSchema t)
    (found : t.order? row.number = some row) :
    ∃ b ∈ t.balances, t.balance? row.user = some b := by
  have present := (Tables.mem_of_order? found).1
  obtain ⟨u, hu, same⟩ := Tables.hasUser_iff.1 (schema.owned row present)
  obtain ⟨b, hb, own⟩ := agreement.held u hu
  have held := Tables.balance?_of_mem agreement.single hb
  rw [own, same] at held
  exact ⟨b, hb, held⟩

/-- Nothing speaks against settling a pending order, if there is room for what it is credited. -/
theorem settlingRefusal_of_pending {t : Tables} (agreement : Agreement t) (credited : Credited t)
    (schema : WithinSchema t) (found : t.order? row.number = some row)
    (pending : row.status.isTerminal = false) {status : OrderStatus}
    (terminal : status.isTerminal = true) {accrual : Option Decimal}
    (nonneg : accrual.any Decimal.isNegative = false)
    (room : ∀ amount ∈ keptAccrual status accrual, ∀ b ∈ t.balances, b.user = row.user →
      b.current + amount.digits < Decimal.centLimit) :
    settlingRefusal t row.number status accrual = none := by
  have text := schema.text row (Tables.mem_of_order? found).1
  obtain ⟨b, hb, held⟩ := balance?_of_owner agreement schema found
  rw [settlingRefusal, terminal, nonneg, orderRefusal_of_found text found, pending]
  show (credit? (keptAccrual status accrual)).bind _ = none
  cases worth : credit? (keptAccrual status accrual) with
  | none => rfl
  | some c =>
    obtain ⟨kept, -⟩ := credit?_eq_some_iff.1 worth
    obtain ⟨amount, given, rfl⟩ := Option.map_eq_some_iff.1 kept
    have space := room amount given b hb (Tables.mem_of_balance? held).2
    rw [Option.bind_some, creditRefusal_of_room held (agreement.nonneg b hb) space,
      entry?_of_pending credited found pending]
    rfl

/-- The row under which an order was settled. -/
theorem mem_of_settles {number : String} {status : OrderStatus} {kept : Option Decimal}
    {t t' : Tables} {o : Order} (settles : Settles number status kept t o t') :
    ∃ settled ∈ t'.orders, settled.record = o ∧ settled.number = number ∧
      settled.status = status := by
  cases settles with
  | alone row now found =>
    obtain ⟨present, rfl⟩ := Tables.mem_of_order? found
    exact ⟨_, Tables.mem_setOrder.2 (.inl ⟨rfl, row, present, rfl⟩), rfl, rfl, rfl⟩
  | credited row balance entry now found =>
    obtain ⟨present, rfl⟩ := Tables.mem_of_order? found
    exact ⟨_, Tables.mem_setOrder.2 (.inl ⟨rfl, row, present, rfl⟩), rfl, rfl, rfl⟩

/-- **A pending order can be settled.** After every history, whatever its calls met, and whoever has
used the number for a withdrawal: an order that is new or being processed is settled in any terminal
status, with any accrual that is not below zero, as long as the balance of its owner has room for
the accrual of a processed order. -/
theorem pending_settles (s : Session) (calls : List Call) (o : OrderRow)
    (stored : o ∈ (history s calls).store.tables.orders)
    (pending : o.status = .new ∨ o.status = .processing) (status : OrderStatus)
    (terminal : status.isTerminal = true) (accrual : Option Decimal)
    (nonneg : ∀ amount ∈ accrual, 0 ≤ amount.value)
    (room : status = .processed → ∀ amount ∈ accrual,
      ∀ b ∈ (history s calls).store.tables.balances, b.user = o.user →
        (b.current : ℚ) / 100 + amount.roundAmount.value < 10 ^ 18) :
    ∃ settled ∈ (finalize o.number status accrual
        { history s calls with link := .up, faults := [] }).2.store.tables.orders,
      (finalize o.number status accrual
        { history s calls with link := .up, faults := [] }).1 = .ok settled.record ∧
      settled.number = o.number ∧ settled.status = status := by
  have agreement := agreement_history s calls
  have credited := credited_history s calls
  have schema := withinSchema_history s calls
  obtain ⟨closed, created⟩ := history_settled s calls
  generalize history s calls = h at *
  have found := Tables.order?_of_mem credited.numbers stored
  have unended : o.status.isTerminal = false := by
    obtain new | processing := pending
    · rw [new]
      rfl
    · rw [processing]
      rfl
  have passed : checkAccrual accrual = .ok () :=
    checkAccrual_eq_ok_iff.2 fun amount given => Decimal.value_nonneg_iff.1 (nonneg amount given)
  have space : ∀ amount ∈ keptAccrual status accrual, ∀ b ∈ h.store.tables.balances,
      b.user = o.user → b.current + amount.digits < Decimal.centLimit := by
    intro amount kept b hb own
    obtain ⟨processed, scale, -⟩ := keptAccrual_eq_some passed kept
    rw [keptAccrual, if_pos processed] at kept
    obtain ⟨given, hgiven, rfl⟩ := Option.map_eq_some_iff.1 kept
    exact Decimal.cents_add_lt scale (room processed given hgiven b hb own)
  have answered : ∃ x, (finalize o.number status accrual
      { h with link := .up, faults := [] }).1 = .ok x := by
    rw [← failure?_eq_none_iff,
      failure?_finalize (s := { h with link := .up, faults := [] }) closed rfl rfl created schema
        agreement.nonneg]
    refine settlingRefusal_of_pending agreement credited schema found unended terminal ?_ space
    exact Bool.eq_false_iff.2 fun negative => by
      rw [checkAccrual_of_negative negative] at passed
      cases passed
  obtain ⟨x, answer⟩ := answered
  obtain ⟨-, -, effect⟩ := allOrNothing_finalize o.number status accrual
    { h with link := .up, faults := [] } closed
  obtain ⟨t, hstore, -, -, settles⟩ := effect x answer
  obtain ⟨settled, present, rfl, number, ended⟩ := mem_of_settles settles
  rw [hstore]
  exact ⟨settled, present, answer, number, ended⟩

/-- Two users: one has spent points against the number under which the other registers an order. -/
def numberUsedTwice : List Call :=
  creditAndWithdrawal ++ [⟨.createUser "bob", .up, []⟩,
    ⟨.registerOrder "2377225624" ⟨6⟩, .up, []⟩]

theorem pending_settles_numberUsedTwice :
    ∃ settled : OrderRow, (finalize "2377225624" .processed (some ⟨5, 0⟩)
        { history {} numberUsedTwice with link := .up, faults := [] }).1 = .ok settled.record ∧
      settled.number = "2377225624" ∧ settled.status = .processed := by
  have stored : (⟨⟨8⟩, "2377225624", ⟨6⟩, .new, none, ⟨0, 6000⟩, ⟨0, 6000⟩⟩ : OrderRow) ∈
      (history {} numberUsedTwice).store.tables.orders := by decide +kernel
  have unspent : ∀ b ∈ (history {} numberUsedTwice).store.tables.balances,
      b.user = ⟨6⟩ → b.current = 0 := by decide +kernel
  have five : (⟨5, 0⟩ : Decimal).roundAmount.value = 5 := by
    rw [show (⟨5, 0⟩ : Decimal).roundAmount = ⟨500, 2⟩ by decide, Decimal.value_of_scale rfl]
    norm_num
  have nonneg : ∀ amount ∈ some (⟨5, 0⟩ : Decimal), 0 ≤ amount.value := by
    rintro _ ⟨⟩
    exact Decimal.value_nonneg_iff.2 (by decide)
  obtain ⟨settled, -, answer, number, ended⟩ := pending_settles {} numberUsedTwice _ stored
    (.inl rfl) .processed rfl (some ⟨5, 0⟩) nonneg (by
      rintro - _ ⟨⟩ b hb own
      rw [unspent b hb own, five]
      norm_num)
  exact ⟨settled, answer, number, ended⟩

end Loyalty.Service
