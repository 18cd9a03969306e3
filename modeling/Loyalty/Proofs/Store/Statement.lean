import Mathlib
import Loyalty.Proofs.Decimal.Cents
import Loyalty.Store.Session

/-!
# What a statement has found and written

A statement that is not refused has passed all its checks, and what it answers and writes is
fixed by what it found. Each `_eq_ok` lemma says so of one statement, as an equivalence: the
conditions on the left of the answer are just those under which the statement is carried out.
After them no proof opens a statement again.
-/

namespace Loyalty.Store

/-! ### Steps of a statement -/

theorem Answer.bind_eq_ok {α β : Type} {x : Answer α} {f : α → Answer β} {b : β} :
    (x >>= f) = .ok b ↔ ∃ a, x = .ok a ∧ f a = .ok b := by
  cases x <;> simp [bind, Except.bind]

theorem Answer.pure_eq_ok {α : Type} {a b : α} : (pure a : Answer α) = .ok b ↔ b = a := by
  simp [pure, Except.pure, eq_comm]

theorem takeText_eq_ok {s : String} {u : Unit} : takeText s = .ok u ↔ '\x00' ∉ s.toList := by
  unfold takeText
  split <;> simp_all

theorem takeAmount_eq_ok {d : Decimal} {n : Int} : takeAmount d = .ok n ↔ d.toCents? = some n := by
  unfold takeAmount
  split <;> simp_all

theorem require_eq_ok {c : Bool} {e : DatabaseError} {u : Unit} :
    require c e = .ok u ↔ c = true := by
  unfold require
  split <;> simp_all

theorem found_eq_ok {α : Type} {o : Option α} {a : α} : found o = .ok a ↔ o = some a := by
  cases o <;> simp [found]

/-! ### Users and balances -/

namespace Tables

theorem insertUser_eq_ok {t t' : Tables} {row : UserRow} {u : User} :
    t.insertUser row = .ok (u, t') ↔
      '\x00' ∉ row.username.toList ∧ t.hasUser row.id = false ∧
        (∀ r ∈ t.users, r.username ≠ row.username) ∧
        u = row.record ∧ t' = { t with users := t.users ++ [row] } := by
  simp only [insertUser, Answer.bind_eq_ok, Answer.pure_eq_ok, takeText_eq_ok, require_eq_ok]
  simp

theorem insertBalance_eq_ok {t t' : Tables} {id user : Uuid} {b : Balance} :
    t.insertBalance id user = .ok (b, t') ↔
      t.balance? user = none ∧ t.hasUser user = true ∧ b = BalanceRow.record ⟨id, user, 0, 0⟩ ∧
        t' = { t with balances := t.balances ++ [⟨id, user, 0, 0⟩] } := by
  simp only [insertBalance, Answer.bind_eq_ok, Answer.pure_eq_ok, require_eq_ok]
  simp

theorem selectBalance_eq_ok {t : Tables} {user : Uuid} {b : Balance} :
    t.selectBalance user = .ok b ↔ ∃ row, t.balance? user = some row ∧ b = row.record := by
  simp only [selectBalance, Answer.bind_eq_ok, Answer.pure_eq_ok, found_eq_ok]

theorem storeBalance_eq_ok {t t' : Tables} {row : BalanceRow} {current withdrawn : Decimal}
    {b : Balance} :
    t.storeBalance row current withdrawn = .ok (b, t') ↔
      ∃ c w, current.toCents? = some c ∧ withdrawn.toCents? = some w ∧ 0 ≤ c ∧ 0 ≤ w ∧
        b = BalanceRow.record { row with current := c, withdrawn := w } ∧
        t' = t.setBalance { row with current := c, withdrawn := w } := by
  simp only [storeBalance, Answer.bind_eq_ok, Answer.pure_eq_ok, takeAmount_eq_ok, require_eq_ok]
  simp

/-- A credit that was read back from a ledger entry is added in hundredths. -/
theorem creditBalance_eq_ok {t t' : Tables} {user : Uuid} {amount : Int} {b : Balance} :
    t.creditBalance user (.ofColumn amount) = .ok (b, t') ↔
      ∃ row, t.balance? user = some row ∧ (row.current + amount).natAbs < Decimal.centLimit ∧
        row.withdrawn.natAbs < Decimal.centLimit ∧ 0 ≤ row.current + amount ∧ 0 ≤ row.withdrawn ∧
        b = BalanceRow.record { row with current := row.current + amount } ∧
        t' = t.setBalance { row with current := row.current + amount } := by
  simp only [creditBalance, Answer.bind_eq_ok, found_eq_ok, storeBalance_eq_ok,
    Decimal.toCents?_eq_some_iff, Decimal.nearestCent_add_ofColumn, Decimal.nearestCent_ofCents]
  constructor
  · intro h
    obtain ⟨row, hrow, c, w, ⟨rfl, hc⟩, ⟨rfl, hw⟩, hc0, hw0, hb, ht⟩ := h
    exact ⟨row, hrow, hc, hw, hc0, hw0, hb, ht⟩
  · intro h
    obtain ⟨row, hrow, hc, hw, hc0, hw0, hb, ht⟩ := h
    exact ⟨row, hrow, _, _, ⟨rfl, hc⟩, ⟨rfl, hw⟩, hc0, hw0, hb, ht⟩

/-- A debit moves hundredths from one column to the other. -/
theorem debitBalance_eq_ok {t t' : Tables} {user : Uuid} {amount : Int} {b : Balance} :
    t.debitBalance user (.ofColumn amount) = .ok (b, t') ↔
      ∃ row, t.balance? user = some row ∧ (row.current - amount).natAbs < Decimal.centLimit ∧
        (row.withdrawn + amount).natAbs < Decimal.centLimit ∧ 0 ≤ row.current - amount ∧
        0 ≤ row.withdrawn + amount ∧
        b = BalanceRow.record { row with
          current := row.current - amount, withdrawn := row.withdrawn + amount } ∧
        t' = t.setBalance { row with
          current := row.current - amount, withdrawn := row.withdrawn + amount } := by
  simp only [debitBalance, Answer.bind_eq_ok, found_eq_ok, storeBalance_eq_ok,
    Decimal.toCents?_eq_some_iff, Decimal.nearestCent_add_ofColumn,
    Decimal.nearestCent_add_neg_ofColumn]
  constructor
  · intro h
    obtain ⟨row, hrow, c, w, ⟨rfl, hc⟩, ⟨rfl, hw⟩, hc0, hw0, hb, ht⟩ := h
    exact ⟨row, hrow, hc, hw, hc0, hw0, hb, ht⟩
  · intro h
    obtain ⟨row, hrow, hc, hw, hc0, hw0, hb, ht⟩ := h
    exact ⟨row, hrow, _, _, ⟨rfl, hc⟩, ⟨rfl, hw⟩, hc0, hw0, hb, ht⟩

/-! ### Ledger entries -/

theorem insertEntry_eq_ok {t t' : Tables} {e stored : Entry} :
    t.insertEntry e = .ok (stored, t') ↔
      ∃ amount, '\x00' ∉ e.order.toList ∧ e.amount.toCents? = some amount ∧ 0 < amount ∧
        t.entry? e.kind e.order = none ∧ t.hasUser e.user = true ∧
        stored = EntryRow.record ⟨e.id, e.processedAt, e.user, e.order, e.kind, amount⟩ ∧
        t' = { t with
          entries := t.entries ++ [⟨e.id, e.processedAt, e.user, e.order, e.kind, amount⟩] } := by
  simp only [insertEntry, Answer.bind_eq_ok, Answer.pure_eq_ok, takeText_eq_ok,
    takeAmount_eq_ok, require_eq_ok]
  simp

/-! ### Orders -/

/-- Registering a number either finds the order that has it or adds a row. -/
theorem insertOrder_eq_ok {t t' : Tables} {row : OrderRow} {o : Order} :
    t.insertOrder row = .ok (o, t') ↔
      '\x00' ∉ row.number.toList ∧
        ((∃ stored, t.order? row.number = some stored ∧ o = stored.record ∧ t' = t) ∨
          (t.order? row.number = none ∧ t.hasUser row.user = true ∧ o = row.record ∧
            t' = { t with orders := t.orders ++ [row] })) := by
  simp only [insertOrder, Answer.bind_eq_ok, takeText_eq_ok]
  cases t.order? row.number with
  | none =>
    simp only [Answer.bind_eq_ok, Answer.pure_eq_ok, require_eq_ok]
    simp
  | some stored => simp [Answer.pure_eq_ok]

theorem selectOrder_eq_ok {t : Tables} {number : String} {o : Order} :
    t.selectOrder number = .ok o ↔
      '\x00' ∉ number.toList ∧ ∃ row, t.order? number = some row ∧ o = row.record := by
  simp only [selectOrder, Answer.bind_eq_ok, Answer.pure_eq_ok, takeText_eq_ok, found_eq_ok]
  simp

/-- An accrual that is not given leaves the one that is stored. -/
theorem updateOrder_eq_ok {t t' : Tables} {number : String} {status : OrderStatus}
    {accrual : Option Decimal} {now : Timestamp} {o : Order} :
    t.updateOrder number (some status) accrual now = .ok (o, t') ↔
      '\x00' ∉ number.toList ∧ ∃ row given, t.order? number = some row ∧
        accrual.mapM takeAmount = .ok given ∧
        o = OrderRow.record
          { row with status, accrual := given <|> row.accrual, modifiedAt := now } ∧
        t' = t.setOrder
          { row with status, accrual := given <|> row.accrual, modifiedAt := now } := by
  simp only [updateOrder, Answer.bind_eq_ok, Answer.pure_eq_ok, takeText_eq_ok, found_eq_ok]
  simp

theorem moveOrder_eq_ok {t t' : Tables} {number : String} {source target : OrderStatus}
    {now : Timestamp} {o : Option Order} :
    t.moveOrder number source target now = .ok (o, t') ↔
      '\x00' ∉ number.toList ∧
        ((∃ row, t.order? number = some row ∧ row.status = source ∧
            o = some (OrderRow.record { row with status := target, modifiedAt := now }) ∧
            t' = t.setOrder { row with status := target, modifiedAt := now }) ∨
          ((∀ row, t.order? number = some row → row.status ≠ source) ∧ o = none ∧ t' = t)) := by
  simp only [moveOrder, Answer.bind_eq_ok, takeText_eq_ok]
  cases t.order? number with
  | none => simp [Answer.pure_eq_ok]
  | some row => by_cases h : row.status = source <;> simp [h, Answer.pure_eq_ok]

end Tables

end Loyalty.Store
