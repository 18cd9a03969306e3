import Loyalty.Proofs.Store.Rows
import Loyalty.Proofs.Store.Transaction
import Loyalty.Service

/-!
# Postings

A ledger entry and the balance of its user are written together: the entry is added, and its
amount is brought to the balance. `Tables.post` is what the two statements do to the tables, in
hundredths, and `Posting` says when they do it. Credits and withdrawals are both postings; they
differ in the kind of the entry alone.

The other statements that the services run within a transaction are read off here too.
-/

namespace Loyalty.Store

/-- The balance once an amount was credited or withdrawn. -/
def BalanceRow.moved (b : BalanceRow) (kind : EntryKind) (amount : Int) : BalanceRow :=
  match kind with
  | .accrual => { b with current := b.current + amount }
  | .withdrawal => { b with current := b.current - amount, withdrawn := b.withdrawn + amount }

/-- The balance once the amount of an entry was brought to it. -/
def BalanceRow.after (b : BalanceRow) (e : EntryRow) : BalanceRow := b.moved e.kind e.amount

/-- The tables with one more ledger entry, brought to the balance of its user. -/
def Tables.post (t : Tables) (b : BalanceRow) (e : EntryRow) : Tables :=
  { t with entries := t.entries ++ [e] }.setBalance (b.after e)

/-- The entry can be posted to the balance. -/
structure Posting (t : Tables) (b : BalanceRow) (e : EntryRow) : Prop where
  positive : 0 < e.amount
  fits : e.amount.natAbs < Decimal.centLimit
  free : t.entry? e.kind e.order = none
  owned : t.hasUser e.user = true
  held : t.balance? e.user = some b
  nonneg : 0 ≤ (b.after e).current
  bounded : (b.after e).withdrawn.natAbs < Decimal.centLimit

@[simp] theorem BalanceRow.user_after (b : BalanceRow) (e : EntryRow) :
    (b.after e).user = b.user := by
  unfold after moved
  split <;> rfl

theorem BalanceRow.current_after (b : BalanceRow) (e : EntryRow) :
    (b.after e).current = b.current + (if e.kind = .accrual then e.amount else 0) -
      (if e.kind = .withdrawal then e.amount else 0) := by
  unfold after moved
  cases kind : e.kind with
  | accrual => simp
  | withdrawal => simp

theorem BalanceRow.withdrawn_after (b : BalanceRow) (e : EntryRow) :
    (b.after e).withdrawn = b.withdrawn + if e.kind = .withdrawal then e.amount else 0 := by
  unfold after moved
  cases kind : e.kind with
  | accrual => simp
  | withdrawal => simp

/-- A posting changes the balance that it is posted to, and no other. -/
theorem Tables.mem_balances_post {t : Tables} {b : BalanceRow} {e : EntryRow}
    (held : t.balance? e.user = some b) {x : BalanceRow} :
    x ∈ (t.post b e).balances ↔ x = b.after e ∨ (x ∈ t.balances ∧ x.user ≠ e.user) := by
  obtain ⟨hb, owner⟩ := mem_of_balance? held
  have replaced : x ∈ (t.post b e).balances ↔
      (x = b.after e ∧ ∃ old ∈ t.balances, old.user = (b.after e).user) ∨
        (x ∈ t.balances ∧ x.user ≠ (b.after e).user) := mem_setBalance
  rw [replaced, BalanceRow.user_after, owner]
  refine or_congr ?_ Iff.rfl
  exact and_iff_left ⟨b, hb, owner⟩

/-- A posting adds its entry, and of the balances only the one in the place of the old one
changes. -/
theorem Tables.post_eq_set {t : Tables} (single : (t.balances.map BalanceRow.user).Nodup) {j : Nat}
    {b : BalanceRow} (there : t.balances[j]? = some b) (e : EntryRow) :
    t.post b e = { t with
      balances := t.balances.set j (b.after e), entries := t.entries ++ [e] } :=
  setBalance_eq_set (t := { t with entries := t.entries ++ [e] }) single there
    (BalanceRow.user_after b e)

variable {d : State}

/-! ### Locks -/

theorem within_lockOrder (number : String) {Q : Order → State → Prop}
    (h : ∀ row, d.tables.order? number = some row → Q row.record d) :
    Db.Within (lockOrder number) d Q := by
  refine Db.within_statement fun o d' answer => ?_
  obtain ⟨-, selected, rfl⟩ := State.reading_eq_ok.1 answer
  obtain ⟨-, row, found, rfl⟩ := Tables.selectOrder_eq_ok.1 selected
  exact h row found

theorem within_lockBalance (user : Uuid) {Q : Balance → State → Prop}
    (h : ∀ row, d.tables.balance? user = some row → Q row.record d) :
    Db.Within (lockBalance user) d Q := by
  refine Db.within_statement fun b d' answer => ?_
  obtain ⟨-, selected, rfl⟩ := State.reading_eq_ok.1 answer
  obtain ⟨row, found, rfl⟩ := Tables.selectBalance_eq_ok.1 selected
  exact h row found

/-! ### An entry and its balance -/

/-- The statements of a posting. -/
def postEntry (user : Uuid) (number : String) (kind : EntryKind) (amount : Decimal) :
    Db Balance := do
  let entry ← createTransaction (← newEntry user number kind amount)
  updateBalance entry

theorem within_newEntry (user : Uuid) (order : String) (kind : EntryKind) (amount : Decimal)
    {Q : Entry → State → Prop} (h : ∀ id at_, Q ⟨id, at_, user, order, kind, amount⟩ d) :
    Db.Within (newEntry user order kind amount) d Q := by
  refine Db.Within.bind_same (Db.within_fresh fun _ => rfl) fun id => ?_
  refine Db.Within.bind_same (Db.within_now fun _ => rfl) fun at_ => ?_
  exact Db.Within.pure (h id at_)

/-- The entry is answered as it is stored, so it is brought to the balance in hundredths. -/
theorem within_createTransaction (e : Entry) {Q : Entry → State → Prop}
    (h : ∀ row : EntryRow, row.user = e.user → row.order = e.order → row.kind = e.kind →
      row.amount = e.amount.nearestCent → row.amount.natAbs < Decimal.centLimit →
      0 < row.amount → d.tables.entry? row.kind row.order = none →
      d.tables.hasUser row.user = true →
      Q row.record { d with tables := { d.tables with entries := d.tables.entries ++ [row] } }) :
    Db.Within (createTransaction e) d Q := by
  refine Db.within_statement fun stored d' answer => ?_
  obtain ⟨-, t, inserted, rfl⟩ := State.on_eq_ok.1 answer
  obtain ⟨amount, -, kept, positive, free, owned, rfl, rfl⟩ := Tables.insertEntry_eq_ok.1 inserted
  obtain ⟨nearest, fits⟩ := Decimal.toCents?_eq_some_iff.1 kept
  exact h _ rfl rfl rfl nearest.symm fits positive free owned

theorem within_updateBalance (e : EntryRow) {Q : Balance → State → Prop}
    (h : ∀ row, d.tables.balance? e.user = some row → 0 ≤ (row.after e).current →
      (row.after e).withdrawn.natAbs < Decimal.centLimit →
      Q (row.after e).record { d with tables := d.tables.setBalance (row.after e) }) :
    Db.Within (updateBalance e.record) d Q := by
  cases kind : e.kind with
  | accrual =>
    simp only [BalanceRow.after, BalanceRow.moved, kind] at h
    simp only [updateBalance, EntryRow.record, kind]
    refine Db.within_statement fun b d' answer => ?_
    obtain ⟨-, t, stored, rfl⟩ := State.on_eq_ok.1 answer
    obtain ⟨row, held, -, bounded, nonneg, -, rfl, rfl⟩ := Tables.creditBalance_eq_ok.1 stored
    exact h row held nonneg bounded
  | withdrawal =>
    simp only [BalanceRow.after, BalanceRow.moved, kind] at h
    simp only [updateBalance, EntryRow.record, kind]
    refine Db.within_statement fun b d' answer => ?_
    obtain ⟨-, t, stored, rfl⟩ := State.on_eq_ok.1 answer
    obtain ⟨row, held, -, bounded, nonneg, -, rfl, rfl⟩ := Tables.debitBalance_eq_ok.1 stored
    exact h row held nonneg bounded

theorem within_postEntry (user : Uuid) (number : String) (kind : EntryKind) (amount : Decimal)
    {Q : Balance → State → Prop}
    (h : ∀ row e, Posting d.tables row e → e.user = user → e.order = number → e.kind = kind →
      e.amount = amount.nearestCent →
      Q (row.after e).record { d with tables := d.tables.post row e }) :
    Db.Within (postEntry user number kind amount) d Q := by
  refine Db.Within.bind (P := fun e d' => (e.user = user ∧ e.order = number ∧ e.kind = kind ∧
    e.amount = amount) ∧ d = d')
    (within_newEntry user number kind amount fun id at_ => ⟨⟨rfl, rfl, rfl, rfl⟩, rfl⟩) ?_
  intro new _ made
  obtain ⟨⟨rfl, rfl, rfl, rfl⟩, rfl⟩ := made
  refine Db.Within.bind (P := fun stored d' => ∃ e : EntryRow, stored = e.record ∧
    (∀ row, d.tables.balance? e.user = some row → 0 ≤ (row.after e).current →
      (row.after e).withdrawn.natAbs < Decimal.centLimit → Posting d.tables row e) ∧
    (e.user = new.user ∧ e.order = new.order ∧ e.kind = new.kind ∧
      e.amount = new.amount.nearestCent) ∧
    d' = { d with tables := { d.tables with entries := d.tables.entries ++ [e] } })
    (within_createTransaction new fun e hu ho hk ha fits positive free owned =>
      ⟨e, rfl, fun row held nonneg bounded => ⟨positive, fits, free, owned, held, nonneg, bounded⟩,
        ⟨hu, ho, hk, ha⟩, rfl⟩) ?_
  intro _ _ inserted
  obtain ⟨e, rfl, posting, ⟨hu, ho, hk, ha⟩, rfl⟩ := inserted
  refine within_updateBalance e fun row held nonneg bounded => ?_
  exact h row e (posting row held nonneg bounded) hu ho hk ha

/-! ### An order that is updated -/

/-- The row of an order once it has ended. An accrual that is not given leaves the one it has. -/
def OrderRow.ended (row : OrderRow) (status : OrderStatus) (given : Option Int)
    (now : Timestamp) : OrderRow :=
  { row with status, accrual := given <|> row.accrual, modifiedAt := now }

/-- What a column keeps of an amount that may be missing. -/
theorem eq_map_of_mapM_takeAmount {kept : Option Decimal} {given : Option Int}
    (h : kept.mapM takeAmount = .ok given) : given = kept.map Decimal.nearestCent := by
  cases kept with
  | none =>
    cases h
    rfl
  | some amount =>
    cases taken : takeAmount amount with
    | error e => simp [taken, Functor.map, Except.map] at h
    | ok n =>
      obtain ⟨rfl, -⟩ := Decimal.toCents?_eq_some_iff.1 (takeAmount_eq_ok.1 taken)
      simp only [Option.mapM_some, taken, Functor.map, Except.map, Except.ok.injEq] at h
      rw [← h, Option.map_some]

theorem within_updateOrder (number : String) (status : OrderStatus) (kept : Option Decimal)
    {Q : Order → State → Prop}
    (h : ∀ row now, d.tables.order? number = some row →
      Q (row.ended status (kept.map Decimal.nearestCent) now).record { d with
        tables := d.tables.setOrder (row.ended status (kept.map Decimal.nearestCent) now) }) :
    Db.Within (updateOrder number (some status) kept) d Q := by
  refine Db.Within.bind_same (Db.within_now fun _ => rfl) fun now => ?_
  refine Db.within_statement fun o d' answer => ?_
  obtain ⟨-, t, updated, rfl⟩ := State.on_eq_ok.1 answer
  obtain ⟨-, row, given, found, taken, rfl, rfl⟩ := Tables.updateOrder_eq_ok.1 updated
  rw [eq_map_of_mapM_takeAmount taken]
  exact h row now found

end Loyalty.Store
