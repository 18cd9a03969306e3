import Loyalty.Proofs.Store.Completion

/-!
# Statements that are refused

With no fault ahead a statement is answered or refused, and what the draft holds decides which. The
lemmas follow the statements that settle an order or make a withdrawal, and say how each is refused.
Entries and balances are written alike for credits and withdrawals, so the reasons against it are
listed once, in `postingRefusal`, in the order in which they are looked at.

Main statement: `ends_postEntry`, by which a posting fails for the first of these reasons and for no
other.
-/

namespace Loyalty.Store

def failure? {α : Type} : Except Failure α → Option Failure
  | .ok _ => none
  | .error e => some e

theorem failure?_eq_none_iff {α : Type} {answer : Except Failure α} :
    failure? answer = none ↔ ∃ a, answer = .ok a := by
  cases answer <;> simp [failure?]

namespace Db

variable {α β : Type} {d : State}

theorem Ends.mono {x : Db α} {P Q : Except Failure α → State → Prop} (hx : Ends x d P)
    (h : ∀ r d', P r d' → Q r d') : Ends x d Q := by
  intro s hs clear
  obtain ⟨clear', d', hdraft, hP⟩ := hx s hs clear
  exact ⟨clear', d', hdraft, h _ _ hP⟩

/-- After a part comes the rest if the part is answered; a failure of the part ends both. -/
theorem Ends.bind_cases {x : Db α} {f : α → Db β} {P : Except Failure α → State → Prop}
    {Q : Except Failure β → State → Prop} (hx : Ends x d P)
    (answered : ∀ a d', P (.ok a) d' → Ends (f a) d' Q)
    (failed : ∀ e d', P (.error e) d' → Q (.error e) d') : Ends (x >>= f) d Q := by
  intro s hs clear
  obtain ⟨clear', d', hdraft, hP⟩ := hx s hs clear
  cases run : x s with
  | mk answer s' =>
    rw [run] at clear' hdraft hP
    cases answer with
    | ok a =>
      rw [bind_of_ok run]
      exact answered a d' hP s' hdraft clear'
    | error e =>
      rw [bind_of_error run]
      exact ⟨clear', d', hdraft, failed e d' hP⟩

/-- After a part that fails comes nothing. -/
theorem Ends.bind_failed {x : Db α} {f : α → Db β} {Q : Except Failure β → State → Prop}
    (hx : Ends x d fun r d' => ∃ e, r = .error e ∧ Q (.error e) d') : Ends (x >>= f) d Q := by
  refine hx.bind_cases (fun a d' h => ?_) fun e d' h => ?_
  · obtain ⟨e, failed, -⟩ := h
    cases failed
  · obtain ⟨e', failed, hQ⟩ := h
    cases failed
    exact hQ

/-- A statement that the draft refuses fails with the meaning of the refusal. -/
theorem ends_statement_error {Q : Except Failure α → State → Prop} {st : Statement}
    {explain : DatabaseError → Failure} {run : State → Answer (α × State)} {e : DatabaseError}
    (refused : run d = .error e) (h : Q (.error (explain e)) d) :
    Ends (statement st explain run) d Q := by
  intro s hs clear
  simp only [statement, Session.call, Session.connect, hs, clear, strike, Session.view,
    Option.getD_some, refused]
  exact ⟨trivial, d, rfl, h⟩

end Db

theorem State.on_eq_error {α : Type} {table : String} {run : Tables → Answer (α × Tables)}
    {d : State} {e : DatabaseError} (created : d.created = true)
    (refused : run d.tables = .error e) : d.on table run = .error e := by
  rw [State.on, if_pos created, refused]
  rfl

theorem State.reading_eq_error {α : Type} {table : String} {run : Tables → Answer α}
    {d : State} {e : DatabaseError} (created : d.created = true)
    (refused : run d.tables = .error e) : d.reading table run = .error e :=
  State.on_eq_error created (by rw [refused]; rfl)

variable {d : State}

/-! ### Locks -/

theorem ends_lockOrder_unsent (created : d.created = true) {number : String}
    (zero : '\x00' ∈ number.toList) {Q : Except Failure Order → State → Prop}
    (h : Q (.error (.database zeroByte)) d) : Db.Ends (lockOrder number) d Q := by
  have refused : d.tables.selectOrder number = .error zeroByte := by
    simp [Tables.selectOrder, takeText, zero, bind, Except.bind]
  exact Db.ends_statement_error (State.reading_eq_error created refused) h

theorem ends_lockOrder_missing (created : d.created = true) {number : String}
    (text : '\x00' ∉ number.toList) (missing : d.tables.order? number = none)
    {Q : Except Failure Order → State → Prop} (h : Q (.error (.orderNotFound number)) d) :
    Db.Ends (lockOrder number) d Q := by
  have refused : d.tables.selectOrder number = .error .rowNotFound := by
    simp [Tables.selectOrder, takeText, text, missing, Store.found, bind, Except.bind]
  exact Db.ends_statement_error (State.reading_eq_error created refused) h

theorem ends_lockBalance_missing (created : d.created = true) {user : Uuid}
    (missing : d.tables.balance? user = none) {Q : Except Failure Balance → State → Prop}
    (h : Q (.error (.userNotFound user.toText)) d) : Db.Ends (lockBalance user) d Q := by
  have refused : d.tables.selectBalance user = .error .rowNotFound := by
    simp [Tables.selectBalance, missing, Store.found, bind, Except.bind]
  exact Db.ends_statement_error (State.reading_eq_error created refused) h

/-! ### An entry and its balance -/

theorem takeAmount_eq_error {d : Decimal} (huge : Decimal.centLimit ≤ d.nearestCent.natAbs) :
    takeAmount d = .error overflow := by
  rw [takeAmount, Decimal.toCents?, if_neg (Nat.not_lt.2 huge)]

theorem takeAmount_of_fits {d : Decimal} (fits : d.nearestCent.natAbs < Decimal.centLimit) :
    takeAmount d = .ok d.nearestCent :=
  takeAmount_eq_ok.2 (Decimal.toCents?_eq_some_iff.2 ⟨rfl, fits⟩)

section CreateTransaction

variable (created : d.created = true) (e : Entry) (text : '\x00' ∉ e.order.toList)
  {Q : Except Failure Entry → State → Prop}

include created text

theorem ends_createTransaction_huge (huge : Decimal.centLimit ≤ e.amount.nearestCent)
    (h : Q (.error (.database overflow)) d) : Db.Ends (createTransaction e) d Q := by
  have sent : takeText e.order = .ok () := takeText_eq_ok.2 text
  have amount : takeAmount e.amount = .error overflow := takeAmount_eq_error (by omega)
  have refused : d.tables.insertEntry e = .error overflow := by
    simp [Tables.insertEntry, sent, amount, bind, Except.bind]
  exact Db.ends_statement_error (State.on_eq_error created refused) h

theorem ends_createTransaction_taken (positive : 0 < e.amount.nearestCent)
    (fits : e.amount.nearestCent < Decimal.centLimit)
    (taken : (d.tables.entry? e.kind e.order).isSome = true)
    (h : Q (.error (.transactionExists e.order)) d) : Db.Ends (createTransaction e) d Q := by
  have sent : takeText e.order = .ok () := takeText_eq_ok.2 text
  have amount : takeAmount e.amount = .ok e.amount.nearestCent := takeAmount_of_fits (by omega)
  obtain ⟨old, there⟩ := Option.isSome_iff_exists.1 taken
  have refused : d.tables.insertEntry e =
      .error (uniqueViolation "transactions_type_order_unique") := by
    simp [Tables.insertEntry, sent, amount, require, positive, there, bind, Except.bind]
  exact Db.ends_statement_error (State.on_eq_error created refused) h

theorem ends_createTransaction (positive : 0 < e.amount.nearestCent)
    (fits : e.amount.nearestCent < Decimal.centLimit)
    (free : d.tables.entry? e.kind e.order = none) (owned : d.tables.hasUser e.user = true)
    {row : EntryRow}
    (made : row = ⟨e.id, e.processedAt, e.user, e.order, e.kind, e.amount.nearestCent⟩)
    (h : Q (.ok row.record)
      { d with tables := { d.tables with entries := d.tables.entries ++ [row] } }) :
    Db.Ends (createTransaction e) d Q := by
  have kept : e.amount.toCents? = some e.amount.nearestCent :=
    Decimal.toCents?_eq_some_iff.2 ⟨rfl, by omega⟩
  subst made
  have inserted := Tables.insertEntry_eq_ok.2 ⟨_, text, kept, positive, free, owned, rfl, rfl⟩
  exact Db.ends_statement (State.on_eq_ok.2 ⟨created, _, inserted, rfl⟩) h

end CreateTransaction

/-- The values of a balance are refused when one of them does not fit its column. -/
theorem Tables.storeBalance_eq_error {t : Tables} {row : BalanceRow} {current withdrawn : Decimal}
    (full : Decimal.centLimit ≤ current.nearestCent.natAbs ∨
      Decimal.centLimit ≤ withdrawn.nearestCent.natAbs) :
    t.storeBalance row current withdrawn = .error overflow := by
  unfold storeBalance
  by_cases first : Decimal.centLimit ≤ current.nearestCent.natAbs
  · rw [takeAmount_eq_error first]
    rfl
  · rw [takeAmount_of_fits (by omega), takeAmount_eq_error (full.resolve_left first)]
    rfl

/-- An entry is brought to its balance unless a column has no room for it. -/
theorem ends_updateBalance_cases (created : d.created = true) (e : EntryRow) {row : BalanceRow}
    (held : d.tables.balance? e.user = some row)
    (nonneg : 0 ≤ (row.after e).current ∧ 0 ≤ (row.after e).withdrawn)
    {Q : Except Failure Balance → State → Prop}
    (full : Decimal.centLimit ≤ (row.after e).current ∨
      Decimal.centLimit ≤ (row.after e).withdrawn → Q (.error (.database overflow)) d)
    (stored : (row.after e).current < Decimal.centLimit →
      (row.after e).withdrawn < Decimal.centLimit →
      Q (.ok (row.after e).record) { d with tables := d.tables.setBalance (row.after e) }) :
    Db.Ends (updateBalance e.record) d Q := by
  have found : Store.found (d.tables.balance? e.user) = .ok row := found_eq_ok.2 held
  cases kind : e.kind with
  | accrual =>
    simp only [BalanceRow.after, BalanceRow.moved, kind] at nonneg full stored
    simp only [updateBalance, EntryRow.record, kind]
    by_cases room : row.current + e.amount < Decimal.centLimit ∧
      row.withdrawn < Decimal.centLimit
    · have answer := Tables.creditBalance_eq_ok.2
        ⟨row, held, by omega, by omega, nonneg.1, nonneg.2, rfl, rfl⟩
      exact Db.ends_statement (State.on_eq_ok.2 ⟨created, _, answer, rfl⟩) (stored room.1 room.2)
    · have refused : d.tables.creditBalance e.user (.ofColumn e.amount) = .error overflow := by
        rw [Tables.creditBalance, found]
        refine Tables.storeBalance_eq_error ?_
        rw [Decimal.nearestCent_add_ofColumn, Decimal.nearestCent_ofCents]
        omega
      exact Db.ends_statement_error (State.on_eq_error created refused) (full (by omega))
  | withdrawal =>
    simp only [BalanceRow.after, BalanceRow.moved, kind] at nonneg full stored
    simp only [updateBalance, EntryRow.record, kind]
    by_cases room : row.current - e.amount < Decimal.centLimit ∧
      row.withdrawn + e.amount < Decimal.centLimit
    · have answer := Tables.debitBalance_eq_ok.2
        ⟨row, held, by omega, by omega, nonneg.1, nonneg.2, rfl, rfl⟩
      exact Db.ends_statement (State.on_eq_ok.2 ⟨created, _, answer, rfl⟩) (stored room.1 room.2)
    · have refused : d.tables.debitBalance e.user (.ofColumn e.amount) = .error overflow := by
        rw [Tables.debitBalance, found]
        refine Tables.storeBalance_eq_error ?_
        rw [Decimal.nearestCent_add_neg_ofColumn, Decimal.nearestCent_add_ofColumn]
        omega
      exact Db.ends_statement_error (State.on_eq_error created refused) (full (by omega))

/-! ### Postings -/

/-- Why an amount can't be entered for an order number and brought to a balance. -/
def postingRefusal (t : Tables) (b : BalanceRow) (number : String) (kind : EntryKind)
    (amount : Int) : Option Failure :=
  if Decimal.centLimit ≤ amount then some (.database overflow)
  else if (t.entry? kind number).isSome then some (.transactionExists number)
  else if Decimal.centLimit ≤ (b.moved kind amount).current ∨
      Decimal.centLimit ≤ (b.moved kind amount).withdrawn then some (.database overflow)
  else none

/-- An amount in hundredths is posted to a balance that does not fall below zero by it, unless there
is a reason against it. -/
theorem ends_postEntry (created : d.created = true) {user : Uuid} {number : String}
    {kind : EntryKind} {amount : Decimal} {row : BalanceRow} (text : '\x00' ∉ number.toList)
    (scale : amount.scale = 2) (positive : 0 < amount.digits)
    (owned : d.tables.hasUser user = true) (held : d.tables.balance? user = some row)
    (nonneg : 0 ≤ (row.moved kind amount.digits).current ∧
      0 ≤ (row.moved kind amount.digits).withdrawn) :
    Db.Ends (postEntry user number kind amount) d fun r d' =>
      failure? r = postingRefusal d.tables row number kind amount.digits ∧
        ∀ x, r = .ok x → ∃ e, d' = { d with tables := d.tables.post row e } := by
  have cents : amount.nearestCent = amount.digits := Decimal.nearestCent_of_scale scale
  refine Db.Ends.bind
    (P := fun e d' => ∃ id at_, e = ⟨id, at_, user, number, kind, amount⟩ ∧ d = d')
    (ends_newEntry user number kind amount fun id at_ => ⟨_, rfl, id, at_, rfl, rfl⟩) ?_
  intro _ _ made
  obtain ⟨id, at_, rfl, rfl⟩ := made
  rw [postingRefusal]
  by_cases huge : Decimal.centLimit ≤ amount.digits
  · rw [if_pos huge]
    exact Db.Ends.bind_failed (ends_createTransaction_huge created _ text
      (by rw [cents]; exact huge) ⟨_, rfl, rfl, nofun⟩)
  rw [if_neg huge]
  have fits : amount.nearestCent < Decimal.centLimit := by omega
  by_cases taken : (d.tables.entry? kind number).isSome = true
  · rw [if_pos taken]
    exact Db.Ends.bind_failed (ends_createTransaction_taken created _ text
      (by rw [cents]; exact positive) fits taken ⟨_, rfl, rfl, nofun⟩)
  rw [if_neg taken]
  let entry : EntryRow := ⟨id, at_, user, number, kind, amount.nearestCent⟩
  refine Db.Ends.bind (P := fun e d' => e = entry.record ∧
    d' = { d with tables := { d.tables with entries := d.tables.entries ++ [entry] } })
    (ends_createTransaction created _ text (by rw [cents]; exact positive) fits
      (by simpa using taken) owned rfl ⟨_, rfl, rfl, rfl⟩) ?_
  intro _ _ added
  obtain ⟨rfl, rfl⟩ := added
  have moved : row.after entry = row.moved kind amount.digits := by
    rw [BalanceRow.after, ← cents]
  rw [← moved] at nonneg ⊢
  refine ends_updateBalance_cases
    (d := { d with tables := { d.tables with entries := d.tables.entries ++ [entry] } }) created
    entry held nonneg (fun full => ?_) fun current withdrawn => ?_
  · rw [if_pos full]
    exact ⟨rfl, nofun⟩
  · rw [if_neg (by omega)]
    exact ⟨rfl, fun _ _ => ⟨entry, rfl⟩⟩

end Loyalty.Store
