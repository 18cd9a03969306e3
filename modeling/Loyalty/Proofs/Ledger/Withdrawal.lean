import Loyalty.Proofs.Ledger.Constraints
import Loyalty.Proofs.OrderNumber.Luhn
import Loyalty.Proofs.Service.Effect
import Loyalty.Proofs.Store.Refusal

/-!
# A withdrawal and what speaks against it

`withdrawalRefusal` lists the reasons against a withdrawal in the order in which they count: the
number, the rounded amount, the balance, what is left on it, a withdrawal made against the number
already, and the room for the sum of all withdrawals. The statements look at the same things one
by one. What is left on the balance is compared before anything is written, and the comparison is
exact, so the check of the table on that column never has anything to refuse.

Main statement: `withdrawn_unless_refused`, for all tables within their constraints, whatever else
the ledger holds, and all arguments.
-/

namespace Loyalty.Service

open Loyalty.Store

/-! ### The reasons against it -/

/-- Why an amount can't be taken from a user against an order number. -/
def debitRefusal (t : Tables) (user : Uuid) (number : String) (amount : Int) : Option Failure :=
  match t.balance? user with
  | none => some (.userNotFound user.toText)
  | some b =>
    if b.current < amount then some .insufficientBalance
    else if (t.entry? .withdrawal number).isSome then some (.transactionExists number)
    else if Decimal.centLimit ≤ b.withdrawn + amount then some (.database overflow)
    else none

/-- Why a withdrawal is not made, if it is not: the first of the reasons that hold. -/
def withdrawalRefusal (t : Tables) (user : Uuid) (number : String) (amount : Decimal) :
    Option Failure :=
  match OrderNumber.checkLuhn number with
  | .error v => some (.validation v.message)
  | .ok _ =>
    if amount.roundAmount.digits ≤ 0 then some (.validation "amount: must be greater than zero")
    else debitRefusal t user number amount.roundAmount.digits

/-- An amount that is covered by a balance within its bounds has the reasons of a posting against
it, of which the check on what is left is none. -/
theorem debitRefusal_of_held {t : Tables} (lawful : Constraints t) {user : Uuid} {b : BalanceRow}
    (held : t.balance? user = some b) (number : String) {amount : Int}
    (enough : amount ≤ b.current) (positive : 0 < amount) :
    debitRefusal t user number amount = postingRefusal t b number .withdrawal amount := by
  obtain ⟨-, bounded⟩ := lawful.covered b (Tables.mem_of_balance? held).1
  have small : ¬ (Decimal.centLimit : Int) ≤ amount := by omega
  have full : (Decimal.centLimit ≤ b.current - amount ∨
      Decimal.centLimit ≤ b.withdrawn + amount) ↔
      Decimal.centLimit ≤ b.withdrawn + amount := by omega
  simp only [debitRefusal, held, postingRefusal, BalanceRow.moved, full]
  rw [if_neg (Int.not_lt.2 enough), if_neg small]

theorem debitRefusal_eq_none_iff {t : Tables} {user : Uuid} {number : String} {amount : Int} :
    debitRefusal t user number amount = none ↔
      ∃ b, t.balance? user = some b ∧ amount ≤ b.current ∧ t.entry? .withdrawal number = none ∧
        b.withdrawn + amount < Decimal.centLimit := by
  unfold debitRefusal
  cases t.balance? user with
  | none => simp
  | some b =>
    by_cases short : b.current < amount
    · simp [short]
    · cases t.entry? .withdrawal number with
      | none => simp [short, Int.not_lt.1 short]
      | some e => simp [short]

/-- The database itself refuses a withdrawal for one reason only. -/
theorem debitRefusal_eq_database {t : Tables} {user : Uuid} {number : String} {amount : Int}
    {e : DatabaseError} (h : debitRefusal t user number amount = some (.database e)) :
    e = overflow ∧ ∃ b, t.balance? user = some b ∧ amount ≤ b.current ∧
      Decimal.centLimit ≤ b.withdrawn + amount := by
  unfold debitRefusal at h
  cases held : t.balance? user with
  | none => simp [held] at h
  | some b =>
    rw [held] at h
    dsimp only at h
    split at h
    · cases h
    · split at h
      · cases h
      · split at h
        · cases h
          exact ⟨rfl, b, rfl, by omega, by omega⟩
        · cases h

/-! ### The answer -/

def withdrawal (user : Uuid) (number : String) (amount : Decimal) : Db Balance := do
  let balance ← lockBalance user
  if balance.current.lt amount then Db.fail .insufficientBalance
  else postEntry user number .withdrawal amount

theorem withdraw_eq (user : Uuid) (number : String) (amount : Decimal) :
    withdraw user number amount = checked (OrderNumber.checkLuhn number) >>= fun _ =>
      checked (Amount.checkPositive amount.roundAmount) >>= fun _ =>
        Db.transaction (withdrawal user number amount.roundAmount) := by
  unfold withdraw
  refine congrArg (checked (OrderNumber.checkLuhn number) >>= ·) (funext fun _ => ?_)
  refine congrArg (checked (Amount.checkPositive amount.roundAmount) >>= ·) (funext fun _ => ?_)
  refine congrArg Db.transaction (congrArg (lockBalance user >>= ·) (funext fun balance => ?_))
  dsimp only
  by_cases short : balance.current.lt amount.roundAmount = true
  · rw [if_pos short, if_pos short]
    rfl
  · rw [if_neg short, if_neg short]
    rfl

variable {d : State}

/-- The statements of a withdrawal fail for the first reason against it, and for no other. -/
theorem ends_withdrawal_cases (created : d.created = true) (lawful : Constraints d.tables)
    (user : Uuid) {number : String} (text : '\x00' ∉ number.toList) {amount : Decimal}
    (scale : amount.scale = 2) (positive : 0 < amount.digits) :
    Db.Ends (withdrawal user number amount) d fun r _ =>
      failure? r = debitRefusal d.tables user number amount.digits := by
  cases held : d.tables.balance? user with
  | none =>
    rw [debitRefusal, held]
    exact Db.Ends.bind_failed (ends_lockBalance_missing created held ⟨_, rfl, rfl⟩)
  | some b =>
    obtain ⟨present, owner⟩ := Tables.mem_of_balance? held
    refine Db.Ends.bind (P := fun balance d' => balance = b.record ∧ d = d')
      (ends_lockBalance created held ⟨_, rfl, rfl, rfl⟩) ?_
    intro _ _ locked
    obtain ⟨rfl, rfl⟩ := locked
    have compared : b.record.current.lt amount = decide (b.current < amount.digits) :=
      Decimal.lt_ofColumn scale b.current
    rw [compared]
    by_cases short : b.current < amount.digits
    · rw [if_pos (decide_eq_true short), debitRefusal, held]
      dsimp only
      rw [if_pos short]
      exact Db.ends_fail rfl
    · have enough : amount.digits ≤ b.current := Int.not_lt.1 short
      have account : d.tables.hasUser user = true := by
        rw [← owner]
        exact lawful.accounts b present
      have left : 0 ≤ (b.moved .withdrawal amount.digits).current := Int.sub_nonneg_of_le enough
      have paid : 0 ≤ (b.moved .withdrawal amount.digits).withdrawn :=
        Int.add_nonneg (lawful.paid b present).1 positive.le
      rw [if_neg (by simpa using short), debitRefusal_of_held lawful held number enough positive]
      exact (ends_postEntry created text scale positive account held ⟨left, paid⟩).mono
        fun _ _ ended => ended.1

/-- A withdrawal is made unless there is a reason against it, and the first reason is answered. -/
theorem failure?_withdraw {s : Session} (ready : Ready s) (user : Uuid) (number : String)
    (amount : Decimal) :
    failure? (withdraw user number amount s).1 =
      withdrawalRefusal s.store.tables user number amount := by
  rw [withdraw_eq, withdrawalRefusal]
  cases passed : OrderNumber.checkLuhn number with
  | error v => rfl
  | ok _ =>
    dsimp only
    by_cases worthless : amount.roundAmount.digits ≤ 0
    · have refused : Amount.checkPositive amount.roundAmount =
          .error ⟨"amount", "must be greater than zero"⟩ := by
        rw [Amount.checkPositive, Decimal.isPositive, decide_eq_false (by omega)]
        rfl
      rw [if_pos worthless, refused]
      rfl
    · have accepted : Amount.checkPositive amount.roundAmount = .ok () := by
        rw [Amount.checkPositive, Decimal.isPositive, decide_eq_true (by omega)]
        rfl
      rw [if_neg worthless, accepted]
      exact Db.transaction_ends ready.closed ready.up ready.clear
        (ends_withdrawal_cases ready.created ready.lawful user
          (OrderNumber.checkLuhn_eq_ok_iff.1 passed).1.text (Decimal.roundAmount_scale amount)
          (by omega))

theorem withdrawalRefusal_eq_none_iff {t : Tables} {user : Uuid} {number : String}
    {amount : Decimal} :
    withdrawalRefusal t user number amount = none ↔
      OrderNumber.checkLuhn number = .ok () ∧ 0 < amount.roundAmount.digits ∧
        debitRefusal t user number amount.roundAmount.digits = none := by
  unfold withdrawalRefusal
  cases OrderNumber.checkLuhn number with
  | error v => simp
  | ok _ =>
    by_cases worthless : amount.roundAmount.digits ≤ 0
    · simp [worthless]
    · simp [worthless, Int.not_le.1 worthless]

theorem withdrawalRefusal_eq_database {t : Tables} {user : Uuid} {number : String}
    {amount : Decimal} {e : DatabaseError}
    (h : withdrawalRefusal t user number amount = some (.database e)) :
    debitRefusal t user number amount.roundAmount.digits = some (.database e) := by
  unfold withdrawalRefusal at h
  split at h
  · cases h
  · split at h
    · cases h
    · exact h

/-! ### The rows -/

/-- **A withdrawal is made unless there is a reason against it.** The first reason is answered, and
nothing has changed then; the database itself has none but that the sum of all withdrawals has no
room. Without a reason the rounded amount moves from what is left on the balance to what was
withdrawn, is entered into the ledger once, and every other row stays as it is. -/
theorem withdrawn_unless_refused (s : Session) (ready : Ready s) (user : Uuid) (number : String)
    (amount : Decimal) :
    failure? (withdraw user number amount s).1 =
      withdrawalRefusal s.store.tables user number amount ∧
    ((∃ x, (withdraw user number amount s).1 = .ok x) ↔
      OrderNumber.checkLuhn number = .ok () ∧ 0 < amount.roundAmount.digits ∧
        ∃ b, s.store.tables.balance? user = some b ∧ amount.roundAmount.digits ≤ b.current ∧
          s.store.tables.entry? .withdrawal number = none ∧
          b.withdrawn + amount.roundAmount.digits < Decimal.centLimit) ∧
    (∀ e, (withdraw user number amount s).1 = .error (.database e) →
      e = overflow ∧ ∃ b, s.store.tables.balance? user = some b ∧
        amount.roundAmount.digits ≤ b.current ∧
        Decimal.centLimit ≤ b.withdrawn + amount.roundAmount.digits) ∧
    (∀ e, (withdraw user number amount s).1 = .error e →
      (withdraw user number amount s).2.store = s.store) ∧
    ∀ x, (withdraw user number amount s).1 = .ok x →
      ∃ (j : Nat) (b next : BalanceRow) (id : Uuid) (at_ : Timestamp),
        s.store.tables.balances[j]? = some b ∧ b.user = user ∧
        next = { b with
          current := b.current - amount.roundAmount.digits
          withdrawn := b.withdrawn + amount.roundAmount.digits } ∧
        x = next.record ∧
        (withdraw user number amount s).2.store = { s.store with
          tables := { s.store.tables with
            balances := s.store.tables.balances.set j next
            entries := s.store.tables.entries ++
              [⟨id, at_, user, number, .withdrawal, amount.roundAmount.digits⟩] } } := by
  have answered := failure?_withdraw ready user number amount
  refine ⟨answered, ?_, fun e failed => ?_, ?_⟩
  · rw [← debitRefusal_eq_none_iff, ← withdrawalRefusal_eq_none_iff, ← answered,
      failure?_eq_none_iff]
  · rw [failed] at answered
    exact debitRefusal_eq_database (withdrawalRefusal_eq_database answered.symm)
  · obtain ⟨-, failed, made⟩ := allOrNothing_withdraw user number amount s ready.closed
    refine ⟨failed, fun x answer => ?_⟩
    obtain ⟨t, hstore, b, e, posting, rfl, rfl, isWithdrawal, worth, rfl, rfl⟩ := made x answer
    obtain ⟨account, owner⟩ := Tables.mem_of_balance? posting.held
    obtain ⟨j, there⟩ := List.mem_iff_getElem?.1 account
    rw [Decimal.nearestCent_of_scale (Decimal.roundAmount_scale amount)] at worth
    have moved : b.after e = b.moved .withdrawal amount.roundAmount.digits := by
      rw [BalanceRow.after, isWithdrawal, worth]
    have entry : e = ⟨e.id, e.processedAt, e.user, e.order, .withdrawal,
        amount.roundAmount.digits⟩ := by
      rw [← isWithdrawal, ← worth]
    refine ⟨j, b, b.moved .withdrawal amount.roundAmount.digits, e.id, e.processedAt, there, owner,
      rfl, by rw [moved], ?_⟩
    rw [hstore, Tables.post_eq_set ready.lawful.single there e, moved, ← entry]

theorem withdrawn_unless_refused_patchwork :
    failure? (withdraw ⟨1⟩ "18" ⟨100005, 3⟩ patchwork).1 = some .insufficientBalance ∧
    failure? (withdraw ⟨2⟩ "18" ⟨1, 0⟩ patchwork).1 = some (.userNotFound (Uuid.toText ⟨2⟩)) ∧
    (withdraw ⟨1⟩ "18" ⟨100004, 3⟩ patchwork).2.store.tables.balances =
      [⟨⟨3⟩, ⟨1⟩, 0, 10000⟩] := by
  refine ⟨?_, ?_, ?_⟩
  · rw [(withdrawn_unless_refused patchwork ready_patchwork ⟨1⟩ "18" ⟨100005, 3⟩).1]
    decide +kernel
  · rw [(withdrawn_unless_refused patchwork ready_patchwork ⟨2⟩ "18" ⟨1, 0⟩).1]
    decide +kernel
  · obtain ⟨-, exactly, -, -, rows⟩ :=
      withdrawn_unless_refused patchwork ready_patchwork ⟨1⟩ "18" ⟨100004, 3⟩
    obtain ⟨x, answer⟩ := exactly.2 ⟨by decide +kernel, by decide +kernel,
      ⟨⟨3⟩, ⟨1⟩, 10000, 0⟩, by decide +kernel, by decide +kernel, by decide +kernel,
      by decide +kernel⟩
    obtain ⟨j, b, next, id, at_, there, -, rfl, -, hstore⟩ := rows x answer
    obtain ⟨rfl, rfl⟩ : j = 0 ∧ b = ⟨⟨3⟩, ⟨1⟩, 10000, 0⟩ := by
      cases j with
      | zero => exact ⟨rfl, (Option.some.inj there).symm⟩
      | succ j => cases there
    have rounded : (⟨100004, 3⟩ : Decimal).roundAmount.digits = 10000 := by decide +kernel
    simp only [hstore, rounded]
    rfl

end Loyalty.Service
