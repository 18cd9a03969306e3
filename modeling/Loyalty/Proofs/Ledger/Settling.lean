import Loyalty.Proofs.Ledger.Constraints
import Loyalty.Proofs.Store.Refusal

/-!
# Settling an order

Whether an order is settled, and if not why, can be read off the tables before the first statement
runs: `settlingRefusal` lists the reasons against it in the order in which they count. An order that
nothing speaks against is settled as a whole. Its row changes; when there is something to credit, an
entry is added and the balance of the owner grows by just that, and every other row stays in its
place as it is.

Main statement: `settled_unless_refused`, for all tables within their constraints, whatever else the
ledger holds, and all arguments.
-/

namespace Loyalty.Service

open Loyalty.Store

/-! ### The reasons against it -/

/-- What an order is credited for, in hundredths, if for anything. -/
def credit? (kept : Option Decimal) : Option Int :=
  (kept.filter Decimal.isPositive).map Decimal.digits

theorem credit?_eq_some_iff {kept : Option Decimal} {amount : Int} :
    credit? kept = some amount ↔ kept.map Decimal.digits = some amount ∧ 0 < amount := by
  cases kept with
  | none => simp [credit?]
  | some d =>
    rw [credit?, Option.filter_some, Decimal.isPositive]
    by_cases positive : 0 < d.digits
    · rw [decide_eq_true positive, if_pos rfl]
      simp only [Option.map_some, Option.some.injEq]
      constructor
      · rintro rfl
        exact ⟨rfl, positive⟩
      · exact And.left
    · rw [decide_eq_false positive, if_neg (by simp)]
      simp only [Option.map_none, Option.map_some, Option.some.injEq, reduceCtorEq, false_iff,
        not_and]
      rintro rfl
      exact positive

/-- Why an amount can't be credited to a user for an order number. -/
def creditRefusal (t : Tables) (user : Uuid) (number : String) (amount : Int) : Option Failure :=
  match t.balance? user with
  | none => some (.userNotFound user.toText)
  | some b =>
    if Decimal.centLimit ≤ amount then some (.database overflow)
    else if (t.entry? .accrual number).isSome then some (.transactionExists number)
    else if Decimal.centLimit ≤ b.current + amount then some (.database overflow)
    else none

/-- Why the order of a number can't be settled with a credit or without. -/
def orderRefusal (t : Tables) (number : String) (credit : Option Int) : Option Failure :=
  if '\x00' ∈ number.toList then some (.database zeroByte)
  else
    match t.order? number with
    | none => some (.orderNotFound number)
    | some row =>
      if row.status.isTerminal then some (.orderAlreadyProcessed number)
      else credit.bind (creditRefusal t row.user number)

/-- Why an order is not settled, if it is not: the first of the reasons that hold. -/
def settlingRefusal (t : Tables) (number : String) (status : OrderStatus)
    (accrual : Option Decimal) : Option Failure :=
  if !status.isTerminal then
    some (.validation ("can't finalize order " ++ number ++ " with non-terminal status " ++
      status.name))
  else if accrual.any Decimal.isNegative then some (.validation "accrual: can't be negative")
  else orderRefusal t number (credit? (keptAccrual status accrual))

/-- A credit to a balance within its bounds has the reasons of a posting against it. -/
theorem creditRefusal_of_held {t : Tables} (schema : WithinSchema t) {user : Uuid} {b : BalanceRow}
    (held : t.balance? user = some b) (number : String) (amount : Int) :
    creditRefusal t user number amount = postingRefusal t b number .accrual amount := by
  obtain ⟨-, paid⟩ := schema.paid b (Tables.mem_of_balance? held).1
  have full : (Decimal.centLimit ≤ b.current + amount ∨ Decimal.centLimit ≤ b.withdrawn) ↔
      Decimal.centLimit ≤ b.current + amount := by omega
  simp only [creditRefusal, held, postingRefusal, BalanceRow.moved, full]

theorem orderRefusal_of_found {t : Tables} {number : String} {row : OrderRow}
    (text : '\x00' ∉ number.toList) (found : t.order? number = some row) (credit : Option Int) :
    orderRefusal t number credit =
      if row.status.isTerminal then some (.orderAlreadyProcessed number)
      else credit.bind (creditRefusal t row.user number) := by
  rw [orderRefusal, if_neg text, found]

/-- What an order that is settled with a credit has passed. -/
theorem creditRefusal_of_settlingRefusal {t : Tables} {number : String} {status : OrderStatus}
    {accrual : Option Decimal} {row : OrderRow} {c : Int}
    (free : settlingRefusal t number status accrual = none) (found : t.order? number = some row)
    (worth : credit? (keptAccrual status accrual) = some c) :
    creditRefusal t row.user number c = none := by
  unfold settlingRefusal orderRefusal at free
  rw [found, worth] at free
  split at free
  · cases free
  · split at free
    · cases free
    · split at free
      · cases free
      · dsimp only at free
        split at free
        · cases free
        · exact free

theorem room_of_creditRefusal {t : Tables} {user : Uuid} {number : String} {c : Int}
    {b : BalanceRow} (free : creditRefusal t user number c = none)
    (held : t.balance? user = some b) : b.current + c < Decimal.centLimit := by
  by_contra full
  simp only [creditRefusal, held] at free
  rw [if_pos (Int.not_lt.1 full)] at free
  split at free
  · cases free
  · split at free
    · cases free
    · cases free

/-- With room in the balance only an entry that is there already speaks against a credit. -/
theorem creditRefusal_of_room {t : Tables} {user : Uuid} {number : String} {c : Int}
    {b : BalanceRow} (held : t.balance? user = some b) (nonneg : 0 ≤ b.current)
    (room : b.current + c < Decimal.centLimit) :
    creditRefusal t user number c =
      if (t.entry? .accrual number).isSome then some (.transactionExists number) else none := by
  have fits : ¬ (Decimal.centLimit : Int) ≤ c := by omega
  simp only [creditRefusal, held]
  rw [if_neg fits, if_neg (Int.not_le.2 room)]

variable {d : State}

/-- An amount in hundredths is credited unless there is a reason against it. -/
theorem ends_crediting (created : d.created = true) (schema : WithinSchema d.tables)
    (nonneg : ∀ b ∈ d.tables.balances, 0 ≤ b.current) {user : Uuid} {number : String}
    {credit : Decimal} (text : '\x00' ∉ number.toList) (scale : credit.scale = 2)
    (positive : 0 < credit.digits) (owned : d.tables.hasUser user = true) :
    Db.Ends (lockBalance user >>= fun _ => postEntry user number .accrual credit) d fun r d' =>
      failure? r = creditRefusal d.tables user number credit.digits ∧
        ∀ x, r = .ok x → ∃ b e, d.tables.balance? user = some b ∧
          d' = { d with tables := d.tables.post b e } := by
  cases held : d.tables.balance? user with
  | none =>
    rw [creditRefusal, held]
    exact Db.Ends.bind_failed (ends_lockBalance_missing created held ⟨_, rfl, rfl, nofun⟩)
  | some b =>
    have present := (Tables.mem_of_balance? held).1
    have grown : 0 ≤ (b.moved .accrual credit.digits).current :=
      Int.add_nonneg (nonneg b present) positive.le
    rw [creditRefusal_of_held schema held]
    refine Db.Ends.bind_same (ends_lockBalance created held ⟨⟨_, rfl⟩, rfl⟩) fun _ => ?_
    refine (ends_postEntry created text scale positive owned held
      ⟨grown, (schema.paid b present).1⟩).mono fun r d' ended => ⟨ended.1, fun x answer => ?_⟩
    obtain ⟨e, posted⟩ := ended.2 x answer
    exact ⟨b, e, rfl, posted⟩

/-- The statements that settle an order fail for the first reason against it, and for no other. -/
theorem ends_settlement_cases (created : d.created = true) (schema : WithinSchema d.tables)
    (nonneg : ∀ b ∈ d.tables.balances, 0 ≤ b.current) (number : String) (status : OrderStatus)
    {kept : Option Decimal}
    (known : ∀ amount ∈ kept, amount.scale = 2 ∧ 0 ≤ amount.digits) :
    Db.Ends (settlement number status kept) d fun r _ =>
      failure? r = orderRefusal d.tables number (credit? kept) := by
  by_cases zero : '\x00' ∈ number.toList
  · rw [orderRefusal, if_pos zero]
    exact Db.Ends.bind_failed (ends_lockOrder_unsent created zero ⟨_, rfl, rfl⟩)
  cases found : d.tables.order? number with
  | none =>
    rw [orderRefusal, if_neg zero, found]
    exact Db.Ends.bind_failed (ends_lockOrder_missing created zero found ⟨_, rfl, rfl⟩)
  | some row =>
    rw [orderRefusal_of_found zero found]
    obtain ⟨present, rfl⟩ := Tables.mem_of_order? found
    refine Db.Ends.bind (P := fun o d' => o = row.record ∧ d = d')
      (ends_lockOrder created zero found ⟨_, rfl, rfl, rfl⟩) ?_
    intro _ _ locked
    obtain ⟨rfl, rfl⟩ := locked
    by_cases ended : row.status.isTerminal = true
    · rw [if_pos ended, if_pos (show row.record.status.isTerminal = true from ended)]
      exact Db.ends_fail rfl
    rw [if_neg ended, if_neg (show ¬ row.record.status.isTerminal = true from ended)]
    cases due : kept.filter Decimal.isPositive with
    | none =>
      -- what is kept without a credit is nothing
      have fits : ∀ amount ∈ kept, amount.nearestCent.natAbs < Decimal.centLimit := by
        intro amount given
        obtain ⟨scale, sign⟩ := known amount given
        have worthless : ¬ 0 < amount.digits := by
          simpa [Option.mem_def.1 given, Decimal.isPositive] using due
        have limit : 0 < Decimal.centLimit := by decide
        rw [Decimal.nearestCent_of_scale scale]
        omega
      rw [credit?, due]
      exact ends_updateOrder created status kept zero found fits fun _ _ => rfl
    | some credit =>
      obtain ⟨given, positive⟩ := Option.filter_eq_some_iff.1 due
      obtain ⟨scale, -⟩ := known credit given
      have worth : 0 < credit.digits := by simpa [Decimal.isPositive] using positive
      rw [credit?, due]
      dsimp only
      rw [← Db.bind_assoc]
      refine (ends_crediting created schema nonneg zero scale worth
        (schema.owned row present)).bind_cases (fun x d' credited => ?_) fun e _ refused => refused.1
      obtain ⟨free, posted⟩ := credited
      obtain ⟨b, e, held, rfl⟩ := posted x rfl
      have stays : (d.tables.post b e).order? row.number = some row := found
      have fits : ∀ amount ∈ kept, amount.nearestCent.natAbs < Decimal.centLimit := by
        intro amount same
        obtain rfl : credit = amount := Option.some.inj (given.symm.trans same)
        have room := room_of_creditRefusal free.symm held
        have sign := nonneg b (Tables.mem_of_balance? held).1
        rw [Decimal.nearestCent_of_scale scale]
        omega
      exact ends_updateOrder (d := { d with tables := d.tables.post b e }) created status kept zero
        stays fits fun _ _ => free

/-! ### The answer -/

theorem checkAccrual_of_negative {accrual : Option Decimal}
    (negative : accrual.any Decimal.isNegative = true) :
    checkAccrual accrual = .error ⟨"accrual", "can't be negative"⟩ := by
  cases accrual with
  | none => cases negative
  | some amount =>
    have below : amount.isNegative = true := negative
    rw [checkAccrual, Amount.checkNonNegative, if_pos below]

theorem checkAccrual_of_not_negative {accrual : Option Decimal}
    (nonneg : ¬ accrual.any Decimal.isNegative = true) : checkAccrual accrual = .ok () := by
  refine checkAccrual_eq_ok_iff.2 fun amount given => ?_
  rw [Option.mem_def.1 given, Option.any_some, Decimal.isNegative, decide_eq_true_iff] at nonneg
  exact Int.not_lt.1 nonneg

/-- An order is settled unless there is a reason against it, and the first reason is answered. -/
theorem failure?_finalize {s : Session} (closed : s.draft = none) (up : s.link = .up)
    (clear : s.faults = []) (created : s.store.created = true)
    (schema : WithinSchema s.store.tables) (nonneg : ∀ b ∈ s.store.tables.balances, 0 ≤ b.current)
    (number : String) (status : OrderStatus) (accrual : Option Decimal) :
    failure? (finalize number status accrual s).1 =
      settlingRefusal s.store.tables number status accrual := by
  unfold settlingRefusal
  cases terminal : status.isTerminal with
  | false =>
    unfold finalize
    rw [if_pos (by simp [terminal])]
    rfl
  | true =>
    rw [finalize_of_terminal terminal, if_neg (by simp)]
    by_cases negative : accrual.any Decimal.isNegative = true
    · rw [if_pos negative, checkAccrual_of_negative negative]
      rfl
    · have passed := checkAccrual_of_not_negative negative
      rw [if_neg negative, passed]
      exact Db.transaction_ends closed up clear
        (ends_settlement_cases created schema nonneg number status
          fun amount kept => (keptAccrual_eq_some passed kept).2)

theorem failure?_finalize_of_ready {s : Session} (ready : Ready s) (number : String)
    (status : OrderStatus) (accrual : Option Decimal) :
    failure? (finalize number status accrual s).1 =
      settlingRefusal s.store.tables number status accrual :=
  failure?_finalize ready.closed ready.up ready.clear ready.created
    ready.lawful.toWithinSchema (fun b among => (ready.lawful.covered b among).1) number status
    accrual

/-! ### The rows -/

/-- The accrual of an order in hundredths, as it is kept. -/
theorem kept_cents {status : OrderStatus} {accrual : Option Decimal}
    (passed : checkAccrual accrual = .ok ()) :
    (keptAccrual status accrual).map Decimal.nearestCent =
      (keptAccrual status accrual).map Decimal.digits := by
  refine Option.map_congr fun amount kept => ?_
  exact Decimal.nearestCent_of_scale (keptAccrual_eq_some passed kept).2.1

/-- The tables stay within their constraints when an order is settled. -/
theorem constraints_of_settles {t t' : Tables} {number : String} {status : OrderStatus}
    {accrual : Option Decimal} {o : Order} (lawful : Constraints t)
    (free : settlingRefusal t number status accrual = none)
    (terminal : status.isTerminal = true) (passed : checkAccrual accrual = .ok ())
    (settles : Settles number status (keptAccrual status accrual) t o t') : Constraints t' := by
  have schema : WithinSchema t' :=
    withinSchema_of_change lawful.toWithinSchema (change_of_settles terminal passed settles)
  cases settles with
  | alone row now found =>
    exact {
      schema with
      numbers := (Tables.map_number_setOrder t _).symm ▸ lawful.numbers
      single := lawful.single
      accounts := lawful.accounts
      covered := lawful.covered }
  | credited row b e now found pending posting isAccrual forOrder toOwner worth =>
    rw [kept_cents passed] at worth
    have due := credit?_eq_some_iff.2 ⟨worth, posting.positive⟩
    have held := posting.held
    rw [toOwner] at held
    have room := room_of_creditRefusal (creditRefusal_of_settlingRefusal free found due) held
    exact {
      schema with
      numbers := (Tables.map_number_setOrder (t.post b e) _).symm ▸ lawful.numbers
      single := (Tables.map_user_setBalance t (b.after e)).symm ▸ lawful.single
      accounts := by
        intro x hx
        obtain rfl | ⟨hx, -⟩ := (Tables.mem_balances_post posting.held).1 hx
        · rw [BalanceRow.user_after]
          exact lawful.accounts b (Tables.mem_of_balance? held).1
        · exact lawful.accounts x hx
      covered := by
        intro x hx
        obtain rfl | ⟨hx, -⟩ := (Tables.mem_balances_post posting.held).1 hx
        · refine ⟨posting.nonneg, ?_⟩
          have nonneg := posting.nonneg
          rw [BalanceRow.after, isAccrual, BalanceRow.moved] at nonneg ⊢
          dsimp only at nonneg ⊢
          omega
        · exact lawful.covered x hx }

/-- **An order is settled unless there is a reason against it.** The first reason is answered, and
nothing has changed then. Without one, the row of the order gets the status and, if there is one,
the accrual; an amount above zero is entered for the owner, whose balance grows by it; and every
other row stays as it is. -/
theorem settled_unless_refused (s : Session) (ready : Ready s) (number : String)
    (status : OrderStatus) (accrual : Option Decimal) :
    failure? (finalize number status accrual s).1 =
      settlingRefusal s.store.tables number status accrual ∧
    (∀ e, (finalize number status accrual s).1 = .error e →
      (finalize number status accrual s).2.store = s.store) ∧
    ∀ o, (finalize number status accrual s).1 = .ok o →
      ∃ (i : Nat) (row next : OrderRow) (now : Timestamp) (balances : List BalanceRow)
        (entries : List EntryRow),
        s.store.tables.orders[i]? = some row ∧ row.number = number ∧
        next = row.ended status ((keptAccrual status accrual).map Decimal.digits) now ∧
        o = next.record ∧
        (finalize number status accrual s).2.store = { s.store with
          tables := { s.store.tables with
            orders := s.store.tables.orders.set i next, balances, entries } } ∧
        match credit? (keptAccrual status accrual) with
        | none => balances = s.store.tables.balances ∧ entries = s.store.tables.entries
        | some c => ∃ j b id at_, s.store.tables.balances[j]? = some b ∧ b.user = row.user ∧
            balances = s.store.tables.balances.set j { b with current := b.current + c } ∧
            entries = s.store.tables.entries ++ [⟨id, at_, row.user, number, .accrual, c⟩] := by
  refine ⟨failure?_finalize_of_ready ready number status accrual, ?_⟩
  obtain ⟨-, failed, answered⟩ := allOrNothing_finalize number status accrual s ready.closed
  refine ⟨failed, fun o answer => ?_⟩
  obtain ⟨t, hstore, -, passed, settles⟩ := answered o answer
  rw [hstore]
  cases settles with
  | alone row now found pending nothingDue =>
    obtain ⟨present, rfl⟩ := Tables.mem_of_order? found
    obtain ⟨i, here⟩ := List.mem_iff_getElem?.1 present
    have due : credit? (keptAccrual status accrual) = none := by rw [credit?, nothingDue]; rfl
    have number : (row.ended status ((keptAccrual status accrual).map Decimal.digits) now).number =
        row.number := rfl
    rw [kept_cents passed, due, Tables.setOrder_eq_set ready.lawful.numbers here number]
    exact ⟨i, row, _, now, _, _, here, rfl, rfl, rfl, rfl, rfl, rfl⟩
  | credited row b e now found pending posting isAccrual forOrder toOwner worth =>
    obtain ⟨present, rfl⟩ := Tables.mem_of_order? found
    obtain ⟨i, here⟩ := List.mem_iff_getElem?.1 present
    obtain ⟨account, owner⟩ := Tables.mem_of_balance? posting.held
    obtain ⟨j, there⟩ := List.mem_iff_getElem?.1 account
    rw [kept_cents passed] at worth
    have due := credit?_eq_some_iff.2 ⟨worth, posting.positive⟩
    have number : (row.ended status (some e.amount) now).number = row.number := rfl
    have settled := Tables.setOrder_eq_set (t := s.store.tables.post b e) ready.lawful.numbers here
      number
    have grown : b.after e = { b with current := b.current + e.amount } := by
      rw [BalanceRow.after, isAccrual, BalanceRow.moved]
    have entry : e = ⟨e.id, e.processedAt, row.user, row.number, .accrual, e.amount⟩ := by
      rw [← toOwner, ← forOrder, ← isAccrual]
    rw [worth, due, settled, Tables.post_eq_set ready.lawful.single there e, grown]
    exact ⟨i, row, _, now, _, _, here, rfl, rfl, rfl, rfl, j, b, e.id, e.processedAt, there,
      owner.trans toOwner, rfl, by rw [← entry]⟩

theorem settled_unless_refused_patchwork :
    failure? (finalize "26" .processed (some ⟨5, 0⟩) patchwork).1 =
      some (.userNotFound (Uuid.toText ⟨2⟩)) ∧
    failure? (finalize "34" .processed (some ⟨5, 0⟩) patchwork).1 =
      some (.transactionExists "34") ∧
    (finalize "18" .processed (some ⟨12345, 3⟩) patchwork).2.store.tables.balances =
      [⟨⟨3⟩, ⟨1⟩, 11235, 0⟩] := by
  obtain ⟨answer, -, rows⟩ := settled_unless_refused patchwork ready_patchwork "18" .processed
    (some ⟨12345, 3⟩)
  refine ⟨?_, ?_, ?_⟩
  · rw [(settled_unless_refused patchwork ready_patchwork "26" .processed (some ⟨5, 0⟩)).1]
    decide +kernel
  · rw [(settled_unless_refused patchwork ready_patchwork "34" .processed (some ⟨5, 0⟩)).1]
    decide +kernel
  · have free :
        settlingRefusal patchwork.store.tables "18" .processed (some ⟨12345, 3⟩) = none := by
      decide +kernel
    have due : credit? (keptAccrual .processed (some ⟨12345, 3⟩)) = some 1235 := by decide
    rw [free] at answer
    cases outcome : (finalize "18" .processed (some ⟨12345, 3⟩) patchwork).1 with
    | error e =>
      rw [outcome] at answer
      cases answer
    | ok o =>
      obtain ⟨i, row, next, now, balances, entries, -, -, -, -, hstore, posted⟩ := rows o outcome
      rw [due] at posted
      obtain ⟨j, b, id, at_, there, -, rfl, -⟩ := posted
      rw [hstore]
      obtain ⟨rfl, rfl⟩ : j = 0 ∧ b = ⟨⟨3⟩, ⟨1⟩, 10000, 0⟩ := by
        cases j with
        | zero => exact ⟨rfl, (Option.some.inj there).symm⟩
        | succ j => cases there
      rfl

end Loyalty.Service
