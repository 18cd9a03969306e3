import Loyalty.Proofs.Service.Effect

/-!
# What the services change

An operation of the services changes the tables in one of few ways: it adds a user with a balance
of nothing, adds a new order, marks one, settles one with or without a credit, or posts a
withdrawal. `Change` lists them, each with what is known of the rows that it reads, so an
invariant of the tables is kept by every operation as soon as it is kept by every change.

Main statements: `changes_createUser`, `changes_registerOrder`, `changes_markProcessing`,
`changes_finalize` and `changes_withdraw`, for all arguments and whatever befalls the statements.
-/

namespace Loyalty.Service

open Loyalty.Store

/-- What an operation of the services makes of the tables. -/
inductive Change (t : Tables) : Tables → Prop where
  /-- It fails, or finds nothing to do. -/
  | nothing : Change t t
  | userCreated (row : UserRow) (id : Uuid) (free : t.hasUser row.id = false)
      (bare : t.balance? row.id = none) :
      Change t { t with
        users := t.users ++ [row], balances := t.balances ++ [⟨id, row.id, 0, 0⟩] }
  | orderRegistered (row : OrderRow) (free : t.order? row.number = none)
      (owned : t.hasUser row.user = true) (new : row.status = .new) (bare : row.accrual = none)
      (text : '\x00' ∉ row.number.toList) :
      Change t { t with orders := t.orders ++ [row] }
  | orderMarked (row : OrderRow) (now : Timestamp) (found : t.order? row.number = some row)
      (new : row.status = .new) :
      Change t (t.setOrder { row with status := .processing, modifiedAt := now })
  /-- An order ends and nothing is credited: it carries no accrual, or one of nothing. -/
  | orderSettled (row : OrderRow) (status : OrderStatus) (given : Option Int) (now : Timestamp)
      (found : t.order? row.number = some row) (pending : row.status.isTerminal = false)
      (terminal : status.isTerminal = true)
      (worthless : ∀ a, given = some a → status = .processed ∧ a = 0) :
      Change t (t.setOrder
        { row with status, accrual := given <|> row.accrual, modifiedAt := now })
  /-- An order ends and its accrual is credited to its owner. -/
  | orderCredited (row : OrderRow) (balance : BalanceRow) (entry : EntryRow) (now : Timestamp)
      (found : t.order? row.number = some row) (pending : row.status.isTerminal = false)
      (posting : Posting t balance entry) (isAccrual : entry.kind = .accrual)
      (forOrder : entry.order = row.number) (toOwner : entry.user = row.user) :
      Change t ((t.post balance entry).setOrder
        { row with status := .processed, accrual := some entry.amount, modifiedAt := now })
  | withdrawn (balance : BalanceRow) (entry : EntryRow) (posting : Posting t balance entry)
      (isWithdrawal : entry.kind = .withdrawal) :
      Change t (t.post balance entry)

/-- Outside of a transaction the operation changes the tables in one of these ways, nothing else
of the store, and leaves no transaction open. -/
def Changes {α : Type} (x : Db α) : Prop :=
  ∀ s : Session, s.draft = none → (x s).2.draft = none ∧
    ∃ t, (x s).2.store = { s.store with tables := t } ∧ Change s.store.tables t

variable {α β : Type}

/-! ### The rules -/

theorem changes_fail (e : Failure) : Changes (Db.fail e : Db α) :=
  fun s hs => ⟨hs, s.store.tables, rfl, .nothing⟩

theorem changes_checked {v : Except Violation Unit} {x : Db α} (h : v = .ok () → Changes x) :
    Changes (checked v >>= fun _ => x) := by
  cases v with
  | error e => exact changes_fail _
  | ok u => exact h rfl

/-- What fails changes nothing, so only the effect counts. -/
theorem changes_of_allOrNothing {x : Db α} {effect : Tables → α → Tables → Prop}
    (h : x.AllOrNothing effect) (known : ∀ t a t', effect t a t' → Change t t') : Changes x := by
  intro s hs
  obtain ⟨hdraft, failed, answered⟩ := h s hs
  cases answer : (x s).1 with
  | error e => exact ⟨hdraft, s.store.tables, failed e answer, .nothing⟩
  | ok a =>
    obtain ⟨t, hstore, effected⟩ := answered a answer
    exact ⟨hdraft, t, hstore, known _ _ _ effected⟩

theorem changes_statement {st : Statement} {explain : DatabaseError → Failure}
    {run : State → Answer (α × State)}
    (h : ∀ d a d', run d = .ok (a, d') → ∃ t, d' = { d with tables := t } ∧ Change d.tables t) :
    Changes (Db.statement st explain run) := by
  intro s hs
  obtain ⟨hdraft, ⟨e, -, hstore⟩ | ⟨a, -, answer⟩⟩ := Session.call_of_no_draft hs st run
  · exact ⟨hdraft, s.store.tables, hstore, .nothing⟩
  · exact ⟨hdraft, h _ _ _ answer⟩

/-- An operation that starts by something that touches neither the store nor the draft. -/
theorem changes_bind_left {x : Db β} {f : β → Db α}
    (hx : ∀ s : Session, ∃ b, (x s).1 = .ok b ∧ (x s).2.draft = s.draft ∧ (x s).2.store = s.store)
    (hf : ∀ b, Changes (f b)) : Changes (x >>= f) := by
  intro s hs
  obtain ⟨b, hb, hdraft, hstore⟩ := hx s
  have rest := hf b (x s).2 (hdraft.trans hs)
  have run : x s = (.ok b, (x s).2) := Prod.ext hb rfl
  rw [Db.bind_of_ok run, ← hstore]
  exact rest

theorem changes_fresh {f : Uuid → Db α} (hf : ∀ id, Changes (f id)) : Changes (Db.fresh >>= f) :=
  changes_bind_left (fun _ => ⟨_, rfl, rfl, rfl⟩) hf

theorem changes_now {f : Timestamp → Db α} (hf : ∀ now, Changes (f now)) :
    Changes (Db.now >>= f) := by
  refine changes_bind_left (fun s => ?_) hf
  simp only [Db.now]
  exact ⟨s.now, rfl, trivial, trivial⟩

/-- An operation that ends by judging what it was answered. -/
theorem changes_bind_right {x : Db β} {f : β → Db α} (hx : Changes x)
    (hf : ∀ b s, (f b s).2 = s) : Changes (x >>= f) := by
  intro s hs
  have first := hx s hs
  cases run : x s with
  | mk answer s' =>
    rw [run] at first
    cases answer with
    | ok b =>
      rw [Db.bind_of_ok run, hf b s']
      exact first
    | error e =>
      rw [Db.bind_of_error run]
      exact first

/-! ### Users and orders -/

theorem changes_createUser (username : String) : Changes (createUser username) := by
  refine changes_of_allOrNothing (allOrNothing_createUser username) fun t u t' enrols => ?_
  obtain ⟨row, id, -, -, free, bare, rfl⟩ := enrols
  exact .userCreated row id free bare

theorem changes_registerOrder (number : String) (user : Uuid) :
    Changes (registerOrder number user) := by
  refine changes_checked fun _ => changes_fresh fun id => changes_now fun now => ?_
  refine changes_bind_right (changes_statement fun d o d' answer => ?_) fun o s => ?_
  · obtain ⟨-, t, inserted, rfl⟩ := State.on_eq_ok.1 answer
    obtain ⟨text, ⟨stored, -, -, rfl⟩ | ⟨free, owned, -, rfl⟩⟩ :=
      Tables.insertOrder_eq_ok.1 inserted
    · exact ⟨_, rfl, .nothing⟩
    · exact ⟨_, rfl,
        .orderRegistered ⟨id, number, user, .new, none, now, now⟩ free owned rfl rfl text⟩
  · split <;> rfl

theorem changes_markProcessing (number : String) : Changes (markProcessing number) := by
  refine changes_now fun now => changes_statement fun d o d' answer => ?_
  obtain ⟨-, t, moved, rfl⟩ := State.on_eq_ok.1 answer
  obtain ⟨-, ⟨row, found, new, -, rfl⟩ | ⟨-, -, rfl⟩⟩ := Tables.moveOrder_eq_ok.1 moved
  · obtain ⟨-, rfl⟩ := Tables.mem_of_order? found
    exact ⟨_, rfl, .orderMarked row now found new⟩
  · exact ⟨_, rfl, .nothing⟩

/-! ### Settling an order -/

theorem change_of_settles {number : String} {status : OrderStatus} {accrual : Option Decimal}
    {t t' : Tables} {o : Order} (terminal : status.isTerminal = true)
    (passed : checkAccrual accrual = .ok ())
    (settles : Settles number status (keptAccrual status accrual) t o t') : Change t t' := by
  cases settles with
  | alone row now found pending nothingDue =>
    obtain ⟨-, rfl⟩ := Tables.mem_of_order? found
    refine .orderSettled row status _ now found pending terminal fun a given => ?_
    obtain ⟨amount, kept, rfl⟩ := Option.map_eq_some_iff.1 given
    obtain ⟨processed, scale, nonneg⟩ := keptAccrual_eq_some passed kept
    have zero : ¬ 0 < amount.digits := by simpa [kept, Decimal.isPositive] using nothingDue
    rw [Decimal.nearestCent_of_scale scale]
    exact ⟨processed, by omega⟩
  | credited row balance entry now found pending posting isAccrual forOrder toOwner worth =>
    obtain ⟨-, rfl⟩ := Tables.mem_of_order? found
    obtain ⟨amount, kept, -⟩ := Option.map_eq_some_iff.1 worth
    obtain ⟨rfl, -, -⟩ := keptAccrual_eq_some passed kept
    exact .orderCredited row balance entry now found pending posting isAccrual forOrder toOwner

theorem changes_finalize (number : String) (status : OrderStatus) (accrual : Option Decimal) :
    Changes (finalize number status accrual) := by
  refine changes_of_allOrNothing (allOrNothing_finalize number status accrual) ?_
  intro t o t' h
  obtain ⟨terminal, passed, settles⟩ := h
  exact change_of_settles terminal passed settles

/-! ### Withdrawals -/

theorem changes_withdraw (user : Uuid) (number : String) (amount : Decimal) :
    Changes (withdraw user number amount) := by
  refine changes_of_allOrNothing (allOrNothing_withdraw user number amount) ?_
  intro t b t' withdraws
  obtain ⟨held, e, posting, -, -, isWithdrawal, -, -, rfl⟩ := withdraws
  exact .withdrawn held e posting isWithdrawal

end Loyalty.Service
