import Loyalty.Proofs.Store.Posting

/-!
# The effects of the services

A service that needs several statements runs them as one transaction. `Db.AllOrNothing` says what
that comes to: a failure, at whichever statement, leaves the store as it was, and an answer comes
with an effect as a whole. The effect is a relation between the tables before, the answer and the
tables after: `Enrols` for a new user, `Settles` for an order that ends, `Withdraws` for a
withdrawal. Each is read off the statements of its body once, and later proofs use the relation.

Main statements: `allOrNothing_createUser`, `allOrNothing_finalize` and `allOrNothing_withdraw`.
-/

namespace Loyalty.Store.Db

theorem bind_assoc {α β γ : Type} (x : Db α) (f : α → Db β) (g : β → Db γ) :
    x >>= f >>= g = x >>= fun a => f a >>= g := by
  funext s
  change bind (bind x f) g s = bind x (fun a => bind (f a) g) s
  simp only [bind]
  rcases x s with ⟨answer, s'⟩
  cases answer <;> rfl

/-- Outside of a transaction the operation leaves none open; when it fails the store is as it was,
and when it answers the tables have changed as `effect` says and nothing else has. -/
def AllOrNothing {α : Type} (x : Db α) (effect : Tables → α → Tables → Prop) : Prop :=
  ∀ s : Session, s.draft = none → (x s).2.draft = none ∧
    (∀ e, (x s).1 = .error e → (x s).2.store = s.store) ∧
    ∀ a, (x s).1 = .ok a →
      ∃ t, (x s).2.store = { s.store with tables := t } ∧ effect s.store.tables a t

variable {α : Type} {effect : Tables → α → Tables → Prop}

theorem allOrNothing_fail (e : Failure) : AllOrNothing (fail e) effect :=
  fun _ hs => ⟨hs, fun _ _ => rfl, fun _ answered => nomatch answered⟩

/-- A transaction is judged by what its body makes of the draft. -/
theorem allOrNothing_transaction {body : Db α}
    (h : ∀ d, body.Within d fun a d' => ∃ t, d' = { d with tables := t } ∧ effect d.tables a t) :
    AllOrNothing (transaction body) effect := by
  intro s hs
  obtain ⟨hdraft, ⟨e, failed, hstore⟩ | ⟨a, answered, ht⟩⟩ := transaction_cases hs (h s.store)
  · refine ⟨hdraft, fun _ _ => hstore, fun b answered => ?_⟩
    rw [failed] at answered
    cases answered
  · refine ⟨hdraft, fun e failed => ?_, fun b again => ?_⟩
    · rw [answered] at failed
      cases failed
    · rw [answered] at again
      cases again
      exact ht

end Loyalty.Store.Db

namespace Loyalty.Service

open Loyalty.Store

theorem allOrNothing_checked {α : Type} {effect : Tables → α → Tables → Prop}
    {v : Except Violation Unit} {x : Db α} (h : v = .ok () → x.AllOrNothing effect) :
    (checked v >>= fun _ => x).AllOrNothing effect := by
  cases v with
  | error e => exact Db.allOrNothing_fail _
  | ok u => exact h rfl

/-! ### A new user -/

/-- A user of the given name was added, with a balance of nothing. -/
def Enrols (username : String) (t : Tables) (u : User) (t' : Tables) : Prop :=
  ∃ (row : UserRow) (id : Uuid), u = row.record ∧ row.username = username ∧
    t.hasUser row.id = false ∧ t.balance? row.id = none ∧
    t' = { t with
      users := t.users ++ [row], balances := t.balances ++ [⟨id, row.id, 0, 0⟩] }

def enrolment (username : String) : Db User := do
  let id ← Db.fresh
  let now ← Db.now
  let user ← Db.statement .insertUser (fun e =>
      if e.isUniqueViolation then .validation ("username " ++ username ++ " is already taken")
      else .database e)
    (State.on "users" fun t => t.insertUser ⟨id, username, now⟩)
  let _ ← createBalance user.id
  return user

theorem within_enrolment (username : String) (d : State) :
    Db.Within (enrolment username) d fun u d' =>
      ∃ t, d' = { d with tables := t } ∧ Enrols username d.tables u t := by
  refine Db.Within.bind_same (Db.within_fresh fun _ => rfl) fun id => ?_
  refine Db.Within.bind_same (Db.within_now fun _ => rfl) fun now => ?_
  refine Db.Within.bind (P := fun u d' => u = UserRow.record ⟨id, username, now⟩ ∧
    d.tables.hasUser id = false ∧
    d' = { d with tables := { d.tables with users := d.tables.users ++ [⟨id, username, now⟩] } })
    (Db.within_statement fun u d' answer => ?_) ?_
  · obtain ⟨-, t, inserted, rfl⟩ := State.on_eq_ok.1 answer
    obtain ⟨-, free, -, rfl, rfl⟩ := Tables.insertUser_eq_ok.1 inserted
    exact ⟨rfl, free, rfl⟩
  · intro u _ inserted
    obtain ⟨rfl, free, rfl⟩ := inserted
    refine Db.Within.bind (P := fun _ d' => ∃ t, d' = { d with tables := t } ∧
      Enrols username d.tables (UserRow.record ⟨id, username, now⟩) t) ?_
      fun _ _ h => Db.Within.pure h
    refine Db.Within.bind_same (Db.within_fresh fun _ => rfl) fun balance => ?_
    refine Db.within_statement fun b d' answer => ?_
    obtain ⟨-, t, inserted, rfl⟩ := State.on_eq_ok.1 answer
    obtain ⟨bare, -, rfl, rfl⟩ := Tables.insertBalance_eq_ok.1 inserted
    exact ⟨_, rfl, ⟨id, username, now⟩, balance, rfl, rfl, free, bare, rfl⟩

theorem allOrNothing_createUser (username : String) :
    (createUser username).AllOrNothing (Enrols username) :=
  Db.allOrNothing_transaction (within_enrolment username)

/-! ### Settling an order -/

/-- What is kept of the accrual of an order that ends in a status. -/
def keptAccrual (status : OrderStatus) (accrual : Option Decimal) : Option Decimal :=
  if status = .processed then accrual.map Decimal.roundAmount else none

/-- An order that had not ended was settled in the given status, with what is kept of its accrual.
The owner was credited for it if it is above zero. -/
inductive Settles (number : String) (status : OrderStatus) (kept : Option Decimal) (t : Tables) :
    Order → Tables → Prop
  | alone (row : OrderRow) (now : Timestamp) (found : t.order? number = some row)
      (pending : row.status.isTerminal = false)
      (nothingDue : kept.filter Decimal.isPositive = none) :
      Settles number status kept t (row.ended status (kept.map Decimal.nearestCent) now).record
        (t.setOrder (row.ended status (kept.map Decimal.nearestCent) now))
  | credited (row : OrderRow) (balance : BalanceRow) (entry : EntryRow) (now : Timestamp)
      (found : t.order? number = some row) (pending : row.status.isTerminal = false)
      (posting : Posting t balance entry) (isAccrual : entry.kind = .accrual)
      (forOrder : entry.order = number) (toOwner : entry.user = row.user)
      (worth : kept.map Decimal.nearestCent = some entry.amount) :
      Settles number status kept t (row.ended status (some entry.amount) now).record
        ((t.post balance entry).setOrder (row.ended status (some entry.amount) now))

def settlement (number : String) (status : OrderStatus) (kept : Option Decimal) : Db Order := do
  let order ← lockOrder number
  if order.status.isTerminal then Db.fail (.orderAlreadyProcessed number)
  else
    match kept.filter Decimal.isPositive with
    | none => updateOrder number (some status) kept
    | some credit =>
      let _ ← lockBalance order.user
      let _ ← postEntry order.user order.number .accrual credit
      updateOrder number (some status) kept

/-- The check on an accrual that may be missing. -/
def checkAccrual (accrual : Option Decimal) : Except Violation Unit :=
  match accrual with
  | some amount => Amount.checkNonNegative amount
  | none => .ok ()

theorem finalize_of_terminal {number : String} {status : OrderStatus} {accrual : Option Decimal}
    (h : status.isTerminal = true) :
    finalize number status accrual = checked (checkAccrual accrual) >>= fun _ =>
      Db.transaction (settlement number status (keptAccrual status accrual)) := by
  unfold finalize
  rw [if_neg (by simp [h])]
  refine congrArg (checked (checkAccrual accrual) >>= ·) (funext fun _ => ?_)
  refine congrArg Db.transaction (congrArg (lockOrder number >>= ·) (funext fun order => ?_))
  dsimp only
  rw [show (if status = .processed then accrual.map Decimal.roundAmount else none) =
    keptAccrual status accrual from rfl]
  by_cases ended : order.status.isTerminal
  · rw [if_pos ended, if_pos ended]
    rfl
  · rw [if_neg ended, if_neg ended]
    generalize (keptAccrual status accrual).filter Decimal.isPositive = credit
    cases credit with
    | none => rfl
    | some credit => simp only [postEntry, Db.bind_assoc]

/-- An accrual passes the check unless it is below zero. -/
theorem checkAccrual_eq_ok_iff {accrual : Option Decimal} :
    checkAccrual accrual = .ok () ↔ ∀ amount ∈ accrual, 0 ≤ amount.digits := by
  cases accrual with
  | none => simp [checkAccrual]
  | some amount => simp [checkAccrual, Amount.checkNonNegative, Decimal.isNegative]

/-- An accrual that is kept is that of a processed order, in whole hundredths and not below
zero. -/
theorem keptAccrual_eq_some {status : OrderStatus} {accrual : Option Decimal} {amount : Decimal}
    (checked : checkAccrual accrual = .ok ()) (h : keptAccrual status accrual = some amount) :
    status = .processed ∧ amount.scale = 2 ∧ 0 ≤ amount.digits := by
  unfold keptAccrual at h
  split at h
  next processed =>
    obtain ⟨given, rfl, rfl⟩ := Option.map_eq_some_iff.1 h
    have nonneg : 0 ≤ given.digits := checkAccrual_eq_ok_iff.1 checked given rfl
    exact ⟨processed, Decimal.roundAmount_scale _, Decimal.roundAmount_nonneg nonneg⟩
  next => cases h

/-- What the statements that settle an order make of the draft. -/
theorem within_settlement (number : String) (status : OrderStatus) (kept : Option Decimal)
    (d : State) :
    Db.Within (settlement number status kept) d fun o d' =>
      ∃ t, d' = { d with tables := t } ∧ Settles number status kept d.tables o t := by
  refine Db.Within.bind (P := fun o d' => ∃ row, d.tables.order? number = some row ∧
    o = row.record ∧ d = d') (within_lockOrder number fun row found => ⟨row, found, rfl, rfl⟩) ?_
  intro _ _ locked
  obtain ⟨row, found, rfl, rfl⟩ := locked
  obtain ⟨-, rfl⟩ := Tables.mem_of_order? found
  split
  · exact Db.within_fail _
  next unended =>
    have pending : row.status.isTerminal = false := by simpa [OrderRow.record] using unended
    cases credited : kept.filter Decimal.isPositive with
    | none =>
      refine within_updateOrder row.number status kept fun row' now found' => ?_
      obtain rfl : row = row' := Option.some.inj (found.symm.trans found')
      exact ⟨_, rfl, .alone row now found pending credited⟩
    | some credit =>
      obtain rfl : kept = some credit := (Option.filter_eq_some_iff.1 credited).1
      refine Db.Within.bind_same (within_lockBalance _ fun _ _ => rfl) fun _ => ?_
      refine Db.Within.bind (within_postEntry row.user row.number .accrual credit
        (Q := fun _ d' => ∃ b e, Posting d.tables b e ∧
          (e.user = row.user ∧ e.order = row.number ∧ e.kind = .accrual ∧
            e.amount = credit.nearestCent) ∧ d' = { d with tables := d.tables.post b e })
        fun b e posting hu ho hk ha => ⟨b, e, posting, ⟨hu, ho, hk, ha⟩, rfl⟩) ?_
      intro _ _ posted
      obtain ⟨b, e, posting, ⟨hu, ho, hk, ha⟩, rfl⟩ := posted
      refine within_updateOrder row.number status (some credit) fun row' now found' => ?_
      obtain rfl : row = row' := Option.some.inj (found.symm.trans found')
      have worth : (some credit).map Decimal.nearestCent = some e.amount := by
        rw [Option.map_some, ha]
      rw [worth]
      exact ⟨_, rfl, .credited row b e now found pending posting hk ho hu worth⟩

theorem allOrNothing_finalize (number : String) (status : OrderStatus) (accrual : Option Decimal) :
    (finalize number status accrual).AllOrNothing fun t o t' =>
      status.isTerminal = true ∧ checkAccrual accrual = .ok () ∧
        Settles number status (keptAccrual status accrual) t o t' := by
  cases terminal : status.isTerminal with
  | false =>
    unfold finalize
    rw [if_pos (by simp [terminal])]
    exact Db.allOrNothing_fail _
  | true =>
    rw [finalize_of_terminal terminal]
    refine allOrNothing_checked fun passed => Db.allOrNothing_transaction fun d => ?_
    refine (within_settlement number status _ d).mono fun o d' h => ?_
    obtain ⟨t, rfl, settles⟩ := h
    exact ⟨t, rfl, rfl, passed, settles⟩

/-! ### Withdrawals -/

/-- The amount, to the hundredth, was taken from the balance of the user and entered into the
ledger. -/
def Withdraws (user : Uuid) (number : String) (amount : Decimal) (t : Tables) (b : Balance)
    (t' : Tables) : Prop :=
  ∃ (held : BalanceRow) (e : EntryRow), Posting t held e ∧ e.user = user ∧ e.order = number ∧
    e.kind = .withdrawal ∧ e.amount = amount.nearestCent ∧ b = (held.after e).record ∧
    t' = t.post held e

theorem allOrNothing_withdraw (user : Uuid) (number : String) (amount : Decimal) :
    (withdraw user number amount).AllOrNothing (Withdraws user number amount.roundAmount) := by
  refine allOrNothing_checked fun _ => allOrNothing_checked fun _ => ?_
  refine Db.allOrNothing_transaction fun d => ?_
  refine Db.Within.bind_same (within_lockBalance user fun _ _ => rfl) fun balance => ?_
  dsimp only
  split
  · exact Db.Within.bind (P := fun _ _ => False) (Db.within_fail _) fun _ _ h => h.elim
  · refine within_postEntry user number .withdrawal amount.roundAmount ?_
    intro held e posting hu ho hk ha
    exact ⟨_, rfl, held, e, posting, hu, ho, hk, ha, rfl, rfl⟩

end Loyalty.Service
