import Loyalty.Proofs.Ledger.Agreement
import Loyalty.Proofs.Ledger.Credit
import Loyalty.Proofs.Ledger.Schema
import Loyalty.Proofs.Store.Completion

/-!
# What has happened stays

The tables only grow. `Kept` says so of the rows of one table: each row stays in its place, and
becomes a row that the table allows. Users and ledger entries stay as they are, a balance keeps its
user, and an order goes its way from new to its end; `OrderRow.Onward` is that way, and an order
that has ended does not move on it any more. `Continues` says all of this of the tables.

A change replaces the rows of one key, so it is the uniqueness of the keys that keeps it from
touching another row.

Main statement: `history_stays`, for every history and whatever comes after it.
-/

namespace Loyalty.Store

/-! ### Rows that stay in their places -/

/-- Each row stays in its place and becomes one that `R` allows. New rows come after them. -/
def Kept {α : Type} (R : α → α → Prop) (rows rows' : List α) : Prop :=
  ∀ (i : Nat) (x : α), rows[i]? = some x → ∃ y, rows'[i]? = some y ∧ R x y

section Kept

variable {α : Type} {R : α → α → Prop} {rows rows' rows'' : List α}

theorem Kept.refl (same : ∀ x, R x x) (rows : List α) : Kept R rows rows :=
  fun _ x here => ⟨x, here, same x⟩

theorem Kept.trans (through : ∀ x y z, R x y → R y z → R x z) (h : Kept R rows rows')
    (h' : Kept R rows' rows'') : Kept R rows rows'' := by
  intro i x here
  obtain ⟨y, there, xy⟩ := h i x here
  obtain ⟨z, beyond, yz⟩ := h' i y there
  exact ⟨z, beyond, through x y z xy yz⟩

theorem Kept.append (same : ∀ x, R x x) (rows added : List α) : Kept R rows (rows ++ added) := by
  intro i x here
  have inside : i < rows.length := (List.getElem?_eq_some_iff.1 here).1
  refine ⟨x, ?_, same x⟩
  rw [List.getElem?_append_left inside]
  exact here

theorem Kept.map {f : α → α} (each : ∀ x ∈ rows, R x (f x)) : Kept R rows (rows.map f) := by
  intro i x here
  refine ⟨f x, ?_, each x (List.mem_of_getElem? here)⟩
  rw [List.getElem?_map, here, Option.map_some]

/-- A row that is put in the place of the one of its key leaves the others alone. -/
theorem Kept.replace {κ : Type} [DecidableEq κ] (key : α → κ) (same : ∀ x, R x x)
    (unique : (rows.map key).Nodup) {old row : α} (there : old ∈ rows) (keyed : key row = key old)
    (moved : R old row) :
    Kept R rows (rows.map fun x => if key x = key row then row else x) := by
  refine Kept.map fun x hx => ?_
  by_cases own : key x = key row
  · obtain rfl : x = old := List.inj_on_of_nodup_map unique hx there (own.trans keyed)
    rw [if_pos own]
    exact moved
  · rw [if_neg own]
    exact same x

end Kept

/-! ### Orders and balances over time -/

/-- The second row is that of the same order, as it is then or later. -/
structure OrderRow.Onward (o o' : OrderRow) : Prop where
  id : o'.id = o.id
  number : o'.number = o.number
  user : o'.user = o.user
  uploadedAt : o'.uploadedAt = o.uploadedAt
  ended : o.status.isTerminal = true → o' = o
  started : o.status = .processing → o'.status ≠ .new

theorem OrderRow.Onward.refl (o : OrderRow) : o.Onward o where
  id := rfl
  number := rfl
  user := rfl
  uploadedAt := rfl
  ended := fun _ => rfl
  started := fun processing new => by rw [processing] at new; cases new

theorem OrderRow.Onward.trans (x y z : OrderRow) (h : x.Onward y) (h' : y.Onward z) :
    x.Onward z where
  id := h'.id.trans h.id
  number := h'.number.trans h.number
  user := h'.user.trans h.user
  uploadedAt := h'.uploadedAt.trans h.uploadedAt
  ended := by
    intro terminal
    have same := h.ended terminal
    rw [same] at h'
    exact h'.ended terminal
  started := by
    intro processing new
    have unstarted := h.started processing
    cases status : y.status with
    | new => exact unstarted status
    | processing => exact h'.started status new
    | invalid =>
      rw [h'.ended (by rw [status]; rfl), status] at new
      cases new
    | processed =>
      rw [h'.ended (by rw [status]; rfl), status] at new
      cases new

/-- An order that has not ended may get another status, but not that of a new one. -/
theorem OrderRow.Onward.of_pending {row next : OrderRow} (pending : row.status.isTerminal = false)
    (id : next.id = row.id) (number : next.number = row.number) (user : next.user = row.user)
    (uploadedAt : next.uploadedAt = row.uploadedAt) (started : next.status ≠ .new) :
    row.Onward next where
  id := id
  number := number
  user := user
  uploadedAt := uploadedAt
  ended := by
    intro terminal
    rw [terminal] at pending
    cases pending
  started := fun _ => started

structure BalanceRow.SameAccount (b b' : BalanceRow) : Prop where
  id : b'.id = b.id
  user : b'.user = b.user

theorem BalanceRow.SameAccount.refl (b : BalanceRow) : b.SameAccount b := ⟨rfl, rfl⟩

theorem BalanceRow.SameAccount.trans (x y z : BalanceRow) (h : x.SameAccount y)
    (h' : y.SameAccount z) : x.SameAccount z :=
  ⟨h'.id.trans h.id, h'.user.trans h.user⟩

theorem BalanceRow.sameAccount_after (b : BalanceRow) (e : EntryRow) :
    b.SameAccount (b.after e) := by
  unfold after moved
  split
  · exact ⟨rfl, rfl⟩
  · exact ⟨rfl, rfl⟩

/-! ### The tables over time -/

/-- The second tables are the first at some later time. -/
structure Continues (t t' : Tables) : Prop where
  users : Kept (· = ·) t.users t'.users
  balances : Kept BalanceRow.SameAccount t.balances t'.balances
  orders : Kept OrderRow.Onward t.orders t'.orders
  entries : Kept (· = ·) t.entries t'.entries

theorem Continues.refl (t : Tables) : Continues t t where
  users := Kept.refl (fun _ => rfl) _
  balances := Kept.refl BalanceRow.SameAccount.refl _
  orders := Kept.refl OrderRow.Onward.refl _
  entries := Kept.refl (fun _ => rfl) _

theorem Continues.trans {t t' t'' : Tables} (h : Continues t t') (h' : Continues t' t'') :
    Continues t t'' where
  users := h.users.trans (fun _ _ _ => Eq.trans) h'.users
  balances := h.balances.trans BalanceRow.SameAccount.trans h'.balances
  orders := h.orders.trans OrderRow.Onward.trans h'.orders
  entries := h.entries.trans (fun _ _ _ => Eq.trans) h'.entries

theorem Continues.setOrder {t : Tables} (numbers : (t.orders.map OrderRow.number).Nodup)
    {row next : OrderRow} (found : t.order? row.number = some row) (onward : row.Onward next) :
    Continues t (t.setOrder next) :=
  { Continues.refl t with
    orders := Kept.replace OrderRow.number OrderRow.Onward.refl numbers
      (Tables.mem_of_order? found).1 onward.number onward }

theorem Continues.post {t : Tables} (single : (t.balances.map (·.user)).Nodup) {b : BalanceRow}
    {e : EntryRow} (held : t.balance? e.user = some b) : Continues t (t.post b e) :=
  { Continues.refl t with
    balances := Kept.replace BalanceRow.user BalanceRow.SameAccount.refl single
      (Tables.mem_of_balance? held).1 (BalanceRow.user_after b e) (b.sameAccount_after e)
    entries := Kept.append (fun _ => rfl) t.entries [e] }

end Loyalty.Store

namespace Loyalty.Service

open Loyalty.Store

theorem continues_of_change {t t' : Tables} (numbers : (t.orders.map OrderRow.number).Nodup)
    (single : (t.balances.map (·.user)).Nodup) (change : Change t t') : Continues t t' := by
  cases change with
  | nothing => exact Continues.refl t
  | userCreated row id =>
    exact { Continues.refl t with
      users := Kept.append (fun _ => rfl) _ _
      balances := Kept.append BalanceRow.SameAccount.refl _ _ }
  | orderRegistered row =>
    exact { Continues.refl t with orders := Kept.append OrderRow.Onward.refl _ _ }
  | orderMarked row now found new =>
    have pending : row.status.isTerminal = false := by rw [new]; rfl
    exact .setOrder numbers found (.of_pending pending rfl rfl rfl rfl nofun)
  | orderSettled row status given now found pending terminal =>
    have started : status ≠ .new := by
      intro new
      rw [new] at terminal
      cases terminal
    exact .setOrder numbers found (.of_pending pending rfl rfl rfl rfl started)
  | orderCredited row b e now found pending posting =>
    have posted : Continues t (t.post b e) := .post single posting.held
    have stays : (t.post b e).order? row.number = some row := found
    have kept : ((t.post b e).orders.map OrderRow.number).Nodup := numbers
    have onward : row.Onward (row.ended .processed (some e.amount) now) :=
      .of_pending pending rfl rfl rfl rfl nofun
    exact posted.trans (Continues.setOrder kept stays onward)
  | withdrawn b e posting => exact .post single posting.held

/-- Whatever is called after a history, its rows stay. -/
theorem continues_history (s : Session) (calls more : List Call) :
    Continues (history s calls).store.tables (history s (calls ++ more)).store.tables := by
  induction more using List.reverseRecOn with
  | nil =>
    rw [List.append_nil]
    exact Continues.refl _
  | append_singleton more c ih =>
    rw [← List.append_assoc, history_append_singleton]
    obtain ⟨-, t, hstore, change⟩ := Call.run_change (history_settled s (calls ++ more)).1 c
    have numbers := (credited_history s (calls ++ more)).numbers
    have single := (agreement_history s (calls ++ more)).single
    rw [hstore]
    exact ih.trans (continues_of_change numbers single change)

/-! ### An order that is settled again -/

/-- The statements that settle an order leave at the first one when the order has ended. -/
theorem ends_settlement_of_ended {d : State} (created : d.created = true) {o : OrderRow}
    (text : '\x00' ∉ o.number.toList) (found : d.tables.order? o.number = some o)
    (ended : o.status.isTerminal = true) (status : OrderStatus) (kept : Option Decimal) :
    Db.Ends (settlement o.number status kept) d fun r _ =>
      r = .error (.orderAlreadyProcessed o.number) := by
  refine Db.Ends.bind (P := fun x d' => x = o.record ∧ d = d')
    (ends_lockOrder created text found ⟨_, rfl, rfl, rfl⟩) ?_
  intro _ _ locked
  obtain ⟨rfl, rfl⟩ := locked
  rw [if_pos (show o.record.status.isTerminal = true from ended)]
  exact Db.ends_fail rfl

/-- An order that has ended is not settled again, whatever befalls the attempt. -/
theorem finalize_of_ended {s : Session} (settled : s.draft = none) {o : OrderRow}
    (found : s.store.tables.order? o.number = some o) (ended : o.status.isTerminal = true)
    (status : OrderStatus) (accrual : Option Decimal) :
    (∃ e, (finalize o.number status accrual s).1 = .error e) ∧
      (finalize o.number status accrual s).2.store = s.store := by
  obtain ⟨-, failed, answered⟩ := allOrNothing_finalize o.number status accrual s settled
  cases answer : (finalize o.number status accrual s).1 with
  | error e => exact ⟨⟨e, rfl⟩, failed e answer⟩
  | ok x =>
    obtain ⟨t, -, -, -, settles⟩ := answered x answer
    have unended : ∀ row, s.store.tables.order? o.number = some row →
        row.status.isTerminal = false → False := by
      intro row found' pending
      obtain rfl := Option.some.inj (found.symm.trans found')
      rw [ended] at pending
      cases pending
    cases settles with
    | alone row now found' pending => exact (unended row found' pending).elim
    | credited row balance entry now found' pending => exact (unended row found' pending).elim

/-- With a connection and without faults the attempt is refused for that reason. -/
theorem finalize_of_ended_eq {s : Session} (settled : s.draft = none) (up : s.link = .up)
    (clear : s.faults = []) (created : s.store.created = true) {o : OrderRow}
    (text : '\x00' ∉ o.number.toList) (found : s.store.tables.order? o.number = some o)
    (ended : o.status.isTerminal = true) {status : OrderStatus} (terminal : status.isTerminal = true)
    {accrual : Option Decimal} (nonneg : ∀ amount ∈ accrual, 0 ≤ amount.value) :
    (finalize o.number status accrual s).1 = .error (.orderAlreadyProcessed o.number) := by
  have passed : checkAccrual accrual = .ok () :=
    checkAccrual_eq_ok_iff.2 fun amount given => Decimal.value_nonneg_iff.1 (nonneg amount given)
  rw [finalize_of_terminal terminal, passed]
  exact Db.transaction_ends settled up clear
    (ends_settlement_of_ended created text found ended status (keptAccrual status accrual))

/-! ### Every history -/

/-- **What has happened stays.** Whatever is called after a history: every row stays in its place,
users and ledger entries as they are, balances with their users, and orders on their way from new to
their end. An order that has ended stays as it is, is still found by its number, and to settle it
again changes nothing in the store and fails, without other faults because it has ended already. -/
theorem history_stays (s : Session) (calls more : List Call) :
    Continues (history s calls).store.tables (history s (calls ++ more)).store.tables ∧
    ∀ o ∈ (history s calls).store.tables.orders, o.status.isTerminal = true →
      (history s (calls ++ more)).store.tables.order? o.number = some o ∧
      ∀ (status : OrderStatus) (accrual : Option Decimal), status.isTerminal = true →
        (∀ amount ∈ accrual, 0 ≤ amount.value) →
        (∀ link faults,
          (∃ e, (finalize o.number status accrual
            { history s (calls ++ more) with link, faults }).1 = .error e) ∧
          (finalize o.number status accrual
            { history s (calls ++ more) with link, faults }).2.store =
              (history s (calls ++ more)).store) ∧
        (finalize o.number status accrual
          { history s (calls ++ more) with link := .up, faults := [] }).1 =
            .error (.orderAlreadyProcessed o.number) := by
  have continues := continues_history s calls more
  refine ⟨continues, fun o ho ended => ?_⟩
  have numbers := (credited_history s (calls ++ more)).numbers
  have schema := withinSchema_history s (calls ++ more)
  obtain ⟨settled, created⟩ := history_settled s (calls ++ more)
  have present : o ∈ (history s (calls ++ more)).store.tables.orders := by
    obtain ⟨i, here⟩ := List.mem_iff_getElem?.1 ho
    obtain ⟨o', there, onward⟩ := continues.orders i o here
    rw [onward.ended ended] at there
    exact List.mem_of_getElem? there
  have found := Tables.order?_of_mem numbers present
  refine ⟨found, fun status accrual terminal nonneg => ⟨fun link faults => ?_, ?_⟩⟩
  · exact finalize_of_ended (s := { history s (calls ++ more) with link, faults }) settled found
      ended status accrual
  · exact finalize_of_ended_eq (s := { history s (calls ++ more) with link := .up, faults := [] })
      settled rfl rfl created (schema.text o present) found ended terminal nonneg

/-- The order of `creditAndWithdrawal` meets a withdrawal, a late mark and a second settling against
its own number. -/
theorem history_stays_creditAndWithdrawal :
    (finalize "79927398713" .invalid none
      { history {} (creditAndWithdrawal ++ [⟨.withdraw ⟨1⟩ "79927398713" ⟨1, 0⟩, .up, []⟩,
        ⟨.markProcessing "79927398713", .up, []⟩]) with link := .up, faults := [] }).1 =
      .error (.orderAlreadyProcessed "79927398713") := by
  have order : (⟨⟨3⟩, "79927398713", ⟨1⟩, .processed, some 10051, ⟨0, 1000⟩, ⟨0, 3000⟩⟩ : OrderRow) ∈
      (history {} creditAndWithdrawal).store.tables.orders := by decide +kernel
  obtain ⟨-, again⟩ := (history_stays {} creditAndWithdrawal
    [⟨.withdraw ⟨1⟩ "79927398713" ⟨1, 0⟩, .up, []⟩, ⟨.markProcessing "79927398713", .up, []⟩]).2
    _ order rfl
  exact (again .invalid none rfl nofun).2

end Loyalty.Service
