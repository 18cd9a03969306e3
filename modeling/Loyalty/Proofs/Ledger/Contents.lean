import Loyalty.Proofs.Store.Posting

/-!
# What the tables say

The tables stamp what they keep: an entry has an identifier and a time of its own, and an order the
time of its last change. `Contents` leaves the stamps out, and the order of the entries with them,
so tables of the same contents tell the same of users, balances, orders and credits.

To settle an order is to replace its row and to add its credit, here as one step, `Contents.settle`.

Main statement: `Contents.settle_comm`, by which orders of different numbers may be settled in
either order.
-/

namespace Loyalty

/-- The order as it is answered, but for the time of its last change. -/
def Order.undated (o : Order) : Order := { o with modifiedAt := o.uploadedAt }

end Loyalty

namespace Loyalty.Store

/-! ### Leaving out stamps -/

def OrderRow.undated (o : OrderRow) : OrderRow := { o with modifiedAt := o.uploadedAt }

/-- What an entry says. Its own identifier and its time are left out. -/
def EntryRow.content (e : EntryRow) : Uuid × String × EntryKind × Int :=
  (e.user, e.order, e.kind, e.amount)

/-- What the tables say, whenever and in whatever order the entries were made. -/
structure Contents where
  users : List UserRow
  balances : List BalanceRow
  orders : List OrderRow
  entries : Multiset (Uuid × String × EntryKind × Int)

def Tables.contents (t : Tables) : Contents where
  users := t.users
  balances := t.balances
  orders := t.orders.map OrderRow.undated
  entries := .ofList (t.entries.map EntryRow.content)

/-! ### Settling an order -/

/-- The balance, with an amount added if it is that of the user. -/
def BalanceRow.raised (user : Uuid) (amount : Int) (b : BalanceRow) : BalanceRow :=
  if b.user = user then { b with current := b.current + amount } else b

/-- The contents once the row of an order was replaced and its owner was credited. -/
def Contents.settle (next : OrderRow) (credit : Option Int) (k : Contents) : Contents where
  users := k.users
  balances := k.balances.map (BalanceRow.raised next.user (credit.getD 0))
  orders := k.orders.map fun o => if o.number = next.number then next else o
  entries := k.entries + credit.elim 0 fun c => {(next.user, next.number, .accrual, c)}

@[simp] theorem BalanceRow.user_raised (user : Uuid) (amount : Int) (b : BalanceRow) :
    (b.raised user amount).user = b.user := by
  unfold raised
  split <;> rfl

theorem BalanceRow.raised_zero (user : Uuid) : BalanceRow.raised user 0 = fun b => b := by
  funext b
  simp [raised]

theorem BalanceRow.raised_comm (user user' : Uuid) (c c' : Int) (b : BalanceRow) :
    (b.raised user c).raised user' c' = (b.raised user' c').raised user c := by
  by_cases own : b.user = user
  · by_cases own' : b.user = user'
    · have sum : b.current + c + c' = b.current + c' + c := add_right_comm _ _ _
      simp only [raised, if_pos own, if_pos own', sum]
    · simp only [raised, if_pos own, if_neg own']
  · by_cases own' : b.user = user'
    · simp only [raised, if_neg own, if_pos own']
    · simp only [raised, if_neg own, if_neg own']

/-- A credit raises the balance of its user. -/
theorem balances_post {t : Tables} {b : BalanceRow} {e : EntryRow}
    (single : (t.balances.map BalanceRow.user).Nodup) (held : t.balance? e.user = some b)
    (isAccrual : e.kind = .accrual) :
    (t.post b e).balances = t.balances.map (BalanceRow.raised e.user e.amount) := by
  obtain ⟨present, owner⟩ := Tables.mem_of_balance? held
  refine List.map_congr_left fun x hx => ?_
  rw [BalanceRow.user_after, owner, BalanceRow.raised]
  by_cases own : x.user = e.user
  · obtain rfl : x = b := List.inj_on_of_nodup_map single hx present (own.trans owner.symm)
    rw [if_pos own, if_pos own, BalanceRow.after, isAccrual, BalanceRow.moved]
  · rw [if_neg own, if_neg own]

theorem map_undated_setOrder (t : Tables) (row : OrderRow) :
    (t.setOrder row).orders.map OrderRow.undated = (t.orders.map OrderRow.undated).map fun o =>
      if o.number = row.undated.number then row.undated else o := by
  rw [Tables.setOrder, List.map_map, List.map_map]
  refine List.map_congr_left fun o _ => ?_
  by_cases same : o.number = row.number
  · simp [OrderRow.undated, same]
  · simp [OrderRow.undated, same]

/-- An order that is replaced alone is settled without a credit. -/
theorem contents_setOrder (t : Tables) (row : OrderRow) :
    (t.setOrder row).contents = t.contents.settle row.undated none := by
  simp only [Tables.contents, Contents.settle, map_undated_setOrder, Option.getD_none,
    Option.elim_none, BalanceRow.raised_zero, List.map_id', add_zero]
  rfl

/-- An order that is replaced after a posting for it is settled with the amount as its credit. -/
theorem contents_setOrder_post {t : Tables} {b : BalanceRow} {e : EntryRow} {row : OrderRow}
    (single : (t.balances.map BalanceRow.user).Nodup) (held : t.balance? e.user = some b)
    (isAccrual : e.kind = .accrual) (forOrder : e.order = row.number)
    (toOwner : e.user = row.user) :
    ((t.post b e).setOrder row).contents = t.contents.settle row.undated (some e.amount) := by
  have raised := balances_post single held isAccrual
  have content : e.content = (row.user, row.number, .accrual, e.amount) := by
    rw [EntryRow.content, toOwner, forOrder, isAccrual]
  rw [toOwner] at raised
  simp only [Tables.contents, Contents.settle, map_undated_setOrder, Option.getD_some,
    Option.elim_some, Contents.mk.injEq]
  refine ⟨rfl, raised, rfl, ?_⟩
  change Multiset.ofList ((t.entries ++ [e]).map EntryRow.content) = _
  rw [List.map_append, List.map_singleton, content, ← Multiset.coe_add]
  rfl

theorem balance?_of_raised {t t' : Tables} {user : Uuid} {c : Int}
    (raised : t'.balances = t.balances.map (BalanceRow.raised user c)) (owner : Uuid) :
    t'.balance? owner = (t.balance? owner).map (BalanceRow.raised user c) := by
  have same : ((fun b : BalanceRow => decide (b.user = owner)) ∘ BalanceRow.raised user c) =
      fun b => decide (b.user = owner) := by
    funext b
    rw [Function.comp_apply, BalanceRow.user_raised]
  rw [Tables.balance?, Tables.balance?, raised, List.find?_map, same]

/-- Two orders of different numbers may be settled in either order. -/
theorem Contents.settle_comm {x y : OrderRow} (distinct : x.number ≠ y.number) (c d : Option Int)
    (k : Contents) : (k.settle x c).settle y d = (k.settle y d).settle x c := by
  simp only [settle, List.map_map, mk.injEq, true_and]
  refine ⟨List.map_congr_left fun b _ => BalanceRow.raised_comm _ _ _ _ b,
    List.map_congr_left fun o _ => ?_, add_right_comm _ _ _⟩
  simp only [Function.comp_apply]
  by_cases first : o.number = x.number
  · have second : o.number ≠ y.number := by rw [first]; exact distinct
    rw [if_pos first, if_neg second, if_neg distinct, if_pos first]
  · rw [if_neg first]
    by_cases second : o.number = y.number
    · rw [if_pos second, if_neg distinct.symm]
    · rw [if_neg second, if_neg first]

end Loyalty.Store
