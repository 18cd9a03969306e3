import Loyalty.Amount
import Loyalty.Store.Ledger
import Loyalty.Store.Orders

/-!
# Orders and withdrawals

An order is registered once, by one user, and settled once. Settling it credits its accrual to
the owner in the same transaction; the row of the order is locked first, then that of the
balance. Only a processed order carries an accrual, and it is kept to the hundredth.

A withdrawal is made against an order number that passes the Luhn check. It takes the amount,
to the hundredth, from what the user can withdraw, and adds one ledger entry, in one
transaction.
-/

namespace Loyalty.Service

open Loyalty.Store

/-- A check that fails with the sentence of the violation. -/
def checked (v : Except Violation Unit) : Db Unit :=
  Db.check (v.mapError fun v => .validation v.message)

/-- Registers an order. Registering an order of one's own again answers it as it is. -/
def registerOrder (number : String) (user : Uuid) : Db Order := do
  checked (OrderNumber.check number)
  createOrder number user

/-- Moves an order into a terminal status and credits its accrual. An order that is settled
stays as it is. -/
def finalize (number : String) (status : OrderStatus) (accrual : Option Decimal) : Db Order := do
  if !status.isTerminal then
    Db.fail (.validation ("can't finalize order " ++ number ++ " with non-terminal status " ++
      status.name))
  checked (match accrual with
    | some amount => Amount.checkNonNegative amount
    | none => .ok ())
  let kept := if status = .processed then accrual.map Decimal.roundAmount else none
  Db.transaction do
    let order ← lockOrder number
    if order.status.isTerminal then Db.fail (.orderAlreadyProcessed number)
    match kept.filter Decimal.isPositive with
    | none => Db.pure ()
    | some credit =>
      let _ ← lockBalance order.user
      let entry ← createTransaction (← newEntry order.user order.number .accrual credit)
      let _ ← updateBalance entry
    updateOrder number (some status) kept

/-- Marks a new order as being processed; none if it is not new. -/
def markProcessing (number : String) : Db (Option Order) :=
  transitionOrder number .new .processing

/-- Withdraws an amount against an order number, and answers the balance that is left. -/
def withdraw (user : Uuid) (number : String) (amount : Decimal) : Db Balance := do
  checked (OrderNumber.checkLuhn number)
  let amount := amount.roundAmount
  checked (Amount.checkPositive amount)
  Db.transaction do
    let balance ← lockBalance user
    if balance.current.lt amount then Db.fail .insufficientBalance
    let entry ← createTransaction (← newEntry user number .withdrawal amount)
    updateBalance entry

/-- The withdrawals of a user, newest first. -/
def listWithdrawals (user : Uuid) : Db (List Entry) :=
  listTransactions user [.withdrawal]

end Loyalty.Service
