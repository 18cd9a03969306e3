import Loyalty.Proofs.Ledger.Schema

/-!
# Tables within their constraints

The statements on one order or one user look up rows by their keys and store balances again. What
they rely on is that keys are unique, that an order and a balance belong to a user, and that what a
balance holds fits its columns; `Constraints` says so. It allows entries of the ledger for which
there is no order, and users without a balance, which only statements outside of the services make.

`Ready` adds what a call meets otherwise: a connection, tables that exist, and no fault ahead.
-/

namespace Loyalty.Store

/-- The rows respect the keys, the references and the checks that statements rely on. -/
structure Constraints (t : Tables) : Prop extends WithinSchema t where
  numbers : (t.orders.map OrderRow.number).Nodup
  single : (t.balances.map BalanceRow.user).Nodup
  accounts : ∀ b ∈ t.balances, t.hasUser b.user = true
  covered : ∀ b ∈ t.balances, 0 ≤ b.current ∧ b.current.natAbs < Decimal.centLimit

/-- No transaction is open, there is a connection, no fault is ahead, and the tables exist and are
within their constraints. -/
structure Ready (s : Session) : Prop where
  closed : s.draft = none
  up : s.link = .up
  clear : s.faults = []
  created : s.store.created = true
  lawful : Constraints s.store.tables

/-- Tables that no service leaves behind: one of the users has no balance, and the ledger has a
credit for an order that is not settled. -/
def patchwork : Session where
  store := { tables := {
    users := [⟨⟨1⟩, "ann", ⟨0, 0⟩⟩, ⟨⟨2⟩, "bob", ⟨0, 0⟩⟩]
    balances := [⟨⟨3⟩, ⟨1⟩, 10000, 0⟩]
    orders := [⟨⟨4⟩, "18", ⟨1⟩, .new, none, ⟨0, 0⟩, ⟨0, 0⟩⟩,
      ⟨⟨5⟩, "26", ⟨2⟩, .processing, none, ⟨0, 0⟩, ⟨0, 0⟩⟩,
      ⟨⟨6⟩, "34", ⟨1⟩, .new, none, ⟨0, 0⟩, ⟨0, 0⟩⟩,
      ⟨⟨7⟩, "42", ⟨1⟩, .processing, none, ⟨0, 0⟩, ⟨0, 0⟩⟩]
    entries := [⟨⟨8⟩, ⟨0, 0⟩, ⟨1⟩, "34", .accrual, 500⟩] } }
  serial := 9

theorem ready_patchwork : Ready patchwork where
  closed := rfl
  up := rfl
  clear := rfl
  created := rfl
  lawful :=
    { text := by decide +kernel
      owned := by decide +kernel
      paid := by decide +kernel
      numbers := by decide +kernel
      single := by decide +kernel
      accounts := by decide +kernel
      covered := by decide +kernel }

end Loyalty.Store
