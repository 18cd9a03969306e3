import Loyalty.Proofs.Service.Change

/-!
# Histories of the services

A history is a list of calls that run one after the other from the empty database. Each call
meets its own connection and its own faults, so it may fail at any of its statements, and its
arguments are arbitrary.

Main statement: what holds of no tables at all, and is kept by every change, holds after every
history.
-/

namespace Loyalty.Service

open Loyalty.Store

/-- A service and the arguments that it is called with. -/
inductive Operation where
  | createUser (username : String)
  | registerOrder (number : String) (user : Uuid)
  | markProcessing (number : String)
  | finalize (number : String) (status : OrderStatus) (accrual : Option Decimal)
  | withdraw (user : Uuid) (number : String) (amount : Decimal)
  deriving DecidableEq, Repr

/-- The session that the service leaves behind, whatever it answers. -/
def Operation.run : Operation → Session → Session
  | .createUser username, s => (Store.createUser username s).2
  | .registerOrder number user, s => (Service.registerOrder number user s).2
  | .markProcessing number, s => (Service.markProcessing number s).2
  | .finalize number status accrual, s => (Service.finalize number status accrual s).2
  | .withdraw user number amount, s => (Service.withdraw user number amount s).2

/-- A call of a service, with the connection and the faults that it meets. -/
structure Call where
  operation : Operation
  link : Link := .up
  faults : List Fault := []
  deriving DecidableEq, Repr

def Call.run (s : Session) (c : Call) : Session :=
  c.operation.run { s with link := c.link, faults := c.faults }

def emptied (s : Session) : Session := { s with store := {}, draft := none }

/-- The session after calls that are run one after the other from the empty database. -/
def history (s : Session) (calls : List Call) : Session := calls.foldl Call.run (emptied s)

/-- A user registers an order, is credited for it, and withdraws a part. -/
def creditAndWithdrawal : List Call :=
  [⟨.createUser "ann", .up, []⟩,
    ⟨.registerOrder "79927398713" ⟨1⟩, .up, []⟩,
    ⟨.finalize "79927398713" .processed (some ⟨100505, 3⟩), .up, []⟩,
    ⟨.withdraw ⟨1⟩ "2377225624" ⟨40, 0⟩, .up, []⟩]

theorem history_append_singleton (s : Session) (calls : List Call) (c : Call) :
    history s (calls ++ [c]) = c.run (history s calls) := by
  simp [history]

/-- One call leaves no transaction open, and changes the tables in one of the known ways. -/
theorem Call.run_change {s : Session} (hs : s.draft = none) (c : Call) :
    (c.run s).draft = none ∧
      ∃ t, (c.run s).store = { s.store with tables := t } ∧ Change s.store.tables t := by
  obtain ⟨operation, link, faults⟩ := c
  cases operation with
  | createUser username => exact changes_createUser username _ hs
  | registerOrder number user => exact changes_registerOrder number user _ hs
  | markProcessing number => exact changes_markProcessing number _ hs
  | finalize number status accrual => exact changes_finalize number status accrual _ hs
  | withdraw user number amount => exact changes_withdraw user number amount _ hs

/-- A history never leaves a transaction open, and the tables always exist. -/
theorem history_settled (s : Session) (calls : List Call) :
    (history s calls).draft = none ∧ (history s calls).store.created = true := by
  induction calls using List.reverseRecOn with
  | nil => exact ⟨rfl, rfl⟩
  | append_singleton calls c ih =>
    rw [history_append_singleton]
    obtain ⟨hdraft, t, hstore, -⟩ := Call.run_change ih.1 c
    exact ⟨hdraft, by rw [hstore]; exact ih.2⟩

/-- **Induction over histories.** A property of the tables that every change keeps, and that
empty tables have, holds after every history. -/
theorem history_induction {P : Tables → Prop} (empty : P {})
    (step : ∀ t t', P t → Change t t' → P t') (s : Session) (calls : List Call) :
    P (history s calls).store.tables := by
  induction calls using List.reverseRecOn with
  | nil => exact empty
  | append_singleton calls c ih =>
    rw [history_append_singleton]
    obtain ⟨-, t, hstore, change⟩ := Call.run_change (history_settled s calls).1 c
    rw [hstore]
    exact step _ t ih change

end Loyalty.Service
