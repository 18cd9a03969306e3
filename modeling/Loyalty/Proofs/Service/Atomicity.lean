import Loyalty.Proofs.Service.History

/-!
# Failures leave nothing behind

A new user, the end of an order and a withdrawal take several statements each, and any of them may
be the one that fails: by a check, a missing row, a taken key, an amount that does not fit, or a
fault on the statement, which may be the commit. None of them shows in the tables then, not even
when the ledger entry and the balance were written already.

Main statement: `all_or_nothing`, for every session, every state of its tables and all arguments.
-/

namespace Loyalty.Service

open Loyalty.Store

/-- **All or nothing.** Whatever the tables hold and whatever befalls the statements, each of the
three operations leaves no transaction open; when it fails, the store is as it was before, and when
it answers, its effect is there as a whole. -/
theorem all_or_nothing (s : Session) (settled : s.draft = none) :
    (∀ number status accrual,
      (finalize number status accrual s).2.draft = none ∧
      (∀ e, (finalize number status accrual s).1 = .error e →
        (finalize number status accrual s).2.store = s.store) ∧
      ∀ o, (finalize number status accrual s).1 = .ok o →
        Settles number status (keptAccrual status accrual) s.store.tables o
          (finalize number status accrual s).2.store.tables) ∧
    (∀ user number amount,
      (withdraw user number amount s).2.draft = none ∧
      (∀ e, (withdraw user number amount s).1 = .error e →
        (withdraw user number amount s).2.store = s.store) ∧
      ∀ b, (withdraw user number amount s).1 = .ok b →
        Withdraws user number amount.roundAmount s.store.tables b
          (withdraw user number amount s).2.store.tables) ∧
    ∀ username,
      (createUser username s).2.draft = none ∧
      (∀ e, (createUser username s).1 = .error e → (createUser username s).2.store = s.store) ∧
      ∀ u, (createUser username s).1 = .ok u →
        Enrols username s.store.tables u (createUser username s).2.store.tables := by
  refine ⟨fun number status accrual => ?_, fun user number amount => ?_, fun username => ?_⟩
  · obtain ⟨closed, failed, answered⟩ := allOrNothing_finalize number status accrual s settled
    refine ⟨closed, failed, fun o answer => ?_⟩
    obtain ⟨t, hstore, -, -, settles⟩ := answered o answer
    rw [hstore]
    exact settles
  · obtain ⟨closed, failed, answered⟩ := allOrNothing_withdraw user number amount s settled
    refine ⟨closed, failed, fun b answer => ?_⟩
    obtain ⟨t, hstore, withdraws⟩ := answered b answer
    rw [hstore]
    exact withdraws
  · obtain ⟨closed, failed, answered⟩ := allOrNothing_createUser username s settled
    refine ⟨closed, failed, fun u answer => ?_⟩
    obtain ⟨t, hstore, enrols⟩ := answered u answer
    rw [hstore]
    exact enrols

/-- An order is there to be settled, and the database is going to refuse the commit. -/
def refusedCommit : Session :=
  { history {} (creditAndWithdrawal.take 2) with
    faults := [⟨.commit, 0, .poolClosed⟩], trace := [] }

/-- The entry, the balance and the order are written before the commit is refused. -/
theorem all_or_nothing_refusedCommit :
    refusedCommit.draft = none ∧
      (finalize "79927398713" .processed (some ⟨100505, 3⟩) refusedCommit).2.trace =
        [.commit, .updateOrder, .creditBalance, .createTransaction, .lockBalance, .lockOrder,
          .begin] ∧
      (finalize "79927398713" .processed (some ⟨100505, 3⟩) refusedCommit).1 =
        .error (.database .poolClosed) ∧
      (finalize "79927398713" .processed (some ⟨100505, 3⟩) refusedCommit).2.store =
        refusedCommit.store := by
  have settled : refusedCommit.draft = none := by decide +kernel
  have refused : (finalize "79927398713" .processed (some ⟨100505, 3⟩) refusedCommit).1 =
      .error (.database .poolClosed) := by decide +kernel
  obtain ⟨-, failed, -⟩ := (all_or_nothing refusedCommit settled).1 "79927398713" .processed
    (some ⟨100505, 3⟩)
  refine ⟨settled, ?_, refused, failed _ refused⟩
  decide +kernel

end Loyalty.Service
