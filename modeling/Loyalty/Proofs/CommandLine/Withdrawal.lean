import Loyalty.CommandLine.Run
import Loyalty.Proofs.Decimal.Reading
import Loyalty.Proofs.Decimal.Rounding
import Loyalty.Proofs.Service.Effect

/-!
# What is printed about a withdrawal

The amount that was asked for goes two ways. The line about the withdrawal shows it as it came, with
all its places; the ledger and the balance get it to the hundredth, through the statements and back. So
the line names a number that is rounded to what was withdrawn. It names what was withdrawn itself only
if there was nothing to round (`withdrawal_told_amiss` is a case where there was).

Main statement: `withdrawal_told`, for every session outside of a transaction and every amount.
-/

namespace Loyalty.Store

/-- The balance of the user once an entry was posted to it. -/
theorem Tables.balance?_post {t : Tables} {b : BalanceRow} {e : EntryRow}
    (held : t.balance? e.user = some b) : (t.post b e).balance? e.user = some (b.after e) := by
  obtain ⟨-, owner⟩ := mem_of_balance? held
  have kept : ((fun x : BalanceRow => decide (x.user = e.user)) ∘ fun x =>
      if x.user = (b.after e).user then b.after e else x) = fun x => decide (x.user = e.user) := by
    funext x
    simp only [Function.comp_apply, BalanceRow.user_after, owner]
    split
    next own => simp [own, owner]
    next => rfl
  show (t.balances.map fun x => if x.user = (b.after e).user then b.after e else x).find? _ = _
  rw [List.find?_map, kept, show t.balances.find? _ = some b from held, Option.map_some,
    BalanceRow.user_after, if_pos rfl]

end Loyalty.Store

namespace Loyalty.CommandLine

open Loyalty.Store

/-- A command without a failure has printed what there is to tell about an answer. -/
theorem runDb_of_failure_eq_none {α : Type} {op : Db α} {tell : α → List String} {s : Session}
    (made : (runDb op tell s).1.failure = none) :
    ∃ a, (op s).1 = .ok a ∧ (runDb op tell s).1.printed = lines (tell a) ∧
      (runDb op tell s).2 = (op s).2 := by
  unfold runDb at made ⊢
  split at made
  next a s' answer =>
    rw [answer]
    exact ⟨a, rfl, rfl, rfl⟩
  next => cases made

/-- **A withdrawal is reported with the amount that was asked for.** The number that the line shows is
rounded to the amount that was entered into the ledger, which is what the one side of the balance has
lost and the other has gained. The two are one number if and only if there was nothing to round. -/
theorem withdrawal_told (s : Session) (closed : s.draft = none) (user : Uuid) (order : String)
    (amount : Decimal) (made : (withdraw user order amount s).1.failure = none) :
    let after := (withdraw user order amount s).2.store.tables
    ∃ (old new : BalanceRow) (e : EntryRow) (shown : String) (told : Decimal),
      s.store.tables.balance? user = some old ∧ after.balance? user = some new ∧
      after.entries = s.store.tables.entries ++ [e] ∧
      e.user = user ∧ e.order = order ∧ e.kind = .withdrawal ∧
      (withdraw user order amount s).1.printed = lines
        (("✓ Withdrew " ++ shown ++ " against order " ++ order) :: amountLines new.record) ∧
      Decimal.parse shown = .ok told ∧
      old.record.current.value - new.record.current.value = e.record.amount.value ∧
      new.record.withdrawn.value - old.record.withdrawn.value = e.record.amount.value ∧
      Decimal.RoundsTo told.value e.record.amount.value ∧
      (told.value = e.record.amount.value ↔ ∃ n : ℤ, amount.value = n / 100) := by
  intro after
  obtain ⟨b, answered, printed, left⟩ := runDb_of_failure_eq_none made
  obtain ⟨-, -, effect⟩ := Service.allOrNothing_withdraw user order amount s closed
  obtain ⟨t, stored, old, e, posting, rfl, rfl, kind, worth, rfl, rfl⟩ := effect b answered
  obtain ⟨told, read, same⟩ := amount.exists_parse_toText
  have tables : after = s.store.tables.post old e := by
    show (withdraw e.user e.order amount s).2.store.tables = _
    rw [show (withdraw e.user e.order amount s).2 = _ from left, stored]
  have cents : e.amount = amount.nearestCent := by
    rw [worth, Decimal.nearestCent_of_scale (Decimal.roundAmount_scale amount),
      Decimal.roundAmount_digits]
  have rounded : Decimal.RoundsTo told.value e.record.amount.value := by
    rw [same, EntryRow.record, Decimal.value_ofColumn, cents]
    exact Decimal.roundsTo_nearestCent amount
  refine ⟨old, old.after e, e, amount.toText, told, posting.held, ?_, ?_, rfl, rfl, kind, printed,
    read, ?_, ?_, rounded, ?_⟩
  · rw [tables]
    exact Tables.balance?_post posting.held
  · rw [tables]
    rfl
  · simp only [BalanceRow.record, EntryRow.record, Decimal.value_ofColumn, BalanceRow.after,
      BalanceRow.moved, kind]
    push_cast
    ring
  · simp only [BalanceRow.record, EntryRow.record, Decimal.value_ofColumn, BalanceRow.after,
      BalanceRow.moved, kind]
    push_cast
    ring
  · rw [← same]
    constructor
    · intro equal
      rw [equal]
      exact rounded.whole
    · rintro ⟨n, whole⟩
      rw [whole] at rounded ⊢
      exact (Decimal.RoundsTo.self n).unique rounded

/-- A user to whom one order has brought a hundred points. -/
def hundredPoints : Session where
  store := { tables := {
    users := [⟨⟨1⟩, "ann", ⟨0, 0⟩⟩]
    balances := [⟨⟨2⟩, ⟨1⟩, 10000, 0⟩]
    orders := [⟨⟨3⟩, "18", ⟨1⟩, .processed, some 10000, ⟨0, 0⟩, ⟨0, 0⟩⟩]
    entries := [⟨⟨4⟩, ⟨0, 0⟩, ⟨1⟩, "18", .accrual, 10000⟩] } }
  serial := 5

/-- Places that say nothing do no harm. -/
theorem withdrawal_told_hundredPoints :
    (withdraw ⟨1⟩ "26" ⟨10010, 3⟩ hundredPoints).1.failure = none ∧
      ∃ (e : EntryRow) (shown : String) (told : Decimal),
        (withdraw ⟨1⟩ "26" ⟨10010, 3⟩ hundredPoints).2.store.tables.entries =
          hundredPoints.store.tables.entries ++ [e] ∧
        Decimal.parse shown = .ok told ∧ told.value = e.record.amount.value := by
  have made : (withdraw ⟨1⟩ "26" ⟨10010, 3⟩ hundredPoints).1.failure = none := by decide +kernel
  obtain ⟨old, new, e, shown, told, -, -, entered, -, -, -, -, read, -, -, -, same⟩ :=
    withdrawal_told hundredPoints rfl ⟨1⟩ "26" ⟨10010, 3⟩ made
  refine ⟨made, e, shown, told, entered, read, same.2 ⟨1001, ?_⟩⟩
  norm_num [Decimal.value]

/-- Asked for 10.005, the command withdraws 10.01 and says that it has withdrawn 10.005. -/
theorem withdrawal_told_amiss :
    (withdraw ⟨1⟩ "26" ⟨10005, 3⟩ hundredPoints).1 =
      { printed := "✓ Withdrew 10.005 against order 26\n  Current:   89.9900\n" ++
          "  Withdrawn: 10.0100\n" } ∧
    (withdraw ⟨1⟩ "26" ⟨10005, 3⟩ hundredPoints).2.store.tables.balances =
      [⟨⟨2⟩, ⟨1⟩, 8999, 1001⟩] ∧
    (withdraw ⟨1⟩ "26" ⟨10005, 3⟩ hundredPoints).2.store.tables.entries.map EntryRow.amount =
      [10000, 1001] ∧
    Decimal.parse "10.005" = .ok ⟨10005, 3⟩ ∧
    Decimal.value ⟨10005, 3⟩ ≠ (Decimal.ofColumn 1001).value := by
  refine ⟨by decide +kernel, by decide +kernel, by decide +kernel, by decide +kernel, ?_⟩
  rw [Decimal.value_ofColumn]
  norm_num [Decimal.value]

end Loyalty.CommandLine
