import Loyalty.Proofs.Service.History

/-!
# Balances and the ledger agree

A balance is kept next to the ledger and never computed from it. `Agreement` says that the two
agree all the same: every user has one balance, what it holds is the sum of the user's credits
less that of the withdrawals, and what it has paid out is the sum of the withdrawals. Every change
keeps this. A posting is the only one that touches both sides, and it moves both by one amount.

Main statement: `balance_agrees`, for every user after every history.
-/

namespace Loyalty.Store

/-- The sum of a user's ledger entries of a kind, in hundredths. -/
def Tables.total (t : Tables) (user : Uuid) (kind : EntryKind) : Int :=
  ((t.entries.filter fun e => e.user = user && e.kind = kind).map (·.amount)).sum

/-- The balances are those that the ledger gives. -/
structure Agreement (t : Tables) : Prop where
  single : (t.balances.map (·.user)).Nodup
  held : ∀ u ∈ t.users, ∃ b ∈ t.balances, b.user = u.id
  owned : ∀ e ∈ t.entries, t.hasUser e.user = true
  amount : ∀ e ∈ t.entries, 0 < e.amount ∧ e.amount.natAbs < Decimal.centLimit
  current : ∀ b ∈ t.balances, b.current = t.total b.user .accrual - t.total b.user .withdrawal
  withdrawn : ∀ b ∈ t.balances, b.withdrawn = t.total b.user .withdrawal
  nonneg : ∀ b ∈ t.balances, 0 ≤ b.current

/-! ### Totals -/

theorem Tables.total_post (t : Tables) (b : BalanceRow) (e : EntryRow) (user : Uuid)
    (kind : EntryKind) :
    (t.post b e).total user kind =
      t.total user kind + if e.user = user ∧ e.kind = kind then e.amount else 0 := by
  have entries : (t.post b e).entries = t.entries ++ [e] := rfl
  unfold total
  rw [entries, List.filter_append, List.map_append, List.sum_append]
  by_cases own : e.user = user ∧ e.kind = kind
  · simp [own]
  · have bare : [e].filter (fun e => e.user = user && e.kind = kind) = [] := by simpa using own
    rw [bare, if_neg own]
    rfl

/-- A user without entries has totals of nothing. -/
theorem Tables.total_eq_zero {t : Tables} {user : Uuid} (h : ∀ e ∈ t.entries, e.user ≠ user)
    (kind : EntryKind) : t.total user kind = 0 := by
  have bare : t.entries.filter (fun e => e.user = user && e.kind = kind) = [] := by
    refine List.filter_eq_nil_iff.2 fun e he => ?_
    simp [h e he]
  rw [total, bare]
  rfl

/-- The withdrawals that are listed for a user are those that the total counts. -/
theorem Tables.sum_selectEntries (t : Tables) (user : Uuid) :
    ((t.selectEntries user [.withdrawal]).map (·.amount.value)).sum =
      (t.total user .withdrawal : ℚ) / 100 := by
  have cents : ∀ rows : List EntryRow, (rows.map fun e => e.record.amount.value).sum =
      ((rows.map (·.amount)).sum : Int) / (100 : ℚ) := by
    intro rows
    induction rows with
    | nil => simp
    | cons e rows ih =>
      rw [List.map_cons, List.sum_cons, ih, List.map_cons, List.sum_cons]
      push_cast
      rw [EntryRow.record, Decimal.value_ofColumn]
      ring
  have same : (t.entriesOf user).filter (fun e => e.kind ∈ [EntryKind.withdrawal]) =
      t.entries.filter fun e => e.user = user && e.kind = .withdrawal := by
    rw [entriesOf, List.filter_filter]
    refine List.filter_congr fun e _ => ?_
    simp [Bool.and_comm]
  rw [selectEntries, List.map_map, List.map_reverse, List.sum_reverse, same]
  exact cents _

/-! ### What a change keeps -/

theorem Agreement.empty : Agreement {} where
  single := List.nodup_nil
  held := nofun
  owned := nofun
  amount := nofun
  current := nofun
  withdrawn := nofun
  nonneg := nofun

/-- The orders play no part. -/
theorem Agreement.withOrders {t : Tables} (h : Agreement t) (orders : List OrderRow) :
    Agreement { t with orders } :=
  ⟨h.single, h.held, h.owned, h.amount, h.current, h.withdrawn, h.nonneg⟩

/-- A new user owns no entries, and begins with a balance of nothing. -/
theorem Agreement.userCreated {t : Tables} (h : Agreement t) {row : UserRow} (id : Uuid)
    (free : t.hasUser row.id = false) (bare : t.balance? row.id = none) :
    Agreement { t with
      users := t.users ++ [row], balances := t.balances ++ [⟨id, row.id, 0, 0⟩] } := by
  have stranger : ∀ e ∈ t.entries, e.user ≠ row.id := by
    intro e he same
    have owner := h.owned e he
    rw [same, free] at owner
    cases owner
  have none_yet := Tables.total_eq_zero stranger
  have unused := Tables.balance?_eq_none.1 bare
  refine ⟨?_, ?_, ?_, h.amount, ?_, ?_, ?_⟩
  · rw [List.map_append, List.map_singleton]
    refine List.Nodup.append h.single (List.nodup_singleton _) ?_
    simpa using unused
  · intro u hu
    obtain hu | rfl := by simpa using hu
    · obtain ⟨b, hb, same⟩ := h.held u hu
      exact ⟨b, List.mem_append_left _ hb, same⟩
    · exact ⟨_, List.mem_append_right _ (List.mem_singleton_self _), rfl⟩
  · intro e he
    obtain ⟨u, hu, same⟩ := Tables.hasUser_iff.1 (h.owned e he)
    exact Tables.hasUser_iff.2 ⟨u, List.mem_append_left _ hu, same⟩
  · intro b hb
    obtain hb | rfl := by simpa using hb
    · exact h.current b hb
    · exact (by simp [none_yet] : (0 : Int) = t.total row.id .accrual - t.total row.id .withdrawal)
  · intro b hb
    obtain hb | rfl := by simpa using hb
    · exact h.withdrawn b hb
    · exact (none_yet .withdrawal).symm
  · intro b hb
    obtain hb | rfl := by simpa using hb
    · exact h.nonneg b hb
    · exact le_rfl

/-- A posting moves the balance of its user and the totals of that user by one amount. -/
theorem Agreement.post {t : Tables} (h : Agreement t) {b : BalanceRow} {e : EntryRow}
    (posting : Posting t b e) : Agreement (t.post b e) := by
  obtain ⟨hb, owner⟩ := Tables.mem_of_balance? posting.held
  have moved : (b.after e).current =
      (t.post b e).total e.user .accrual - (t.post b e).total e.user .withdrawal := by
    have before := h.current b hb
    rw [owner] at before
    rw [BalanceRow.current_after, Tables.total_post, Tables.total_post, before]
    simp only [true_and]
    ring
  have paid : (b.after e).withdrawn = (t.post b e).total e.user .withdrawal := by
    have before := h.withdrawn b hb
    rw [owner] at before
    rw [BalanceRow.withdrawn_after, Tables.total_post, before]
    simp only [true_and]
  have others : ∀ (user : Uuid) (kind : EntryKind), user ≠ e.user →
      (t.post b e).total user kind = t.total user kind := by
    intro user kind other
    rw [Tables.total_post, if_neg fun own => other own.1.symm, add_zero]
  refine ⟨?_, ?_, ?_, ?_, ?_, ?_, ?_⟩
  · exact (Tables.map_user_setBalance _ _).symm ▸ h.single
  · intro u hu
    obtain ⟨x, hx, same⟩ := h.held u hu
    by_cases own : x.user = e.user
    · refine ⟨b.after e, (Tables.mem_balances_post posting.held).2 (.inl rfl), ?_⟩
      rw [BalanceRow.user_after, owner, ← own, same]
    · exact ⟨x, (Tables.mem_balances_post posting.held).2 (.inr ⟨hx, own⟩), same⟩
  · intro x hx
    obtain hx | rfl := List.mem_append.1 hx |>.imp_right List.mem_singleton.1
    · exact h.owned x hx
    · exact posting.owned
  · intro x hx
    obtain hx | rfl := List.mem_append.1 hx |>.imp_right List.mem_singleton.1
    · exact h.amount x hx
    · exact ⟨posting.positive, posting.fits⟩
  · intro x hx
    obtain rfl | ⟨hx, other⟩ := (Tables.mem_balances_post posting.held).1 hx
    · rw [BalanceRow.user_after, owner]
      exact moved
    · rw [others _ _ other, others _ _ other]
      exact h.current x hx
  · intro x hx
    obtain rfl | ⟨hx, other⟩ := (Tables.mem_balances_post posting.held).1 hx
    · rw [BalanceRow.user_after, owner]
      exact paid
    · rw [others _ _ other]
      exact h.withdrawn x hx
  · intro x hx
    obtain rfl | ⟨hx, -⟩ := (Tables.mem_balances_post posting.held).1 hx
    · exact posting.nonneg
    · exact h.nonneg x hx

end Loyalty.Store

namespace Loyalty.Service

open Loyalty.Store

theorem agreement_of_change {t t' : Tables} (h : Agreement t) (change : Change t t') :
    Agreement t' := by
  cases change with
  | nothing => exact h
  | userCreated row id free bare => exact h.userCreated id free bare
  | orderRegistered => exact h.withOrders _
  | orderMarked => exact h.withOrders _
  | orderSettled => exact h.withOrders _
  | orderCredited row b e now _ _ posting => exact (h.post posting).withOrders _
  | withdrawn b e posting => exact h.post posting

theorem agreement_history (s : Session) (calls : List Call) :
    Agreement (history s calls).store.tables :=
  history_induction Agreement.empty (fun _ _ => agreement_of_change) s calls

/-! ### The withdrawals of a user -/

theorem listWithdrawals_of_ok {s : Session} (hs : s.draft = none) {user : Uuid}
    {es : List Entry} (h : (listWithdrawals user s).1 = .ok es) :
    es = s.store.tables.selectEntries user [.withdrawal] := by
  simp only [listWithdrawals, listTransactions, Db.statement] at h
  obtain ⟨-, ⟨e, refused, -⟩ | ⟨a, answered, run⟩⟩ := Session.call_of_no_draft hs
    .listTransactions (State.reading "transactions" fun t => .ok (t.selectEntries user [.withdrawal]))
  · rw [refused] at h
    cases h
  · rw [answered] at h
    obtain ⟨-, selected, -⟩ := State.reading_eq_ok.1 run
    cases h
    cases selected
    rfl

/-- With a connection and without faults the withdrawals are answered. -/
theorem listWithdrawals_eq_ok {s : Session} (hs : s.draft = none) (created : s.store.created = true)
    (user : Uuid) :
    (listWithdrawals user { s with link := .up, faults := [] }).1 =
      .ok (s.store.tables.selectEntries user [.withdrawal]) := by
  simp [listWithdrawals, listTransactions, Db.statement, Session.call, Session.connect, strike, hs,
    Session.view, State.reading, State.on, created, Except.map, Except.mapError]

/-! ### Every history -/

/-- **Balances and the ledger agree.** After any calls, whatever became of each, a user has one
balance; it holds the credits less the withdrawals and is never below zero, and what it has paid
out is the sum of the withdrawals that are listed. Every amount in the ledger is above zero and
a whole number of hundredths. -/
theorem balance_agrees (s : Session) (calls : List Call) (u : UserRow)
    (hu : u ∈ (history s calls).store.tables.users) :
    (∃ b, (history s calls).store.tables.balances.filter (·.user = u.id) = [b] ∧
      b.current = (history s calls).store.tables.total u.id .accrual -
        (history s calls).store.tables.total u.id .withdrawal ∧
      b.withdrawn = (history s calls).store.tables.total u.id .withdrawal ∧
      0 ≤ b.current ∧
      (∃ es, (listWithdrawals u.id { history s calls with link := .up, faults := [] }).1 = .ok es) ∧
      ∀ link faults es, (listWithdrawals u.id { history s calls with link, faults }).1 = .ok es →
        (es.map (·.amount.value)).sum = (b.withdrawn : ℚ) / 100) ∧
    ∀ e ∈ (history s calls).store.tables.entries, 0 < e.amount ∧
      e.amount.natAbs < Decimal.centLimit ∧ e.record.amount.value = (e.amount : ℚ) / 100 := by
  have agreement := agreement_history s calls
  obtain ⟨settled, created⟩ := history_settled s calls
  generalize history s calls = h at *
  obtain ⟨b, hb, own⟩ := agreement.held u hu
  refine ⟨⟨b, ?_, ?_, ?_, agreement.nonneg b hb, ?_, ?_⟩, ?_⟩
  · rw [← own]
    exact filter_key_eq_singleton (·.user) agreement.single hb
  · rw [← own]
    exact agreement.current b hb
  · rw [← own]
    exact agreement.withdrawn b hb
  · exact ⟨_, listWithdrawals_eq_ok settled created u.id⟩
  · intro link faults es answered
    have listed := listWithdrawals_of_ok (s := { h with link, faults }) settled answered
    rw [listed, Tables.sum_selectEntries, agreement.withdrawn b hb, own]
  · intro e he
    obtain ⟨positive, fits⟩ := agreement.amount e he
    exact ⟨positive, fits, Decimal.value_ofColumn e.amount⟩

theorem balance_agrees_creditAndWithdrawal :
    ∃ b, (history {} creditAndWithdrawal).store.tables.balances.filter (·.user = ⟨1⟩) = [b] ∧
      b.current = 6051 ∧ b.withdrawn = 4000 := by
  have member : (⟨⟨1⟩, "ann", ⟨0, 0⟩⟩ : UserRow) ∈
      (history {} creditAndWithdrawal).store.tables.users := by decide +kernel
  obtain ⟨⟨b, single, current, withdrawn, -⟩, -⟩ := balance_agrees {} creditAndWithdrawal _ member
  refine ⟨b, single, current.trans ?_, withdrawn.trans ?_⟩
  · decide +kernel
  · decide +kernel

end Loyalty.Service
