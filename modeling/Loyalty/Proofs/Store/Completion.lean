import Loyalty.Proofs.Store.Posting

/-!
# Operations that no fault befalls

`Db.Within` says what holds if an operation is answered. Here the other side is taken up: with no
fault ahead an operation within a transaction does come to an end that depends on the draft alone,
and `Db.Ends` says which. The rules follow the shape of an operation again, and each statement ends
as its conditions demand.

Main statement: `transaction_ends`, by which a transaction answers what its body answers, as long as
there is a connection and no fault ahead.
-/

namespace Loyalty.Store

namespace Db

/-- Run on the draft `d` with no fault ahead, the operation ends with an answer and a draft that
fulfil `Q`, and there is still no fault ahead. -/
def Ends {α : Type} (x : Db α) (d : State) (Q : Except Failure α → State → Prop) : Prop :=
  ∀ s : Session, s.draft = some d → s.faults = [] →
    (x s).2.faults = [] ∧ ∃ d', (x s).2.draft = some d' ∧ Q (x s).1 d'

variable {α β : Type} {d : State}

/-! ### The rules -/

theorem ends_pure {Q : Except Failure α → State → Prop} {a : α} (h : Q (.ok a) d) :
    Ends (Pure.pure a) d Q :=
  fun _ hs clear => ⟨clear, d, hs, h⟩

theorem ends_fail {Q : Except Failure α → State → Prop} {e : Failure} (h : Q (.error e) d) :
    Ends (fail e) d Q :=
  fun _ hs clear => ⟨clear, d, hs, h⟩

theorem ends_now {Q : Except Failure Timestamp → State → Prop} (h : ∀ t, Q (.ok t) d) :
    Ends now d Q := by
  intro s hs clear
  simp only [now]
  exact ⟨clear, d, hs, h s.now⟩

theorem ends_fresh {Q : Except Failure Uuid → State → Prop} (h : ∀ id, Q (.ok id) d) :
    Ends fresh d Q :=
  fun _ hs clear => ⟨clear, d, hs, h _⟩

/-- After a part that is answered comes the rest. -/
theorem Ends.bind {x : Db α} {f : α → Db β} {P : α → State → Prop}
    {Q : Except Failure β → State → Prop}
    (hx : Ends x d fun r d' => ∃ a, r = .ok a ∧ P a d')
    (hf : ∀ a d', P a d' → Ends (f a) d' Q) : Ends (x >>= f) d Q := by
  intro s hs clear
  obtain ⟨clear', d', hdraft, a, answered, hP⟩ := hx s hs clear
  have run : x s = (.ok a, (x s).2) := Prod.ext answered rfl
  rw [bind_of_ok run]
  exact hf a d' hP (x s).2 hdraft clear'

/-- After a part that only reads comes the rest. -/
theorem Ends.bind_same {x : Db α} {f : α → Db β} {Q : Except Failure β → State → Prop}
    (hx : Ends x d fun r d' => (∃ a, r = .ok a) ∧ d = d') (hf : ∀ a, Ends (f a) d Q) :
    Ends (x >>= f) d Q := by
  refine Ends.bind (P := fun _ d' => d = d') ?_ fun a d' same => ?_
  · intro s hs clear
    obtain ⟨clear', d', hdraft, ⟨a, answered⟩, same⟩ := hx s hs clear
    exact ⟨clear', d', hdraft, a, answered, same⟩
  · rw [← same]
    exact hf a

/-- A statement that the draft answers is answered. -/
theorem ends_statement {Q : Except Failure α → State → Prop} {st : Statement}
    {explain : DatabaseError → Failure} {run : State → Answer (α × State)} {a : α} {d' : State}
    (answer : run d = .ok (a, d')) (h : Q (.ok a) d') : Ends (statement st explain run) d Q := by
  intro s hs clear
  simp only [statement, Session.call, Session.connect, hs, clear, strike, Session.view,
    Option.getD_some, answer, Session.put]
  exact ⟨trivial, d', rfl, h⟩

/-! ### The transaction as a whole -/

/-- With a connection and no fault ahead, a transaction begins, ends as its body does, and is
committed. -/
theorem transaction_ends {body : Db α} {Q : Except Failure α → Prop} {s : Session}
    (hs : s.draft = none) (up : s.link = .up) (clear : s.faults = [])
    (hb : Ends body s.store fun r _ => Q r) : Q (transaction body s).1 := by
  have begun : s.call .begin (fun d => .ok ((), d)) =
      (.ok (), { s with trace := .begin :: s.trace }) := by
    simp [Session.call, Session.connect, hs, up, clear, strike, Session.view, Session.put]
  have started : ({ s with trace := .begin :: s.trace, draft := some s.store } : Session).draft =
      some s.store := rfl
  obtain ⟨clear', d', hdraft, answered⟩ := hb _ started clear
  unfold transaction
  rw [begun]
  dsimp only
  cases run : body { s with trace := .begin :: s.trace, draft := some s.store } with
  | mk answer s' =>
    rw [run] at clear' hdraft answered
    dsimp only at clear' hdraft answered
    cases answer with
    | error e => exact answered
    | ok a =>
      have committed : s'.call .commit (fun d => .ok ((), d)) =
          (.ok (), { s' with trace := .commit :: s'.trace }) := by
        simp [Session.call, Session.connect, hdraft, clear', strike, Session.view, Session.put]
      dsimp only
      rw [committed]
      exact answered

end Db

variable {d : State}

/-! ### The statements that settle an order -/

theorem ends_lockOrder (created : d.created = true) {number : String} {row : OrderRow}
    (text : '\x00' ∉ number.toList) (found : d.tables.order? number = some row)
    {Q : Except Failure Order → State → Prop} (h : Q (.ok row.record) d) :
    Db.Ends (lockOrder number) d Q := by
  have selected : d.tables.selectOrder number = .ok row.record :=
    Tables.selectOrder_eq_ok.2 ⟨text, row, found, rfl⟩
  exact Db.ends_statement (State.reading_eq_ok.2 ⟨created, selected, rfl⟩) h

theorem ends_lockBalance (created : d.created = true) {user : Uuid} {row : BalanceRow}
    (held : d.tables.balance? user = some row) {Q : Except Failure Balance → State → Prop}
    (h : Q (.ok row.record) d) : Db.Ends (lockBalance user) d Q := by
  have selected : d.tables.selectBalance user = .ok row.record :=
    Tables.selectBalance_eq_ok.2 ⟨row, held, rfl⟩
  exact Db.ends_statement (State.reading_eq_ok.2 ⟨created, selected, rfl⟩) h

theorem ends_newEntry (user : Uuid) (order : String) (kind : EntryKind) (amount : Decimal)
    {Q : Except Failure Entry → State → Prop}
    (h : ∀ id at_, Q (.ok ⟨id, at_, user, order, kind, amount⟩) d) :
    Db.Ends (newEntry user order kind amount) d Q := by
  refine Db.Ends.bind_same (Db.ends_fresh fun id => ⟨⟨id, rfl⟩, rfl⟩) fun id => ?_
  refine Db.Ends.bind_same (Db.ends_now fun at_ => ⟨⟨at_, rfl⟩, rfl⟩) fun at_ => ?_
  exact Db.ends_pure (h id at_)

theorem ends_updateOrder (created : d.created = true) {number : String} {row : OrderRow}
    (status : OrderStatus) (kept : Option Decimal) (text : '\x00' ∉ number.toList)
    (found : d.tables.order? number = some row)
    (fits : ∀ amount ∈ kept, amount.nearestCent.natAbs < Decimal.centLimit)
    {Q : Except Failure Order → State → Prop} (h : ∀ o d', Q (.ok o) d') :
    Db.Ends (updateOrder number (some status) kept) d Q := by
  have taken : kept.mapM takeAmount = .ok (kept.map Decimal.nearestCent) := by
    cases kept with
    | none => rfl
    | some amount =>
      have cents : takeAmount amount = .ok amount.nearestCent :=
        takeAmount_eq_ok.2 (Decimal.toCents?_eq_some_iff.2 ⟨rfl, fits amount rfl⟩)
      simp [cents, Functor.map, Except.map]
  refine Db.Ends.bind_same (Db.ends_now fun now => ⟨⟨now, rfl⟩, rfl⟩) fun now => ?_
  have updated : d.tables.updateOrder number (some status) kept now =
      .ok ((row.ended status (kept.map Decimal.nearestCent) now).record,
        d.tables.setOrder (row.ended status (kept.map Decimal.nearestCent) now)) :=
    Tables.updateOrder_eq_ok.2 ⟨text, row, _, found, taken, rfl, rfl⟩
  exact Db.ends_statement (State.on_eq_ok.2 ⟨created, _, updated, rfl⟩) (h _ _)

end Loyalty.Store
