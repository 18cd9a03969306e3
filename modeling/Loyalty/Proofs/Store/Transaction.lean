import Loyalty.Proofs.Store.Statement

/-!
# Operations within a transaction

Within a transaction an operation works on the draft. `Db.Within` says what becomes of it: the
store is left alone and the draft stays open whatever happens, a fault on a statement included,
and a result comes with a draft that is as promised. The rules follow the shape of an operation,
so what a body of several statements does is read off statement by statement.

Main statement: a transaction either fails and leaves the store as it was, or it succeeds and
the store becomes what its body has made of the draft.
-/

namespace Loyalty.Store

/-! ### One call -/

/-- A statement that only stands for itself changes neither the store nor the draft. -/
theorem Session.call_same (s : Session) (st : Statement) :
    (s.call st fun d => .ok ((), d)).2.store = s.store ∧
      (s.call st fun d => .ok ((), d)).2.draft = s.draft := by
  unfold call
  split
  · exact ⟨rfl, rfl⟩
  · dsimp only
    split
    · exact ⟨rfl, rfl⟩
    · cases s.draft <;> simp [put, view]

/-- Outside of a transaction a statement takes effect when it is answered, and not at all when
it is refused. -/
theorem Session.call_of_no_draft {α : Type} {s : Session} (h : s.draft = none) (st : Statement)
    (run : State → Answer (α × State)) :
    (s.call st run).2.draft = none ∧
      ((∃ e, (s.call st run).1 = .error e ∧ (s.call st run).2.store = s.store) ∨
        ∃ a, (s.call st run).1 = .ok a ∧ run s.store = .ok (a, (s.call st run).2.store)) := by
  unfold call
  split
  · exact ⟨h, .inl ⟨_, rfl, rfl⟩⟩
  · dsimp only
    split
    · exact ⟨h, .inl ⟨_, rfl, rfl⟩⟩
    · have seen : s.view = s.store := by simp [view, h]
      cases answer : run s.store with
      | error e => simp [view, h, answer]
      | ok r => simp [view, put, h, answer]

namespace Db

/-- Run on the draft `d`, the operation leaves the store alone and a draft open, and a result
comes with a draft that fulfils `Q`. -/
def Within {α : Type} (x : Db α) (d : State) (Q : α → State → Prop) : Prop :=
  ∀ s : Session, s.draft = some d → (x s).2.store = s.store ∧
    ∃ d', (x s).2.draft = some d' ∧ ∀ a, (x s).1 = .ok a → Q a d'

variable {α β : Type} {d : State}

/-! ### The rules -/

theorem bind_of_ok {x : Db α} {f : α → Db β} {a : α} {s s' : Session}
    (run : x s = (.ok a, s')) : (x >>= f) s = f a s' := by
  change Db.bind x f s = _
  rw [Db.bind, run]

theorem bind_of_error {x : Db α} {f : α → Db β} {e : Failure} {s s' : Session}
    (run : x s = (.error e, s')) : (x >>= f) s = (.error e, s') := by
  change Db.bind x f s = _
  rw [Db.bind, run]

theorem Within.pure {Q : α → State → Prop} {a : α} (h : Q a d) : Within (Pure.pure a) d Q := by
  intro s hs
  refine ⟨rfl, d, hs, ?_⟩
  intro b same
  cases same
  exact h

theorem Within.bind {x : Db α} {f : α → Db β} {P : α → State → Prop} {Q : β → State → Prop}
    (hx : Within x d P) (hf : ∀ a d', P a d' → Within (f a) d' Q) : Within (x >>= f) d Q := by
  intro s hs
  obtain ⟨hstore, d', hdraft, hP⟩ := hx s hs
  cases run : x s with
  | mk answer s' =>
    rw [run] at hstore hdraft hP
    cases answer with
    | error e =>
      rw [bind_of_error run]
      exact ⟨hstore, d', hdraft, fun b hb => nomatch hb⟩
    | ok a =>
      rw [bind_of_ok run]
      obtain ⟨hstore', rest⟩ := hf a d' (hP a rfl) s' hdraft
      exact ⟨hstore'.trans hstore, rest⟩

/-- An operation that starts by something that only reads. -/
theorem Within.bind_same {x : Db α} {f : α → Db β} {Q : β → State → Prop}
    (hx : Within x d fun _ d' => d' = d) (hf : ∀ a, Within (f a) d Q) : Within (x >>= f) d Q := by
  refine hx.bind fun a d' same => ?_
  rw [same]
  exact hf a

theorem Within.mono {x : Db α} {P Q : α → State → Prop} (h : Within x d P)
    (weaker : ∀ a d', P a d' → Q a d') : Within x d Q := by
  intro s hs
  obtain ⟨hstore, d', hdraft, hP⟩ := h s hs
  exact ⟨hstore, d', hdraft, fun a answered => weaker a d' (hP a answered)⟩

theorem within_fail {Q : α → State → Prop} (e : Failure) : Within (fail e) d Q :=
  fun _ hs => ⟨rfl, d, hs, fun _ h => nomatch h⟩

theorem within_now {Q : Timestamp → State → Prop} (h : ∀ t, Q t d) : Within now d Q := by
  intro s hs
  simp only [now]
  exact ⟨trivial, d, hs, fun t _ => h t⟩

theorem within_fresh {Q : Uuid → State → Prop} (h : ∀ id, Q id d) : Within fresh d Q := by
  intro s hs
  exact ⟨rfl, d, hs, fun id _ => h id⟩

/-- A statement puts what it has written into the draft; with a fault on it, it does nothing. -/
theorem within_statement {Q : α → State → Prop} {st : Statement}
    {explain : DatabaseError → Failure} {run : State → Answer (α × State)}
    (h : ∀ a d', run d = .ok (a, d') → Q a d') : Within (statement st explain run) d Q := by
  intro s hs
  simp only [statement, Session.call, Session.connect, hs]
  split
  · refine ⟨rfl, d, rfl, ?_⟩
    intro b same
    cases same
  · simp only [Session.view, Option.getD_some]
    cases answer : run d with
    | error e =>
      refine ⟨rfl, d, rfl, ?_⟩
      intro b same
      cases same
    | ok r =>
      refine ⟨rfl, r.2, rfl, ?_⟩
      intro b same
      cases same
      exact h r.1 r.2 answer

/-! ### The transaction as a whole -/

/-- **All or nothing.** A transaction that fails leaves the store as it was, at whichever of its
statements it failed, the commit included; one that succeeds puts the draft in its place. -/
theorem transaction_cases {body : Db α} {Q : α → State → Prop} {s : Session}
    (hs : s.draft = none) (hb : Within body s.store Q) :
    (transaction body s).2.draft = none ∧
      ((∃ e, (transaction body s).1 = .error e ∧ (transaction body s).2.store = s.store) ∨
        ∃ a, (transaction body s).1 = .ok a ∧ Q a (transaction body s).2.store) := by
  unfold transaction
  obtain ⟨hstore, hdraft⟩ := s.call_same .begin
  cases hbegin : s.call .begin (fun d => .ok ((), d)) with
  | mk answer s₁ =>
    rw [hbegin] at hstore hdraft
    dsimp only at hstore hdraft
    cases answer with
    | error e => exact ⟨hdraft.trans hs, .inl ⟨_, rfl, hstore⟩⟩
    | ok u =>
      dsimp only
      rw [← hstore] at hb
      obtain ⟨hstore₂, d', hdraft₂, hQ⟩ := hb { s₁ with draft := some s₁.store } rfl
      cases hbody : body { s₁ with draft := some s₁.store } with
      | mk answer s₂ =>
        rw [hbody] at hstore₂ hdraft₂ hQ
        dsimp only at hstore₂ hdraft₂ hQ
        cases answer with
        | error e => exact ⟨rfl, .inl ⟨_, rfl, hstore₂.trans hstore⟩⟩
        | ok a =>
          dsimp only
          obtain ⟨hstore₃, hdraft₃⟩ := s₂.call_same .commit
          cases hcommit : s₂.call .commit (fun d => .ok ((), d)) with
          | mk answer s₃ =>
            rw [hcommit] at hstore₃ hdraft₃
            dsimp only at hstore₃ hdraft₃
            cases answer with
            | error e => exact ⟨rfl, .inl ⟨_, rfl, (hstore₃.trans hstore₂).trans hstore⟩⟩
            | ok u =>
              refine ⟨rfl, .inr ⟨a, rfl, ?_⟩⟩
              have seen : s₃.view = d' := by simp [Session.view, hdraft₃, hdraft₂]
              dsimp only
              rw [seen]
              exact hQ a rfl

end Db

/-! ### Statements on the tables -/

theorem State.on_eq_ok {α : Type} {table : String} {run : Tables → Answer (α × Tables)}
    {d d' : State} {a : α} :
    d.on table run = .ok (a, d') ↔
      d.created = true ∧ ∃ t, run d.tables = .ok (a, t) ∧ d' = { d with tables := t } := by
  unfold State.on
  split
  next created =>
    cases run d.tables with
    | error e => simp [Except.map]
    | ok r =>
      obtain ⟨b, t⟩ := r
      simp only [Except.map, Except.ok.injEq, Prod.mk.injEq]
      constructor
      · intro h
        obtain ⟨rfl, rfl⟩ := h
        exact ⟨created, t, ⟨rfl, rfl⟩, rfl⟩
      · intro h
        obtain ⟨_, _, ⟨rfl, rfl⟩, rfl⟩ := h
        exact ⟨rfl, rfl⟩
  next missing => simp [missing]

theorem State.reading_eq_ok {α : Type} {table : String} {run : Tables → Answer α}
    {d d' : State} {a : α} :
    d.reading table run = .ok (a, d') ↔
      d.created = true ∧ run d.tables = .ok a ∧ d' = d := by
  rw [State.reading, State.on_eq_ok]
  cases run d.tables with
  | error e => simp [Except.map]
  | ok b =>
    simp only [Except.map, Except.ok.injEq, Prod.mk.injEq]
    constructor
    · intro h
      obtain ⟨created, _, ⟨rfl, rfl⟩, rfl⟩ := h
      exact ⟨created, rfl, rfl⟩
    · intro h
      obtain ⟨created, rfl, rfl⟩ := h
      exact ⟨created, d'.tables, ⟨rfl, rfl⟩, rfl⟩

end Loyalty.Store
