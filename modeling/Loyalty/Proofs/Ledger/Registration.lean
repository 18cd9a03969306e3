import Loyalty.Proofs.Ledger.Constraints
import Loyalty.Proofs.Store.Refusal
import Loyalty.Proofs.OrderNumber.Luhn

/-!
# Orders are registered once

One statement adds an order unless its number is there, and answers the order of that number either way;
whose it is is looked at afterwards. So a number that is taken is never given away, whoever asks for it,
and not even a user that does not exist is told so before it is known that the number is free. A number
that is no order number is refused before the store is asked.

After any calls a number belongs to the first of the existing users that have asked for it, and none of
the calls would change anything if it were made again.

Main statement: `registered_once`, for all tables within their constraints and any calls.
-/

namespace Loyalty.OrderNumber

/-- One to sixty-four digits. -/
def IsOrderNumber (number : String) : Prop := IsNumeral number ∧ number.length ≤ 64

end Loyalty.OrderNumber

namespace Loyalty.Store

def Tables.owner? (t : Tables) (number : String) : Option Uuid :=
  (t.order? number).map OrderRow.user

/-- The row that is made for a new order. -/
def Session.newOrder (s : Session) (number : String) (user : Uuid) : OrderRow :=
  ⟨⟨BitVec.ofNat 128 s.serial⟩, number, user, .new, none, s.now, s.now⟩

/-- The session once a new order has its identifier and its time. -/
def Session.numbered (s : Session) : Session :=
  { s with now := s.now.next, serial := s.serial + 1 }

/-- The session once the statement for a new order was run and has left these tables. -/
def Session.afterOrder (s : Session) (t : Tables) : Session :=
  { s.numbered with store := { s.store with tables := t }, trace := .createOrder :: s.trace }

/-- The row that is answered to a user who registers an order, or why it is not the user's. -/
def Tables.claim (t : Tables) (row : OrderRow) : Except Failure OrderRow :=
  match t.order? row.number with
  | some stored =>
    if stored.user = row.user then .ok stored else .error (.orderNumberTaken row.number)
  | none => if t.hasUser row.user then .ok row else .error (.userNotFound row.user.toText)

def Tables.register (t : Tables) (row : OrderRow) : Tables :=
  if t.order? row.number = none ∧ t.hasUser row.user = true then
    { t with orders := t.orders ++ [row] }
  else t

section

-- sessions are compared field by field, and the clock must not be wound on for that
attribute [local irreducible] Timestamp.next

variable {s : Session} {t : Tables} {row stored : OrderRow} {number : String} {user : Uuid}

/-! ### One statement -/

/-- With a connection and no fault ahead, a statement outside of a transaction is carried out on the
store. -/
theorem Session.call_of_ready {α : Type} (ready : Ready s) (st : Statement)
    (run : State → Answer (α × State)) :
    s.call st run = match run s.store with
      | .error e => (.error e, { s with trace := st :: s.trace })
      | .ok (a, d) => (.ok a, { s with store := d, trace := st :: s.trace }) := by
  obtain ⟨closed, up, clear, -, -⟩ := ready
  obtain ⟨store, draft, link, maxConnections, faults, trace, now, serial⟩ := s
  subst closed up clear
  rfl

theorem Db.statement_of_answered {α : Type} (ready : Ready s) {st : Statement}
    {explain : DatabaseError → Failure} {run : State → Answer (α × State)} {a : α} {d : State}
    (answered : run s.store = .ok (a, d)) :
    Db.statement st explain run s = (.ok a, { s with store := d, trace := st :: s.trace }) := by
  rw [Db.statement, Session.call_of_ready ready, answered]
  rfl

theorem Db.statement_of_refused {α : Type} (ready : Ready s) {st : Statement}
    {explain : DatabaseError → Failure} {run : State → Answer (α × State)} {e : DatabaseError}
    (refused : run s.store = .error e) :
    Db.statement st explain run s = (.error (explain e), { s with trace := st :: s.trace }) := by
  rw [Db.statement, Session.call_of_ready ready, refused]
  rfl

/-! ### Adding an order -/

theorem Tables.claim_of_found (row : OrderRow) (found : t.order? row.number = some stored) :
    t.claim row =
      (if stored.user = row.user then .ok stored else .error (.orderNumberTaken row.number)) ∧
      t.register row = t := by
  rw [claim, register, found]
  exact ⟨rfl, if_neg fun h => nomatch h.1⟩

theorem Tables.claim_of_unknown (row : OrderRow) (free : t.order? row.number = none)
    (unknown : t.hasUser row.user = false) :
    t.claim row = .error (.userNotFound row.user.toText) ∧ t.register row = t := by
  rw [claim, register, free, unknown]
  exact ⟨rfl, if_neg fun h => nomatch h.2⟩

theorem Tables.claim_of_free (row : OrderRow) (free : t.order? row.number = none)
    (known : t.hasUser row.user = true) :
    t.claim row = .ok row ∧ t.register row = { t with orders := t.orders ++ [row] } := by
  rw [claim, register, free, known]
  exact ⟨rfl, if_pos ⟨rfl, rfl⟩⟩

/-- The statement looks for the number first, and for the user only if it is to add the row. -/
theorem Tables.insertOrder_of_text (t : Tables) (row : OrderRow) (text : '\x00' ∉ row.number.toList) :
    t.insertOrder row = match t.order? row.number with
      | some stored => .ok (stored.record, t.register row)
      | none =>
        if t.hasUser row.user then .ok (row.record, t.register row) else .error (noUser "orders") := by
  have sent : takeText row.number = .ok () := takeText_eq_ok.2 text
  rw [insertOrder, sent]
  cases found : t.order? row.number with
  | some stored =>
    rw [(claim_of_found row found).2]
    rfl
  | none =>
    cases known : t.hasUser row.user with
    | false => rfl
    | true =>
      rw [(claim_of_free row found known).2]
      rfl

@[simp]
theorem Session.store_afterOrder (s : Session) (t : Tables) :
    (s.afterOrder t).store = { s.store with tables := t } := rfl

theorem Ready.numbered (ready : Ready s) : Ready s.numbered :=
  ⟨ready.closed, ready.up, ready.clear, ready.created, ready.lawful⟩

theorem createOrder_run (s : Session) (number : String) (user : Uuid) :
    createOrder number user s =
      (Db.statement .createOrder
        (fun e => if e.isForeignKeyViolation then .userNotFound user.toText else .database e)
        (State.on "orders" fun t => t.insertOrder (s.newOrder number user)) >>=
        fun o => if o.user = user then pure o else Db.fail (.orderNumberTaken number))
      s.numbered := rfl

/-- Whose the order is that the statement answers is looked at afterwards. -/
theorem createOrder_of_inserted (ready : Ready s) {o : Order}
    (inserted : s.store.tables.insertOrder (s.newOrder number user) = .ok (o, t)) :
    createOrder number user s =
      (if o.user = user then .ok o else .error (.orderNumberTaken number), s.afterOrder t) := by
  have answered : State.on "orders" (fun t => t.insertOrder (s.newOrder number user))
      s.numbered.store = .ok (o, { s.store with tables := t }) :=
    State.on_eq_ok.2 ⟨ready.created, _, inserted, rfl⟩
  rw [createOrder_run, Db.bind_of_ok (Db.statement_of_answered ready.numbered answered)]
  by_cases own : o.user = user
  · rw [if_pos own, if_pos own]
    rfl
  · rw [if_neg own, if_neg own]
    rfl

theorem createOrder_of_unknown (ready : Ready s)
    (refused : s.store.tables.insertOrder (s.newOrder number user) = .error (noUser "orders")) :
    createOrder number user s =
      (.error (.userNotFound user.toText), s.afterOrder s.store.tables) := by
  have answered : State.on "orders" (fun t => t.insertOrder (s.newOrder number user))
      s.numbered.store = .error (noUser "orders") := State.on_eq_error ready.created refused
  rw [createOrder_run, Db.bind_of_error (Db.statement_of_refused ready.numbered answered)]
  rfl

/-- The answer to a registration and what becomes of the session, whatever the store holds. -/
theorem createOrder_eq (ready : Ready s) (text : '\x00' ∉ number.toList) (user : Uuid) :
    createOrder number user s =
      ((s.store.tables.claim (s.newOrder number user)).map OrderRow.record,
        s.afterOrder (s.store.tables.register (s.newOrder number user))) := by
  have inserted := s.store.tables.insertOrder_of_text (s.newOrder number user) text
  cases found : s.store.tables.order? (s.newOrder number user).number with
  | some stored =>
    rw [found] at inserted
    rw [createOrder_of_inserted ready inserted, (Tables.claim_of_found _ found).1]
    have owner : (s.newOrder number user).user = user := rfl
    have same : stored.record.user = stored.user := rfl
    rw [owner, same]
    by_cases own : stored.user = user
    · rw [if_pos own, if_pos own]
      rfl
    · rw [if_neg own, if_neg own]
      rfl
  | none =>
    rw [found] at inserted
    cases known : s.store.tables.hasUser (s.newOrder number user).user with
    | true =>
      rw [createOrder_of_inserted ready (inserted.trans (if_pos known)),
        (Tables.claim_of_free _ found known).1]
      have mine : (s.newOrder number user).record.user = user := rfl
      rw [if_pos mine]
      rfl
    | false =>
      have refused := inserted.trans (if_neg (Bool.eq_false_iff.1 known))
      obtain ⟨answer, same⟩ := Tables.claim_of_unknown _ found known
      rw [createOrder_of_unknown ready refused, answer, same]
      rfl

/-! ### What is kept -/

/-- Either the row is added or the tables stay as they are. -/
theorem Tables.register_cases (t : Tables) (row : OrderRow) :
    (t.order? row.number = none ∧ t.hasUser row.user = true ∧
      t.register row = { t with orders := t.orders ++ [row] }) ∨
    (¬ (t.order? row.number = none ∧ t.hasUser row.user = true) ∧ t.register row = t) := by
  by_cases admitted : t.order? row.number = none ∧ t.hasUser row.user = true
  · obtain ⟨free, known⟩ := admitted
    exact .inl ⟨free, known, (claim_of_free row free known).2⟩
  · exact .inr ⟨admitted, if_neg admitted⟩

theorem Constraints.register (lawful : Constraints t) (text : '\x00' ∉ row.number.toList) :
    Constraints (t.register row) := by
  obtain ⟨free, known, same⟩ | ⟨-, same⟩ := t.register_cases row
  · rw [same]
    have apart : (t.orders.map OrderRow.number ++ [row.number]).Nodup := by
      refine List.nodup_append.2 ⟨lawful.numbers, List.nodup_singleton _, ?_⟩
      intro number held other last
      obtain ⟨o, ho, rfl⟩ := List.mem_map.1 held
      rw [List.mem_singleton.1 last]
      exact Tables.order?_eq_none.1 free o ho
    exact
      { toWithinSchema := lawful.toWithinSchema.register known text
        numbers := by
          rw [List.map_append]
          exact apart
        single := lawful.single
        accounts := lawful.accounts
        covered := lawful.covered }
  · rw [same]
    exact lawful

theorem Ready.afterOrder (ready : Ready s) (lawful : Constraints t) : Ready (s.afterOrder t) :=
  ⟨ready.closed, ready.up, ready.clear, ready.created, lawful⟩

/-- A number that has an owner keeps it; another one gets the user that registers it, if that
exists. -/
theorem Tables.owner?_register (t : Tables) (row : OrderRow) (number : String) :
    (t.register row).owner? number =
      (t.owner? number).or
        (if row.number = number ∧ t.hasUser row.user = true then some row.user else none) := by
  obtain ⟨free, known, same⟩ | ⟨refused, same⟩ := t.register_cases row
  · rw [same, owner?, owner?, order?, List.find?_append, Option.map_or, ← order?]
    by_cases asked : row.number = number
    · rw [if_pos ⟨asked, known⟩, List.find?_cons_of_pos (by simpa using asked)]
      rfl
    · rw [if_neg fun h => asked h.1, List.find?_cons_of_neg (by simpa using asked)]
      rfl
  · rw [same]
    by_cases asked : row.number = number ∧ t.hasUser row.user = true
    · obtain ⟨rfl, known⟩ := asked
      obtain ⟨stored, found⟩ := Option.ne_none_iff_exists'.1 fun free => refused ⟨free, known⟩
      rw [owner?, found]
      rfl
    · rw [if_neg asked, Option.or_none]

end

end Loyalty.Store

namespace Loyalty.Service

open Loyalty.Store
open Loyalty.OrderNumber (IsOrderNumber check check_eq_ok_iff)

variable {s : Session} {number : String}

/-! ### One call -/

/-- A number that is no order number is refused before the store is asked. -/
theorem registerOrder_of_invalid (invalid : ¬ IsOrderNumber number) (user : Uuid) (s : Session) :
    ∃ v, check number = .error v ∧
      registerOrder number user s = (.error (.validation v.message), s) := by
  cases checks : check number with
  | ok u => exact absurd (check_eq_ok_iff.1 checks) invalid
  | error v =>
    refine ⟨v, rfl, ?_⟩
    rw [registerOrder, checks]
    rfl

theorem registerOrder_of_valid (ready : Ready s) (valid : IsOrderNumber number) (user : Uuid) :
    registerOrder number user s =
      ((s.store.tables.claim (s.newOrder number user)).map OrderRow.record,
        s.afterOrder (s.store.tables.register (s.newOrder number user))) := by
  have passed : check number = .ok () := check_eq_ok_iff.2 valid
  have same : registerOrder number user s = createOrder number user s := by
    rw [registerOrder, passed]
    rfl
  rw [same, createOrder_eq ready valid.1.text]

/-- A number that is there is answered to its owner as it is, and refused to everyone else. -/
theorem registerOrder_of_registered (ready : Ready s) {row : OrderRow}
    (among : row ∈ s.store.tables.orders) (valid : IsOrderNumber row.number) (user : Uuid) :
    (registerOrder row.number user s).1 =
        (if row.user = user then .ok row.record else .error (.orderNumberTaken row.number)) ∧
      (registerOrder row.number user s).2.store = s.store := by
  have found := Tables.order?_of_mem ready.lawful.numbers among
  obtain ⟨answer, same⟩ := Tables.claim_of_found (s.newOrder row.number user) found
  have owner : (s.newOrder row.number user).user = user := rfl
  rw [registerOrder_of_valid ready valid, answer, same, owner, Session.store_afterOrder]
  refine ⟨?_, rfl⟩
  by_cases own : row.user = user
  · rw [if_pos own, if_pos own]
    rfl
  · rw [if_neg own, if_neg own]
    rfl

theorem registerOrder_of_unknown (ready : Ready s) (valid : IsOrderNumber number)
    (free : s.store.tables.order? number = none) {user : Uuid}
    (unknown : s.store.tables.hasUser user = false) :
    (registerOrder number user s).1 = .error (.userNotFound user.toText) ∧
      (registerOrder number user s).2.store = s.store := by
  obtain ⟨answer, same⟩ := Tables.claim_of_unknown (s.newOrder number user) free unknown
  rw [registerOrder_of_valid ready valid, answer, same, Session.store_afterOrder]
  exact ⟨rfl, rfl⟩

/-- A free number is registered for a user that exists: a new order is added, and nothing else is
changed. -/
theorem registerOrder_of_free (ready : Ready s) (valid : IsOrderNumber number)
    (free : s.store.tables.order? number = none) {user : Uuid}
    (known : s.store.tables.hasUser user = true) :
    (registerOrder number user s).1 = .ok (s.newOrder number user).record ∧
      (registerOrder number user s).2.store = { s.store with tables := { s.store.tables with
        orders := s.store.tables.orders ++ [s.newOrder number user] } } := by
  obtain ⟨answer, same⟩ := Tables.claim_of_free (s.newOrder number user) free known
  rw [registerOrder_of_valid ready valid, answer, same, Session.store_afterOrder]
  exact ⟨rfl, rfl⟩

/-- A call to register an order for a user. -/
structure Registration where
  number : String
  user : Uuid
  deriving DecidableEq, Repr

def Registration.run (s : Session) (r : Registration) : Session :=
  (registerOrder r.number r.user s).2

def Registration.IsAdmitted (s : Session) (r : Registration) : Prop :=
  IsOrderNumber r.number ∧ s.store.tables.order? r.number = none ∧
    s.store.tables.hasUser r.user = true

namespace Registration

/-- A call that adds an order adds a new one without an accrual, and nothing else. -/
theorem run_of_isAdmitted (ready : Ready s) {r : Registration} (admitted : r.IsAdmitted s) :
    (r.run s).store = { s.store with tables := { s.store.tables with
      orders := s.store.tables.orders ++ [s.newOrder r.number r.user] } } := by
  obtain ⟨valid, free, known⟩ := admitted
  exact (registerOrder_of_free ready valid free known).2

theorem run_of_not_isAdmitted (ready : Ready s) {r : Registration}
    (refused : ¬ r.IsAdmitted s) : (r.run s).store = s.store := by
  by_cases valid : IsOrderNumber r.number
  · have same : s.store.tables.register (s.newOrder r.number r.user) = s.store.tables :=
      if_neg fun h => refused ⟨valid, h⟩
    rw [run, registerOrder_of_valid ready valid, same, Session.store_afterOrder]
  · obtain ⟨v, -, same⟩ := registerOrder_of_invalid valid r.user s
    rw [run, same]

theorem ready_run (ready : Ready s) (r : Registration) : Ready (r.run s) := by
  by_cases valid : IsOrderNumber r.number
  · rw [run, registerOrder_of_valid ready valid]
    exact ready.afterOrder (ready.lawful.register valid.1.text)
  · obtain ⟨v, -, same⟩ := registerOrder_of_invalid valid r.user s
    rw [run, same]
    exact ready

theorem users_run (ready : Ready s) (r : Registration) :
    (r.run s).store.tables.users = s.store.tables.users := by
  by_cases admitted : r.IsAdmitted s
  · rw [run_of_isAdmitted ready admitted]
  · rw [run_of_not_isAdmitted ready admitted]

/-- A call for a number gives it to its user if it was free and the user exists. -/
theorem owner?_run (ready : Ready s) (r : Registration) (valid : IsOrderNumber number) :
    (r.run s).store.tables.owner? number =
      (s.store.tables.owner? number).or
        (if r.number = number ∧ s.store.tables.hasUser r.user = true then some r.user
          else none) := by
  by_cases asks : IsOrderNumber r.number
  · rw [run, registerOrder_of_valid ready asks]
    exact s.store.tables.owner?_register (s.newOrder r.number r.user) number
  · have other : ¬ (r.number = number ∧ s.store.tables.hasUser r.user = true) := by
      rintro ⟨rfl, -⟩
      exact asks valid
    rw [run_of_not_isAdmitted ready fun admitted => asks admitted.1, if_neg other, Option.or_none]

end Registration

/-! ### Any calls -/

def registerAll (s : Session) (rs : List Registration) : Session :=
  rs.foldl Registration.run s

/-- The user of the first call for the number whose user exists. -/
def firstAsking (t : Tables) (number : String) (rs : List Registration) : Option Uuid :=
  (rs.find? fun r => r.number = number && t.hasUser r.user).map Registration.user

theorem firstAsking_cons (t : Tables) (number : String) (r : Registration)
    (rs : List Registration) :
    firstAsking t number (r :: rs) =
      (if r.number = number ∧ t.hasUser r.user = true then some r.user else none).or
        (firstAsking t number rs) := by
  rw [firstAsking, firstAsking, List.find?_cons]
  by_cases asks : r.number = number ∧ t.hasUser r.user = true
  · have asked : (decide (r.number = number) && t.hasUser r.user) = true := by simpa using asks
    rw [if_pos asks, asked]
    rfl
  · have other : (decide (r.number = number) && t.hasUser r.user) = false := by simpa using asks
    rw [if_neg asks, other]
    rfl

theorem ready_registerAll (ready : Ready s) (rs : List Registration) :
    Ready (registerAll s rs) := by
  induction rs generalizing s with
  | nil => exact ready
  | cons r rs ih => exact ih (Registration.ready_run ready r)

theorem users_registerAll (ready : Ready s) (rs : List Registration) :
    (registerAll s rs).store.tables.users = s.store.tables.users := by
  induction rs generalizing s with
  | nil => rfl
  | cons r rs ih => exact (ih (Registration.ready_run ready r)).trans (r.users_run ready)

/-- All that calls do is to add orders, each with an order number, new and without an accrual. -/
theorem store_registerAll (ready : Ready s) (rs : List Registration) :
    ∃ added : List OrderRow,
      (registerAll s rs).store = { s.store with tables := { s.store.tables with
        orders := s.store.tables.orders ++ added } } ∧
      ∀ row ∈ added, IsOrderNumber row.number ∧ row.status = .new ∧ row.accrual = none := by
  induction rs generalizing s with
  | nil =>
    refine ⟨[], ?_, nofun⟩
    rw [List.append_nil]
    rfl
  | cons r rs ih =>
    obtain ⟨added, stored, fresh⟩ := ih (r.ready_run ready)
    by_cases admitted : r.IsAdmitted s
    · refine ⟨s.newOrder r.number r.user :: added, ?_, ?_⟩
      · have step := r.run_of_isAdmitted ready admitted
        rw [step, List.append_assoc] at stored
        exact stored
      · intro row among
        obtain rfl | among := List.mem_cons.1 among
        · exact ⟨admitted.1, rfl, rfl⟩
        · exact fresh row among
    · rw [r.run_of_not_isAdmitted ready admitted] at stored
      exact ⟨added, stored, fresh⟩

/-- A number keeps its owner, and a free one belongs to the first existing user that asks for it. -/
theorem owner?_registerAll (ready : Ready s) (valid : IsOrderNumber number)
    (rs : List Registration) :
    (registerAll s rs).store.tables.owner? number =
      (s.store.tables.owner? number).or (firstAsking s.store.tables number rs) := by
  induction rs generalizing s with
  | nil => exact Option.or_none.symm
  | cons r rs ih =>
    have known : ∀ user, (r.run s).store.tables.hasUser user = s.store.tables.hasUser user := by
      intro user
      rw [Tables.hasUser, r.users_run ready, Tables.hasUser]
    have later : firstAsking (r.run s).store.tables number rs =
        firstAsking s.store.tables number rs := by
      simp only [firstAsking, known]
    rw [firstAsking_cons, ← Option.or_assoc, ← r.owner?_run ready valid, ← later]
    exact ih (r.ready_run ready)

/-- After the calls, none of them would add an order. -/
theorem not_isAdmitted_registerAll (ready : Ready s) {rs : List Registration} {r : Registration}
    (among : r ∈ rs) : ¬ r.IsAdmitted (registerAll s rs) := by
  rintro ⟨valid, free, known⟩
  have known : s.store.tables.hasUser r.user = true := by
    rw [Tables.hasUser, users_registerAll ready rs] at known
    exact known
  have unowned : (registerAll s rs).store.tables.owner? r.number = none := by
    rw [Tables.owner?, free]
    rfl
  rw [owner?_registerAll ready valid rs, Option.or_eq_none_iff, firstAsking,
    Option.map_eq_none_iff, List.find?_eq_none] at unowned
  exact unowned.2 r among (by simpa using known)

/-- **A number belongs to the first who asked for it.** What is no order number is refused before the
store is asked. A number that is there is answered to its owner as it is, taken for anybody else, and
nothing changes; one that is free becomes a new order of the user who asks, if there is such a user.
After any calls every number has one row, which belongs to its owner before them or to the first
existing user among those that asked, and a call that is made again changes nothing. -/
theorem registered_once (s : Session) (ready : Ready s) :
    (∀ number user,
      (¬ IsOrderNumber number → ∃ v, check number = .error v ∧
        registerOrder number user s = (.error (.validation v.message), s)) ∧
      (IsOrderNumber number →
        (∀ row ∈ s.store.tables.orders, row.number = number →
          (registerOrder number user s).1 =
            (if row.user = user then .ok row.record else .error (.orderNumberTaken number)) ∧
          (registerOrder number user s).2.store = s.store) ∧
        ((∀ row ∈ s.store.tables.orders, row.number ≠ number) →
          (s.store.tables.hasUser user = false →
            (registerOrder number user s).1 = .error (.userNotFound user.toText) ∧
            (registerOrder number user s).2.store = s.store) ∧
          (s.store.tables.hasUser user = true → ∃ row : OrderRow,
            row.number = number ∧ row.user = user ∧ row.status = .new ∧ row.accrual = none ∧
            (registerOrder number user s).1 = .ok row.record ∧
            (registerOrder number user s).2.store =
              { s.store with tables := { s.store.tables with
                orders := s.store.tables.orders ++ [row] } })))) ∧
    ∀ rs : List Registration,
      (∃ added : List OrderRow,
        (registerAll s rs).store = { s.store with tables := { s.store.tables with
          orders := s.store.tables.orders ++ added } } ∧
        ∀ row ∈ added, IsOrderNumber row.number ∧ row.status = .new ∧ row.accrual = none) ∧
      ((registerAll s rs).store.tables.orders.map OrderRow.number).Nodup ∧
      (∀ number, IsOrderNumber number → (registerAll s rs).store.tables.owner? number =
        (s.store.tables.owner? number).or (firstAsking s.store.tables number rs)) ∧
      ∀ r ∈ rs, (r.run (registerAll s rs)).store = (registerAll s rs).store := by
  constructor
  · intro number user
    refine ⟨fun invalid => registerOrder_of_invalid invalid user s, fun valid => ⟨?_, ?_⟩⟩
    · rintro row among rfl
      exact registerOrder_of_registered ready among valid user
    · intro unregistered
      have free := Tables.order?_eq_none.2 unregistered
      refine ⟨registerOrder_of_unknown ready valid free, fun known => ?_⟩
      obtain ⟨answer, stored⟩ := registerOrder_of_free ready valid free known
      exact ⟨s.newOrder number user, rfl, rfl, rfl, rfl, answer, stored⟩
  · intro rs
    refine ⟨store_registerAll ready rs, (ready_registerAll ready rs).lawful.numbers,
      fun number valid => owner?_registerAll ready valid rs, fun r among => ?_⟩
    exact r.run_of_not_isAdmitted (ready_registerAll ready rs)
      (not_isAdmitted_registerAll ready among)

/-- Calls for a number that is free and for one that is bob's, by ann, by bob and by nobody. -/
def contested : List Registration :=
  [⟨"59", ⟨9⟩⟩, ⟨"59", ⟨2⟩⟩, ⟨"59", ⟨1⟩⟩, ⟨"26", ⟨1⟩⟩, ⟨"1a", ⟨1⟩⟩]

theorem registered_once_patchwork :
    Ready patchwork ∧
      registerOrder "1a" ⟨1⟩ patchwork =
        (.error (.validation "order_number: must contain only digits"), patchwork) ∧
      (registerOrder "26" ⟨2⟩ patchwork).1 =
        .ok ⟨⟨5⟩, "26", ⟨2⟩, .processing, none, ⟨0, 0⟩, ⟨0, 0⟩⟩ ∧
      (registerOrder "26" ⟨9⟩ patchwork).1 = .error (.orderNumberTaken "26") ∧
      (registerOrder "59" ⟨9⟩ patchwork).1 = .error (.userNotFound (Uuid.toText ⟨9⟩)) ∧
      (∃ row : OrderRow, row.number = "59" ∧ row.user = ⟨2⟩ ∧
        (registerOrder "59" ⟨2⟩ patchwork).1 = .ok row.record) ∧
      (registerAll patchwork contested).store.tables.owner? "59" = some ⟨2⟩ ∧
      (registerAll patchwork contested).store.tables.owner? "26" = some ⟨2⟩ ∧
      ∀ r ∈ contested, (r.run (registerAll patchwork contested)).store =
        (registerAll patchwork contested).store := by
  obtain ⟨one, all⟩ := registered_once patchwork ready_patchwork
  obtain ⟨-, -, owner, again⟩ := all contested
  have valid : IsOrderNumber "26" := check_eq_ok_iff.1 (by decide +kernel)
  have valid' : IsOrderNumber "59" := check_eq_ok_iff.1 (by decide +kernel)
  have letter : check "1a" = .error ⟨"order_number", "must contain only digits"⟩ := by
    decide +kernel
  have invalid : ¬ IsOrderNumber "1a" := by
    intro numeral
    have passed := check_eq_ok_iff.2 numeral
    rw [letter] at passed
    cases passed
  have held : (⟨⟨5⟩, "26", ⟨2⟩, .processing, none, ⟨0, 0⟩, ⟨0, 0⟩⟩ : OrderRow) ∈
      patchwork.store.tables.orders := by decide +kernel
  have free : ∀ row ∈ patchwork.store.tables.orders, row.number ≠ "59" := by decide +kernel
  have unknown : patchwork.store.tables.hasUser ⟨9⟩ = false := by decide +kernel
  have known : patchwork.store.tables.hasUser ⟨2⟩ = true := by decide +kernel
  refine ⟨ready_patchwork, ?_, (((one "26" ⟨2⟩).2 valid).1 _ held rfl).1,
    (((one "26" ⟨9⟩).2 valid).1 _ held rfl).1.trans (if_neg (by decide)),
    ((((one "59" ⟨9⟩).2 valid').2 free).1 unknown).1, ?_, ?_, ?_, again⟩
  · obtain ⟨v, checks, answer⟩ := (one "1a" ⟨1⟩).1 invalid
    rw [letter] at checks
    cases checks
    exact answer
  · obtain ⟨row, number, user, -, -, answer, -⟩ := (((one "59" ⟨2⟩).2 valid').2 free).2 known
    exact ⟨row, number, user, answer⟩
  · rw [owner "59" valid']
    decide +kernel
  · rw [owner "26" valid]
    decide +kernel

end Loyalty.Service
