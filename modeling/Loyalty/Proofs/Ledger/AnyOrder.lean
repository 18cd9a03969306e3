import Loyalty.Proofs.Ledger.Contents
import Loyalty.Proofs.Ledger.Settling

/-!
# Orders are settled in any order

The workers settle their orders in the order in which they happen to finish. Calls for different
orders meet in two places, the balance of a common owner and the table of entries, and both only
add up there. So it does not matter which call comes first, neither to what each is answered nor to
what the tables say in the end.

A call settles its order as `Finalization.effect` says, by what the tables were before the first of
the calls: no call changes the verdict on another. Only the room in a balance could do so, and
`HasRoom` asks for enough of it.

Main statement: `finalizeAll_perm`, for any number of calls, those that are refused among them.
-/

namespace Loyalty.Service

open Loyalty.Store

/-! ### Calls -/

/-- The arguments of a call that settles an order. -/
structure Finalization where
  number : String
  status : OrderStatus
  accrual : Option Decimal
  deriving DecidableEq, Repr

namespace Finalization

/-- The call, with a connection and no fault ahead. -/
def run (f : Finalization) : Db Order := fun s =>
  finalize f.number f.status f.accrual { s with link := .up, faults := [] }

/-- What the order is credited for if it is settled. -/
def credit? (f : Finalization) : Option Int := Service.credit? (keptAccrual f.status f.accrual)

/-- What the call may add to the balance of a user: the credit if the order is the user's. -/
def due (t : Tables) (user : Uuid) (f : Finalization) : Int :=
  if (t.order? f.number).any (·.user = user) then f.credit?.getD 0 else 0

/-- The row that the order comes to by the call, or the reason why the order is not settled. -/
def settled (t : Tables) (f : Finalization) : Except Failure OrderRow :=
  match settlingRefusal t f.number f.status f.accrual, t.order? f.number with
  | some e, _ => .error e
  | none, none => .error (.orderNotFound f.number)
  | none, some row => .ok (row.ended f.status
      ((keptAccrual f.status f.accrual).map Decimal.digits) row.modifiedAt).undated

/-- What the call makes of the contents, by what is known of its order from the tables. -/
def effect (t : Tables) (f : Finalization) (k : Contents) : Contents :=
  match f.settled t with
  | .error _ => k
  | .ok next => k.settle next f.credit?

end Finalization

/-- The calls one after the other, each with what it is answered. -/
def finalizeAll : List Finalization → Session → List (Finalization × Except Failure Order) × Session
  | [], s => ([], s)
  | f :: rest, s =>
    let (answer, s) := f.run s
    let (answers, s) := finalizeAll rest s
    ((f, answer) :: answers, s)

/-- Every balance has room for all that the calls may add to it. -/
def HasRoom (t : Tables) (calls : List Finalization) : Prop :=
  ∀ b ∈ t.balances, b.current + (calls.map (Finalization.due t b.user)).sum < Decimal.centLimit

variable {t t' : Tables} {f g : Finalization}

theorem Finalization.row_of_settled {next : OrderRow} (h : f.settled t = .ok next) :
    ∃ row, t.order? f.number = some row ∧ next.number = f.number ∧ next.user = row.user := by
  unfold settled at h
  split at h
  · cases h
  · cases h
  next row _ found =>
    cases h
    exact ⟨row, found, (Tables.mem_of_order? found).2, rfl⟩

theorem Finalization.effect_comm (distinct : f.number ≠ g.number) (k : Contents) :
    g.effect t (f.effect t k) = f.effect t (g.effect t k) := by
  unfold effect
  cases first : f.settled t with
  | error _ => rfl
  | ok x =>
    cases second : g.settled t with
    | error _ => rfl
    | ok y =>
      obtain ⟨-, -, own, -⟩ := row_of_settled first
      obtain ⟨-, -, other, -⟩ := row_of_settled second
      refine Contents.settle_comm ?_ _ _ k
      rw [own, other]
      exact distinct

theorem Finalization.due_nonneg (t : Tables) (user : Uuid) (f : Finalization) :
    0 ≤ f.due t user := by
  unfold due
  split
  · cases worth : f.credit? with
    | none => exact le_rfl
    | some c => exact (credit?_eq_some_iff.1 worth).2.le
  · exact le_rfl

/-! ### One call -/

/-- What a call has made of the tables: it has settled its order or done nothing, and whatever is
looked up for another number is still there. -/
structure Finalization.Step (f : Finalization) (t t' : Tables) : Prop where
  contents : t'.contents = f.effect t t.contents
  lawful : Constraints t'
  orders : ∀ number, number ≠ f.number → t'.order? number = t.order? number
  entries : ∀ number, number ≠ f.number →
    Tables.entry? t' .accrual number = t.entry? .accrual number

theorem step_of_settles {o : Order} (lawful : Constraints t)
    (free : settlingRefusal t f.number f.status f.accrual = none)
    (terminal : f.status.isTerminal = true) (passed : checkAccrual f.accrual = .ok ())
    (settles : Settles f.number f.status (keptAccrual f.status f.accrual) t o t') :
    (f.settled t).map OrderRow.record = .ok o.undated ∧ f.Step t t' := by
  have within := constraints_of_settles lawful free terminal passed settles
  cases settles with
  | alone row now found pending nothingDue =>
    obtain ⟨-, number⟩ := Tables.mem_of_order? found
    have verdict : f.settled t = .ok (row.ended f.status
        ((keptAccrual f.status f.accrual).map Decimal.digits) now).undated := by
      rw [Finalization.settled, free, found]
      rfl
    have due : f.credit? = none := by
      rw [Finalization.credit?, credit?, nothingDue]
      rfl
    rw [kept_cents passed] at within ⊢
    refine ⟨by rw [verdict]; rfl, ?_, within, fun n other => ?_, fun n other => rfl⟩
    · rw [Finalization.effect, verdict, due]
      exact contents_setOrder t _
    · exact Tables.order?_setOrder_of_ne (by rw [← number] at other; exact other)
  | credited row b e now found pending posting isAccrual forOrder toOwner worth =>
    rw [kept_cents passed] at worth
    obtain ⟨-, number⟩ := Tables.mem_of_order? found
    have due : f.credit? = some e.amount := credit?_eq_some_iff.2 ⟨worth, posting.positive⟩
    have verdict : f.settled t = .ok (row.ended f.status (some e.amount) now).undated := by
      rw [Finalization.settled, free, found, worth]
      rfl
    refine ⟨by rw [verdict]; rfl, ?_, within, fun n other => ?_, fun n other => ?_⟩
    · rw [Finalization.effect, verdict, due]
      exact contents_setOrder_post lawful.single posting.held isAccrual
        (forOrder.trans number.symm) toOwner
    · exact Tables.order?_setOrder_of_ne (t := t.post b e) (by rw [← number] at other; exact other)
    · exact Tables.entry?_append_of_ne (by rw [forOrder]; exact other)

/-- A call answers as the tables before it say, and leaves tables behind that are as it says. -/
theorem Finalization.run_step {s : Session} (closed : s.draft = none)
    (created : s.store.created = true) (lawful : Constraints s.store.tables) (f : Finalization) :
    (f.run s).2.draft = none ∧
      (f.run s).1.map Order.undated = (f.settled s.store.tables).map OrderRow.record ∧
      ∃ t', (f.run s).2.store = { s.store with tables := t' } ∧ f.Step s.store.tables t' := by
  have ready : Ready { s with link := .up, faults := [] } := ⟨closed, rfl, rfl, created, lawful⟩
  have verdict := failure?_finalize_of_ready ready f.number f.status f.accrual
  obtain ⟨draft, failed, answered⟩ :=
    allOrNothing_finalize f.number f.status f.accrual _ ready.closed
  refine ⟨draft, ?_⟩
  change (finalize f.number f.status f.accrual { s with link := .up, faults := [] }).1.map _ = _ ∧ _
  cases answer : (finalize f.number f.status f.accrual { s with link := .up, faults := [] }).1 with
  | error e =>
    rw [answer] at verdict
    have refused : f.settled s.store.tables = .error e := by
      rw [settled, ← verdict]
      rfl
    refine ⟨by rw [refused]; rfl, s.store.tables, failed e answer, ?_, lawful, fun _ _ => rfl,
      fun _ _ => rfl⟩
    rw [effect, refused]
  | ok o =>
    rw [answer] at verdict
    obtain ⟨t', hstore, terminal, passed, settles⟩ := answered o answer
    obtain ⟨row, step⟩ := step_of_settles lawful verdict.symm terminal passed settles
    exact ⟨row.symm, t', hstore, step⟩

/-! ### One call beside another -/

/-- A call raises one balance at most, and by no more than what is due. -/
theorem Finalization.Step.raises (step : f.Step t t') :
    ∃ user c, t'.balances = t.balances.map (BalanceRow.raised user c) ∧
      ∀ b : BalanceRow, (b.raised user c).current ≤ b.current + f.due t b.user := by
  have balances := congrArg Contents.balances step.contents
  unfold effect at balances
  cases settled : f.settled t with
  | error e =>
    rw [settled] at balances
    refine ⟨⟨0⟩, 0, by rw [BalanceRow.raised_zero, List.map_id']; exact balances, fun b => ?_⟩
    rw [BalanceRow.raised_zero]
    exact le_add_of_nonneg_right (due_nonneg t b.user f)
  | ok next =>
    rw [settled] at balances
    obtain ⟨row, found, -, owner⟩ := row_of_settled settled
    refine ⟨next.user, f.credit?.getD 0, balances, fun b => ?_⟩
    by_cases own : b.user = next.user
    · have due : f.due t b.user = f.credit?.getD 0 := by
        rw [Finalization.due, found, own, owner]
        simp
      rw [due, BalanceRow.raised, if_pos own]
    · rw [BalanceRow.raised, if_neg own]
      exact le_add_of_nonneg_right (due_nonneg t b.user f)

theorem Finalization.Step.due_eq (step : f.Step t t') (other : g.number ≠ f.number) (user : Uuid) :
    g.due t' user = g.due t user := by
  rw [due, due, step.orders g.number other]

theorem HasRoom.of_mem {calls : List Finalization} (room : HasRoom t calls) (mem : g ∈ calls)
    {b : BalanceRow} (hb : b ∈ t.balances) :
    b.current + g.due t b.user < Decimal.centLimit := by
  have part : g.due t b.user ≤ (calls.map (Finalization.due t b.user)).sum := by
    refine List.single_le_sum (fun c hc => ?_) _ (List.mem_map_of_mem mem)
    obtain ⟨x, -, rfl⟩ := List.mem_map.1 hc
    exact x.due_nonneg t b.user
  have all := room b hb
  omega

/-- There is still room for the calls that come after. -/
theorem HasRoom.step {rest : List Finalization} (room : HasRoom t (f :: rest))
    (others : ∀ g ∈ rest, g.number ≠ f.number) (step : f.Step t t') : HasRoom t' rest := by
  intro b' hb'
  obtain ⟨user, c, raised, bound⟩ := step.raises
  rw [raised] at hb'
  obtain ⟨b, hb, rfl⟩ := List.mem_map.1 hb'
  have same : rest.map (Finalization.due t' b.user) = rest.map (Finalization.due t b.user) :=
    List.map_congr_left fun g hg => step.due_eq (others g hg) b.user
  have before := room b hb
  have grown := bound b
  rw [List.map_cons, List.sum_cons] at before
  rw [BalanceRow.user_raised, same]
  omega

/-- As long as there is room before and after, a call for one order gives no reason against a credit
for another. -/
theorem Finalization.Step.creditRefusal_eq (step : f.Step t t') (lawful : Constraints t)
    {user : Uuid} {number : String} {c : Int} (other : number ≠ f.number)
    (room : ∀ b ∈ t.balances, b.user = user → b.current + c < Decimal.centLimit)
    (room' : ∀ b ∈ t'.balances, b.user = user → b.current + c < Decimal.centLimit) :
    creditRefusal t' user number c = creditRefusal t user number c := by
  obtain ⟨raisedUser, raise, raised, -⟩ := step.raises
  have held' := balance?_of_raised raised user
  cases held : t.balance? user with
  | none =>
    rw [held] at held'
    rw [creditRefusal, creditRefusal, held, held']
    rfl
  | some b =>
    rw [held] at held'
    obtain ⟨hb, owner⟩ := Tables.mem_of_balance? held
    obtain ⟨hb', owner'⟩ := Tables.mem_of_balance? held'
    rw [creditRefusal_of_room held (lawful.covered b hb).1 (room b hb owner),
      creditRefusal_of_room held' (step.lawful.covered _ hb').1 (room' _ hb' owner'),
      step.entries number other]

/-- What a call does to one order changes nothing of the verdict on another. -/
theorem Finalization.Step.settled_eq (step : f.Step t t') (lawful : Constraints t)
    (other : g.number ≠ f.number)
    (room : ∀ b ∈ t.balances, b.current + g.due t b.user < Decimal.centLimit)
    (room' : ∀ b ∈ t'.balances, b.current + g.due t' b.user < Decimal.centLimit) :
    g.settled t' = g.settled t := by
  have refusal : orderRefusal t' g.number g.credit? = orderRefusal t g.number g.credit? := by
    rw [orderRefusal, orderRefusal, step.orders g.number other]
    cases found : t.order? g.number with
    | none => rfl
    | some row =>
      cases worth : g.credit? with
      | none => rfl
      | some c =>
        have due : g.due t row.user = c := by
          rw [Finalization.due, found, worth]
          simp
        have same : creditRefusal t' row.user g.number c = creditRefusal t row.user g.number c := by
          refine step.creditRefusal_eq lawful other (fun b hb owner => ?_) fun b hb owner => ?_
          · rw [← due, ← owner]
            exact room b hb
          · rw [← due, ← owner, ← step.due_eq other]
            exact room' b hb
        simp only [Option.bind_some, same]
  unfold Finalization.credit? at refusal
  rw [settled, settled, settlingRefusal, settlingRefusal, step.orders g.number other, refusal]

/-! ### All calls -/

/-- A call with its answer, but for the time of the change. -/
def undated (x : Finalization × Except Failure Order) : Finalization × Except Failure Order :=
  (x.1, x.2.map Order.undated)

/-- Each call is answered as if it came first, and the contents
are those before with every order settled. -/
theorem finalizeAll_eq {calls : List Finalization} {s : Session} (closed : s.draft = none)
    (created : s.store.created = true) (lawful : Constraints s.store.tables)
    (distinct : (calls.map Finalization.number).Nodup) (room : HasRoom s.store.tables calls) :
    (finalizeAll calls s).1.map undated =
        calls.map (fun f => (f, (f.settled s.store.tables).map OrderRow.record)) ∧
      (finalizeAll calls s).2.store.tables.contents =
        calls.foldl (fun k f => f.effect s.store.tables k) s.store.tables.contents := by
  induction calls generalizing s with
  | nil => exact ⟨rfl, rfl⟩
  | cons f rest ih =>
    rw [List.map_cons, List.nodup_cons] at distinct
    obtain ⟨fresh, distinct⟩ := distinct
    have others : ∀ g ∈ rest, g.number ≠ f.number :=
      fun g hg same => fresh (List.mem_map.2 ⟨g, hg, same⟩)
    obtain ⟨draft, answer, t', hstore, step⟩ := f.run_step closed created lawful
    have room' := room.step others step
    have later := ih draft (by rw [hstore]; exact created) (by rw [hstore]; exact step.lawful)
      distinct (by rw [hstore]; exact room')
    rw [hstore] at later
    obtain ⟨answers, contents⟩ := later
    have same : ∀ g ∈ rest, g.settled t' = g.settled s.store.tables := fun g hg =>
      step.settled_eq lawful (others g hg)
        (fun b hb => room.of_mem (List.mem_cons_of_mem f hg) hb)
        (fun b hb => room'.of_mem hg hb)
    constructor
    · rw [List.map_cons, finalizeAll, List.map_cons, answers, undated, answer]
      refine congrArg _ (List.map_congr_left fun g hg => ?_)
      rw [same g hg]
    · rw [List.foldl_cons, finalizeAll, contents, step.contents]
      refine List.foldl_ext _ _ _ fun k g hg => ?_
      rw [Finalization.effect, Finalization.effect, same g hg]

/-- **Orders are settled in any order.** Calls for different orders, any of which may be refused,
are answered alike and leave the same contents in whatever order they are made, as long as there is
room for all their credits. -/
theorem finalizeAll_perm (s : Session) (closed : s.draft = none)
    (created : s.store.created = true) (lawful : Constraints s.store.tables)
    (calls calls' : List Finalization) (perm : calls.Perm calls')
    (distinct : (calls.map Finalization.number).Nodup) (room : HasRoom s.store.tables calls) :
    ((finalizeAll calls' s).1.map undated).Perm ((finalizeAll calls s).1.map undated) ∧
      (finalizeAll calls' s).2.store.tables.contents =
        (finalizeAll calls s).2.store.tables.contents := by
  have distinct' : (calls'.map Finalization.number).Nodup := (perm.map _).nodup_iff.1 distinct
  have room' : HasRoom s.store.tables calls' := by
    intro b hb
    rw [← (perm.map (Finalization.due s.store.tables b.user)).sum_eq]
    exact room b hb
  obtain ⟨answers, contents⟩ := finalizeAll_eq closed created lawful distinct room
  obtain ⟨answers', contents'⟩ := finalizeAll_eq closed created lawful distinct' room'
  rw [answers, answers', contents, contents']
  refine ⟨(perm.map _).symm, (perm.foldl_eq' (fun f hf g hg k => ?_) _).symm⟩
  by_cases same : f.number = g.number
  · obtain rfl : f = g := List.inj_on_of_nodup_map distinct hf hg same
    rfl
  · exact Finalization.effect_comm same k

/-- Two orders of one owner, one that has its credit already, and one whose owner has no balance. -/
def fourOrders : List Finalization :=
  [⟨"18", .processed, some ⟨12345, 3⟩⟩, ⟨"42", .processed, some ⟨25, 1⟩⟩,
    ⟨"34", .processed, some ⟨5, 0⟩⟩, ⟨"26", .processed, some ⟨5, 0⟩⟩]

theorem finalizeAll_perm_fourOrders :
    (finalizeAll fourOrders patchwork).1.map (fun x => failure? x.2) =
      [none, none, some (.transactionExists "34"), some (.userNotFound (Uuid.toText ⟨2⟩))] ∧
    (finalizeAll fourOrders patchwork).2.store.tables.balances = [⟨⟨3⟩, ⟨1⟩, 11485, 0⟩] ∧
    (finalizeAll fourOrders.reverse patchwork).2.store.tables.contents =
      (finalizeAll fourOrders patchwork).2.store.tables.contents := by
  have room : HasRoom patchwork.store.tables fourOrders := by
    intro b hb
    obtain rfl : b = ⟨⟨3⟩, ⟨1⟩, 10000, 0⟩ := List.mem_singleton.1 hb
    decide +kernel
  refine ⟨by decide +kernel, by decide +kernel, ?_⟩
  exact (finalizeAll_perm patchwork rfl rfl ready_patchwork.lawful fourOrders fourOrders.reverse
    (List.reverse_perm fourOrders).symm (by decide) room).2

end Loyalty.Service
