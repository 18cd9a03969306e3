import Loyalty.Proofs.Pipeline.Lifecycle

/-!
# Which orders a batch holds

A listing gives the oldest orders that still have to be resolved, at most so many. Nothing is remembered
from one tick to the next: an order that stays undecided is listed again, and takes a place that a later
order could have had. So an order may be passed over for as long as there are enough undecided ones in
front of it (`stubborn_order_starves`).

What holds of every source is that a batch passes over an order only for older ones that were waiting too,
and only when it is full. How soon each order has its turn then depends on how many orders are listed
again: if a batch repeats no order it takes no more than one tick for each batch that the orders fill.

Main statement: `served_unless_passed_over`, for every course of a pipeline to whose store no order is
added.
-/

namespace Loyalty.Pipeline

namespace Repository

/-- The numbers of all orders, oldest first. -/
def numbers (r : Repository) : List String := r.orders.map StoredOrder.number

/-- The orders that still have to be resolved, oldest first. -/
def waiting (r : Repository) : List String :=
  (r.orders.filter fun o => o.status ∈ OrderStatus.pending).map StoredOrder.number

theorem waiting_sublist (r : Repository) : r.waiting.Sublist r.numbers :=
  List.filter_sublist.map _

/-- What becomes of a store to which no order is added: no order goes, and none waits that did not. -/
structure Abates (r r' : Repository) : Prop where
  numbers : r'.numbers = r.numbers
  waiting : r'.waiting.Sublist r.waiting
  listings : r'.listings = r.listings

theorem Abates.refl (r : Repository) : r.Abates r := ⟨rfl, List.Sublist.refl _, rfl⟩

theorem Abates.trans {r r' r'' : Repository} (first : r.Abates r') (second : r'.Abates r'') :
    r.Abates r'' :=
  ⟨second.numbers.trans first.numbers, second.waiting.trans first.waiting,
    second.listings.trans first.listings⟩

/-- An order that does not wait any more has ended. -/
theorem Abates.ended {r r' : Repository} (abates : r.Abates r') {number : String}
    (waited : number ∈ r.waiting) (done : number ∉ r'.waiting) :
    ∃ o, r'.find? number = some o ∧ o.status.isTerminal = true := by
  have known : number ∈ r'.numbers := by
    rw [abates.numbers]
    exact r.waiting_sublist.subset waited
  obtain ⟨o', among', own'⟩ := List.mem_map.1 known
  cases found : r'.find? number with
  | none =>
    have other := List.find?_eq_none.1 found o' among'
    simp [own'] at other
  | some o =>
    have among : o ∈ r'.orders := List.mem_of_find?_eq_some found
    have named : o.number = number := by simpa using List.find?_some found
    refine ⟨o, rfl, eq_true_of_ne_false fun pending => done ?_⟩
    rw [← OrderStatus.mem_pending_iff] at pending
    rw [← named]
    exact List.mem_map_of_mem (List.mem_filter.2 ⟨among, decide_eq_true pending⟩)

/-- An order that does not wait is not made to wait by a change of the orders of one number. -/
theorem abates_modify (r : Repository) (number : String) {f : StoredOrder → StoredOrder}
    (keeps : ∀ o, (f o).number = o.number)
    (resolves : ∀ o ∈ r.orders, o.number = number → (f o).status ∈ OrderStatus.pending →
      o.status ∈ OrderStatus.pending) : r.Abates (r.modify number f) := by
  let g := fun o : StoredOrder => if o.number = number then f o else o
  have kept : ∀ o, (g o).number = o.number := by
    intro o
    show (if o.number = number then f o else o).number = o.number
    split
    · exact keeps o
    · rfl
  have resolved : ∀ o ∈ r.orders, (g o).status ∈ OrderStatus.pending →
      o.status ∈ OrderStatus.pending := by
    intro o among
    show (if o.number = number then f o else o).status ∈ _ → _
    split
    next own => exact resolves o among own
    next => exact id
  refine ⟨?_, ?_, rfl⟩
  · show (r.orders.map g).map StoredOrder.number = r.orders.map StoredOrder.number
    rw [List.map_map]
    exact List.map_congr_left fun o _ => kept o
  · show (((r.orders.map g).filter fun o => o.status ∈ OrderStatus.pending).map _).Sublist
      ((r.orders.filter fun o => o.status ∈ OrderStatus.pending).map _)
    generalize r.orders = orders at resolved
    induction orders with
    | nil => exact List.Sublist.refl _
    | cons o os ih =>
      have rest := ih fun o among => resolved o (List.mem_cons_of_mem _ among)
      rw [List.map_cons, List.filter_cons, List.filter_cons]
      by_cases waits : (g o).status ∈ OrderStatus.pending
      · rw [if_pos (decide_eq_true waits),
          if_pos (decide_eq_true (resolved o List.mem_cons_self waits)), List.map_cons, List.map_cons,
          kept]
        exact rest.cons_cons _
      · rw [if_neg (fun h => waits (of_decide_eq_true h))]
        split
        · exact rest.cons _
        · exact rest

theorem eq_of_find? {r : Repository} (distinct : r.numbers.Nodup) {number : String}
    {o o' : StoredOrder} (found : r.find? number = some o) (among : o' ∈ r.orders)
    (own : o'.number = number) : o' = o := by
  have first : o ∈ r.orders := List.mem_of_find?_eq_some found
  have named : o.number = number := by simpa using List.find?_some found
  exact List.inj_on_of_nodup_map distinct among first (own.trans named.symm)

/-- A request makes no order wait. -/
theorem abates_answer {r : Repository} (distinct : r.numbers.Nodup) (req : Request) :
    r.Abates (r.answer req).2 := by
  have called : r.Abates (r.called req.operation) := ⟨rfl, List.Sublist.refl _, rfl⟩
  obtain ⟨-, faulty⟩ | carried := r.answer_eq req
  · rw [faulty]
    exact called
  · rw [carried]
    obtain ⟨-, o, found, suits, changed⟩ | ⟨-, unchanged⟩ :=
      carryOut_cases (r.called req.operation) req
    · rw [changed]
      suffices resolves : ∀ o' ∈ r.orders, o'.number = req.number →
          o'.status ∈ OrderStatus.pending by
        have modified := abates_modify (r.called req.operation) req.number req.number_change
          fun o' among own _ => resolves o' among own
        exact ⟨modified.numbers, modified.waiting, modified.listings⟩
      intro o' among own
      obtain rfl : o' = o := eq_of_find? distinct found among own
      rw [OrderStatus.mem_pending_iff]
      cases req with
      | finalize number status accrual => simpa [Request.suits] using suits
      | markProcessing number =>
        have new : o'.status = .new := by simpa [Request.suits] using suits
        rw [new]
        rfl
    · rw [unchanged]
      exact called

/-- A listing gives the oldest orders that wait. -/
theorem list_spec {r : Repository} (unscripted : r.listings = none) (limit : Int) :
    r.Abates (r.list OrderStatus.pending limit).2 ∧
      ∀ batch, (r.list OrderStatus.pending limit).1 = .ok batch →
        batch.map Ticket.number = r.waiting.take limit.toNat := by
  have called : r.Abates (r.called .list) := ⟨rfl, List.Sublist.refl _, rfl⟩
  have selected : (r.select OrderStatus.pending limit).map Ticket.number =
      r.waiting.take limit.toNat := by
    rw [select, waiting, List.map_map, ← List.map_take]
    rfl
  unfold list
  dsimp only
  rw [unscripted]
  cases r.fault .list with
  | failure cause => exact ⟨called, nofun⟩
  | normal =>
    refine ⟨called, fun batch listed => ?_⟩
    obtain rfl := Except.ok.inj listed
    exact selected
  | nothing =>
    refine ⟨called, fun batch listed => ?_⟩
    obtain rfl := Except.ok.inj listed
    exact selected

end Repository

/-! ### Batches -/

/-- The orders of a batch that earlier batches held already. -/
def again (batch : List Ticket) (earlier : List (List Ticket)) : List Ticket :=
  batch.filter fun o => o.number ∈ earlier.flatten.map Ticket.number

/-- Each batch, the latest first, holds at most so many orders that were in earlier ones. -/
inductive AgainAtMost (n : Nat) : List (List Ticket) → Prop where
  | nil : AgainAtMost n []
  | cons {batch : List Ticket} {earlier : List (List Ticket)}
      (few : (again batch earlier).length ≤ n) (before : AgainAtMost n earlier) :
      AgainAtMost n (batch :: earlier)

/-- The batch is full, and all its orders waited in front of the one of that number. -/
def PassesOver (waiting : List String) (limit : Nat) (batch : List Ticket) (number : String) : Prop :=
  batch.length = limit ∧ (batch.map Ticket.number ++ [number]).Sublist waiting

/-- Full batches hold as many orders as there are places in them that are not taken by orders listed
again. -/
theorem mul_le_card_of_againAtMost {n limit : Nat} {batches : List (List Ticket)}
    (few : AgainAtMost n batches)
    (full : ∀ batch ∈ batches, batch.length = limit ∧ (batch.map Ticket.number).Nodup) :
    batches.length * (limit - n) ≤ (batches.flatten.map Ticket.number).toFinset.card := by
  induction few with
  | nil => exact Nat.le_of_eq (Nat.zero_mul _)
  | @cons batch earlier old few ih =>
    obtain ⟨length, distinct⟩ := full batch List.mem_cons_self
    have before := ih fun b among => full b (List.mem_cons_of_mem _ among)
    set seen := earlier.flatten.map Ticket.number with seen_eq
    let fresh := (batch.filter fun o => !decide (o.number ∈ seen)).map Ticket.number
    have split : batch.length = (again batch earlier).length + fresh.length := by
      rw [List.length_map]
      exact List.length_eq_length_filter_add _
    have fresh_distinct : fresh.Nodup := distinct.sublist (List.filter_sublist.map _)
    have apart : Disjoint seen.toFinset fresh.toFinset := by
      rw [Finset.disjoint_left]
      intro number among new
      obtain ⟨o, unseen, rfl⟩ := List.mem_map.1 (List.mem_toFinset.1 new)
      have unseen := (List.mem_filter.1 unseen).2
      simp [List.mem_toFinset.1 among] at unseen
    have within : seen.toFinset ∪ fresh.toFinset ⊆
        ((batch :: earlier).flatten.map Ticket.number).toFinset := by
      intro number among
      rw [List.mem_toFinset, List.flatten_cons, List.map_append, List.mem_append]
      obtain earlier_ | new := Finset.mem_union.1 among
      · exact .inr (List.mem_toFinset.1 earlier_)
      · obtain ⟨o, unseen, rfl⟩ := List.mem_map.1 (List.mem_toFinset.1 new)
        exact .inl (List.mem_map_of_mem (List.mem_of_mem_filter unseen))
    have counted := Finset.card_le_card within
    rw [Finset.card_union_of_disjoint apart, List.toFinset_card_of_nodup fresh_distinct] at counted
    rw [List.length_cons, Nat.succ_mul]
    omega

/-- If full batches pass over an order, others are listed again and again. -/
theorem lt_of_passesOver {waiting : List String} (distinct : waiting.Nodup) {n limit : Nat}
    {batches : List (List Ticket)} {number : String} (few : AgainAtMost n batches)
    (waits : number ∈ waiting) (passed : ∀ batch ∈ batches, PassesOver waiting limit batch number) :
    batches.length * (limit - n) < waiting.length := by
  have full : ∀ batch ∈ batches, batch.length = limit ∧ (batch.map Ticket.number).Nodup := by
    intro batch among
    obtain ⟨length, before⟩ := passed batch among
    exact ⟨length, (List.nodup_append.1 (distinct.sublist before)).1⟩
  have within : (batches.flatten.map Ticket.number).toFinset ⊆ waiting.toFinset.erase number := by
    intro other among
    obtain ⟨o, listed, rfl⟩ := List.mem_map.1 (List.mem_toFinset.1 among)
    obtain ⟨batch, held, inside⟩ := List.mem_flatten.1 listed
    obtain ⟨-, before⟩ := passed batch held
    have mem : o.number ∈ batch.map Ticket.number := List.mem_map_of_mem inside
    rw [Finset.mem_erase, List.mem_toFinset]
    refine ⟨?_, before.subset (List.mem_append_left _ mem)⟩
    have apart := (List.nodup_append.1 (distinct.sublist before)).2.2
    exact apart _ mem _ (List.mem_singleton_self _)
  have counted := Finset.card_le_card within
  rw [Finset.card_erase_of_mem (List.mem_toFinset.2 waits),
    List.toFinset_card_of_nodup distinct] at counted
  have places := mul_le_card_of_againAtMost few full
  have some_ : 0 < waiting.length := List.length_pos_of_mem waits
  omega

/-- Of the batches listed, the last may be on the queue in part: `current` is that batch. -/
def ProducerPhase.Current (p : ProducerPhase) (current : List (List Ticket)) (pushed : List Ticket) :
    Prop :=
  match p with
  | .pushing rest _ => ∃ done, current = [done ++ rest] ∧ done ⊆ pushed
  | .ended | .lost => True
  | _ => current = []

namespace Machine

/-! ### What an observer notes -/

/-- A batch that has been listed is taken up. -/
def listed? (m : Machine) : Occurrence → Option (List Ticket)
  | .move .producer =>
    match m.producer with
    | .listing _ until_ =>
      if until_ ≤ m.now then (m.site.list m.polling.batch).1.toOption else none
    | _ => none
  | _ => none

/-- The whole of the last batch is on the queue. -/
def filled? (m : Machine) : Occurrence → Option Unit
  | .move .producer =>
    match m.producer with
    | .pushing [] _ => some ()
    | _ => none
  | _ => none

/-- The batches that were listed, the latest first. -/
def listed (m : Machine) (os : List Occurrence) : List (List Ticket) := m.noted listed? os

/-- The batches of which the last order has been put on the queue, the latest first. Only the latest of
those that were listed may be missing. -/
def completed (m : Machine) (os : List Occurrence) : List (List Ticket) :=
  (m.listed os).rtake (m.noted filled? os).length

/-- The order of that number has been put on the queue, or has ended. -/
def Served (m : Machine) (os : List Occurrence) (number : String) : Prop :=
  number ∈ (m.pushed os).map Ticket.number ∨
    ∃ o, (m.course os).order? number = some o ∧ o.status.isTerminal = true

/-! ### One step -/

section Step

variable {m m' : Machine} {i : Nat} {o : Occurrence} {r : Repository} {limit : Nat}
  {listed : List (List Ticket)} {pushed : List Ticket} {filled : List Unit}

/-- The batches listed but for the last are on the queue, and of the last what has been put there. -/
def Filling (p : ProducerPhase) (listed : List (List Ticket)) (pushed : List Ticket)
    (filled : List Unit) : Prop :=
  ∃ current earlier, listed = current ++ earlier ∧ earlier.length = filled.length ∧
    (∀ batch ∈ earlier, batch ⊆ pushed) ∧ p.Current current pushed

/-- Nothing shows of the producer's next move. -/
def Silent (m : Machine) : Prop :=
  m.listed? (.move .producer) = none ∧ m.pushed? (.move .producer) = none ∧
    m.filled? (.move .producer) = none

theorem silent_of_starting (here : m.producer = .starting) : m.Silent := by
  simp [Silent, listed?, pushed?, filled?, here]

theorem silent_of_ticking {scheduled : Nat} (here : m.producer = .ticking scheduled) : m.Silent := by
  simp [Silent, listed?, pushed?, filled?, here]

theorem silent_of_isOver (done : m.producer.isOver = true) : m.Silent := by
  cases here : m.producer with
  | ended => simp [Silent, listed?, pushed?, filled?, here]
  | lost => simp [Silent, listed?, pushed?, filled?, here]
  | _ =>
    rw [here] at done
    cases done

theorem silent_of_listing {next until_ : Nat} (here : m.producer = .listing next until_)
    (missed : until_ ≤ m.now → (m.site.list m.polling.batch).1.toOption = none) : m.Silent := by
  refine ⟨?_, by rw [pushed?, here], by rw [filled?, here]⟩
  rw [listed?, here]
  exact ite_eq_right_iff.2 missed

theorem silent_of_pushing {o : Ticket} {batch : List Ticket} {next : Nat}
    (here : m.producer = .pushing (o :: batch) next)
    (blocked : ¬ (m.control.stop.isStopped = false ∧ m.queue.read = true ∧ m.queue.hasRoom = true)) :
    m.Silent := by
  refine ⟨by rw [listed?, here], ?_, by rw [filled?, here]⟩
  rw [pushed?, here]
  exact if_neg blocked

/-- Nor of a producer that waits on. -/
theorem silent_of_rests
    (unlisted : ∀ next until_, m.producer = .listing next until_ → m.now < until_)
    (blocked : ∀ batch next, m.producer = .pushing batch next →
      batch ≠ [] ∧ m.queue.hasRoom = false) : m.Silent := by
  cases here : m.producer with
  | starting => exact silent_of_starting here
  | ticking scheduled => exact silent_of_ticking here
  | ended => exact silent_of_isOver (by rw [here]; rfl)
  | lost => exact silent_of_isOver (by rw [here]; rfl)
  | listing next until_ =>
    exact silent_of_listing here fun due => absurd due (Nat.not_le.2 (unlisted next until_ here))
  | pushing batch next =>
    obtain ⟨some_, full⟩ := blocked batch next here
    cases batch with
    | nil => exact absurd rfl some_
    | cons o batch =>
      refine silent_of_pushing here fun free => ?_
      exact Bool.false_ne_true (full.symm.trans free.2.2)

/-- Nor of one that is over after it, as `ProducerMove.ends` tells. -/
theorem silent_of_ends
    (told : m.producer = .starting ∧ m.polling.interval = 0 ∨
      (m.control.stop.isStopped = true ∨ m.queue.read = false) ∧
        ((∃ scheduled, m.producer = .ticking scheduled) ∨
          ∃ o batch next, m.producer = .pushing (o :: batch) next)) : m.Silent := by
  rcases told with ⟨here, -⟩ | ⟨told, ⟨scheduled, here⟩ | ⟨o, batch, next, here⟩⟩
  · exact silent_of_starting here
  · exact silent_of_ticking here
  · refine silent_of_pushing here ?_
    rintro ⟨going, read, -⟩
    obtain stopped | unread := told
    · exact Bool.false_ne_true (going.symm.trans stopped)
    · exact Bool.false_ne_true (unread.symm.trans read)

theorem listed?_of_listing {next until_ : Nat} {batch : List Ticket}
    (here : m.producer = .listing next until_) (due : until_ ≤ m.now)
    (found : (m.site.list m.polling.batch).1 = .ok batch) :
    m.listed? (.move .producer) = some batch := by
  rw [listed?, here]
  show (if until_ ≤ m.now then (m.site.list m.polling.batch).1.toOption else none) = some batch
  rw [if_pos due, found]
  rfl

theorem pushed?_of_pushing {o : Ticket} {batch : List Ticket} {next : Nat}
    (here : m.producer = .pushing (o :: batch) next) (going : m.control.stop.isStopped = false)
    (read : m.queue.read = true) (room : m.queue.hasRoom = true) :
    m.pushed? (.move .producer) = some o := by
  rw [pushed?, here]
  exact if_pos ⟨going, read, room⟩

/-- A move of the producer lists a batch, or puts an order of the last one on the queue, or ends with
it. -/
theorem ProducerMove.filling (h : ProducerMove m m')
    (filling : Filling m.producer listed pushed filled) :
    Filling m'.producer ((m.listed? (.move .producer)).toList ++ listed)
      ((m.pushed? (.move .producer)).toList ++ pushed)
      ((m.filled? (.move .producer)).toList ++ filled) := by
  obtain ⟨current, earlier, split, length, whole, now⟩ := filling
  have quiet : m.Silent → m'.producer.Current current pushed →
      Filling m'.producer ((m.listed? (.move .producer)).toList ++ listed)
        ((m.pushed? (.move .producer)).toList ++ pushed)
        ((m.filled? (.move .producer)).toList ++ filled) := by
    rintro ⟨unlisted, unpushed, unfilled⟩ now'
    rw [unlisted, unpushed, unfilled]
    exact ⟨current, earlier, split, length, whole, now'⟩
  cases h with
  | rests unlisted blocked same =>
    subst same
    exact quiet (silent_of_rests unlisted blocked) now
  | starts here interval same =>
    rw [here] at now
    exact quiet (silent_of_starting here) (by rw [same]; exact now)
  | ends p done told same =>
    have over_ : m'.producer.Current current pushed := by
      rw [same]
      cases p with
      | ended => trivial
      | lost => trivial
      | _ => cases done
    exact quiet (silent_of_ends told) over_
  | asks scheduled here due going same =>
    rw [here] at now
    exact quiet (silent_of_ticking here) (by rw [same]; exact now)
  | misses next until_ cause here due missed same =>
    rw [here] at now
    exact quiet (silent_of_listing here fun _ => by rw [missed]; rfl) (by rw [same]; exact now)
  | lists next until_ batch here due found same =>
    rw [here] at now
    obtain rfl : current = [] := now
    have new := listed?_of_listing here due found
    have unpushed : m.pushed? (.move .producer) = none := by rw [pushed?, here]
    have unfilled : m.filled? (.move .producer) = none := by rw [filled?, here]
    rw [new, unpushed, unfilled, same]
    refine ⟨[batch], earlier, by rw [split]; rfl, length, whole, [], rfl, ?_⟩
    exact List.nil_subset _
  | pushes o batch next here going read room same =>
    rw [here] at now
    obtain ⟨done, rfl, on⟩ := now
    have new := pushed?_of_pushing here going read room
    have unlisted : m.listed? (.move .producer) = none := by rw [listed?, here]
    have unfilled : m.filled? (.move .producer) = none := by rw [filled?, here]
    rw [new, unlisted, unfilled, same]
    refine ⟨_, earlier, split, length, fun b among => ?_, done ++ [o], by simp, fun x among => ?_⟩
    · exact List.Subset.trans (whole b among) (List.subset_cons_self _ _)
    · obtain before | last := List.mem_append.1 among
      · exact List.mem_cons_of_mem _ (on before)
      · rw [List.mem_singleton.1 last]
        exact List.mem_cons_self
  | finishes next here same =>
    rw [here] at now
    obtain ⟨done, rfl, on⟩ := now
    have unlisted : m.listed? (.move .producer) = none := by rw [listed?, here]
    have unpushed : m.pushed? (.move .producer) = none := by rw [pushed?, here]
    have new : m.filled? (.move .producer) = some () := by rw [filled?, here]
    rw [new, unlisted, unpushed, same]
    refine ⟨[], (done ++ []) :: earlier, split, by simp [length], fun b among => ?_, rfl⟩
    obtain rfl | among := List.mem_cons.1 among
    · rw [List.append_nil]
      exact on
    · exact whole b among

theorem WorkerMove.repository (h : WorkerMove m i m') :
    m'.site.repository = m.site.repository ∨
      ∃ r, m'.site.repository = (m.site.repository.answer r).2 := by
  cases h with
  | stores r until_ here due same =>
    rw [same]
    exact .inr ⟨r, rfl⟩
  | ends p here idle told same =>
    rw [same, hangUp_site]
    exact .inl rfl
  | loses held reply until_ wait here due decided beyond same =>
    rw [same, hangUp_site]
    exact .inl rfl
  | _ =>
    subst m'
    exact .inl rfl

/-- What is known after a course of the store and of the batches. -/
structure Rounds (r : Repository) (limit : Nat) (m : Machine) (listed : List (List Ticket))
    (pushed : List Ticket) (filled : List Unit) : Prop where
  size : m.polling.batch = limit
  abated : r.Abates m.site.repository
  passed : ∀ batch ∈ listed, ∀ number ∈ m.site.repository.waiting,
    number ∈ batch.map Ticket.number ∨ PassesOver r.waiting limit batch number
  filling : Filling m.producer listed pushed filled

theorem rounds_bare : Rounds r limit m.bare listed pushed filled ↔
    Rounds r limit m listed pushed filled :=
  ⟨fun h => ⟨h.size, h.abated, h.passed, h.filling⟩,
    fun h => ⟨h.size, h.abated, h.passed, h.filling⟩⟩

/-- What was passed over when fewer orders had ended was passed over. -/
theorem Rounds.passed_of_abates (rounds : Rounds r limit m listed pushed filled)
    (abates : m.site.repository.Abates m'.site.repository) :
    ∀ batch ∈ listed, ∀ number ∈ m'.site.repository.waiting,
      number ∈ batch.map Ticket.number ∨ PassesOver r.waiting limit batch number :=
  fun batch among number waits => rounds.passed batch among number (abates.waiting.subset waits)

/-- The producer stays where it is. -/
theorem Rounds.elsewhere (rounds : Rounds r limit m listed pushed filled)
    (polling : m'.polling = m.polling) (producer : m'.producer = m.producer)
    (abates : m.site.repository.Abates m'.site.repository) :
    Rounds r limit m' listed pushed filled := by
  refine ⟨?_, rounds.abated.trans abates, rounds.passed_of_abates abates, ?_⟩
  · rw [polling]
    exact rounds.size
  · rw [producer]
    exact rounds.filling

theorem list_of_listed? {batch : List Ticket} (new : m.listed? (.move .producer) = some batch) :
    (m.site.repository.list OrderStatus.pending m.polling.batch).1 = .ok batch := by
  unfold listed? at new
  cases here : m.producer with
  | listing next until_ =>
    rw [here] at new
    have due : (m.site.list m.polling.batch).1.toOption = some batch :=
      (Option.ite_none_right_eq_some.1 new).2
    have same : (m.site.list m.polling.batch).1 =
        (m.site.repository.list OrderStatus.pending m.polling.batch).1 := rfl
    rw [same] at due
    cases answer : (m.site.repository.list OrderStatus.pending m.polling.batch).1 with
    | error cause =>
      rw [answer] at due
      cases due
    | ok batch' =>
      rw [answer] at due
      cases due
      rfl
  | _ =>
    rw [here] at new
    cases new

/-- A listing of the orders that wait passes over the later ones when it is full. -/
theorem mem_or_passesOver {waiting now : List String} (within : now.Sublist waiting) {limit : Nat}
    {batch : List Ticket} (oldest : batch.map Ticket.number = now.take limit) {number : String}
    (waits : number ∈ now) :
    number ∈ batch.map Ticket.number ∨ PassesOver waiting limit batch number := by
  rw [← List.take_append_drop limit now, List.mem_append] at waits
  obtain first | later := waits
  · rw [oldest]
    exact .inl first
  · have more : limit ≤ now.length := by
      have some_ := List.length_pos_of_mem later
      rw [List.length_drop] at some_
      omega
    have length : batch.length = limit := by
      rw [← List.length_map Ticket.number, oldest, List.length_take_of_le more]
    have before : (now.take limit ++ [number]).Sublist (now.take limit ++ now.drop limit) :=
      (List.singleton_sublist.2 later).append_left _
    rw [List.take_append_drop] at before
    refine .inr ⟨length, ?_⟩
    rw [oldest]
    exact before.trans within

theorem ProducerMove.rounds (h : ProducerMove m m') (unscripted : r.listings = none)
    (rounds : Rounds r limit m listed pushed filled) :
    Rounds r limit m' ((m.listed? (.move .producer)).toList ++ listed)
      ((m.pushed? (.move .producer)).toList ++ pushed)
      ((m.filled? (.move .producer)).toList ++ filled) := by
  have filling := h.filling rounds.filling
  have polling : m'.polling = m.polling := by cases h <;> subst m' <;> rfl
  have size : m'.polling.batch = limit := by rw [polling]; exact rounds.size
  have live : m.site.repository.listings = none := rounds.abated.listings.trans unscripted
  obtain ⟨abates, oldest⟩ := Repository.list_spec live m.polling.batch
  rw [rounds.size, Int.toNat_natCast] at oldest
  have abates' : m.site.repository.Abates m'.site.repository := by
    cases h with
    | misses next until_ cause here due missed same =>
      rw [same]
      exact abates
    | lists next until_ batch here due found same =>
      rw [same]
      exact abates
    | _ =>
      subst m'
      exact Repository.Abates.refl _
  refine ⟨size, rounds.abated.trans abates', fun batch among number waits => ?_, filling⟩
  obtain new | before := List.mem_append.1 among
  · -- the batch has just been listed
    have found : (m.site.repository.list OrderStatus.pending limit).1 = .ok batch := by
      rw [← rounds.size]
      exact list_of_listed? (Option.mem_toList.1 new)
    rw [rounds.size] at abates
    exact mem_or_passesOver rounds.abated.waiting (oldest batch found)
      (abates'.waiting.subset waits)
  · exact rounds.passed_of_abates abates' batch before number waits

/-- The step lemma of the batches. -/
theorem Rounds.after (rounds : Rounds r limit m listed pushed filled) (o : Occurrence)
    (distinct : r.numbers.Nodup) (unscripted : r.listings = none)
    (unadded : ∀ x, o ≠ .act (.register x)) :
    Rounds r limit (m.after o) ((m.listed? o).toList ++ listed) ((m.pushed? o).toList ++ pushed)
      ((m.filled? o).toList ++ filled) := by
  have before := rounds_bare.2 rounds
  rw [← rounds_bare]
  have step := step_after m o
  generalize reached : m.after o = x at step ⊢
  cases step with
  | worker i what moved =>
    subst what
    have abates : m.site.repository.Abates x.site.repository := by
      have single : m.site.repository.numbers.Nodup := by
        rw [rounds.abated.numbers]
        exact distinct
      obtain same | ⟨req, answered⟩ := moved.repository
      · have same : x.site.repository = m.site.repository := same
        rw [same]
        exact Repository.Abates.refl _
      · have answered : x.site.repository = (m.site.repository.answer req).2 := answered
        rw [answered]
        exact Repository.abates_answer single req
    exact before.elsewhere moved.polling moved.producer abates
  | producer what moved =>
    subst what
    exact moved.rounds unscripted before
  | clock time what now later same =>
    have kept : Rounds r limit x.bare listed pushed filled := by
      rw [same]
      exact ⟨before.size, before.abated, before.passed, before.filling⟩
    obtain rfl | rfl := what
    · exact kept
    · exact kept
  | outside a what queue same =>
    subst what
    have none_ : a.registered = [] := by
      cases a with
      | register x => exact absurd rfl (unadded x)
      | _ => rfl
    rw [none_, List.append_nil] at same
    rw [same]
    exact ⟨before.size, before.abated, before.passed, before.filling⟩

end Step

/-! ### Courses -/

/-- What is known of the batches of a course to whose store no order is added. -/
theorem rounds_course {m : Machine} {r : Repository} {limit : Nat} {os : List Occurrence}
    (distinct : r.numbers.Nodup) (unscripted : r.listings = none)
    (unadded : ∀ x, .act (.register x) ∉ os) (opened : Rounds r limit m [] [] []) :
    Rounds r limit (m.course os) (m.listed os) (m.pushed os) (m.noted filled? os) := by
  induction os using List.reverseRecOn with
  | nil => exact opened
  | append_singleton os o ih =>
    have before := ih fun x among => unadded x (List.mem_append_left _ among)
    have last : ∀ x, o ≠ .act (.register x) := by
      intro x what
      exact unadded x (by simp [what])
    rw [course_append_singleton, listed, pushed, noted_append_singleton, noted_append_singleton,
      noted_append_singleton]
    exact before.after o distinct unscripted last

/-- **An order waits only behind full batches of older ones.** Whatever the service answers: after any
ticks whose batches are on the queue in whole, an order that waited at the start has been put on the
queue, or has ended, or each of the batches was full of orders in front of it. So if each batch holds at
most `n` orders that were in an earlier one, all have had their turn once the ticks have as many other
places as orders waited; if none is listed again, after as many ticks as the orders fill batches. -/
theorem served_unless_passed_over (interval limit workers : Nat) (source : Source)
    (repository : Repository) (os : List Occurrence) (distinct : repository.numbers.Nodup)
    (unscripted : repository.listings = none) (unadded : ∀ o, .act (.register o) ∉ os) :
    let start := pipeline ⟨interval, limit⟩ workers { source, repository }
    let ticks := start.completed os
    (∀ number ∈ repository.waiting, start.Served os number ∨
      ∀ batch ∈ ticks, PassesOver repository.waiting limit batch number) ∧
    ∀ n, AgainAtMost n ticks → repository.waiting.length ≤ ticks.length * (limit - n) →
      ∀ number ∈ repository.waiting, start.Served os number := by
  intro start ticks
  have opened : Rounds repository limit start [] [] [] :=
    ⟨rfl, Repository.Abates.refl _, nofun, [], [], rfl, rfl, nofun, rfl⟩
  have rounds := rounds_course distinct unscripted unadded opened
  obtain ⟨current, earlier, split, length, whole, -⟩ := rounds.filling
  have complete : ticks = earlier := by
    show (start.listed os).rtake (start.noted filled? os).length = earlier
    rw [split, ← length, List.rtake, List.length_append, Nat.add_sub_cancel, List.drop_left]
  have passed : ∀ number ∈ repository.waiting, start.Served os number ∨
      number ∈ (start.course os).site.repository.waiting ∧
        ∀ batch ∈ ticks, PassesOver repository.waiting limit batch number := by
    intro number waited
    by_cases queued : number ∈ (start.pushed os).map Ticket.number
    · exact .inl (.inl queued)
    · by_cases waits : number ∈ (start.course os).site.repository.waiting
      · refine .inr ⟨waits, fun batch among => ?_⟩
        rw [complete] at among
        have listed : batch ∈ start.listed os := by
          rw [split]
          exact List.mem_append_right _ among
        obtain held | passed := rounds.passed batch listed number waits
        · obtain ⟨o, inside, rfl⟩ := List.mem_map.1 held
          exact absurd (List.mem_map_of_mem (whole batch among inside)) queued
        · exact passed
      · refine .inl (.inr ?_)
        exact rounds.abated.ended waited waits
  refine ⟨fun number waited => (passed number waited).imp_right And.right,
    fun n few enough number waited => ?_⟩
  obtain served | ⟨-, over_⟩ := passed number waited
  · exact served
  · have single : repository.waiting.Nodup := distinct.sublist repository.waiting_sublist
    have fewer := lt_of_passesOver single few waited over_
    exact absurd enough (Nat.not_le.2 fewer)

/-- A service that never comes to a decision about one order. -/
def stubbornSource : Source :=
  ⟨[("1", [⟨.error (.unknown "no such page"), 0⟩]), ("2", [⟨.error (.noContent "2"), 0⟩]),
    ("3", [⟨.ok ⟨"3", .processed, none⟩, 0⟩])]⟩

def newOrders (numbers : List String) : Repository :=
  { orders := numbers.map fun number => { number } }

/-- A pipeline with three workers and batches of three. -/
def threeWorkers : Machine :=
  pipeline ⟨1000, (3 : Nat)⟩ 3
    { source := stubbornSource, repository := newOrders ["1", "2", "3", "4"] }

/-- Two of its ticks: the undecided order is listed twice, and the fourth comes second in the second
batch. -/
def threeAtATime : List Occurrence :=
  turns .producer 8 ++ turns (.worker 0) 20 ++ turns (.worker 1) 2 ++ turns (.worker 2) 2 ++
    [.ring 1000] ++ turns .producer 6 ++ turns (.worker 0) 5 ++ turns (.worker 1) 6

theorem completed_threeAtATime : threeWorkers.completed threeAtATime =
    [[⟨"1", .new⟩, ⟨"4", .new⟩], [⟨"1", .new⟩, ⟨"2", .new⟩, ⟨"3", .new⟩]] := by
  decide +kernel

theorem served_unless_passed_over_threeAtATime :
    AgainAtMost 1 (threeWorkers.completed threeAtATime) ∧
      (newOrders ["1", "2", "3", "4"]).waiting.length ≤
        (threeWorkers.completed threeAtATime).length * (3 - 1) ∧
      ∀ number ∈ ["1", "2", "3", "4"], threeWorkers.Served threeAtATime number := by
  have waiting : (newOrders ["1", "2", "3", "4"]).waiting = ["1", "2", "3", "4"] := by decide +kernel
  have distinct : (newOrders ["1", "2", "3", "4"]).numbers.Nodup := by decide +kernel
  have unadded : ∀ o, Occurrence.act (.register o) ∉ threeAtATime := by
    intro o among
    simp [threeAtATime, turns] at among
  have few : AgainAtMost 1 (threeWorkers.completed threeAtATime) := by
    rw [completed_threeAtATime]
    exact .cons (by decide) (.cons (by decide) .nil)
  have enough : (newOrders ["1", "2", "3", "4"]).waiting.length ≤
      (threeWorkers.completed threeAtATime).length * (3 - 1) := by
    rw [completed_threeAtATime, waiting]
    decide
  refine ⟨few, enough, ?_⟩
  have inTime := (served_unless_passed_over 1000 3 3 stubbornSource _ threeAtATime distinct rfl
    unadded).2 1
  rw [threeWorkers] at few enough ⊢
  have served := inTime few enough
  rw [waiting] at served
  exact served

/-- Two ticks of a pipeline with one worker and batches of one. -/
def oneAtATime : List Occurrence :=
  turns .producer 6 ++ turns (.worker 0) 8 ++ [.ring 1000] ++ turns .producer 5 ++
    turns (.worker 0) 6

/-- One undecided order fills every batch of this pipeline: two orders wait, two ticks have come to
their end, and the second order has neither been put on the queue nor ended. -/
theorem stubborn_order_starves :
    let repository := newOrders ["1", "2"]
    let start := pipeline ⟨1000, (1 : Nat)⟩ 1 { source := stubbornSource, repository }
    (start.run [(1000, .inspect)]).2 = start.course oneAtATime ∧
      repository.waiting.length = 2 ∧ (start.completed oneAtATime).length = 2 ∧
      ¬ start.Served oneAtATime "2" := by
  intro repository start
  have record : (start.course oneAtATime).order? "2" = some ⟨"2", .new, none⟩ := by decide +kernel
  have queued : "2" ∉ (start.pushed oneAtATime).map Ticket.number := by decide +kernel
  refine ⟨by cbv, by decide +kernel, by decide +kernel, ?_⟩
  rintro (pushed | ⟨o, found, ended⟩)
  · exact queued pushed
  · rw [record] at found
    cases found
    cases ended

end Machine

end Loyalty.Pipeline
