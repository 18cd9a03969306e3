import Loyalty.Proofs.Pipeline.Grounds

/-!
# The life of an order

The producer lists an order again on every tick, so several workers may hold it at once, each as it was
when it was listed, and come to different decisions about it. Which of them takes effect is up to the
store: it settles an order that has not ended, and marks one that is new.

`history` is the record of an order after each occurrence of a course. It is read off one lemma on a
single occurrence, `order?_after`: the record stays, or a request that suited it was carried out, or
the order was not in the store before.

Main statement: `orders_end_once`, for every course of every pipeline.
-/

namespace Loyalty.Pipeline

/-! ### What a request changes -/

/-- What a request makes of its order. -/
def Request.change : Request → StoredOrder → StoredOrder
  | .finalize _ status accrual, o => { o with status, accrual }
  | .markProcessing _, o => { o with status := .processing }

theorem Request.number_change (r : Request) (o : StoredOrder) : (r.change o).number = o.number := by
  cases r <;> rfl

def Request.suits : Request → StoredOrder → Bool
  | .finalize _ _ _, o => !o.status.isTerminal
  | .markProcessing _, o => o.status = .new

/-- The request settles its order. -/
def Request.isFinal : Request → Bool
  | .finalize _ _ _ => true
  | .markProcessing _ => false

/-- The order goes on to another record: it begins to be processed, or it ends. -/
inductive StoredOrder.Onward (o : StoredOrder) : StoredOrder → Prop where
  | begins (new : o.status = .new) : Onward o { o with status := .processing }
  | ends (pending : o.status.isTerminal = false) (status : OrderStatus)
      (terminal : status.isTerminal = true) (accrual : Option Decimal) :
      Onward o { o with status, accrual }

/-- One record of an order may stand after another. -/
def StoredOrder.Follows (later earlier : StoredOrder) : Prop :=
  later = earlier ∨ earlier.Onward later

/-- An order that has ended stays as it is. -/
theorem StoredOrder.Follows.eq_of_isTerminal {later earlier : StoredOrder}
    (follows : later.Follows earlier) (ended : earlier.status.isTerminal = true) :
    later = earlier := by
  obtain same | onward := follows
  · exact same
  · cases onward with
    | begins new =>
      rw [new] at ended
      cases ended
    | ends pending =>
      rw [pending] at ended
      cases ended

theorem pairwise_of_follows {records : List StoredOrder}
    (chain : records.IsChain StoredOrder.Follows) :
    records.Pairwise fun later earlier => earlier.status.isTerminal = true → later = earlier := by
  have stays : records.IsChain fun later earlier =>
      earlier.status.isTerminal = true → later = earlier :=
    chain.imp fun _ _ follows ended => follows.eq_of_isTerminal ended
  -- what stays from one record to the next stays from each to all later ones
  have : Trans (fun later earlier : StoredOrder =>
      earlier.status.isTerminal = true → later = earlier)
      (fun later earlier => earlier.status.isTerminal = true → later = earlier)
      (fun later earlier => earlier.status.isTerminal = true → later = earlier) := by
    refine ⟨fun {a b c} last before ended => ?_⟩
    have same := before ended
    rw [← same] at ended ⊢
    exact last ended
  exact List.isChain_iff_pairwise.1 stays

namespace Repository

theorem find?_modify (r : Repository) (number other : String) {f : StoredOrder → StoredOrder}
    (keeps : ∀ o, (f o).number = o.number) :
    (r.modify number f).find? other =
      if other = number then (r.find? other).map f else r.find? other := by
  unfold modify find?
  induction r.orders with
  | nil => simp
  | cons o os ih =>
    have kept : (if o.number = number then f o else o).number = o.number := by
      split
      · exact keeps o
      · rfl
    rw [List.map_cons, List.find?_cons, List.find?_cons, kept]
    by_cases own : o.number = other
    · rw [decide_eq_true own]
      by_cases same : other = number
      · rw [if_pos (own.trans same), if_pos same]
        rfl
      · rw [if_neg (own ▸ same), if_neg same]
    · rw [decide_eq_false own]
      exact ih

/-- A request is carried out on an order that it suits, or it changes nothing. -/
theorem carryOut_cases (r : Repository) (req : Request) :
    ((r.carryOut req).1 = .done ∧ ∃ o, r.find? req.number = some o ∧ req.suits o = true ∧
      (r.carryOut req).2 = r.modify req.number req.change) ∨
    ((r.carryOut req).1 ≠ .done ∧ (r.carryOut req).2 = r) := by
  cases req with
  | finalize number status accrual =>
    cases found : r.find? number with
    | none => exact .inr (by simp [carryOut, found])
    | some o =>
      cases ended : o.status.isTerminal with
      | true => exact .inr (by simp [carryOut, found, ended])
      | false =>
        refine .inl ⟨by simp [carryOut, found, ended], o, found, ?_, ?_⟩
        · simp [Request.suits, ended]
        · simp [carryOut, found, ended, Request.number]
          rfl
  | markProcessing number =>
    cases found : r.find? number with
    | none => exact .inr (by simp [carryOut, found])
    | some o =>
      by_cases new : o.status = .new
      · refine .inl ⟨by simp [carryOut, found, new], o, found, decide_eq_true new, ?_⟩
        simp [carryOut, found, new, Request.number]
        rfl
      · exact .inr (by simp [carryOut, found, new])

/-- A fault befalls the request and changes nothing, or the request is carried out. -/
theorem answer_eq (r : Repository) (req : Request) :
    ((r.answer req).1 ≠ .done ∧ (r.answer req).2 = r.called req.operation) ∨
      r.answer req = (r.called req.operation).carryOut req := by
  cases fault : r.fault req.operation with
  | failure cause => exact .inl (by simp [answer, fault])
  | normal => exact .inr (by simp [answer, fault])
  | nothing =>
    cases req with
    | finalize number status accrual => exact .inr (by simp [answer, fault])
    | markProcessing number => exact .inl (by simp [answer, fault])

/-- What the store answers, and what becomes of its orders. -/
theorem answer_cases (r : Repository) (req : Request) :
    ((r.answer req).1 = .done ∧ ∃ o, r.find? req.number = some o ∧ req.suits o = true ∧
      ∀ number, (r.answer req).2.find? number =
        if number = req.number then some (req.change o) else r.find? number) ∨
    ((r.answer req).1 ≠ .done ∧ ∀ number, (r.answer req).2.find? number = r.find? number) := by
  obtain ⟨undone, faulty⟩ | carried := r.answer_eq req
  · refine .inr ⟨undone, fun number => ?_⟩
    rw [faulty]
    rfl
  · rw [carried]
    obtain ⟨done, o, found, suits, changed⟩ | ⟨undone, unchanged⟩ :=
      carryOut_cases (r.called req.operation) req
    · refine .inl ⟨done, o, found, suits, fun number => ?_⟩
      rw [changed, find?_modify _ _ _ req.number_change]
      by_cases own : number = req.number
      · rw [if_pos own, if_pos own, own, found]
        rfl
      · rw [if_neg own, if_neg own]
        rfl
    · refine .inr ⟨undone, fun number => ?_⟩
      rw [unchanged]
      rfl

end Repository

namespace Machine

/-! ### What an observer notes -/

def order? (m : Machine) (number : String) : Option StoredOrder :=
  m.site.repository.find? number

/-- The records of an order after each occurrence of a course, the latest first; the last of them is the
one that it came in with. -/
def history (m : Machine) (number : String) (os : List Occurrence) : List StoredOrder :=
  m.noted (fun x o => (x.after o).order? number) os ++ (m.order? number).toList

def applied? (m : Machine) (o : Occurrence) : Option Request :=
  (m.atMove WorkerPhase.finished? o).filter fun r => (m.site.answer r).1 = .done

/-- The final requests that the store has carried out. -/
def settled (m : Machine) (os : List Occurrence) : List Request :=
  (m.noted applied? os).filter Request.isFinal

/-! ### One step -/

section Step

variable {m m' : Machine} {i : Nat} {o : Occurrence} {number : String}

theorem applied?_eq_none (idle : m.atMove WorkerPhase.finished? o = none) :
    m.applied? o = none := by
  rw [applied?, idle]
  rfl

/-- The store changes nothing but by a request that a worker's move brings to an end. -/
theorem WorkerMove.orders (h : WorkerMove m i m') :
    (m.applied? (.move (.worker i)) = none ∧
        ∀ number, m'.order? number = m.order? number) ∨
      ∃ r, m.applied? (.move (.worker i)) = some r ∧ ∃ old, m.order? r.number = some old ∧
        r.suits old = true ∧ ∀ number, m'.order? number =
          if number = r.number then some (r.change old) else m.order? number := by
  have unfinished : ∀ {p}, m.workers[i]? = some p → p.finished? m.now = none →
      m.applied? (.move (.worker i)) = none :=
    fun here nothing => applied?_eq_none ((atMove_worker here).trans nothing)
  cases h with
  | stores r until_ here due same =>
    have finished : m.atMove WorkerPhase.finished? (.move (.worker i)) = some r :=
      (atMove_worker here).trans (if_pos due)
    have answered : m'.site.repository = (m.site.repository.answer r).2 := by
      rw [same]
      rfl
    obtain ⟨done, old, found, suits, changed⟩ | ⟨undone, unchanged⟩ :=
      m.site.repository.answer_cases r
    · refine .inr ⟨r, ?_, old, found, suits, fun number => ?_⟩
      · rw [applied?, finished]
        exact if_pos (decide_eq_true done)
      · rw [order?, answered]
        exact changed number
    · refine .inl ⟨?_, fun number => ?_⟩
      · rw [applied?, finished]
        exact if_neg (fun done => undone (of_decide_eq_true done))
      · rw [order?, answered]
        exact unchanged number
  | rests unanswered unstored same =>
    refine .inl ⟨applied?_eq_none (nothing_of_rests unanswered unstored).2, fun number => ?_⟩
    rw [same]
  | walks p q here idle next held heard same =>
    refine .inl ⟨unfinished here (WorkerPhase.nothing_of_isIdle idle _).2.2.2, fun number => ?_⟩
    rw [same]
    rfl
  | ends p here idle told same =>
    refine .inl ⟨unfinished here (WorkerPhase.nothing_of_isIdle idle _).2.2.2, fun number => ?_⟩
    rw [same, order?, hangUp_site]
    rfl
  | loses held reply until_ wait here due decided beyond same =>
    refine .inl ⟨unfinished here rfl, fun number => ?_⟩
    rw [same, order?, hangUp_site]
    rfl
  | takes o rest here items going same =>
    refine .inl ⟨unfinished here rfl, fun number => ?_⟩
    rw [same]
    rfl
  | calls o here opened unraised same =>
    refine .inl ⟨unfinished here rfl, fun number => ?_⟩
    rw [same]
    rfl
  | lets held reply until_ outcome here due decided same =>
    refine .inl ⟨unfinished here rfl, fun number => ?_⟩
    rw [same]
    rfl
  | defers held reply until_ wait gate here due decided fits same =>
    refine .inl ⟨unfinished here rfl, fun number => ?_⟩
    rw [same]
    rfl
  | requests held reply until_ r here due decided same =>
    refine .inl ⟨unfinished here rfl, fun number => ?_⟩
    rw [same]
    rfl

/-- Listing orders changes none. -/
theorem ProducerMove.orders (h : ProducerMove m m') (number : String) :
    m'.order? number = m.order? number := by
  have listed : (m.site.list m.polling.batch).2.repository.orders = m.site.repository.orders := by
    unfold Site.list Repository.list
    dsimp only
    split
    next => rfl
    next => split <;> rfl
    next => split <;> rfl
  have same : m'.site.repository.orders = m.site.repository.orders := by
    cases h with
    | misses next until_ cause here due missed same => rw [same, listed]
    | lists next until_ batch here due found same => rw [same, listed]
    | _ => subst m'; rfl
  rw [order?, order?, Repository.find?, Repository.find?, same]

/-- What becomes of an order with an occurrence: nothing, or what a request makes of it, or it comes
into the store. -/
theorem order?_after (m : Machine) (o : Occurrence) (number : String) :
    (∃ r, m.applied? o = some r ∧ r.number = number ∧ ∃ old, m.order? number = some old ∧
        r.suits old = true ∧ (m.after o).order? number = some (r.change old)) ∨
      ((∀ r, m.applied? o = some r → r.number ≠ number) ∧
        ((m.after o).order? number = m.order? number ∨ m.order? number = none)) := by
  have quiet : m.applied? o = none → (m.after o).order? number = m.order? number ∨
      m.order? number = none →
      (∀ r, m.applied? o = some r → r.number ≠ number) ∧
        ((m.after o).order? number = m.order? number ∨ m.order? number = none) := by
    intro unapplied kept
    refine ⟨fun r applied => ?_, kept⟩
    rw [unapplied] at applied
    cases applied
  cases step_after m o with
  | worker i what moved =>
    subst what
    obtain ⟨unapplied, kept⟩ | ⟨r, applied, old, found, suits, changed⟩ := moved.orders
    · exact .inr (quiet unapplied (.inl (kept number)))
    · by_cases own : number = r.number
      · subst own
        refine .inl ⟨r, applied, rfl, old, found, suits, ?_⟩
        exact (changed r.number).trans (if_pos rfl)
      · refine .inr ⟨fun r' applied' => ?_, .inl ((changed number).trans (if_neg own))⟩
        obtain rfl : r = r' := Option.some.inj (applied.symm.trans applied')
        exact fun same => own same.symm
  | producer what moved =>
    subst what
    exact .inr (quiet rfl (.inl (moved.orders number)))
  | clock time what now later same =>
    have kept : (m.after o).order? number = m.order? number :=
      congrArg (fun x => x.site.repository.find? number) same
    refine .inr (quiet ?_ (.inl kept))
    obtain rfl | rfl := what
    · rfl
    · rfl
  | outside a what queue same =>
    subst what
    refine .inr (quiet rfl ?_)
    have after : (m.after (.act a)).order? number =
        (m.site.repository.orders ++ a.registered).find? fun x => x.number = number :=
      congrArg (fun x : Machine => x.order? number) same
    rw [after, List.find?_append]
    cases found : m.order? number with
    | none => exact .inr rfl
    | some old =>
      have found : m.site.repository.orders.find? (fun x => x.number = number) = some old := found
      rw [found]
      exact .inl rfl

end Step

/-! ### The record of one order -/

/-- What is known of one order after a course: its record now, its earlier ones, and the final requests
that were carried out. -/
structure Evolution (number : String) (now : Option StoredOrder) (history : List StoredOrder)
    (settled : List Request) : Prop where
  current : history.head? = now
  chain : history.IsChain StoredOrder.Follows
  once : (settled.map Request.number).count number ≤ 1
  final : ∀ r ∈ settled, r.number = number → ∃ o, now = some o ∧ o.status.isTerminal = true ∧
    r = .finalize number o.status o.accrual
  origin : ∀ o, now = some o → o.status.isTerminal = true →
    history.getLast? = some o ∨ .finalize number o.status o.accrual ∈ settled

namespace Evolution

variable {number : String} {now : Option StoredOrder} {history : List StoredOrder}
  {settled : List Request}

/-- The record stays, whatever becomes of other orders. -/
theorem stay (h : Evolution number now history settled) {done : List Request}
    (others : ∀ r ∈ done, r.number ≠ number) :
    Evolution number now (now.toList ++ history) (done ++ settled) := by
  have uncounted : (done.map Request.number).count number = 0 := by
    rw [List.count_eq_zero, List.mem_map]
    rintro ⟨r, among, own⟩
    exact others r among own
  have once : ((done ++ settled).map Request.number).count number ≤ 1 := by
    rw [List.map_append, List.count_append, uncounted, Nat.zero_add]
    exact h.once
  have final : ∀ r ∈ done ++ settled, r.number = number → ∃ o, now = some o ∧
      o.status.isTerminal = true ∧ r = .finalize number o.status o.accrual := by
    intro r among own
    obtain other | among := List.mem_append.1 among
    · exact absurd own (others r other)
    · exact h.final r among own
  cases now with
  | none =>
    refine ⟨h.current, h.chain, once, final, ?_⟩
    intro o found
    cases found
  | some o =>
    obtain ⟨earlier, rfl⟩ := List.head?_eq_some_iff.1 h.current
    refine ⟨rfl, List.IsChain.cons_cons (.inl rfl) h.chain, once, final, fun o' found ended => ?_⟩
    obtain first | last := h.origin o' found ended
    · exact .inl first
    · exact .inr (List.mem_append_right _ last)

/-- The order comes into the store. -/
theorem enter (h : Evolution number none history settled) {done : List Request}
    (others : ∀ r ∈ done, r.number ≠ number) (entered : Option StoredOrder) :
    Evolution number entered (entered.toList ++ history) (done ++ settled) := by
  have before := h.stay others
  obtain rfl : history = [] := List.head?_eq_none_iff.1 h.current
  refine ⟨?_, ?_, before.once, ?_, ?_⟩
  · cases entered <;> rfl
  · cases entered
    · exact .nil
    · exact .singleton _
  · intro r among own
    obtain ⟨o, found, -⟩ := before.final r among own
    cases found
  · intro o found ended
    rw [found]
    exact .inl rfl

/-- The order is marked, or ends. -/
theorem change {old : StoredOrder} (h : Evolution number (some old) history settled) {r : Request}
    (own : r.number = number) (suits : r.suits old = true)
    (sound : ∀ status accrual, r = .finalize number status accrual → status.isTerminal = true) :
    Evolution number (some (r.change old)) (r.change old :: history)
      ([r].filter Request.isFinal ++ settled) := by
  obtain ⟨earlier, rfl⟩ := List.head?_eq_some_iff.1 h.current
  -- whoever settled the order before would have ended it
  have unsettled : ∀ r' ∈ settled, r'.number = number → old.status.isTerminal = true := by
    intro r' among own'
    obtain ⟨o, found, ended, -⟩ := h.final r' among own'
    cases found
    exact ended
  have fresh : old.status.isTerminal = false → (settled.map Request.number).count number = 0 := by
    intro pending
    rw [List.count_eq_zero, List.mem_map]
    rintro ⟨r', among, own'⟩
    rw [unsettled r' among own'] at pending
    cases pending
  cases r with
  | finalize name status accrual =>
    obtain rfl : name = number := own
    have pending : old.status.isTerminal = false := by simpa [Request.suits] using suits
    have terminal := sound status accrual rfl
    refine ⟨rfl, List.IsChain.cons_cons (.inr (.ends pending status terminal accrual)) h.chain, ?_, ?_,
      ?_⟩
    · show ((name :: settled.map Request.number).count name) ≤ 1
      rw [List.count_cons_self, fresh pending]
    · intro r' among own'
      obtain rfl | among := List.mem_cons.1 among
      · exact ⟨_, rfl, terminal, rfl⟩
      · rw [unsettled r' among own'] at pending
        cases pending
    · intro o found ended
      cases found
      exact .inr List.mem_cons_self
  | markProcessing name =>
    have new : old.status = .new := by simpa [Request.suits] using suits
    refine ⟨rfl, List.IsChain.cons_cons (.inr (.begins new)) h.chain, h.once, ?_, ?_⟩
    · intro r' among own'
      have ended := unsettled r' among own'
      rw [new] at ended
      cases ended
    · intro o found ended
      cases found
      cases ended

end Evolution

/-! ### Courses -/

section Course

variable {m : Machine} {os : List Occurrence}

/-- A request that is carried out was in flight. -/
theorem unfinished_of_applied? {o : Occurrence} {r : Request} (applied : m.applied? o = some r) :
    r ∈ m.unfinished := by
  obtain ⟨finished, -⟩ := Option.filter_eq_some_iff.1 applied
  unfold atMove at finished
  split at finished
  next i =>
    obtain ⟨p, here, due⟩ := Option.bind_eq_some_iff.1 finished
    refine List.mem_filterMap.2 ⟨p, List.mem_of_getElem? here, ?_⟩
    unfold WorkerPhase.finished? at due
    split at due
    next r' until_ =>
      split at due
      next => exact due
      next => cases due
    next => cases due
  next => cases finished

theorem isTerminal_of_applied? (quiet : m.Traffic [] [] [] []) {o : Occurrence}
    {number : String} {status : OrderStatus} {accrual : Option Decimal}
    (applied : (m.course os).applied? o = some (.finalize number status accrual)) :
    status.isTerminal = true := by
  have made : .finalize number status accrual ∈ (m.course os).requested :=
    (traffic_course quiet os).stored.mem_iff.2
      (List.mem_append_left _ (unfinished_of_applied? applied))
  obtain ⟨held, reply, -, -, -, decided⟩ := grounded_course quiet made
  exact (grounds_of_requestOf decided).isTerminal

theorem settled_append_singleton (m : Machine) (os : List Occurrence) (o : Occurrence) :
    m.settled (os ++ [o]) =
      ((m.course os).applied? o).toList.filter Request.isFinal ++ m.settled os := by
  rw [settled, noted_append_singleton, List.filter_append]
  rfl

theorem history_append_singleton (m : Machine) (number : String) (os : List Occurrence)
    (o : Occurrence) : m.history number (os ++ [o]) =
      (((m.course os).after o).order? number).toList ++ m.history number os := by
  rw [history, noted_append_singleton, List.append_assoc]
  rfl

/-- What a course makes of an order. -/
theorem evolution_course (quiet : m.Traffic [] [] [] []) (os : List Occurrence) (number : String) :
    Evolution number ((m.course os).order? number) (m.history number os) (m.settled os) := by
  induction os using List.reverseRecOn with
  | nil =>
    show Evolution number (m.order? number) (m.order? number).toList []
    refine ⟨?_, ?_, Nat.zero_le _, nofun, fun o found _ => .inl (by rw [found]; rfl)⟩
    · cases m.order? number <;> rfl
    · cases m.order? number
      · exact .nil
      · exact .singleton _
  | append_singleton os o ih =>
    rw [course_append_singleton, history_append_singleton, settled_append_singleton]
    obtain ⟨r, applied, own, old, found, suits, changed⟩ | ⟨others, same⟩ :=
      order?_after (m.course os) o number
    · rw [changed, applied]
      rw [found] at ih
      refine ih.change own suits fun status accrual final => ?_
      exact isTerminal_of_applied? quiet (final ▸ applied)
    · have others : ∀ r ∈ ((m.course os).applied? o).toList.filter Request.isFinal,
          r.number ≠ number :=
        fun r among => others r (Option.mem_toList.1 (List.mem_of_mem_filter among))
      obtain kept | absent := same
      · rw [kept]
        exact ih.stay others
      · rw [absent] at ih
        exact ih.enter others _

/-- A final request that was carried out had been made. -/
theorem requested_of_settled (quiet : m.Traffic [] [] [] []) {r : Request}
    (done : r ∈ m.settled os) : r ∈ (m.course os).requested := by
  have answered : r ∈ m.finished os := by
    refine noted_subset (fun x o r applied => ?_) m os (List.mem_of_mem_filter done)
    exact (Option.filter_eq_some_iff.1 applied).1
  exact (traffic_course quiet os).stored.mem_iff.2 (List.mem_append_right _ answered)

end Course

/-- **The life of an order.** In every course of every pipeline, whatever the service answers and when,
and whatever befalls the store: an order only begins to be processed and ends, and once ended stays as
it is; at most one final request about it is carried out, and its end is the one that an answer of the
service gave to a question about this order. What is asked of the store is what the answers lead to, one
for one, and an answer that says nothing about its order leads to nothing. -/
theorem orders_end_once (polling : Polling) (workers : Nat) (source : Source) (repository : Repository)
    (os : List Occurrence) :
    let start := pipeline polling workers { source, repository }
    let m := start.course os
    (∀ number, let history := start.history number os
      history.head? = m.order? number ∧
      history.IsChain (fun later earlier => later = earlier ∨ earlier.Onward later) ∧
      history.Pairwise (fun later earlier => earlier.status.isTerminal = true → later = earlier) ∧
      ∀ o, m.order? number = some o → o.status.isTerminal = true →
        history.getLast? = some o ∨ .finalize number o.status o.accrual ∈ start.settled os) ∧
    ((start.settled os).map Request.number).Nodup ∧
    (∀ r ∈ start.settled os, ∃ o held reply, m.order? r.number = some o ∧
      r = .finalize r.number o.status o.accrual ∧ (held, reply) ∈ start.questions os ∧
      (held, reply) ∈ start.answers os ∧ held.number = r.number ∧
      reply ∈ source.script r.number ∧ Grounds r.number reply.answer o.status o.accrual) ∧
    m.asked = (start.questions os).map (fun question => question.1.number) ∧
    m.requested = (start.answers os).filterMap requestOf ∧
    ∀ held reply, Undecided held.number reply.answer → requestOf (held, reply) = none := by
  intro start m
  have quiet : start.Traffic [] [] [] [] := traffic_pipeline polling workers source repository
  have evolution := evolution_course quiet os
  have traffic := traffic_course quiet os
  refine ⟨fun number => ?_, ?_, fun r done => ?_, traffic.asked, traffic.requested,
    fun held reply undecided => requestOf_of_undecided undecided⟩
  · have known := evolution number
    exact ⟨known.current, known.chain, pairwise_of_follows known.chain, known.origin⟩
  · exact List.nodup_iff_count_le_one.2 fun number => (evolution number).once
  · obtain ⟨o, found, -, final⟩ := (evolution r.number).final r done rfl
    obtain ⟨held, reply, begun, answered, scripted, decided⟩ :=
      grounded_course quiet (requested_of_settled quiet done)
    have own := number_of_requestOf decided
    rw [← own] at scripted
    rw [final] at decided
    have grounds := grounds_of_requestOf decided
    rw [← own] at grounds
    exact ⟨o, held, reply, found, final, begun, answered, own.symm, scripted, grounds⟩

end Machine

end Loyalty.Pipeline
