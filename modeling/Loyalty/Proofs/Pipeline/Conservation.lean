import Loyalty.Proofs.Pipeline.Account

/-!
# Orders are neither lost nor doubled

Where an order goes after it was sent is kept in the account of the pool. What remains is that
nothing stays behind: a worker that is not told to stop goes only when it finds the queue empty and
cut off, and after the last one nothing can be put on the queue (`Drained`).

Main statement: `orders_conserved`, for every pool whose shutdown switch is left alone.
-/

namespace Loyalty.Pipeline

namespace Machine

section Step

variable {m m' : Machine} {i : Nat} {o : Occurrence}

/-- Once all workers are over nothing is left on the queue, and nothing can be put on it. -/
def Drained (m : Machine) : Prop :=
  m.workers.all WorkerPhase.isOver = true → m.queue.items = [] ∧ m.queue.read = false

theorem drained_of_set {p q : WorkerPhase} (here : m.workers[i]? = some p)
    (workers : m'.workers = m.workers.set i q) (awake : q.isOver = false) : m'.Drained := by
  intro done
  have inside : i < m.workers.length := (List.getElem?_eq_some_iff.1 here).1
  rw [workers, List.all_eq_true] at done
  rw [done q (List.mem_set inside q)] at awake
  cases awake

/-- A worker goes for good only when it finds the queue empty. -/
theorem WorkerMove.drained (h : WorkerMove m i m') (going : m.control.stop.isStopped = false)
    (fits : ∀ l ∈ m.limit? (.move (.worker i)), l.time + l.wait < horizon)
    (drained : m.Drained) : m'.Drained := by
  cases h with
  | rests unanswered unstored same =>
    rw [same]
    exact drained
  | ends p here idle told same =>
    obtain stopped | ⟨-, items, -⟩ := told
    · rw [going] at stopped
      cases stopped
    · intro done
      rw [same, hangUp_workers] at done
      rw [same]
      exact ⟨(hangUp_items _).trans items, hangUp_read done⟩
  | loses held reply until_ wait here due decided beyond same =>
    have told : m.limit? (.move (.worker i)) = some ⟨i, m.now, wait⟩ :=
      limit?_eq_some_iff.2 ⟨held, reply, until_, here, due, decided, rfl, rfl⟩
    rw [Gate.defer, if_pos (fits _ told)] at beyond
    cases beyond
  | walks p q here idle next held heard same =>
    exact drained_of_set here (by rw [same]; rfl) (WorkerPhase.isOver_of_isIdle next)
  | takes o rest here items going same => exact drained_of_set here (by rw [same]; rfl) rfl
  | calls o here opened unraised same => exact drained_of_set here (by rw [same]; rfl) rfl
  | lets held reply until_ outcome here due decided same =>
    exact drained_of_set here (by rw [same]; rfl) rfl
  | defers held reply until_ wait gate here due decided fits same =>
    exact drained_of_set here (by rw [same]; rfl) rfl
  | requests held reply until_ r here due decided same =>
    exact drained_of_set here (by rw [same]; rfl) rfl
  | stores r until_ here due same => exact drained_of_set here (by rw [same]; rfl) rfl

theorem PoolStep.drained (h : PoolStep m o m') (going : m.control.stop.isStopped = false)
    (feeding : Feeding [o]) (fits : ∀ l ∈ m.limit? o, l.time + l.wait < horizon)
    (drained : m.Drained) : m'.Drained := by
  cases h with
  | worker i what moved =>
    subst what
    exact moved.drained going fits drained
  | elsewhere what same =>
    rw [same]
    exact drained
  | clock time what now later same =>
    rw [same]
    exact drained
  | outside a what stop queue repository signal queued same =>
    obtain ⟨-, receive, drain, close⟩ := feeding a (by simp [what])
    intro done
    rw [same] at done ⊢
    obtain ⟨items, unread⟩ := drained done
    -- nobody reads the queue any more, so nothing was put on it
    have refused : m.put? a = none := by
      cases a <;> simp [put?, unread]
    refine ⟨?_, (queued.read close).trans unread⟩
    rw [queued.items receive drain, items, refused]
    rfl

theorem WorkerMove.length_workers (h : WorkerMove m i m') :
    m'.workers.length = m.workers.length := by
  cases h <;> subst m' <;> simp [setWorker]

theorem PoolStep.length_workers (h : PoolStep m o m') :
    m'.workers.length = m.workers.length := by
  cases h with
  | worker i what moved => exact moved.length_workers
  | _ => subst m'; rfl

end Step

/-! ### Pools -/

section Course

variable {m : Machine} {os : List Occurrence}

theorem length_workers_course (alone : m.producer = .ended) (os : List Occurrence) :
    (m.course os).workers.length = m.workers.length := by
  refine keeps_course (fun x => x.workers.length) alone fun x hx o _ => ?_
  have step := poolStep_after hx o
  exact step.length_workers

theorem drained_course (alone : m.producer = .ended) (going : m.control.stop.isStopped = false)
    (feeding : Feeding os) (fits : ∀ l ∈ m.limits os, l.time + l.wait < horizon)
    (drained : m.Drained) : (m.course os).Drained := by
  induction os using List.reverseRecOn with
  | nil => exact drained
  | append_singleton os o ih =>
    obtain ⟨before, last⟩ := feeding.of_append
    rw [limits_append_singleton] at fits
    have kept := ih before fun l told => fits l (List.mem_append_right _ told)
    rw [course_append_singleton]
    refine (poolStep_after (producer_course alone os) o).drained
      (isStopped_course alone going before) last (fun l told => ?_) kept
    exact fits l (List.mem_append_left _ (Option.mem_toList.2 told))

end Course

theorem drained_pool (workers capacity : Nat) (site : Site) :
    (pool workers capacity site).Drained := by
  intro done
  cases workers with
  | zero => exact ⟨rfl, rfl⟩
  | succ n =>
    rw [workers_pool, idleWorkers, List.replicate_succ, List.all_cons] at done
    cases done

/-- What workers that are over have in hand. -/
theorem filterMap_of_isOver {α : Type} {ws : List WorkerPhase} {f : WorkerPhase → Option α}
    (done : ws.all WorkerPhase.isOver = true) (free : f .ended = none ∧ f .lost = none) :
    ws.filterMap f = [] := by
  refine List.filterMap_eq_nil_iff.2 fun p hp => ?_
  have over_ := List.all_eq_true.1 done p hp
  cases p with
  | ended => exact free.1
  | lost => exact free.2
  | _ => cases over_

/-- **Orders are neither lost nor doubled.** In a pool whose shutdown switch is left alone, whoever
moves when: the service is asked at most once for each time that an order is sent, the questions
begun are those that are answered and those that are not, and of the latter there are at no instant
more than workers. If no rate limit lies beyond the horizon, then a pool that is over has asked just
once for each time that an order was sent, and each request that an answer led to has been made and
answered. -/
theorem orders_conserved (workers capacity : Nat) (source : Source) (repository : Repository)
    (os : List Occurrence) (feeding : Feeding os) :
    let start := pool workers capacity { source, repository }
    let m := start.course os
    let begun := m.unanswered ++ (start.answers os).map Prod.fst
    m.asked.Subperm ((start.sent os).map Ticket.number) ∧
      m.asked.Perm (begun.map Ticket.number) ∧ begun.Subperm (start.sent os) ∧
      m.unanswered.length ≤ workers ∧
      ((∀ l ∈ start.limits os, l.time + l.wait < horizon) → m.isOver = true →
        m.asked.Perm ((start.sent os).map Ticket.number) ∧
        ((start.answers os).map Prod.fst).Perm (start.sent os) ∧
        m.requested.Perm ((start.answers os).filterMap requestOf) ∧
        (start.finished os).Perm m.requested) := by
  intro start m begun
  have alone : start.producer = .ended := producer_pool workers capacity _
  have going : start.control.stop.isStopped = false := (signals_pool workers capacity _).1
  have books : m.Books (start.sent os) (start.answers os) (start.finished os) :=
    books_course alone going feeding (books_pool workers capacity source repository)
  have last : begun.Sublist
      (m.queue.items ++ m.held ++ m.unanswered ++ (start.answers os).map Prod.fst) := by
    rw [List.append_assoc (m.queue.items ++ m.held)]
    exact List.sublist_append_right _ _
  have initial : start.workers.length = workers := by
    rw [workers_pool, idleWorkers, List.length_replicate]
  have waiting : m.unanswered.length ≤ workers := by
    rw [← initial, ← length_workers_course alone os]
    exact List.length_filterMap_le _ _
  refine ⟨?_, books.asked, ?_, waiting, fun fits done => ?_⟩
  · have numbers := (last.map Ticket.number).subperm
    exact books.asked.subperm.trans (numbers.trans (books.orders.symm.map Ticket.number).subperm)
  · exact last.subperm.trans books.orders.symm.subperm
  · have gone : m.workers.all WorkerPhase.isOver = true := by
      rw [isOver, Bool.and_eq_true] at done
      exact done.2
    have queue : m.queue.items = [] :=
      (drained_course alone going feeding fits (drained_pool workers capacity _) gone).1
    have hands : m.held = [] := filterMap_of_isOver gone ⟨rfl, rfl⟩
    have calls : m.unanswered = [] := filterMap_of_isOver gone ⟨rfl, rfl⟩
    have stores : m.unfinished = [] := filterMap_of_isOver gone ⟨rfl, rfl⟩
    have orders := books.orders
    have asked := books.asked
    have finished := books.finished
    rw [queue, hands, calls, List.nil_append, List.nil_append, List.nil_append] at orders
    rw [calls, List.nil_append] at asked
    rw [stores, List.nil_append] at finished
    exact ⟨asked.trans (orders.symm.map Ticket.number), orders.symm, books.requested,
      finished.symm⟩

/-- A service that asks to be left alone for five milliseconds when it is asked about one order, and
does not know the other. -/
def mixedSource : Source :=
  ⟨[("1", [⟨.error (.retryAfter 5), 1⟩]), ("2", [⟨.error (.noContent "2"), 0⟩])]⟩

/-- Two orders are sent and the queue is closed; the workers take one each and go. -/
def twoOrders : List Occurrence :=
  [.act (.send ⟨"1", .new⟩), .act (.send ⟨"2", .new⟩), .act .closeFeed,
    .move (.worker 0), .move (.worker 0), .move (.worker 0), .move (.worker 0),
    .move (.worker 1), .move (.worker 1), .move (.worker 1), .move (.worker 1),
    .pass 1, .move (.worker 0), .move (.worker 1), .move (.worker 1), .pass 7,
    .move (.worker 0), .move (.worker 0), .move (.worker 0), .move (.worker 0),
    .move (.worker 1), .move (.worker 1), .move (.worker 1), .move (.worker 1)]

theorem feeding_twoOrders : Feeding twoOrders := by
  intro a sent
  have known : a = .send ⟨"1", .new⟩ ∨ a = .send ⟨"2", .new⟩ ∨ a = .closeFeed := by
    simpa [twoOrders] using sent
  obtain rfl | rfl | rfl := known
  · exact ⟨⟨nofun, nofun⟩, nofun, nofun, nofun⟩
  · exact ⟨⟨nofun, nofun⟩, nofun, nofun, nofun⟩
  · exact ⟨⟨nofun, nofun⟩, nofun, nofun, nofun⟩

theorem orders_conserved_twoOrders :
    ((pool 2 2 { source := mixedSource }).course twoOrders).isOver = true ∧
      ((pool 2 2 { source := mixedSource }).course twoOrders).asked.Perm ["2", "1"] ∧
      ((pool 2 2 { source := mixedSource }).course twoOrders).requested.Perm
        [.finalize "2" .invalid none] := by
  have sent : (pool 2 2 { source := mixedSource }).sent twoOrders =
      [⟨"2", .new⟩, ⟨"1", .new⟩] := by decide +kernel
  have finished : (pool 2 2 { source := mixedSource }).finished twoOrders =
      [.finalize "2" .invalid none] := by decide +kernel
  have limits : (pool 2 2 { source := mixedSource }).limits twoOrders = [⟨0, 1, 5⟩] := by
    decide +kernel
  have done : ((pool 2 2 { source := mixedSource }).course twoOrders).isOver = true := by
    decide +kernel
  have fits : ∀ l ∈ (pool 2 2 { source := mixedSource }).limits twoOrders,
      l.time + l.wait < horizon := by
    intro l told
    rw [limits] at told
    obtain rfl := List.mem_singleton.1 told
    decide
  have conserved := orders_conserved 2 2 mixedSource {} twoOrders feeding_twoOrders
  dsimp only at conserved
  obtain ⟨-, -, -, -, ended⟩ := conserved
  obtain ⟨asked, -, -, requested⟩ := ended fits done
  rw [sent] at asked
  rw [finished] at requested
  exact ⟨done, asked, requested.symm⟩

end Machine

end Loyalty.Pipeline
