import Loyalty.Proofs.Pipeline.Isolation

/-!
# Where the orders of a pool are

An order that is put on the queue of a pool is always in one place: on the queue, in the hands of a
worker that has not asked about it yet, with the service, or answered. `Books` keeps account of
these places, and of the requests that the answers lead to.

Every move carries one order from one place to the next. So there is one lemma about a worker that
goes from one phase to another, `Books.shift`, and the cases of a move are instances of it.

Main statement: `books_course`, for every course of a pool whose shutdown switch is left alone.
-/

namespace Loyalty.Pipeline

/-- The shutdown switch is left alone, and only the workers take orders from the queue. -/
def Feeding (os : List Occurrence) : Prop :=
  ∀ a, Occurrence.act a ∈ os →
    (a ≠ .shutdown ∧ a ≠ .dropSwitch) ∧ a ≠ .receive ∧ a ≠ .drain ∧ a ≠ .closeReader

theorem Feeding.of_append {os : List Occurrence} {o : Occurrence} (h : Feeding (os ++ [o])) :
    Feeding os ∧ Feeding [o] :=
  ⟨fun a ha => h a (List.mem_append_left _ ha), fun a ha => h a (List.mem_append_right _ ha)⟩

/-- The order about which the service has been asked and has not answered. -/
def WorkerPhase.called : WorkerPhase → Option Ticket
  | .calling held _ _ => some held
  | _ => none

/-- The request that the store has not answered. -/
def WorkerPhase.requested : WorkerPhase → Option Request
  | .storing r _ => some r
  | _ => none

/-- The answer of the service that has come by now. -/
def WorkerPhase.answer? (now : Nat) : WorkerPhase → Option (Ticket × Reply)
  | .calling held reply until_ => if until_ ≤ now then some (held, reply) else none
  | _ => none

/-- The request that the store has answered by now. -/
def WorkerPhase.finished? (now : Nat) : WorkerPhase → Option Request
  | .storing r until_ => if until_ ≤ now then some r else none
  | _ => none

def requestOf (answer : Ticket × Reply) : Option Request :=
  match followUp answer.1 answer.2.answer with
  | .request r => some r
  | _ => none

def Call.accrual? : Call → Option String
  | .accrual number => some number
  | _ => none

def Call.request? : Call → Option Request
  | .store r => some r
  | _ => none

/-- An idle worker waits for no answer. -/
theorem WorkerPhase.nothing_of_isIdle {p : WorkerPhase} (idle : p.isIdle = true) (now : Nat) :
    p.called = none ∧ p.requested = none ∧ p.answer? now = none ∧ p.finished? now = none := by
  cases p <;> first | exact ⟨rfl, rfl, rfl, rfl⟩ | cases idle

/-! ### Entries that are replaced -/

/-- When an entry of a list is replaced, what it gave goes and what the new one gives comes. -/
theorem perm_filterMap_set {α β : Type} (f : α → Option β) {l : List α} {i : Nat} {a : α}
    (here : l[i]? = some a) (b : α) :
    ((l.set i b).filterMap f ++ (f a).toList).Perm (l.filterMap f ++ (f b).toList) := by
  have cons : ∀ (x : α) (xs : List α), (x :: xs).filterMap f = (f x).toList ++ xs.filterMap f := by
    intro x xs
    cases h : f x <;> simp [h]
  induction l generalizing i with
  | nil => cases here
  | cons x xs ih =>
    cases i with
    | zero =>
      obtain rfl : x = a := by simpa using here
      rw [List.set_cons_zero, cons, cons, List.append_assoc (f x).toList]
      exact List.perm_append_comm.trans (List.perm_append_comm.append_left _)
    | succ i =>
      rw [List.set_cons_succ, cons, cons, List.append_assoc, List.append_assoc]
      exact (ih (by simpa using here)).append_left _

namespace Machine

/-! ### What an observer notes -/

/-- What shows in the phase of the worker that moves. -/
def atMove {α : Type} (f : Nat → WorkerPhase → Option α) (m : Machine) : Occurrence → Option α
  | .move (.worker i) => m.workers[i]?.bind (f m.now)
  | _ => none

theorem atMove_worker {α : Type} {f : Nat → WorkerPhase → Option α} {m : Machine} {i : Nat}
    {p : WorkerPhase} (here : m.workers[i]? = some p) :
    m.atMove f (.move (.worker i)) = f m.now p := by
  rw [atMove, here]
  rfl

def sent? (m : Machine) : Occurrence → Option Ticket
  | .act a => m.put? a
  | _ => none

def sent (m : Machine) (os : List Occurrence) : List Ticket := m.noted sent? os

/-- The answers of the service that the workers have taken up. -/
def answers (m : Machine) (os : List Occurrence) : List (Ticket × Reply) :=
  m.noted (atMove WorkerPhase.answer?) os

def finished (m : Machine) (os : List Occurrence) : List Request :=
  m.noted (atMove WorkerPhase.finished?) os

/-! ### Where the orders are -/

/-- The orders in the hands of workers that have not asked about them yet. -/
def held (m : Machine) : List Ticket := m.workers.filterMap WorkerPhase.held

/-- The orders about which the service has not answered. -/
def unanswered (m : Machine) : List Ticket := m.workers.filterMap WorkerPhase.called

def unfinished (m : Machine) : List Request := m.workers.filterMap WorkerPhase.requested

/-- The questions to the service that were begun, the latest first. -/
def asked (m : Machine) : List String := m.site.log.filterMap fun c => c.call.accrual?

/-- The requests to the store that were begun, the latest first. -/
def requested (m : Machine) : List Request := m.site.log.filterMap fun c => c.call.request?

/-- The account of a machine on which these orders were sent, these answers have come and these
requests have been carried out. -/
structure Books (m : Machine) (sent : List Ticket) (answers : List (Ticket × Reply))
    (finished : List Request) : Prop where
  orders : sent.Perm (m.queue.items ++ m.held ++ m.unanswered ++ answers.map Prod.fst)
  asked : m.asked.Perm ((m.unanswered ++ answers.map Prod.fst).map Ticket.number)
  requested : m.requested.Perm (answers.filterMap requestOf)
  finished : m.requested.Perm (m.unfinished ++ finished)

section Step

variable {m m' : Machine} {i : Nat} {o : Occurrence} {sent : List Ticket}
  {answers : List (Ticket × Reply)} {finished : List Request}

/-- The schedule is no part of the account. -/
theorem books_bare : m.bare.Books sent answers finished ↔ m.Books sent answers finished :=
  ⟨fun h => ⟨h.orders, h.asked, h.requested, h.finished⟩,
    fun h => ⟨h.orders, h.asked, h.requested, h.finished⟩⟩

/-- Nor is it whether anybody reads the queue. -/
theorem Books.hangUp (books : m.Books sent answers finished) :
    m.hangUp.Books sent answers finished := by
  unfold Machine.hangUp
  split
  · exact ⟨books.orders, books.asked, books.requested, books.finished⟩
  · exact books

/-- A worker goes on from one phase to the next: the account is kept if what it leaves behind is
found again in the next phase or in what an observer notes. -/
theorem Books.shift (books : m.Books sent answers finished) {p q : WorkerPhase}
    (here : m.workers[i]? = some p) (workers : m'.workers = m.workers.set i q)
    (answer : Option (Ticket × Reply)) (done : Option Request) (question : Option String)
    (request : Option Request)
    (orders : (m.queue.items ++ p.held.toList ++ p.called.toList).Perm
      (m'.queue.items ++ q.held.toList ++ q.called.toList ++ answer.toList.map Prod.fst))
    (asked : m'.asked = question.toList ++ m.asked)
    (asking : (question.toList ++ p.called.toList.map Ticket.number).Perm
      (q.called.toList.map Ticket.number ++ (answer.toList.map Prod.fst).map Ticket.number))
    (requested : m'.requested = request.toList ++ m.requested)
    (decided : answer.toList.filterMap requestOf = request.toList)
    (requesting : (request.toList ++ p.requested.toList).Perm
      (q.requested.toList ++ done.toList)) :
    m'.Books sent (answer.toList ++ answers) (done.toList ++ finished) := by
  have held : (m'.held ++ p.held.toList).Perm (m.held ++ q.held.toList) := by
    rw [Machine.held, workers]
    exact perm_filterMap_set WorkerPhase.held here q
  have called : (m'.unanswered ++ p.called.toList).Perm (m.unanswered ++ q.called.toList) := by
    rw [unanswered, workers]
    exact perm_filterMap_set WorkerPhase.called here q
  have storing : (m'.unfinished ++ p.requested.toList).Perm
      (m.unfinished ++ q.requested.toList) := by
    rw [unfinished, workers]
    exact perm_filterMap_set WorkerPhase.requested here q
  refine ⟨?_, ?_, ?_, ?_⟩
  · refine List.perm_iff_count.2 fun t => ?_
    have before := books.orders.count_eq t
    have hands := held.count_eq t
    have calls := called.count_eq t
    have moved := orders.count_eq t
    simp only [List.map_append, List.count_append] at before hands calls moved ⊢
    omega
  · refine List.perm_iff_count.2 fun n => ?_
    have before := books.asked.count_eq n
    have calls := (called.map Ticket.number).count_eq n
    have moved := asking.count_eq n
    rw [asked]
    simp only [List.map_append, List.count_append] at before calls moved ⊢
    omega
  · rw [requested, List.filterMap_append, decided]
    exact books.requested.append_left _
  · refine List.perm_iff_count.2 fun r => ?_
    have before := books.finished.count_eq r
    have stores := storing.count_eq r
    have moved := requesting.count_eq r
    rw [requested]
    simp only [List.count_append] at before stores moved ⊢
    omega

/-- A worker that rests takes up no answer. -/
theorem nothing_of_rests
    (unanswered : ∀ held reply until_, m.workers[i]? = some (.calling held reply until_) →
      m.now < until_)
    (unstored : ∀ r until_, m.workers[i]? = some (.storing r until_) → m.now < until_) :
    m.atMove WorkerPhase.answer? (.move (.worker i)) = none ∧
      m.atMove WorkerPhase.finished? (.move (.worker i)) = none := by
  cases here : m.workers[i]? with
  | none => simp [atMove, here]
  | some p =>
    rw [atMove_worker here, atMove_worker here]
    cases p with
    | calling held reply until_ =>
      exact ⟨if_neg (Nat.not_le.2 (unanswered held reply until_ here)), rfl⟩
    | storing r until_ => exact ⟨rfl, if_neg (Nat.not_le.2 (unstored r until_ here))⟩
    | _ => exact ⟨rfl, rfl⟩

/-- An idle worker goes on: it keeps its order, or takes one from the queue, or gives it to the
service. -/
theorem Books.shift_idle (books : m.Books sent answers finished) {p q : WorkerPhase}
    (here : m.workers[i]? = some p) (idle : p.isIdle = true)
    (workers : m'.workers = m.workers.set i q) (unstored : q.requested = none)
    (orders : (m.queue.items ++ p.held.toList).Perm
      (m'.queue.items ++ q.held.toList ++ q.called.toList))
    (asked : m'.asked = q.called.toList.map Ticket.number ++ m.asked)
    (requested : m'.requested = m.requested) :
    m'.Books sent ((m.atMove WorkerPhase.answer? (.move (.worker i))).toList ++ answers)
      ((m.atMove WorkerPhase.finished? (.move (.worker i))).toList ++ finished) := by
  obtain ⟨called, stored, answer, done⟩ := WorkerPhase.nothing_of_isIdle idle m.now
  rw [atMove_worker here, atMove_worker here, answer, done]
  refine books.shift here workers none none (q.called.map Ticket.number) none ?_ ?_ ?_ requested
    rfl ?_
  · rw [called]
    simpa using orders
  · rw [asked]
    cases q.called <;> rfl
  · rw [called]
    cases q.called <;> simp
  · simp [stored, unstored]

/-- A worker takes up the answer of the service, and asks the store for what it leads to. -/
theorem Books.shift_called (books : m.Books sent answers finished) {held : Ticket} {reply : Reply}
    {until_ : Nat} {q : WorkerPhase} (here : m.workers[i]? = some (.calling held reply until_))
    (due : until_ ≤ m.now) (workers : m'.workers = m.workers.set i q)
    (free : q.held = none ∧ q.called = none) (decided : requestOf (held, reply) = q.requested)
    (items : m'.queue.items = m.queue.items) (asked : m'.asked = m.asked)
    (requested : m'.requested = q.requested.toList ++ m.requested) :
    m'.Books sent ((m.atMove WorkerPhase.answer? (.move (.worker i))).toList ++ answers)
      ((m.atMove WorkerPhase.finished? (.move (.worker i))).toList ++ finished) := by
  have answer : WorkerPhase.answer? m.now (.calling held reply until_) = some (held, reply) :=
    if_pos due
  rw [atMove_worker here, atMove_worker here, answer]
  refine books.shift here workers (some (held, reply)) none none q.requested ?_ asked ?_ requested
    ?_ ?_
  · rw [items, free.1, free.2]
    simp [WorkerPhase.held, WorkerPhase.called]
  · rw [free.2]
    exact List.Perm.refl _
  · rw [← decided]
    cases h : requestOf (held, reply) <;> simp [h]
  · exact List.Perm.refl _

/-- Every move carries an order from one place to the next, or leaves all where they are. -/
theorem WorkerMove.books (h : WorkerMove m i m') (going : m.control.stop.isStopped = false)
    (books : m.Books sent answers finished) :
    m'.Books sent ((m.atMove WorkerPhase.answer? (.move (.worker i))).toList ++ answers)
      ((m.atMove WorkerPhase.finished? (.move (.worker i))).toList ++ finished) := by
  cases h with
  | rests unanswered unstored same =>
    obtain ⟨answer, done⟩ := nothing_of_rests unanswered unstored
    rw [answer, done, same]
    exact books
  | walks p q here idle next held heard same =>
    subst same
    obtain ⟨called, stored, -, -⟩ := WorkerPhase.nothing_of_isIdle next m.now
    refine books.shift_idle here idle rfl stored ?_ ?_ rfl
    · rw [held, called]
      simp [setWorker]
    · rw [called]
      rfl
  | ends p here idle told same =>
    obtain stopped | ⟨rfl, -, -⟩ := told
    · rw [going] at stopped
      cases stopped
    · rw [same]
      refine Books.hangUp (m := m.setWorker i .ended) ?_
      refine books.shift_idle here rfl rfl rfl ?_ rfl rfl
      simp [setWorker, WorkerPhase.held, WorkerPhase.called]
  | takes o rest here items going same =>
    subst same
    refine books.shift_idle here rfl rfl rfl ?_ rfl rfl
    rw [items]
    simpa [setWorker, WorkerPhase.held, WorkerPhase.called] using
      (List.perm_append_singleton o rest).symm
  | calls o here opened unraised same =>
    subst same
    refine books.shift_idle here rfl rfl rfl ?_ rfl rfl
    simp [setWorker, WorkerPhase.held, WorkerPhase.called]
  | lets held reply until_ outcome here due decided same =>
    have leads : requestOf (held, reply) = none := by simp [requestOf, decided]
    subst same
    exact books.shift_called here due rfl ⟨rfl, rfl⟩ leads rfl rfl rfl
  | defers held reply until_ wait gate here due decided fits same =>
    have leads : requestOf (held, reply) = none := by simp [requestOf, decided]
    subst same
    exact books.shift_called here due rfl ⟨rfl, rfl⟩ leads rfl rfl rfl
  | loses held reply until_ wait here due decided beyond same =>
    have leads : requestOf (held, reply) = none := by simp [requestOf, decided]
    rw [same]
    refine Books.hangUp (m := m.setWorker i .lost) ?_
    exact books.shift_called here due rfl ⟨rfl, rfl⟩ leads rfl rfl rfl
  | requests held reply until_ r here due decided same =>
    have leads : requestOf (held, reply) = some r := by simp [requestOf, decided]
    subst same
    exact books.shift_called here due rfl ⟨rfl, rfl⟩ leads rfl rfl rfl
  | stores r until_ here due same =>
    have done : WorkerPhase.finished? m.now (.storing r until_) = some r := if_pos due
    subst same
    rw [atMove_worker here, atMove_worker here, done]
    refine books.shift here rfl none (some r) none none ?_ rfl ?_ rfl rfl ?_
    · simp [setWorker, WorkerPhase.held, WorkerPhase.called]
    · exact List.Perm.refl _
    · exact List.Perm.refl _

/-- The step lemma of the account. -/
theorem PoolStep.books (h : PoolStep m o m') (going : m.control.stop.isStopped = false)
    (feeding : Feeding [o]) (books : m.Books sent answers finished) :
    m'.Books ((m.sent? o).toList ++ sent) ((m.atMove WorkerPhase.answer? o).toList ++ answers)
      ((m.atMove WorkerPhase.finished? o).toList ++ finished) := by
  cases h with
  | worker i what moved =>
    subst what
    exact moved.books going books
  | elsewhere what same =>
    subst what same
    exact books
  | clock time what now later same =>
    subst same
    obtain rfl | rfl := what
    · exact ⟨books.orders, books.asked, books.requested, books.finished⟩
    · exact ⟨books.orders, books.asked, books.requested, books.finished⟩
  | outside a what stop queue repository signal queued same =>
    obtain ⟨-, receive, drain, -⟩ := feeding a (by simp [what])
    have items := queued.items receive drain
    subst what same
    refine ⟨List.perm_iff_count.2 fun t => ?_, books.asked, books.requested, books.finished⟩
    have before := books.orders.count_eq t
    change List.count t ((m.put? a).toList ++ sent) =
      List.count t (queue.items ++ m.held ++ m.unanswered ++ answers.map Prod.fst)
    rw [items]
    simp only [List.count_append] at before ⊢
    omega

end Step

/-! ### Pools -/

section Course

variable {m : Machine} {os : List Occurrence}

theorem isStopped_course (alone : m.producer = .ended) (going : m.control.stop.isStopped = false)
    (feeding : Feeding os) : (m.course os).control.stop.isStopped = false := by
  rw [stop_course alone fun a ha => (feeding a ha).1]
  exact going

theorem books_course (alone : m.producer = .ended) (going : m.control.stop.isStopped = false)
    (feeding : Feeding os) (opened : m.Books [] [] []) :
    (m.course os).Books (m.sent os) (m.answers os) (m.finished os) := by
  induction os using List.reverseRecOn with
  | nil => exact opened
  | append_singleton os o ih =>
    obtain ⟨before, last⟩ := feeding.of_append
    have books := (poolStep_after (producer_course alone os) o).books
      (isStopped_course alone going before) last (books_bare.2 (ih before))
    rw [course_append_singleton, sent, answers, finished, noted_append_singleton,
      noted_append_singleton, noted_append_singleton]
    exact books_bare.1 books

end Course

/-- Nothing has happened yet in a pool at the start. -/
theorem books_pool (workers capacity : Nat) (source : Source) (repository : Repository) :
    (pool workers capacity { source, repository }).Books [] [] [] := by
  have idle : ∀ {α : Type} (f : WorkerPhase → Option α), f (.atGate none) = none →
      (idleWorkers workers).filterMap f = [] := by
    intro α f free
    rw [idleWorkers, List.filterMap_replicate, free]
  rw [← books_bare, bare_pool]
  constructor
  · dsimp only [held, unanswered]
    rw [idle _ rfl, idle _ rfl]
    rfl
  · dsimp only [unanswered]
    rw [idle _ rfl]
    rfl
  · rfl
  · dsimp only [unfinished]
    rw [idle _ rfl]
    rfl

end Machine

end Loyalty.Pipeline
