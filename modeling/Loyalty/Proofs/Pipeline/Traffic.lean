import Loyalty.Proofs.Pipeline.Account
import Loyalty.Proofs.Pipeline.Step

/-!
# The calls of a pipeline

A task makes its calls one at a time and waits for the answer to each, whatever else comes about:
neither a stop signal nor the end of another task takes an answer away. `Traffic` keeps account of the
calls that were begun: those in flight, those answered, and those that an answer has led to.

An account of the orders themselves, as `Books` is for a pool that goes on, can't be kept here, since
a task that is told to stop drops what it holds.

Main statement: `traffic_course`, for every course of every machine.
-/

namespace Loyalty.Pipeline

/-- The order that the service has been asked about, and the reply that is on its way. -/
def WorkerPhase.awaited : WorkerPhase → Option (Ticket × Reply)
  | .calling held reply _ => some (held, reply)
  | _ => none

/-- The store has been asked for a listing and has not answered. -/
def ProducerPhase.isListing : ProducerPhase → Bool
  | .listing _ _ => true
  | _ => false

def Call.isList : Call → Bool
  | .list _ _ => true
  | _ => false

theorem WorkerPhase.awaited_of_isIdle {p : WorkerPhase} (idle : p.isIdle = true) :
    p.awaited = none := by
  cases p <;> first | rfl | cases idle

namespace Machine

/-! ### What an observer notes -/

/-- The question that worker `i` has begun between two states, with the reply that the service
gives to it. -/
def begun? (i : Nat) (m m' : Machine) : Option (Ticket × Reply) :=
  match m.workers[i]?, m'.workers[i]? with
  | some (.atGate _), some (.calling held reply _) => some (held, reply)
  | _, _ => none

/-- The question that begins with a move. -/
def question? (m : Machine) : Occurrence → Option (Ticket × Reply)
  | .move (.worker i) => begun? i m (m.after (.move (.worker i)))
  | _ => none

/-- The questions to the service, the latest first, each with the reply to it. -/
def questions (m : Machine) (os : List Occurrence) : List (Ticket × Reply) := m.noted question? os

/-- A listing that has come by now is taken up. -/
def returned? (m : Machine) : Occurrence → Option Unit
  | .move .producer =>
    match m.producer with
    | .listing _ until_ => if until_ ≤ m.now then some () else none
    | _ => none
  | _ => none

/-- The listings that the producer has taken up. -/
def returned (m : Machine) (os : List Occurrence) : List Unit := m.noted returned? os

/-- The order that the producer puts on the queue. -/
def pushed? (m : Machine) : Occurrence → Option Ticket
  | .move .producer =>
    match m.producer with
    | .pushing (o :: _) _ =>
      if m.control.stop.isStopped = false ∧ m.queue.read = true ∧ m.queue.hasRoom = true then some o
      else none
    | _ => none
  | _ => none

/-- The orders that the producer has put on the queue, the latest first. -/
def pushed (m : Machine) (os : List Occurrence) : List Ticket := m.noted pushed? os

/-! ### The account -/

/-- The questions in flight, with the replies that are on their way. -/
def awaited (m : Machine) : List (Ticket × Reply) := m.workers.filterMap WorkerPhase.awaited

def listings (m : Machine) : List CallRecord := m.site.log.filter fun c => c.call.isList

/-- The account of a machine on which these questions were begun, these answers have been taken up,
and these requests and so many listings have been answered. -/
structure Traffic (m : Machine) (questions answers : List (Ticket × Reply))
    (finished : List Request) (returned : List Unit) : Prop where
  awaited : questions.Perm (m.awaited ++ answers)
  asked : m.asked = questions.map fun q => q.1.number
  requested : m.requested = answers.filterMap requestOf
  stored : m.requested.Perm (m.unfinished ++ finished)
  listed : m.listings.length = m.producer.isListing.toNat + returned.length

section Step

variable {m m' : Machine} {i : Nat} {o : Occurrence} {questions answers : List (Ticket × Reply)}
  {finished : List Request} {returned : List Unit}

/-- The schedule is no part of the account. -/
theorem traffic_bare : m.bare.Traffic questions answers finished returned ↔
    m.Traffic questions answers finished returned :=
  ⟨fun h => ⟨h.awaited, h.asked, h.requested, h.stored, h.listed⟩,
    fun h => ⟨h.awaited, h.asked, h.requested, h.stored, h.listed⟩⟩

/-- Nor is it whether anybody reads the queue. -/
theorem Traffic.hangUp (traffic : m.Traffic questions answers finished returned) :
    m.hangUp.Traffic questions answers finished returned := by
  unfold Machine.hangUp
  split
  · exact ⟨traffic.awaited, traffic.asked, traffic.requested, traffic.stored, traffic.listed⟩
  · exact traffic

/-- A worker goes on from one phase to the next: what it leaves in flight is found again in the next
phase or in what an observer notes. -/
theorem Traffic.shift (traffic : m.Traffic questions answers finished returned)
    {p q : WorkerPhase} (here : m.workers[i]? = some p) (workers : m'.workers = m.workers.set i q)
    (producer : m'.producer = m.producer) (question answer : Option (Ticket × Reply))
    (done request : Option Request)
    (asking : (question.toList ++ p.awaited.toList).Perm (q.awaited.toList ++ answer.toList))
    (decided : answer.toList.filterMap requestOf = request.toList)
    (requesting : (request.toList ++ p.requested.toList).Perm (q.requested.toList ++ done.toList))
    (asked : m'.asked = (question.toList.map fun q => q.1.number) ++ m.asked)
    (requested : m'.requested = request.toList ++ m.requested)
    (listings : m'.listings = m.listings) :
    m'.Traffic (question.toList ++ questions) (answer.toList ++ answers)
      (done.toList ++ finished) returned := by
  have calling : (m'.awaited ++ p.awaited.toList).Perm (m.awaited ++ q.awaited.toList) := by
    rw [Machine.awaited, workers]
    exact perm_filterMap_set WorkerPhase.awaited here q
  have storing : (m'.unfinished ++ p.requested.toList).Perm
      (m.unfinished ++ q.requested.toList) := by
    rw [unfinished, workers]
    exact perm_filterMap_set WorkerPhase.requested here q
  refine ⟨?_, ?_, ?_, ?_, ?_⟩
  · classical
    refine List.perm_iff_count.2 fun t => ?_
    have before := traffic.awaited.count_eq t
    have calls := calling.count_eq t
    have moved := asking.count_eq t
    simp only [List.count_append] at before calls moved ⊢
    omega
  · rw [asked, traffic.asked, List.map_append]
  · rw [requested, List.filterMap_append, decided, traffic.requested]
  · refine List.perm_iff_count.2 fun r => ?_
    have before := traffic.stored.count_eq r
    have stores := storing.count_eq r
    have moved := requesting.count_eq r
    rw [requested]
    simp only [List.count_append] at before stores moved ⊢
    omega
  · rw [listings, producer]
    exact traffic.listed

/-- A worker that waits for nothing goes on without a call. -/
theorem Traffic.shift_idle (traffic : m.Traffic questions answers finished returned)
    {p q : WorkerPhase} (here : m.workers[i]? = some p) (idle : p.isIdle = true)
    (workers : m'.workers = m.workers.set i q) (producer : m'.producer = m.producer)
    (next : q.awaited = none ∧ q.requested = none) (log : m'.site.log = m.site.log) :
    m'.Traffic questions answers finished returned := by
  obtain ⟨-, stored, -, -⟩ := WorkerPhase.nothing_of_isIdle idle 0
  have asked : m'.asked = m.asked := by rw [Machine.asked, log]; rfl
  have requested : m'.requested = m.requested := by rw [Machine.requested, log]; rfl
  have listings : m'.listings = m.listings := by rw [Machine.listings, log]; rfl
  refine traffic.shift here workers producer none none none none ?_ rfl ?_ asked requested listings
  · rw [WorkerPhase.awaited_of_isIdle idle, next.1]
  · rw [stored, next.2]

/-- A worker takes up the answer of the service, and asks the store for what it leads to. -/
theorem Traffic.shift_called (traffic : m.Traffic questions answers finished returned)
    {held : Ticket} {reply : Reply} {until_ : Nat} {q : WorkerPhase}
    (here : m.workers[i]? = some (.calling held reply until_))
    (workers : m'.workers = m.workers.set i q) (producer : m'.producer = m.producer)
    (free : q.awaited = none) (decided : requestOf (held, reply) = q.requested)
    (asked : m'.asked = m.asked) (requested : m'.requested = q.requested.toList ++ m.requested)
    (listings : m'.listings = m.listings) :
    m'.Traffic questions ((held, reply) :: answers) finished returned := by
  refine traffic.shift here workers producer none (some (held, reply)) none q.requested ?_ ?_ ?_
    asked requested listings
  · rw [free]
    rfl
  · rw [← decided]
    cases h : requestOf (held, reply) <;> simp [h]
  · exact List.Perm.refl _

/-- A worker that stays where it is begins no question. -/
theorem begun?_self (i : Nat) (m : Machine) : begun? i m m = none := by
  unfold begun?
  cases m.workers[i]? with
  | none => rfl
  | some p => cases p <;> rfl

/-- Nor does one that does not wait for an answer afterwards. -/
theorem begun?_eq_none {p q : WorkerPhase} (here : m.workers[i]? = some p)
    (workers : m'.workers = m.workers.set i q) (free : q.awaited = none) :
    begun? i m m' = none := by
  have inside : i < m.workers.length := (List.getElem?_eq_some_iff.1 here).1
  have there : m'.workers[i]? = some q := by rw [workers, List.getElem?_set_self inside]
  rw [begun?, here, there]
  cases p <;> cases q <;> first | rfl | cases free

/-- What an observer notes of a worker that moves. -/
theorem WorkerMove.traffic (h : WorkerMove m i m')
    (traffic : m.Traffic questions answers finished returned) :
    m'.Traffic ((begun? i m m').toList ++ questions)
      ((m.atMove WorkerPhase.answer? (.move (.worker i))).toList ++ answers)
      ((m.atMove WorkerPhase.finished? (.move (.worker i))).toList ++ finished) returned := by
  -- a worker that is idle takes up no answer
  have untaken : ∀ {p : WorkerPhase}, m.workers[i]? = some p → p.isIdle = true →
      m.atMove WorkerPhase.answer? (.move (.worker i)) = none ∧
        m.atMove WorkerPhase.finished? (.move (.worker i)) = none := by
    intro p here idle
    obtain ⟨-, -, answer, done⟩ := WorkerPhase.nothing_of_isIdle idle m.now
    exact ⟨(atMove_worker here).trans answer, (atMove_worker here).trans done⟩
  have due_answer : ∀ {held reply until_}, m.workers[i]? = some (.calling held reply until_) →
      until_ ≤ m.now → m.atMove WorkerPhase.answer? (.move (.worker i)) = some (held, reply) ∧
        m.atMove WorkerPhase.finished? (.move (.worker i)) = none := by
    intro held reply until_ here due
    exact ⟨(atMove_worker here).trans (if_pos due), atMove_worker here⟩
  cases h with
  | rests unanswered unstored same =>
    obtain ⟨answer, done⟩ := nothing_of_rests unanswered unstored
    rw [same, begun?_self, answer, done]
    exact traffic
  | walks p q here idle next held heard same =>
    subst same
    obtain ⟨answer, done⟩ := untaken here idle
    have free := WorkerPhase.awaited_of_isIdle next
    obtain ⟨-, stored, -, -⟩ := WorkerPhase.nothing_of_isIdle next m.now
    rw [begun?_eq_none here rfl free, answer, done]
    exact traffic.shift_idle here idle rfl rfl ⟨free, stored⟩ rfl
  | ends p here idle told same =>
    obtain ⟨answer, done⟩ := untaken here idle
    have workers : m'.workers = m.workers.set i .ended := by
      rw [same, hangUp_workers]
      rfl
    rw [begun?_eq_none here workers rfl, answer, done, same]
    refine Traffic.hangUp (m := m.setWorker i .ended) ?_
    exact traffic.shift_idle here idle rfl rfl ⟨rfl, rfl⟩ rfl
  | takes o rest here items going same =>
    subst same
    obtain ⟨answer, done⟩ := untaken here rfl
    rw [begun?_eq_none here rfl rfl, answer, done]
    exact traffic.shift_idle here rfl rfl rfl ⟨rfl, rfl⟩ rfl
  | calls o here opened unraised same =>
    obtain ⟨answer, done⟩ := untaken here rfl
    have inside : i < m.workers.length := (List.getElem?_eq_some_iff.1 here).1
    have workers : m'.workers = m.workers.set i (.calling o (m.site.ask m.now o.number).1
        (m.now + (m.site.ask m.now o.number).1.delay)) := by
      rw [same]
      rfl
    have asked : m'.asked = o.number :: m.asked := by
      rw [same]
      rfl
    have question : begun? i m m' = some (o, (m.site.ask m.now o.number).1) := by
      rw [begun?, here, workers, List.getElem?_set_self inside]
    rw [question, answer, done]
    refine traffic.shift here workers (by rw [same]; rfl)
      (some (o, (m.site.ask m.now o.number).1)) none none none ?_ rfl ?_ asked
      (by rw [same]; rfl) (by rw [same]; rfl)
    · exact List.Perm.refl _
    · exact List.Perm.refl _
  | lets held reply until_ outcome here due decided same =>
    have leads : requestOf (held, reply) = none := by simp [requestOf, decided]
    obtain ⟨answer, done⟩ := due_answer here due
    subst same
    rw [begun?_eq_none here rfl rfl, answer, done]
    exact traffic.shift_called here rfl rfl rfl leads rfl rfl rfl
  | defers held reply until_ wait gate here due decided fits same =>
    have leads : requestOf (held, reply) = none := by simp [requestOf, decided]
    obtain ⟨answer, done⟩ := due_answer here due
    subst same
    rw [begun?_eq_none here rfl rfl, answer, done]
    exact traffic.shift_called here rfl rfl rfl leads rfl rfl rfl
  | loses held reply until_ wait here due decided beyond same =>
    have leads : requestOf (held, reply) = none := by simp [requestOf, decided]
    obtain ⟨answer, done⟩ := due_answer here due
    have workers : m'.workers = m.workers.set i .lost := by
      rw [same, hangUp_workers]
      rfl
    rw [begun?_eq_none here workers rfl, answer, done, same]
    refine Traffic.hangUp (m := m.setWorker i .lost) ?_
    exact traffic.shift_called here rfl rfl rfl leads rfl rfl rfl
  | requests held reply until_ r here due decided same =>
    have leads : requestOf (held, reply) = some r := by simp [requestOf, decided]
    obtain ⟨answer, done⟩ := due_answer here due
    subst same
    rw [begun?_eq_none here rfl rfl, answer, done]
    exact traffic.shift_called here rfl rfl rfl leads rfl rfl rfl
  | stores r until_ here due same =>
    have workers : m'.workers = m.workers.set i (.atGate none) := by
      rw [same]
      rfl
    have done : m.atMove WorkerPhase.finished? (.move (.worker i)) = some r :=
      (atMove_worker here).trans (if_pos due)
    rw [begun?_eq_none here workers rfl, atMove_worker here, done]
    refine traffic.shift here workers (by rw [same]; rfl) none none (some r) none ?_ rfl ?_
      (by rw [same]; rfl) (by rw [same]; rfl) (by rw [same]; rfl)
    · exact List.Perm.refl _
    · exact List.Perm.refl _

/-- A producer that waits for no listing takes none up. -/
theorem returned?_eq_none (idle : m.producer.isListing = false) :
    m.returned? (.move .producer) = none := by
  unfold returned?
  cases here : m.producer with
  | listing next until_ => rw [here] at idle; cases idle
  | _ => rfl

/-- What an observer notes of the producer when it moves. -/
theorem ProducerMove.traffic (h : ProducerMove m m')
    (traffic : m.Traffic questions answers finished returned) :
    m'.Traffic questions answers finished
      ((m.returned? (.move .producer)).toList ++ returned) := by
  -- no call of the producer is one of a worker
  have workers : m'.workers = m.workers := by cases h <;> subst m' <;> rfl
  have asked : m'.asked = m.asked := by cases h <;> subst m' <;> rfl
  have requested : m'.requested = m.requested := by cases h <;> subst m' <;> rfl
  have before := traffic.listed
  -- most moves have to do with no listing
  have quiet : m'.listings = m.listings → m.producer.isListing = false →
      m'.producer.isListing = false → m'.listings.length = m'.producer.isListing.toNat +
        ((m.returned? (.move .producer)).toList ++ returned).length := by
    intro same idle idle'
    rw [idle] at before
    rw [returned?_eq_none idle, same, idle']
    exact before
  have taken : ∀ next until_, m.producer = .listing next until_ → until_ ≤ m.now →
      m'.listings = m.listings → m'.producer.isListing = false →
      m'.listings.length = m'.producer.isListing.toNat +
        ((m.returned? (.move .producer)).toList ++ returned).length := by
    intro next until_ here due same idle'
    have one : m.returned? (.move .producer) = some () := by
      rw [returned?, here]
      exact if_pos due
    rw [here] at before
    rw [one, same, idle', before]
    show 1 + returned.length = 0 + (returned.length + 1)
    omega
  have listed : m'.listings.length = m'.producer.isListing.toNat +
      ((m.returned? (.move .producer)).toList ++ returned).length := by
    cases h with
    | rests unlisted blocked same =>
      have untaken : m.returned? (.move .producer) = none := by
        unfold returned?
        cases here : m.producer with
        | listing next until_ => exact if_neg (Nat.not_le.2 (unlisted next until_ here))
        | _ => rfl
      rw [untaken, same]
      exact before
    | starts here interval same =>
      exact quiet (by rw [same]; rfl) (by rw [here]; rfl) (by rw [same]; rfl)
    | ends p done told same =>
      have idle : m.producer.isListing = false := by
        rcases told with ⟨here, -⟩ | ⟨-, ⟨scheduled, here⟩ | ⟨o, batch, next, here⟩⟩
        · rw [here]; rfl
        · rw [here]; rfl
        · rw [here]; rfl
      have idle' : p.isListing = false := by cases p <;> first | rfl | cases done
      exact quiet (by rw [same]; rfl) idle (by rw [same]; exact idle')
    | asks scheduled here due going same =>
      have idle : m.producer.isListing = false := by rw [here]; rfl
      rw [returned?_eq_none idle, same]
      rw [idle] at before
      show m.listings.length + 1 = 1 + returned.length
      rw [before]
      show 0 + returned.length + 1 = 1 + returned.length
      omega
    | misses next until_ cause here due listed same =>
      exact taken next until_ here due (by rw [same]; rfl) (by rw [same]; rfl)
    | lists next until_ batch here due listed same =>
      exact taken next until_ here due (by rw [same]; rfl) (by rw [same]; rfl)
    | pushes o batch next here going read room same =>
      exact quiet (by rw [same]; rfl) (by rw [here]; rfl) (by rw [same]; rfl)
    | finishes next here same =>
      exact quiet (by rw [same]; rfl) (by rw [here]; rfl) (by rw [same]; rfl)
  refine ⟨?_, ?_, ?_, ?_, listed⟩
  · rw [Machine.awaited, workers]
    exact traffic.awaited
  · rw [asked]
    exact traffic.asked
  · rw [requested]
    exact traffic.requested
  · rw [requested, unfinished, workers]
    exact traffic.stored

/-- The step lemma of the account. -/
theorem Traffic.after (traffic : m.Traffic questions answers finished returned)
    (o : Occurrence) :
    (m.after o).Traffic ((m.question? o).toList ++ questions)
      ((m.atMove WorkerPhase.answer? o).toList ++ answers)
      ((m.atMove WorkerPhase.finished? o).toList ++ finished)
      ((m.returned? o).toList ++ returned) := by
  have before := traffic_bare.2 traffic
  rw [← traffic_bare]
  have step := step_after m o
  generalize reached : m.after o = x at step
  cases step with
  | worker i what moved =>
    have noted := moved.traffic before
    subst what reached
    exact noted
  | producer what moved =>
    have noted := moved.traffic before
    subst what
    exact noted
  | clock time what now later same =>
    rw [same]
    obtain rfl | rfl := what
    · exact ⟨before.awaited, before.asked, before.requested, before.stored, before.listed⟩
    · exact ⟨before.awaited, before.asked, before.requested, before.stored, before.listed⟩
  | outside a what queue same =>
    rw [same]
    subst what
    exact ⟨before.awaited, before.asked, before.requested, before.stored, before.listed⟩

end Step

/-! ### Courses -/

/-- The account of a machine after a course. -/
theorem traffic_course {m : Machine} (quiet : m.Traffic [] [] [] []) (os : List Occurrence) :
    (m.course os).Traffic (m.questions os) (m.answers os) (m.finished os) (m.returned os) := by
  induction os using List.reverseRecOn with
  | nil => exact quiet
  | append_singleton os o ih =>
    rw [course_append_singleton, questions, answers, finished, returned, noted_append_singleton,
      noted_append_singleton, noted_append_singleton, noted_append_singleton]
    exact ih.after o

/-- Nothing has been called yet in a pipeline at the start. -/
theorem traffic_pipeline (polling : Polling) (workers : Nat) (source : Source)
    (repository : Repository) :
    (pipeline polling workers { source, repository }).Traffic [] [] [] [] := by
  have idle : ∀ {α : Type} (f : WorkerPhase → Option α), f (.atGate none) = none →
      (idleWorkers workers).filterMap f = [] := by
    intro α f free
    rw [idleWorkers, List.filterMap_replicate, free]
  refine ⟨?_, rfl, rfl, ?_, rfl⟩
  · show List.Perm [] ((idleWorkers workers).filterMap WorkerPhase.awaited ++ [])
    rw [idle _ rfl]
    exact List.Perm.refl _
  · show List.Perm [] ((idleWorkers workers).filterMap WorkerPhase.requested ++ [])
    rw [idle _ rfl]
    exact List.Perm.refl _

end Machine

end Loyalty.Pipeline
