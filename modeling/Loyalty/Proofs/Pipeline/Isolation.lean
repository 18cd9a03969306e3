import Loyalty.Proofs.Pipeline.Backoff

/-!
# What stops a worker

Nothing that befalls a single order is meant to stop a worker, and almost nothing does: whatever
the service answers and the store does, the work on the order comes to an outcome. The exception is
a rate limit whose end lies beyond the horizon. The worker that is told of it is lost, and the gate
stays as it was.

Main statement: `stops_iff`, for every pool that is neither told to stop nor cut off from its
queue. `pool_may_die` is a pool that such an answer leaves without workers.
-/

namespace Loyalty.Pipeline

/-- The shutdown switch is left alone, and the queue is not closed. -/
def Undisturbed (os : List Occurrence) : Prop :=
  ∀ a, Occurrence.act a ∈ os → a ≠ .shutdown ∧ a ≠ .dropSwitch ∧ a ≠ .closeFeed

namespace Machine

def hasStopped (m : Machine) (i : Nat) : Bool := m.workers[i]?.any WorkerPhase.isOver

/-! ### One step -/

section Step

variable {m m' : Machine} {i : Nat} {o : Occurrence}

theorem hasStopped_of_set {p q : WorkerPhase} (here : m.workers[i]? = some p)
    (workers : m'.workers = m.workers.set i q) (j : Nat) :
    m'.hasStopped j = if j = i then q.isOver else m.hasStopped j := by
  have inside : i < m.workers.length := (List.getElem?_eq_some_iff.1 here).1
  unfold hasStopped
  rw [workers, List.getElem?_set]
  by_cases own : i = j
  · subst own
    simp [inside]
  · rw [if_neg own, if_neg (Ne.symm own)]

theorem WorkerMove.signals (h : WorkerMove m i m') :
    m'.control.stop = m.control.stop ∧ m'.queue.fed = m.queue.fed := by
  cases h <;> subst m' <;> simp [setWorker]

/-- In a pool that goes on, the worker that moves was not over, and is now if the move has brought
it a rate limit beyond the horizon. -/
theorem WorkerMove.next (h : WorkerMove m i m') (going : m.control.stop.isStopped = false)
    (fed : m.queue.fed = true) :
    (m.limit? (.move (.worker i)) = none ∧ m'.workers = m.workers) ∨
      ∃ p q, m.workers[i]? = some p ∧ p.isOver = false ∧ m'.workers = m.workers.set i q ∧
        (q.isOver = true ↔
          ∃ l, m.limit? (.move (.worker i)) = some l ∧ horizon ≤ l.time + l.wait) := by
  cases told : m.limit? (.move (.worker i)) with
  | some l =>
    obtain ⟨held, reply, until_, here, -⟩ := limit?_eq_some_iff.1 told
    obtain ⟨short, same⟩ | ⟨long, same⟩ := h.of_limit told
    · refine .inr ⟨_, .atGate none, here, rfl, by rw [same]; rfl, iff_of_false nofun ?_⟩
      intro ⟨l', same', long⟩
      cases same'
      exact absurd short (Nat.not_lt.2 long)
    · refine .inr ⟨_, .lost, here, rfl, ?_, iff_of_true rfl ⟨l, rfl, long⟩⟩
      rw [same, hangUp_workers]
      rfl
  | none =>
    obtain ⟨-, same | ⟨p, q, here, awake, workers, ends⟩⟩ := h.of_no_limit told
    · exact .inl ⟨rfl, same⟩
    · refine .inr ⟨p, q, here, awake, workers, iff_of_false (fun done => ?_) nofun⟩
      obtain stopped | unfed := ends done
      · rw [going] at stopped
        cases stopped
      · rw [fed] at unfed
        cases unfed

/-- In a pool that goes on, a worker stops by a rate limit beyond the horizon alone. -/
theorem WorkerMove.hasStopped_iff (h : WorkerMove m i m')
    (going : m.control.stop.isStopped = false) (fed : m.queue.fed = true) (j : Nat) :
    m'.hasStopped j = true ↔
      (∃ l, m.limit? (.move (.worker i)) = some l ∧ l.worker = j ∧ horizon ≤ l.time + l.wait) ∨
        m.hasStopped j = true := by
  have own : ∀ l, m.limit? (.move (.worker i)) = some l → l.worker = i := by
    intro l told
    obtain ⟨_, _, _, -, -, -, own, -⟩ := limit?_eq_some_iff.1 told
    exact own
  obtain ⟨untold, same⟩ | ⟨p, q, here, awake, workers, stops⟩ := h.next going fed
  · rw [untold, hasStopped, hasStopped, same]
    simp
  · rw [hasStopped_of_set here workers]
    by_cases mine : j = i
    · have before : m.hasStopped j = false := by
        rw [hasStopped, mine, here]
        exact awake
      rw [if_pos mine, stops, before]
      constructor
      · intro ⟨l, told, long⟩
        exact .inl ⟨l, told, (own l told).trans mine.symm, long⟩
      · intro stopped
        obtain ⟨l, told, -, long⟩ | already := stopped
        · exact ⟨l, told, long⟩
        · cases already
    · rw [if_neg mine]
      constructor
      · exact .inr
      · intro stopped
        obtain ⟨l, told, other, -⟩ | already := stopped
        · exact absurd (other.symm.trans (own l told)) mine
        · exact already

/-- What comes from outside leaves the stop signal alone, unless it is about it. -/
theorem PoolStep.stop (h : PoolStep m o m')
    (kept : ∀ a, o = .act a → a ≠ .shutdown ∧ a ≠ .dropSwitch) :
    m'.control.stop = m.control.stop := by
  cases h with
  | worker i what moved => exact moved.signals.1
  | elsewhere what same => rw [same]
  | clock time what now later same => rw [same]
  | outside a what stop queue repository signal queued same =>
    obtain ⟨shutdown, drop⟩ := kept a what
    rw [same]
    exact signal shutdown drop

/-- And it leaves the feed alone, unless it closes it. -/
theorem PoolStep.fed (h : PoolStep m o m') (kept : ∀ a, o = .act a → a ≠ .closeFeed) :
    m'.queue.fed = m.queue.fed := by
  cases h with
  | worker i what moved => exact moved.signals.2
  | elsewhere what same => rw [same]
  | clock time what now later same => rw [same]
  | outside a what stop queue repository signal queued same =>
    rw [same]
    exact queued.fed (kept a what)

theorem PoolStep.hasStopped_iff (h : PoolStep m o m') (going : m.control.stop.isStopped = false)
    (fed : m.queue.fed = true) (j : Nat) :
    m'.hasStopped j = true ↔
      (∃ l, m.limit? o = some l ∧ l.worker = j ∧ horizon ≤ l.time + l.wait) ∨
        m.hasStopped j = true := by
  have untold : m.limit? o = none → m'.workers = m.workers → (m'.hasStopped j = true ↔
      (∃ l, m.limit? o = some l ∧ l.worker = j ∧ horizon ≤ l.time + l.wait) ∨
        m.hasStopped j = true) := by
    intro none_told same
    rw [none_told, hasStopped, hasStopped, same]
    simp
  cases h with
  | worker i what moved =>
    subst what
    exact moved.hasStopped_iff going fed j
  | elsewhere what same => exact untold (by rw [what]; rfl) (by rw [same])
  | clock time what now later same =>
    refine untold ?_ (by rw [same])
    obtain rfl | rfl := what
    · rfl
    · rfl
  | outside a what stop queue repository signal queued same =>
    exact untold (by rw [what]; rfl) (by rw [same])

end Step

/-! ### Pools -/

theorem stop_course {m : Machine} (alone : m.producer = .ended) {os : List Occurrence}
    (kept : ∀ a, Occurrence.act a ∈ os → a ≠ .shutdown ∧ a ≠ .dropSwitch) :
    (m.course os).control.stop = m.control.stop := by
  refine keeps_course (fun x => x.control.stop) alone fun x hx o ho => ?_
  have step := poolStep_after hx o
  exact step.stop fun a what => kept a (what ▸ ho)

theorem fed_course {m : Machine} (alone : m.producer = .ended) {os : List Occurrence}
    (kept : ∀ a, Occurrence.act a ∈ os → a ≠ .closeFeed) :
    (m.course os).queue.fed = m.queue.fed := by
  refine keeps_course (fun x => x.queue.fed) alone fun x hx o ho => ?_
  have step := poolStep_after hx o
  exact step.fed fun a what => kept a (what ▸ ho)

theorem hasStopped_course {m : Machine} (alone : m.producer = .ended)
    (going : m.control.stop.isStopped = false) (fed : m.queue.fed = true)
    (awake : ∀ i, m.hasStopped i = false) {os : List Occurrence} (undisturbed : Undisturbed os)
    (i : Nat) :
    (m.course os).hasStopped i = true ↔
      ∃ l ∈ m.limits os, l.worker = i ∧ horizon ≤ l.time + l.wait := by
  induction os using List.reverseRecOn with
  | nil => simp [course, limits, awake]
  | append_singleton os o ih =>
    have before : Undisturbed os := fun a ha => undisturbed a (List.mem_append_left _ ha)
    have stop := stop_course alone fun a ha => ⟨(before a ha).1, (before a ha).2.1⟩
    have fed' := fed_course alone fun a ha => (before a ha).2.2
    rw [← stop] at going
    rw [← fed'] at fed
    have step := (poolStep_after (producer_course alone os) o).hasStopped_iff going fed i
    have rest := ih before
    rw [course_append_singleton, limits_append_singleton]
    refine step.trans ?_
    simp only [List.mem_append, Option.mem_toList, or_and_right, exists_or]
    exact or_congr Iff.rfl rest

/-- The work on an order comes to an outcome unless the service asks for a wait whose end lies
beyond the horizon. -/
theorem process_outcome_eq_none_iff (s : Site) (gate : Gate) (now : Nat) (held : Ticket) :
    (s.process gate now held).outcome = none ↔
      ∃ wait, (s.source.next held.number).answer = .error (.retryAfter wait) ∧
        horizon ≤ now + (s.source.next held.number).delay + wait := by
  have told : ∀ {f}, followUp held (s.source.next held.number).answer = f → (∀ wait, f ≠ .defer wait) →
      ¬ ∃ wait, (s.source.next held.number).answer = .error (.retryAfter wait) ∧
        horizon ≤ now + (s.source.next held.number).delay + wait := by
    intro f decided other h
    obtain ⟨wait, answer, -⟩ := h
    exact other wait (decided.symm.trans (followUp_eq_defer_iff.2 answer))
  unfold Site.process Site.ask
  dsimp only
  split
  next outcome decided => exact iff_of_false nofun (told decided nofun)
  next wait decided =>
    have answer := followUp_eq_defer_iff.1 decided
    unfold Gate.defer
    by_cases short : now + (s.source.next held.number).delay + wait < horizon
    · rw [if_pos short]
      refine iff_of_false nofun ?_
      intro h
      obtain ⟨wait', answer', long⟩ := h
      cases answer.symm.trans answer'
      exact absurd short (Nat.not_lt.2 long)
    · rw [if_neg short]
      exact iff_of_true rfl ⟨wait, answer, Nat.le_of_not_lt short⟩
  next r decided => exact iff_of_false nofun (told decided nofun)

theorem workers_pool (workers capacity : Nat) (site : Site) :
    (pool workers capacity site).workers = idleWorkers workers :=
  congrArg (fun m => m.workers) (bare_pool workers capacity site)

theorem hasStopped_pool (workers capacity : Nat) (site : Site) (i : Nat) :
    (pool workers capacity site).hasStopped i = false := by
  rw [hasStopped, workers_pool, idleWorkers, List.getElem?_replicate]
  split <;> rfl

theorem signals_pool (workers capacity : Nat) (site : Site) :
    (pool workers capacity site).control.stop.isStopped = false ∧
      (pool workers capacity site).queue.fed = true :=
  ⟨congrArg (fun m => m.control.stop.isStopped) (bare_pool workers capacity site),
    congrArg (fun m => m.queue.fed) (bare_pool workers capacity site)⟩

/-- **What stops a worker.** In a pool that is neither told to stop nor cut off from its queue, a
worker stops just when a rate limit has arrived at it whose end lies beyond the horizon; and that
is the one answer of the service on which the work on an order comes to no outcome. -/
theorem stops_iff (workers capacity : Nat) (site : Site) (os : List Occurrence)
    (undisturbed : Undisturbed os) :
    (∀ i, ((pool workers capacity site).course os).hasStopped i = true ↔
      ∃ l ∈ (pool workers capacity site).limits os, l.worker = i ∧ horizon ≤ l.time + l.wait) ∧
    ∀ (s : Site) (gate : Gate) (now : Nat) (held : Ticket),
      (s.process gate now held).outcome = none ↔
        ∃ wait, (s.source.next held.number).answer = .error (.retryAfter wait) ∧
          horizon ≤ now + (s.source.next held.number).delay + wait := by
  obtain ⟨going, fed⟩ := signals_pool workers capacity site
  refine ⟨fun i => ?_, process_outcome_eq_none_iff⟩
  exact hasStopped_course (producer_pool workers capacity site) going fed
    (hasStopped_pool workers capacity site) undisturbed i

/-- A service that asks for the longest wait that a header can name, in milliseconds. -/
def endlessSite : Site :=
  { source := ⟨[("1", [⟨.error (.retryAfter (Text.max64 * 1000)), 0⟩])]⟩ }

/-- One order is sent, taken, asked about and answered. -/
def oneOrder : List Occurrence :=
  [.move (.worker 0), .move (.worker 0), .act (.send ⟨"1", .new⟩), .move (.worker 0),
    .move (.worker 0), .move (.worker 0)]

theorem undisturbed_oneOrder : Undisturbed oneOrder := by
  intro a sent
  obtain rfl : a = .send ⟨"1", .new⟩ := by simpa [oneOrder] using sent
  exact ⟨nofun, nofun, nofun⟩

theorem stops_iff_oneOrder :
    Undisturbed oneOrder ∧ ((pool 2 2 busySite).course oneOrder).hasStopped 0 = false ∧
      (pool 2 2 busySite).limits oneOrder = [⟨0, 0, 5⟩] := by
  have limits : (pool 2 2 busySite).limits oneOrder = [⟨0, 0, 5⟩] := by decide +kernel
  refine ⟨undisturbed_oneOrder, ?_, limits⟩
  refine eq_false_of_ne_true fun stopped => ?_
  obtain ⟨l, told, -, long⟩ :=
    ((stops_iff 2 2 busySite oneOrder undisturbed_oneOrder).1 0).1 stopped
  rw [limits] at told
  obtain rfl := List.mem_singleton.1 told
  exact absurd long (by decide)

/-- One answer of the service leaves this pool without a worker. -/
theorem pool_may_die :
    Undisturbed oneOrder ∧ ((pool 1 1 endlessSite).course oneOrder).hasStopped 0 = true ∧
      (endlessSite.process {} 0 ⟨"1", .new⟩).outcome = none := by
  refine ⟨undisturbed_oneOrder, ?_, ?_⟩
  · decide +kernel
  · decide +kernel

end Machine

end Loyalty.Pipeline
