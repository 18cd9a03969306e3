import Loyalty.Proofs.Pipeline.Step

/-!
# Backing off

A worker that is told to wait sets the gate for the whole pool. `Machine.limits` collects what the
workers of a course were told, the latest first, each with the time at which it arrived. As long as
the time does not lie beyond the horizon the gate holds the latest of them, whoever moved in
between, and a worker looks at the gate in the very move in which it asks.

Main statement: `asks_after_limit`, for every pool and every course.
-/

namespace Loyalty.Pipeline

/-- What the service has told a worker: to wait so long from this time on. -/
structure Limit where
  worker : Nat
  time : Nat
  wait : Nat
  deriving DecidableEq, Repr

namespace Machine

/-- The rate limit that arrives at a worker with its move. -/
def limit? (m : Machine) : Occurrence → Option Limit
  | .move (.worker i) =>
    match m.workers[i]? with
    | some (.calling _ ⟨.error (.retryAfter wait), _⟩ until_) =>
      if until_ ≤ m.now then some ⟨i, m.now, wait⟩ else none
    | _ => none
  | _ => none

def limits (m : Machine) : List Occurrence → List Limit
  | [] => []
  | o :: os => limits (m.after o) os ++ (m.limit? o).toList

theorem limits_eq_noted (m : Machine) (os : List Occurrence) : m.limits os = noted limit? m os := by
  induction os generalizing m with
  | nil => rfl
  | cons o os ih => rw [limits, noted, ih]

theorem limits_append_singleton (m : Machine) (os : List Occurrence) (o : Occurrence) :
    m.limits (os ++ [o]) = ((m.course os).limit? o).toList ++ m.limits os := by
  rw [limits_eq_noted, limits_eq_noted, noted_append_singleton]

/-! ### One step -/

theorem followUp_eq_defer_iff {held : Ticket} {answer : Except AccrualError OrderAccrual}
    {wait : Nat} : followUp held answer = .defer wait ↔ answer = .error (.retryAfter wait) := by
  unfold followUp
  constructor
  · intro decided
    split at decided
    next => cases decided
    next => cases decided; rfl
    next => cases decided
    next =>
      split at decided
      · cases decided
      · split at decided
        · cases decided
        · cases decided
        · split at decided <;> cases decided
        · split at decided <;> cases decided
  · intro answered
    rw [answered]

theorem limit?_eq_some_iff {m : Machine} {i : Nat} {l : Limit} :
    m.limit? (.move (.worker i)) = some l ↔
      ∃ held reply until_, m.workers[i]? = some (.calling held reply until_) ∧ until_ ≤ m.now ∧
        followUp held reply.answer = .defer l.wait ∧ l.worker = i ∧ l.time = m.now := by
  simp only [followUp_eq_defer_iff, limit?]
  constructor
  · intro told
    split at told
    next held wait delay until_ here =>
      split at told
      next due =>
        cases told
        exact ⟨held, _, until_, here, due, rfl, rfl, rfl⟩
      next => cases told
    next => cases told
  · intro found
    obtain ⟨held, ⟨answer, delay⟩, until_, here, due, rfl, rfl, arrived⟩ := found
    rw [here]
    show (if until_ ≤ m.now then some ⟨l.worker, m.now, l.wait⟩ else none) = some l
    rw [if_pos due, ← arrived]

section Step

variable {m m' : Machine} {i : Nat} {o : Occurrence}

theorem WorkerMove.producer (h : WorkerMove m i m') : m'.producer = m.producer := by
  cases h <;> subst m' <;> simp [setWorker]

theorem WorkerMove.polling (h : WorkerMove m i m') : m'.polling = m.polling := by
  cases h <;> subst m' <;> simp [setWorker]

/-- A rate limit sets the gate to its end, or is too long and stops the worker. -/
theorem WorkerMove.of_limit (h : WorkerMove m i m') {l : Limit}
    (told : m.limit? (.move (.worker i)) = some l) :
    (l.time + l.wait < horizon ∧ m' = { m with
        control := { m.control with gate := ⟨some (l.time + l.wait)⟩ } }.setWorker i
          (.atGate none)) ∨
      (horizon ≤ l.time + l.wait ∧ m' = (m.setWorker i .lost).hangUp) := by
  obtain ⟨held, reply, until_, here, due, decided, -, arrived⟩ := limit?_eq_some_iff.1 told
  rw [arrived]
  cases h with
  | defers held' reply' until' wait' gate' here' due' decided' fits same =>
    cases here.symm.trans here'
    cases decided.symm.trans decided'
    unfold Gate.defer at fits
    split at fits
    next short => cases fits; exact .inl ⟨short, same⟩
    next => cases fits
  | loses held' reply' until' wait' here' due' decided' beyond same =>
    cases here.symm.trans here'
    cases decided.symm.trans decided'
    unfold Gate.defer at beyond
    split at beyond
    next => cases beyond
    next long => exact .inr ⟨Nat.le_of_not_lt long, same⟩
  | rests unanswered => exact absurd due (Nat.not_le.2 (unanswered _ _ _ here))
  | walks p q here' idle => cases here.symm.trans here'; cases idle
  | ends p here' idle => cases here.symm.trans here'; cases idle
  | takes o rest here' => cases here.symm.trans here'
  | calls o here' => cases here.symm.trans here'
  | lets held' reply' until' outcome here' due' decided' =>
    cases here.symm.trans here'
    cases decided.symm.trans decided'
  | requests held' reply' until' r here' due' decided' =>
    cases here.symm.trans here'
    cases decided.symm.trans decided'
  | stores r until' here' => cases here.symm.trans here'

/-- Without a rate limit the gate stays as it is, and a worker stops only when it is told to, or
when nothing is left for it to do. -/
theorem WorkerMove.of_no_limit (h : WorkerMove m i m')
    (untold : m.limit? (.move (.worker i)) = none) :
    m'.control = m.control ∧
      (m'.workers = m.workers ∨ ∃ p q, m.workers[i]? = some p ∧ p.isOver = false ∧
        m'.workers = m.workers.set i q ∧
        (q.isOver = true → m.control.stop.isStopped = true ∨ m.queue.fed = false)) := by
  have told : ∀ held reply until_ wait, m.workers[i]? = some (.calling held reply until_) →
      until_ ≤ m.now → followUp held reply.answer ≠ .defer wait := by
    intro held reply until_ wait here due decided
    have limit : m.limit? (.move (.worker i)) = some ⟨i, m.now, wait⟩ :=
      limit?_eq_some_iff.2 ⟨held, reply, until_, here, due, decided, rfl, rfl⟩
    rw [untold] at limit
    cases limit
  cases h with
  | defers held reply until_ wait gate here due decided =>
    exact absurd decided (told held reply until_ wait here due)
  | loses held reply until_ wait here due decided =>
    exact absurd decided (told held reply until_ wait here due)
  | rests unanswered unstored same => rw [same]; exact ⟨rfl, .inl rfl⟩
  | walks p q here idle next held heard same =>
    rw [same]
    refine ⟨rfl, .inr ⟨p, q, here, WorkerPhase.isOver_of_isIdle idle, rfl, fun done => ?_⟩⟩
    rw [WorkerPhase.isOver_of_isIdle next] at done
    cases done
  | ends p here idle told same =>
    rw [same, hangUp_control, hangUp_workers]
    exact ⟨rfl, .inr ⟨p, .ended, here, WorkerPhase.isOver_of_isIdle idle, rfl,
      fun _ => told.imp_right fun h => h.2.2⟩⟩
  | takes o rest here items going same =>
    rw [same]
    exact ⟨rfl, .inr ⟨_, .atGate (some o), here, rfl, rfl, nofun⟩⟩
  | calls o here opened unraised same =>
    rw [same]
    exact ⟨rfl, .inr ⟨_, _, here, rfl, rfl, nofun⟩⟩
  | lets held reply until_ outcome here due decided same =>
    rw [same]
    exact ⟨rfl, .inr ⟨_, .atGate none, here, rfl, rfl, nofun⟩⟩
  | requests held reply until_ r here due decided same =>
    rw [same]
    exact ⟨rfl, .inr ⟨_, _, here, rfl, rfl, nofun⟩⟩
  | stores r until_ here due same =>
    rw [same]
    exact ⟨rfl, .inr ⟨_, .atGate none, here, rfl, rfl, nofun⟩⟩

/-- The calls of the workers come one at a time, and a question to the service only from a
worker that finds the gate open. -/
theorem WorkerMove.log (h : WorkerMove m i m') :
    m'.site.log = m.site.log ∨
      (∃ call, m'.site.log = ⟨m.now, call⟩ :: m.site.log ∧
        ∀ number, call = .accrual number → m.control.gate.deadline? m.now = none) := by
  cases h with
  | calls o here opened unraised same =>
    exact .inr ⟨.accrual o.number, by rw [same]; rfl, fun _ _ => opened⟩
  | requests held reply until_ r here due decided same =>
    exact .inr ⟨.store r, by rw [same]; rfl, fun _ other => nomatch other⟩
  | stores r until_ here due same => exact .inl (by rw [same]; rfl)
  | _ => exact .inl (by subst m'; simp [setWorker])

theorem PoolStep.producer (h : PoolStep m o m') : m'.producer = m.producer := by
  cases h with
  | worker i what moved => exact moved.producer
  | _ => subst m'; rfl

end Step

/-! ### Pools -/

theorem producer_course {m : Machine} (alone : m.producer = .ended) (os : List Occurrence) :
    (m.course os).producer = .ended := by
  induction os using List.reverseRecOn with
  | nil => exact alone
  | append_singleton os o ih =>
    rw [course_append_singleton]
    exact (poolStep_after ih o).producer.trans ih

/-- What no occurrence of a course changes is at its end what it was at the start. -/
theorem keeps_course {α : Type} (f : Machine → α) {m : Machine} (alone : m.producer = .ended)
    {os : List Occurrence}
    (keeps : ∀ x : Machine, x.producer = .ended → ∀ o ∈ os, f (x.after o) = f x) :
    f (m.course os) = f m := by
  induction os using List.reverseRecOn with
  | nil => rfl
  | append_singleton os o ih =>
    have last := keeps (m.course os) (producer_course alone os) o (by simp)
    rw [course_append_singleton, last]
    exact ih fun x hx o' ho' => keeps x hx o' (List.mem_append_left _ ho')

/-- The gate holds the end of the latest rate limit. -/
theorem opensAt_course {m : Machine} (alone : m.producer = .ended) {os : List Occurrence}
    {l : Limit} {earlier : List Limit} (latest : m.limits os = l :: earlier)
    (fits : l.time + l.wait < horizon) :
    (m.course os).control.gate.opensAt = some (l.time + l.wait) := by
  induction os using List.reverseRecOn with
  | nil => cases latest
  | append_singleton os o ih =>
    rw [limits_append_singleton] at latest
    rw [course_append_singleton]
    cases told : (m.course os).limit? o with
    | some new =>
      rw [told] at latest
      obtain rfl : new = l := (List.cons.inj latest).1
      cases poolStep_after (producer_course alone os) o with
      | worker i what moved =>
        subst what
        obtain ⟨-, same⟩ | ⟨long, -⟩ := moved.of_limit told
        · exact congrArg (·.control.gate.opensAt) same
        · exact absurd fits (Nat.not_lt.2 long)
      | elsewhere what => subst what; cases told
      | clock time what => obtain rfl | rfl := what <;> cases told
      | outside a what => subst what; cases told
    | none =>
      rw [told] at latest
      rw [← ih latest]
      cases poolStep_after (producer_course alone os) o with
      | worker i what moved =>
        subst what
        exact congrArg (·.gate.opensAt) (moved.of_no_limit told).1
      | elsewhere what same => exact congrArg (·.control.gate.opensAt) same
      | clock time what now later same => exact congrArg (·.control.gate.opensAt) same
      | outside a what stop queue repository signal queued same =>
        exact congrArg (·.control.gate.opensAt) same

/-- A pool at the start, without its schedule. -/
theorem bare_pool (workers capacity : Nat) (site : Site) :
    (pool workers capacity site).bare =
      { queue := { capacity, read := 0 < workers }, polling := ⟨0, 0⟩, site,
        workers := idleWorkers workers } := by
  rw [pool, bare_noteEnd]
  rfl

theorem producer_pool (workers capacity : Nat) (site : Site) :
    (pool workers capacity site).producer = .ended :=
  congrArg (fun m => m.producer) (bare_pool workers capacity site)

/-- **No worker asks before the latest rate limit has run out.** Whatever has come about in a pool
so far and whichever task is next: if a question to the service begins, and the rate limit that
arrived last was to wait `l.wait` from `l.time` on, then that wait is over. -/
theorem asks_after_limit (workers capacity : Nat) (site : Site) (os : List Occurrence)
    (o : Occurrence) (time : Nat) (number : String) (l : Limit) (earlier : List Limit)
    (asked : ((pool workers capacity site).course (os ++ [o])).site.log =
      ⟨time, .accrual number⟩ :: ((pool workers capacity site).course os).site.log)
    (latest : (pool workers capacity site).limits os = l :: earlier)
    (fits : l.time + l.wait < horizon) : l.time + l.wait ≤ time := by
  have alone := producer_pool workers capacity site
  have opensAt := opensAt_course alone latest fits
  have running := producer_course alone os
  rw [course_append_singleton] at asked
  generalize (pool workers capacity site).course os = m at *
  have grown : (m.after o).bare.site.log ≠ m.bare.site.log := by
    intro same
    have lengths := congrArg List.length (asked.symm.trans same)
    exact Nat.succ_ne_self _ lengths
  cases poolStep_after running o with
  | worker i what moved =>
    obtain same | ⟨call, log, opened⟩ := moved.log
    · exact absurd same grown
    · obtain ⟨rfl, rfl⟩ := CallRecord.mk.inj (List.cons.inj (asked.symm.trans log)).1
      exact Gate.deadline?_eq_none_iff.1 (opened number rfl) _ opensAt
  | elsewhere what same => exact absurd (congrArg (·.site.log) same) grown
  | clock time what now later same => exact absurd (congrArg (·.site.log) same) grown
  | outside a what stop queue repository signal queued same =>
    exact absurd (congrArg (·.site.log) same) grown

/-- A worker is told to wait five milliseconds, and meanwhile another order comes in. -/
def waitingCourse : List Occurrence :=
  [.move (.worker 0), .move (.worker 0), .act (.send ⟨"1", .new⟩), .move (.worker 0),
    .move (.worker 0), .move (.worker 0), .act (.send ⟨"2", .new⟩), .move (.worker 1),
    .pass 5, .move (.worker 1), .move (.worker 1), .move (.worker 1), .move (.worker 1)]

/-- The service asks to be left alone for five milliseconds once it is asked about the order. -/
def busySite : Site := { source := ⟨[("1", [⟨.error (.retryAfter 5), 0⟩])]⟩ }

theorem asks_after_limit_busySite :
    ((pool 2 2 busySite).course (waitingCourse ++ [.move (.worker 1)])).site.log =
        ⟨5, .accrual "2"⟩ :: ((pool 2 2 busySite).course waitingCourse).site.log ∧
      (pool 2 2 busySite).limits waitingCourse = [⟨0, 0, 5⟩] ∧ 0 + 5 ≤ 5 := by
  have asked : ((pool 2 2 busySite).course (waitingCourse ++ [.move (.worker 1)])).site.log =
      ⟨5, .accrual "2"⟩ :: ((pool 2 2 busySite).course waitingCourse).site.log := by
    decide +kernel
  have latest : (pool 2 2 busySite).limits waitingCourse = [⟨0, 0, 5⟩] := by decide +kernel
  exact ⟨asked, latest, asks_after_limit 2 2 busySite waitingCourse _ 5 "2" ⟨0, 0, 5⟩ []
    asked latest (by decide)⟩

end Machine

end Loyalty.Pipeline
